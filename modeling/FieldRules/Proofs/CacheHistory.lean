import FieldRules.Proofs.Plans
import Mathlib.Data.List.Induction
import Mathlib.Data.List.Nodup

/-!
# Proofs/CacheHistory — what a cache keeps and answers after any requests

A **history** is a list of requests to one new cache, each about one identity, with whatever it
brings to build a plan.  For every identity the cache keeps the first plan that a request made
(`get?_after`), and answers every request accordingly (`reply_after`).  Requests about other
identities can be left out (`trace_filter`).
-/

namespace FieldRules

/-! ## Requests and replies -/

/-- One request to a cache: to look for the plan of an identity, or to build one if there is
none. -/
inductive Request where
  | find (id : String)
  | getOrBuild (id : String) (build : Unit → Except Error Plan)

namespace Request

/-- The identity that a request is about. -/
def id : Request → String
  | find id => id
  | getOrBuild id _ => id

/-- The plan that a request makes if none is kept. -/
def offer? : Request → Option Plan
  | find _ => none
  | getOrBuild _ build => (build ()).toOption

end Request

/-- What a request is answered: the plan that is kept, if there is one; or what was asked for, and
whether it was built for the purpose. -/
inductive Reply where
  | found (plan? : Option Plan)
  | given (result : Except Error Plan) (built : Bool)

/-- The plan that was built for a reply. -/
def Reply.made? : Reply → Option Plan
  | given (.ok p) true => some p
  | _ => none

namespace PlanCache

/-- The answer to a request, and the cache after it. -/
def reply (c : PlanCache) : Request → Reply × PlanCache
  | .find id => (.found (c.get? id), c)
  | .getOrBuild id build =>
    let l := c.getOrBuild id build
    (.given l.result l.built, l.cache)

/-- The cache after some requests. -/
def after (c : PlanCache) (history : List Request) : PlanCache :=
  history.foldl (fun c r => (c.reply r).2) c

/-- Every request of a history with its answer. -/
def trace (c : PlanCache) : List Request → List (Request × Reply)
  | [] => []
  | r :: rs => (r, (c.reply r).1) :: trace (c.reply r).2 rs

/-- The plans that were built in a history, by identity, in order. -/
def built (c : PlanCache) (history : List Request) : List (String × Plan) :=
  (c.trace history).filterMap fun (r, a) => a.made?.map (r.id, ·)

end PlanCache

/-- The first plan that a history offers for an identity.  The cache plays no part in it. -/
def firstOffer? (history : List Request) (id : String) : Option Plan :=
  history.findSome? fun r => if r.id = id then r.offer? else none

/-- What a request is to be answered after a history. -/
def dueReply (history : List Request) : Request → Reply
  | .find id => .found (firstOffer? history id)
  | .getOrBuild id build =>
    match firstOffer? history id with
    | some p => .given (.ok p) false
    | none => .given (build ()) true

/-! ## One request -/

/-- An entry with a new key makes a dictionary one longer. -/
theorem Dict.length_insert {α : Type} (key : String) (a : α) :
    ∀ d : Dict α, Dict.get? d key = none → (Dict.insert key a d).length = d.length + 1
  | [], _ => rfl
  | entry :: rest, h => by
    rw [Dict.get?_cons] at h
    split at h
    · cases h
    · rw [insert]
      split
      · rfl
      · rw [List.length_cons, Dict.length_insert key a rest h, List.length_cons]

/-- **What one request does.**  It leaves the cache alone, or else it makes the plan that it offers,
for an identity that has none. -/
theorem reply_cases (c : PlanCache) (r : Request) :
    ((c.reply r).2 = c ∧ (c.reply r).1.made? = none ∧
      (r.offer? = none ∨ ∃ p, c.get? r.id = some p)) ∨
    ∃ p, c.get? r.id = none ∧ r.offer? = some p ∧ (c.reply r).1.made? = some p ∧
      (c.reply r).2.size = c.size + 1 ∧
      ∀ id, (c.reply r).2.get? id = if id = r.id then some p else c.get? id := by
  cases r with
  | find id => exact .inl ⟨rfl, rfl, .inl rfl⟩
  | getOrBuild id build =>
    rw [PlanCache.reply, PlanCache.getOrBuild, Request.id, Request.offer?]
    cases hget : c.get? id with
    | some p => exact .inl ⟨rfl, rfl, .inr ⟨p, rfl⟩⟩
    | none =>
      cases hbuild : build () with
      | error e => exact .inl ⟨rfl, rfl, .inl rfl⟩
      | ok p =>
        exact .inr ⟨p, rfl, rfl, rfl, Dict.length_insert id p c.plans hget,
          fun k => Dict.get?_insert id p k c.plans⟩

/-- A request keeps what is kept, and adds its offer if there is nothing for its identity. -/
theorem get?_reply (c : PlanCache) (r : Request) (id : String) :
    (c.reply r).2.get? id = (c.get? id).or (if r.id = id then r.offer? else none) := by
  obtain ⟨hc, _, hoffer⟩ | ⟨p, hnone, hoffer, _, _, hget⟩ := reply_cases c r
  · rw [hc]
    split
    · next hid =>
      obtain hoffer | ⟨p, hp⟩ := hoffer
      · rw [hoffer, Option.or_none]
      · rw [← hid, hp, Option.some_or]
    · rw [Option.or_none]
  · rw [hget]
    by_cases hid : r.id = id
    · rw [if_pos hid.symm, if_pos hid, ← hid, hnone, hoffer, Option.none_or]
    · rw [if_neg (Ne.symm hid), if_neg hid, Option.or_none]

/-- The answer to a request depends on what is kept for its identity only. -/
theorem reply_congr {c c' : PlanCache} {r : Request} (h : c.get? r.id = c'.get? r.id) :
    (c.reply r).1 = (c'.reply r).1 := by
  cases r with
  | find id => exact congrArg Reply.found h
  | getOrBuild id build =>
    rw [Request.id] at h
    simp only [PlanCache.reply, PlanCache.getOrBuild, h]
    split
    · rfl
    · split <;> rfl

/-! ## Histories -/

namespace PlanCache

theorem after_append (c : PlanCache) (history later : List Request) :
    c.after (history ++ later) = (c.after history).after later := List.foldl_append

theorem after_concat (c : PlanCache) (history : List Request) (r : Request) :
    c.after (history ++ [r]) = ((c.after history).reply r).2 := c.after_append history [r]

theorem trace_append (c : PlanCache) (history later : List Request) :
    c.trace (history ++ later) = c.trace history ++ (c.after history).trace later := by
  induction history generalizing c with
  | nil => rfl
  | cons r rs ih => exact congrArg ((r, (c.reply r).1) :: ·) (ih _)

theorem built_concat (c : PlanCache) (history : List Request) (r : Request) :
    c.built (history ++ [r]) = c.built history ++
      ((((c.after history).reply r).1.made?.map (r.id, ·)).toList) := by
  rw [built, trace_append, List.filterMap_append]
  refine congrArg (c.built history ++ ·) ?_
  simp only [trace, List.filterMap_cons, List.filterMap_nil]
  cases ((c.after history).reply r).1.made? <;> rfl

end PlanCache

theorem firstOffer?_append (history later : List Request) (id : String) :
    firstOffer? (history ++ later) id = (firstOffer? history id).or (firstOffer? later id) :=
  List.findSome?_append

/-- What is kept after a history, or else the first offer of the history. -/
theorem get?_after_of (c : PlanCache) (history : List Request) (id : String) :
    (c.after history).get? id = (c.get? id).or (firstOffer? history id) := by
  induction history generalizing c with
  | nil => rw [firstOffer?, List.findSome?_nil, Option.or_none]; rfl
  | cons r rs ih =>
    have hfirst : firstOffer? (r :: rs) id = _ := firstOffer?_append [r] rs id
    rw [hfirst, ← Option.or_assoc]
    refine (ih (c.reply r).2).trans ?_
    rw [get?_reply, firstOffer?, firstOffer?, List.findSome?_singleton]

/-- **A new cache keeps the first offer of a history for each identity.** -/
theorem get?_after (history : List Request) (id : String) :
    (PlanCache.empty.after history).get? id = firstOffer? history id :=
  get?_after_of .empty history id

/-- What is kept stays. -/
theorem get?_after_of_some {c : PlanCache} {id : String} {p : Plan} (h : c.get? id = some p)
    (later : List Request) : (c.after later).get? id = some p := by
  rw [get?_after_of, h, Option.some_or]

/-- The answer to a request after a history is the one that is due. -/
theorem reply_after (history : List Request) (r : Request) :
    ((PlanCache.empty.after history).reply r).1 = dueReply history r := by
  have hkept := get?_after history r.id
  cases r with
  | find id => exact congrArg Reply.found hkept
  | getOrBuild id build =>
    rw [Request.id] at hkept
    rw [PlanCache.reply, PlanCache.getOrBuild, dueReply, hkept]
    cases firstOffer? history id with
    | some p => rfl
    | none => cases build () <;> rfl

/-- Requests about other identities hold no offer. -/
theorem firstOffer?_filter (history : List Request) (id : String) :
    firstOffer? (history.filter (·.id = id)) id = firstOffer? history id := by
  induction history with
  | nil => rfl
  | cons r rs ih =>
    rw [firstOffer?, firstOffer?] at ih ⊢
    by_cases hid : r.id = id <;> simp [List.findSome?_cons, hid, ih]

/-- **Requests about other identities make no difference** to those about one identity. -/
theorem trace_filter (history : List Request) (id : String) :
    (PlanCache.empty.trace history).filter (·.1.id = id) =
      PlanCache.empty.trace (history.filter (·.id = id)) := by
  induction history using List.reverseRecOn with
  | nil => rfl
  | append_singleton rs r ih =>
    rw [PlanCache.trace_append, List.filter_append, List.filter_append, PlanCache.trace_append, ih]
    refine congrArg (PlanCache.empty.trace _ ++ ·) ?_
    by_cases hid : r.id = id
    · have hreply : ((PlanCache.empty.after rs).reply r).1 =
          ((PlanCache.empty.after (rs.filter (·.id = id))).reply r).1 := by
        refine reply_congr ?_
        rw [get?_after, get?_after, hid, firstOffer?_filter]
      simp [PlanCache.trace, hid, hreply]
    · simp [PlanCache.trace, hid]

/-! ## What was built -/

/-- The plans that are kept are those that were built. -/
theorem get?_after_eq_lookup (history : List Request) (id : String) :
    (PlanCache.empty.after history).get? id = (PlanCache.empty.built history).lookup id := by
  induction history using List.reverseRecOn with
  | nil => rfl
  | append_singleton rs r ih =>
    rw [PlanCache.after_concat, PlanCache.built_concat]
    obtain ⟨hc, hmade, _⟩ | ⟨p, hnone, _, hmade, _, hget⟩ := reply_cases (.after .empty rs) r
    · rw [hc, hmade, ih]
      exact congrArg (List.lookup id ·) (List.append_nil _).symm
    · rw [hget, hmade, ih]
      by_cases hid : id = r.id
      · rw [hid] at ih ⊢
        rw [hnone] at ih
        simp [List.lookup_append, ← ih]
      · have hskip : List.lookup id [(r.id, p)] = none :=
          List.lookup_eq_none_iff.2 (by simpa using hid)
        rw [if_neg hid, List.lookup_append, Option.map_some, Option.toList_some, hskip,
          Option.or_none]

/-- There are as many plans as were built. -/
theorem size_after (history : List Request) :
    (PlanCache.empty.after history).size = (PlanCache.empty.built history).length := by
  induction history using List.reverseRecOn with
  | nil => rfl
  | append_singleton rs r ih =>
    rw [PlanCache.after_concat, PlanCache.built_concat, List.length_append, ← ih]
    obtain ⟨hc, hmade, _⟩ | ⟨p, _, _, hmade, hsize, _⟩ := reply_cases (.after .empty rs) r
    · rw [hc, hmade]
      rfl
    · rw [hsize, hmade]
      rfl

/-- The identities that are kept are those of the plans that were built. -/
theorem contains_after (history : List Request) (id : String) :
    (PlanCache.empty.after history).contains id = true ↔
      id ∈ (PlanCache.empty.built history).map Prod.fst := by
  rw [PlanCache.contains, get?_after_eq_lookup, Option.isSome_iff_ne_none]
  exact Dict.mem_keys_iff.symm

/-- No identity is built for twice. -/
theorem nodup_built (history : List Request) :
    ((PlanCache.empty.built history).map Prod.fst).Nodup := by
  induction history using List.reverseRecOn with
  | nil => exact List.nodup_nil
  | append_singleton rs r ih =>
    rw [PlanCache.built_concat, List.map_append]
    obtain ⟨_, hmade, _⟩ | ⟨p, hnone, _, hmade, _⟩ := reply_cases (.after .empty rs) r
    · rw [hmade]
      simpa using ih
    · have hnew : r.id ∉ (PlanCache.empty.built rs).map Prod.fst := by
        rw [← contains_after, PlanCache.contains, hnone]
        exact Bool.false_ne_true
      rw [hmade]
      exact List.nodup_append'.2 ⟨ih, List.nodup_singleton _, List.disjoint_singleton.2 hnew⟩

/-! ## The whole history -/

/-- What holds of a new cache after any history, and of the answers it gave. -/
structure Faithful (history : List Request) (c : PlanCache) (built : List (String × Plan)) :
    Prop where
  /-- At most one plan is built for an identity. -/
  once : (built.map Prod.fst).Nodup
  /-- It holds as many plans as were built. -/
  size : c.size = built.length
  /-- It holds the identities for which a plan was built. -/
  contains : ∀ id, c.contains id = true ↔ id ∈ built.map Prod.fst
  /-- For each of them it holds the plan that was built. -/
  kept : ∀ id, c.get? id = built.lookup id
  /-- That is the first plan that any request made for the identity. -/
  first : ∀ id, c.get? id = firstOffer? history id
  /-- A request is answered out of the history alone. -/
  replies : ∀ r, (c.reply r).1 = dueReply history r
  /-- A plan is built for an identity that it does not hold, and for no other. -/
  builds : ∀ id build, (c.getOrBuild id build).built = !c.contains id
  /-- A plan that cannot be built leaves its error, and the cache as it was. -/
  fails : ∀ id build e, c.contains id = false → build () = .error e →
    c.getOrBuild id build = ⟨.error e, true, c⟩
  /-- What it holds it will go on to hold and to give out, whatever a request may offer. -/
  stays : ∀ id p, c.get? id = some p → ∀ later, (c.after later).get? id = some p ∧
    ∀ build, (c.after later).getOrBuild id build = ⟨.ok p, false, c.after later⟩
  /-- A request changes nothing about other identities. -/
  apart : ∀ r id, id ≠ r.id → (c.reply r).2.get? id = c.get? id
  /-- The requests about one identity are answered as if there had been no others. -/
  alone : ∀ id, (PlanCache.empty.trace history).filter (·.1.id = id) =
    PlanCache.empty.trace (history.filter (·.id = id))

/-- A plan that is kept is given out. -/
theorem getOrBuild_of_some {c : PlanCache} {id : String} {p : Plan} (h : c.get? id = some p)
    (build : Unit → Except Error Plan) : c.getOrBuild id build = ⟨.ok p, false, c⟩ := by
  rw [PlanCache.getOrBuild, h]

/-- A plan is built just when none is kept. -/
theorem built_getOrBuild (c : PlanCache) (id : String) (build : Unit → Except Error Plan) :
    (c.getOrBuild id build).built = !c.contains id := by
  rw [PlanCache.getOrBuild, PlanCache.contains]
  cases c.get? id with
  | some p => rfl
  | none => cases build () <;> rfl

/-- A plan that cannot be built leaves the cache alone. -/
theorem getOrBuild_of_error {c : PlanCache} {id : String} {build : Unit → Except Error Plan}
    {e : Error} (habsent : c.contains id = false) (he : build () = .error e) :
    c.getOrBuild id build = ⟨.error e, true, c⟩ := by
  have hnone : c.get? id = none := Option.isNone_iff_eq_none.1 (by
    rw [← Option.not_isSome, ← PlanCache.contains, habsent, Bool.not_false])
  rw [PlanCache.getOrBuild, hnone, he]

/-- **A cache is faithful to its history**, whatever the requests are and whichever plans cannot be
built. -/
theorem faithful_after (history : List Request) :
    Faithful history (PlanCache.empty.after history) (PlanCache.empty.built history) where
  once := nodup_built history
  size := size_after history
  contains := contains_after history
  kept := get?_after_eq_lookup history
  first := get?_after history
  replies := reply_after history
  builds := built_getOrBuild _
  fails _ _ _ habsent he := getOrBuild_of_error habsent he
  stays id p hp later :=
    have hlater := get?_after_of_some hp later
    ⟨hlater, getOrBuild_of_some hlater⟩
  apart r id hid := by rw [get?_reply, if_neg hid.symm, Option.or_none]
  alone := trace_filter history

end FieldRules
