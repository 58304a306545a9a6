import FieldRules.Proofs.Agree

/-!
# Proofs/Stops — the errors that stop a visit

A visit is stopped by an annotation or a field, by a record that does not fit its plan, or at a node
where a walk ends (`stops_of_visit`).  Each of these errors is either of configuration or of
traversal, and none tells of rejections.
-/

namespace FieldRules

/-- An error that stops a visit. -/
inductive Error.Stops : Error → Prop
  | rule (place : String) (e : RuleError) : Stops (.rule place e)
  | misuse (typeName : String) (m : Misuse) : Stops (.misuse typeName m)
  | ends {e : Error} (h : e.EndsWalk) : Stops e

/-- An error that stops a visit is of exactly one kind. -/
theorem Error.Stops.isConfiguration_eq {e : Error} (h : e.Stops) :
    e.isConfiguration = !e.isTraversal := by
  obtain _ | _ | ⟨_, _, rfl⟩ | ⟨_, _, rfl⟩ := h <;> rfl

/-- An error that stops a visit tells of no rejections, and so of no issues. -/
theorem Error.Stops.issues?_eq_none {e : Error} (h : e.Stops) : e.issues? = none := by
  obtain _ | _ | ⟨_, _, rfl⟩ | ⟨_, _, rfl⟩ := h <;> rfl

theorem Context.stops_cycle (ctx : Context) (store : Store) (c : CellId) (path : String) :
    (ctx.cycle store c path).Stops := .ends (.inl ⟨_, _, rfl⟩)

/-! ## Errors of an inspection -/

variable {ctx : Context} {path : String}

theorem stops_of_enter {store : Store} {c : CellId} {e : Error}
    (h : ctx.enter store c path = .error e) : e.Stops := by
  rw [Context.enter] at h
  split at h
  · rw [← Except.error.inj h]
    exact ctx.stops_cycle store c path
  · cases h

theorem stops_of_slotZero {view : ZeroView} {f : RecordField} {v : Value} {shape : Option Bool}
    {e : Error} (h : slotZero ctx view path f v shape = .error e) : e.Stops := by
  cases shape with
  | some b => cases h
  | none =>
    rw [slotZero] at h
    split at h
    · cases h
    · rw [← Except.error.inj h]
      exact .rule _ _

mutual

/-- The shape of a value fails with errors of the cells in it, or of a field that has no form. -/
theorem stops_of_shapeZero {view : ZeroView}
    (hderef : ∀ c e, view.deref c = .error e → e.Stops) :
    ∀ (v : Value) {e : Error}, shapeZero ctx view path v = .error e → e.Stops
  | .leaf _, _, h => by rw [shapeZero] at h; cases h
  | .absent, _, h => by rw [shapeZero] at h; cases h
  | .present _, _, h => by rw [shapeZero] at h; cases h
  | .boxed v, _, h => by
    rw [shapeZero] at h
    exact stops_of_shapeZero hderef v h
  | .shared c, _, h => by
    rw [shapeZero] at h
    exact hderef c _ h
  | .sequence _, _, h => by rw [shapeZero] at h; cases h
  | .map _, _, h => by rw [shapeZero] at h; cases h
  | .record name slots, _, h => by
    rw [shapeZero, map_eq_error] at h
    exact stops_of_slotsZero hderef _ _ slots h

theorem stops_of_slotsZero {view : ZeroView}
    (hderef : ∀ c e, view.deref c = .error e → e.Stops) :
    ∀ (exposed : Nat) (fields : List RecordField) (slots : List Value) {e : Error},
      slotsZero ctx view path exposed fields slots = .error e → e.Stops
  | exposed + 1, f :: fs, v :: vs, _, h => by
    rw [slotsZero_cons, bind_eq_error] at h
    obtain h | ⟨zero, _, h⟩ := h
    · obtain h | ⟨shape, _, h⟩ := bind_eq_error.mp h
      · exact stops_of_shapeZero hderef v h
      · exact stops_of_slotZero h
    · split at h
      · exact stops_of_slotsZero hderef exposed fs vs h
      · cases h
  | 0, _, _, _, h => by simp [slotsZero] at h
  | _ + 1, [], _, _, h => by simp [slotsZero] at h
  | _ + 1, _ :: _, [], _, h => by simp [slotsZero] at h

end

theorem stops_of_shapeZeroWithin {hops : Nat} {store : Store} {v : Value} {e : Error}
    (h : shapeZeroWithin ctx path hops store v = .error e) : e.Stops := by
  induction hops generalizing store v e with
  | zero =>
    refine stops_of_shapeZero (fun c e hc => ?_) v h
    exact Except.error.inj hc ▸ ctx.stops_cycle store c path
  | succ hops ih =>
    refine stops_of_shapeZero (fun c e hc => ?_) v h
    obtain hc | ⟨_, _, hc⟩ := bind_eq_error.mp hc
    · exact stops_of_enter hc
    · exact ih hc

theorem stops_of_hintWith {record : Value → Except Error Hint} {deref : CellId → Except Error Hint}
    (hrecord : ∀ v e, record v = .error e → e.Stops)
    (hderef : ∀ c e, deref c = .error e → e.Stops) :
    ∀ (v : Value) {e : Error}, hintWith record deref v = .error e → e.Stops
  | .present v, _, h => stops_of_hintWith hrecord hderef v h
  | .boxed v, _, h => stops_of_hintWith hrecord hderef v h
  | .shared c, _, h => hderef c _ h
  | .record _ _, _, h => hrecord _ _ h
  | .leaf _, _, h => by cases h
  | .absent, _, h => by cases h
  | .sequence _, _, h => by cases h
  | .map _, _, h => by cases h

theorem stops_of_zeroHintWithin {hops : Nat} {store : Store} {v : Value} {e : Error}
    (h : zeroHintWithin ctx path hops store v = .error e) : e.Stops := by
  induction hops generalizing store v e with
  | zero =>
    refine stops_of_hintWith (fun v e hv => ?_) (fun c e hc => ?_) v h
    · exact stops_of_shapeZeroWithin (map_eq_error.mp hv)
    · exact Except.error.inj hc ▸ ctx.stops_cycle store c path
  | succ hops ih =>
    refine stops_of_hintWith (fun v e hv => ?_) (fun c e hc => ?_) v h
    · exact stops_of_shapeZeroWithin (map_eq_error.mp hv)
    · obtain hc | ⟨_, _, hc⟩ := bind_eq_error.mp hc
      · exact stops_of_enter hc
      · exact ih hc

/-- **A field cannot be inspected** because of a node below it, or because it has no JSON form. -/
theorem stops_of_inspect {room : Nat} {store : Store} {v : Value} {p : Place} {e : Error}
    (h : inspect ctx room store v p = .error e) : e.Stops := by
  obtain h | ⟨_, _, h⟩ := bind_eq_error.mp h
  · exact .ends (endsWalk_of_guard h)
  · obtain h | ⟨_, _, h⟩ := bind_eq_error.mp h
    · exact stops_of_zeroHintWithin h
    · split at h
      · cases h
      · exact Except.error.inj h ▸ .rule _ _

/-! ## Errors of a visit -/

theorem stops_of_opening {v : Value} {run run' : Run} {e : Error}
    (h : v.opening ctx path run = (run', .error e)) : e.Stops := by
  obtain ⟨c, _, _, rfl⟩ | ⟨place, r, rfl⟩ | ⟨typeName, m, rfl⟩ := error_of_opening h
  · exact ctx.stops_cycle _ c path
  · exact .rule place r
  · exact .misuse typeName m

/-- What holds of the stops of all visits below holds of those of tasks. -/
theorem stops_of_visitTasks {room : Nat}
    (hvisit : ∀ v p run e, (visit ctx room v p run).stop = some e → e.Stops) {e : Error} :
    ∀ {ts : List Task} {run : Run}, (visitTasks ctx room path ts run).stop = some e → e.Stops
  | [], _, h => by cases h
  | t :: ts, run, h => by
    cases ht : (t.visit ctx room path run).stop with
    | none =>
      rw [visitTasks_cons ht] at h
      exact stops_of_visitTasks hvisit h
    | some e' =>
      rw [visitTasks_cons_stop ht] at h
      obtain rfl := Option.some.inj h
      rw [Task.visit] at ht
      cases hrule : t.rule? with
      | none =>
        simp only [hrule] at ht
        exact hvisit _ _ _ _ ht
      | some rp =>
        simp only [hrule] at ht
        obtain ⟨e', hi, happly⟩ | ⟨_, happly | ⟨_, _, _, _, happly⟩⟩ :=
          apply_cases rp.1 t.value rp.2 run
        · rw [happly] at ht
          obtain rfl := Option.some.inj ht
          exact stops_of_inspect hi
        · rw [happly] at ht
          exact hvisit _ _ _ _ ht
        · rw [happly] at ht
          exact hvisit _ _ _ _ ht

/-- **The errors that stop a visit.** -/
theorem stops_of_visit {room : Nat} {v : Value} {run : Run} {e : Error}
    (h : (visit ctx room v path run).stop = some e) : e.Stops := by
  induction room generalizing v path run e with
  | zero => exact Option.some.inj h ▸ .ends (.inr ⟨_, _, rfl⟩)
  | succ room ih =>
    cases hopen : v.opening ctx path run with | mk run' opened
    cases opened with
    | error e' =>
      rw [visit_of_opening_error hopen] at h
      exact Option.some.inj h ▸ stops_of_opening hopen
    | ok tasks =>
      rw [visit_of_opening hopen] at h
      exact stops_of_visitTasks (fun v p run e => ih) h

end FieldRules
