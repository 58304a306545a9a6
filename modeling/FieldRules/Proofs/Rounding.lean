import FieldRules.Numeric.Double
import Mathlib.Algebra.Order.Ring.Int

/-!
# Proofs/Rounding — integers as floating-point numbers

`Format.nearest` rounds a count of units without regard to infinity.  It respects the order
(`Format.nearest_mono`), leaves short numbers alone (`Format.nearest_mul_pow2`), and errs by half a
place at most (`Format.nearest_near`).  So integers of 64 bits that differ are rounded in their
order, and apart if one of them is short or they are far from each other (`unitsOf_lt`).
-/

namespace FieldRules.Numeric

/-! ## Rounded quotients -/

section

variable {a a' b : Nat}

/-- **Rounding respects the order.** -/
theorem halfEven_mono (h : a ≤ a') : halfEven a b ≤ halfEven a' b := by
  obtain ⟨hlow, hhigh⟩ := halfEven_bounds a b
  obtain ⟨hlow', hhigh'⟩ := halfEven_bounds a' b
  have hq : a / b ≤ a' / b := Nat.div_le_div_right h
  by_cases heq : a / b = a' / b
  · have hdiv := Nat.div_add_mod a b
    have hdiv' := Nat.div_add_mod a' b
    rw [heq] at hdiv
    have hmod : a % b ≤ a' % b := by omega
    simp only [halfEven, heq]
    split_ifs <;> omega
  · omega

/-- A rounded quotient errs by one half at most. -/
theorem halfEven_near (a : Nat) (hb : 0 < b) :
    2 * (halfEven a b * b) ≤ 2 * a + b ∧ 2 * a ≤ 2 * (halfEven a b * b) + b := by
  have hdiv := Nat.div_add_mod' a b
  have hmod := Nat.mod_lt a hb
  simp only [halfEven]
  split_ifs with hless htie
  · omega
  · have hparity : a / b % 2 < 2 := Nat.mod_lt _ Nat.two_pos
    obtain heven | hodd : a / b % 2 = 0 ∨ a / b % 2 = 1 := by omega
    · rw [heven, Nat.add_zero]
      omega
    · rw [hodd, Nat.add_mul, Nat.one_mul]
      omega
  · rw [Nat.add_mul, Nat.one_mul]
    omega

end

/-! ## The nearest number of a format -/

theorem pow2_add (j k : Nat) : pow2 (j + k) = pow2 j * pow2 k := Nat.pow_add 2 j k

theorem pow2_le_pow2 {j k : Nat} (h : j ≤ k) : pow2 j ≤ pow2 k :=
  Nat.pow_le_pow_right Nat.two_pos h

/-- A power of two is a multiple of a smaller one. -/
theorem pow2_eq_mul {j k : Nat} (h : j ≤ k) : pow2 k = pow2 (k - j) * pow2 j := by
  rw [← pow2_add, Nat.sub_add_cancel h]

theorem pow2_log2_le {u : Nat} (hu : u ≠ 0) : pow2 (Nat.log2 u) ≤ u := Nat.log2_self_le hu

theorem lt_pow2_log2 (u : Nat) : u < pow2 (Nat.log2 u + 1) := Nat.lt_log2_self

theorem log2_lt_iff {u k : Nat} (hu : u ≠ 0) : Nat.log2 u < k ↔ u < pow2 k := Nat.log2_lt hu

namespace Format

variable {f : Format} {u u' : Nat}

/-- A count of units to as many binary places as the format has. -/
def nearest (f : Format) (u : Nat) : Nat := halfEven u (pow2 (f.excess u)) * pow2 (f.excess u)

theorem round_one (f : Format) (n : Nat) :
    f.round n 1 = min f.infinity (f.nearest (n * pow2 f.finest)) := by
  rw [round, nearest, Nat.div_one, Nat.one_mul]

theorem excess_le (f : Format) (u : Nat) : f.excess u ≤ Nat.log2 u := Nat.sub_le _ _

theorem nearest_zero (f : Format) : f.nearest 0 = 0 := by
  simp [nearest, halfEven, pow2_pos]

/-! Rounding crosses neither the power of two below a number nor the one above. -/

theorem pow2_le_nearest (hu : u ≠ 0) : pow2 (Nat.log2 u) ≤ f.nearest u := by
  have hle := halfEven_mono (b := pow2 (f.excess u)) (pow2_log2_le hu)
  rw [pow2_eq_mul (f.excess_le u), halfEven_mul _ (pow2_pos _)] at hle
  rw [pow2_eq_mul (f.excess_le u)]
  exact Nat.mul_le_mul_right _ hle

theorem nearest_le_pow2 (f : Format) (u : Nat) : f.nearest u ≤ pow2 (Nat.log2 u + 1) := by
  have hle := halfEven_mono (b := pow2 (f.excess u)) (lt_pow2_log2 u).le
  rw [pow2_eq_mul ((f.excess_le u).trans (Nat.le_succ _)), halfEven_mul _ (pow2_pos _)] at hle
  rw [pow2_eq_mul ((f.excess_le u).trans (Nat.le_succ _))]
  exact Nat.mul_le_mul_right _ hle

/-- **The nearest numbers of a format are in order.**  With equal places this is so for quotients;
otherwise a power of two lies between. -/
theorem nearest_mono (h : u ≤ u') : f.nearest u ≤ f.nearest u' := by
  by_cases hu : u = 0
  · rw [hu, nearest_zero]
    exact Nat.zero_le _
  · have hu' : u' ≠ 0 := by omega
    obtain heq | hlt : Nat.log2 u = Nat.log2 u' ∨ Nat.log2 u + 1 ≤ Nat.log2 u' := by
      have hlt := (log2_lt_iff hu).mpr (h.trans_lt (lt_pow2_log2 u'))
      omega
    · rw [nearest, nearest, excess, excess, heq]
      exact Nat.mul_le_mul_right _ (halfEven_mono h)
    · calc f.nearest u ≤ pow2 (Nat.log2 u + 1) := f.nearest_le_pow2 u
        _ ≤ pow2 (Nat.log2 u') := pow2_le_pow2 hlt
        _ ≤ f.nearest u' := pow2_le_nearest hu'

/-- **A number with few binary places is its own nearest.** -/
theorem nearest_mul_pow2 {m : Nat} (j : Nat) (hm : m < pow2 f.bits) :
    f.nearest (m * pow2 j) = m * pow2 j := by
  by_cases hzero : m = 0
  · rw [hzero, Nat.zero_mul, nearest_zero]
  · have hne : m * pow2 j ≠ 0 := Nat.mul_ne_zero hzero (pow2_pos j).ne'
    have hlog : Nat.log2 (m * pow2 j) < f.bits + j := by
      rw [log2_lt_iff hne, pow2_add]
      exact Nat.mul_lt_mul_of_pos_right hm (pow2_pos j)
    have hexcess : f.excess (m * pow2 j) ≤ j := by
      rw [excess]
      omega
    generalize hk : f.excess (m * pow2 j) = k at hexcess
    rw [nearest, hk, pow2_eq_mul hexcess, ← Nat.mul_assoc, halfEven_mul _ (pow2_pos _)]

/-- **The nearest number is off by half a place at most.** -/
theorem nearest_near (f : Format) (u : Nat) :
    2 * f.nearest u ≤ 2 * u + pow2 (f.excess u) ∧ 2 * u ≤ 2 * f.nearest u + pow2 (f.excess u) :=
  halfEven_near u (pow2_pos _)

theorem round_eq_zero_iff (f : Format) (n : Nat) : f.round n 1 = 0 ↔ n = 0 := by
  constructor
  · contrapose
    intro hn
    have hunits : n * pow2 f.finest ≠ 0 := Nat.mul_ne_zero hn (pow2_pos _).ne'
    have hnearest := (pow2_pos _).trans_le (pow2_le_nearest (f := f) hunits)
    have hinfinity : 0 < f.infinity := pow2_pos _
    rw [round_one]
    omega
  · rintro rfl
    rw [round_one, Nat.zero_mul, nearest_zero, Nat.min_zero]

theorem round_mono {n m : Nat} (h : n ≤ m) : f.round n 1 ≤ f.round m 1 := by
  rw [round_one, round_one]
  exact min_le_min_left _ (nearest_mono (Nat.mul_le_mul_right _ h))

end Format

/-! ## Integers of 64 bits as doubles -/

open Format (double)

/-- The units of one. -/
def unit : Nat := pow2 double.finest

theorem unit_pos : 0 < unit := pow2_pos _

theorem log2_units_lt {n : Nat} (h : n < pow2 64) : Nat.log2 (n * unit) < 64 + double.finest := by
  by_cases hn : n = 0
  · rw [hn, Nat.zero_mul, Nat.log2_zero]
    exact Nat.add_pos_left (by decide) _
  · rw [unit, log2_lt_iff (Nat.mul_ne_zero hn (pow2_pos _).ne'), pow2_add]
    exact Nat.mul_lt_mul_of_pos_right h (pow2_pos _)

/-- An integer of 64 bits is far from infinity. -/
theorem round_eq_nearest {n : Nat} (h : n < pow2 64) :
    double.round n 1 = double.nearest (n * unit) := by
  have hroom : 64 + double.finest < double.top + double.finest := by decide
  have hlog : Nat.log2 (n * pow2 double.finest) < 64 + double.finest := log2_units_lt h
  rw [Format.round_one]
  exact min_eq_right ((double.nearest_le_pow2 _).trans (pow2_le_pow2 (by omega)))

/-- **Integers of at most 53 bits are doubles.** -/
theorem round_of_le {n : Nat} (h : n ≤ pow2 53) : double.round n 1 = n * unit := by
  have h64 : pow2 53 < pow2 64 := by decide
  rw [round_eq_nearest (h.trans_lt h64)]
  obtain hlt | rfl := Nat.lt_or_eq_of_le h
  · exact Format.nearest_mul_pow2 _ hlt
  · have hone : 1 < pow2 double.bits := by decide
    rw [unit, ← pow2_add, ← Nat.one_mul (pow2 _), Format.nearest_mul_pow2 _ hone]

/-- **Integers of 64 bits are rounded by 1024 at most.** -/
theorem round_near {n : Nat} (h : n < pow2 64) :
    double.round n 1 ≤ n * unit + 1024 * unit ∧ n * unit ≤ double.round n 1 + 1024 * unit := by
  have hexcess : double.excess (n * unit) ≤ 11 + double.finest := by
    have hbits : double.bits = 53 := rfl
    have hlog := log2_units_lt h
    rw [Format.excess]
    omega
  have hplace : pow2 (double.excess (n * unit)) ≤ 2048 * unit := by
    have hpow : pow2 11 = 2048 := rfl
    refine (pow2_le_pow2 hexcess).trans_eq ?_
    rw [pow2_add, hpow, unit]
  obtain ⟨hlow, hhigh⟩ := double.nearest_near (n * unit)
  rw [round_eq_nearest h]
  omega

/-- The units of the double nearest to an integer. -/
def unitsOf (n : Int) : Int :=
  if n < 0 then -(double.round n.natAbs 1 : Int) else double.round n.natAbs 1

theorem units?_ofInt (n : Int) : (Double.ofInt n).units? = some (unitsOf n) := by
  rw [Double.ofInt, Double.ofRatio, unitsOf]
  by_cases h : n < 0
  · rw [decide_eq_true h, if_pos h, Double.units?]
  · rw [decide_eq_false h, if_neg h, Double.units?]

theorem unitsOf_neg_iff {n : Int} : unitsOf n < 0 ↔ n < 0 := by
  have hzero := double.round_eq_zero_iff n.natAbs
  rw [unitsOf]
  split_ifs with h <;> omega

/-- The units tell which double is nearest. -/
theorem ofInt_eq_iff {n m : Int} : Double.ofInt n = Double.ofInt m ↔ unitsOf n = unitsOf m := by
  have hunits (n : Int) : Double.ofInt n = .signed (unitsOf n < 0) (unitsOf n).natAbs := by
    have hround : (unitsOf n).natAbs = double.round n.natAbs 1 := by
      rw [unitsOf]
      split_ifs <;> omega
    simp only [unitsOf_neg_iff, hround]
    rfl
  constructor
  · intro h
    have hsome := units?_ofInt n
    rw [h, units?_ofInt] at hsome
    exact (Option.some.inj hsome).symm
  · intro h
    rw [hunits, hunits, h]

/-- **Doubles nearest to integers are in the order of these.** -/
theorem unitsOf_mono {n m : Int} (h : n ≤ m) : unitsOf n ≤ unitsOf m := by
  rw [unitsOf, unitsOf]
  split_ifs with hn hm hm
  · have := Format.round_mono (f := double) (n := m.natAbs) (m := n.natAbs) (by omega)
    omega
  · omega
  · omega
  · have := Format.round_mono (f := double) (n := n.natAbs) (m := m.natAbs) (by omega)
    omega

/-- The exact units of an integer, and those of its size. -/
theorem natAbs_mul_unit (n : Int) :
    (n.natAbs : Int) * unit = if n < 0 then -(n * unit) else n * unit := by
  split_ifs with hn
  · rw [← Int.neg_mul, Int.ofNat_natAbs_of_nonpos hn.le]
  · rw [Int.natAbs_of_nonneg (by omega)]

theorem unitsOf_of_natAbs_le {n : Int} (h : n.natAbs ≤ pow2 53) : unitsOf n = n * unit := by
  have hunits := natAbs_mul_unit n
  rw [unitsOf, round_of_le h, Nat.cast_mul, hunits]
  split_ifs <;> omega

theorem unitsOf_near {n : Int} (h : n.natAbs < pow2 64) :
    unitsOf n ≤ n * unit + 1024 * unit ∧ n * unit ≤ unitsOf n + 1024 * unit := by
  have hunits := natAbs_mul_unit n
  obtain ⟨hlow, hhigh⟩ := round_near h
  have hlow : (double.round n.natAbs 1 : Int) ≤ n.natAbs * unit + 1024 * unit := by
    exact_mod_cast hlow
  have hhigh : (n.natAbs : Int) * unit ≤ double.round n.natAbs 1 + 1024 * unit := by
    exact_mod_cast hhigh
  rw [hunits] at hlow hhigh
  rw [unitsOf]
  split_ifs at hlow hhigh ⊢ <;> omega

/-- Two integers that rounding tells apart: one of them has less than 54 bits, both are at most the
first number that has, or they are far from each other. -/
def Apart (n m : Int) : Prop :=
  n.natAbs < pow2 53 ∨ m.natAbs < pow2 53 ∨ (n.natAbs ≤ pow2 53 ∧ m.natAbs ≤ pow2 53) ∨
    2048 < (n - m).natAbs

theorem Apart.symm {n m : Int} (h : Apart n m) : Apart m n := by
  rw [Apart] at h ⊢
  omega

/-- Next to a short integer, the order of integers is that of their doubles. -/
theorem unitsOf_lt_of_succ_le {n m : Int} (hn : n.natAbs ≤ pow2 53)
    (hsucc : (n + 1).natAbs ≤ pow2 53) (h : n < m) : unitsOf n < unitsOf m := by
  have hunit : (0 : Int) < unit := Int.natCast_pos.mpr unit_pos
  calc unitsOf n = n * unit := unitsOf_of_natAbs_le hn
    _ < (n + 1) * unit := by
      rw [Int.add_mul]
      omega
    _ = unitsOf (n + 1) := (unitsOf_of_natAbs_le hsucc).symm
    _ ≤ unitsOf m := unitsOf_mono h

theorem unitsOf_lt_of_le_pred {n m : Int} (hm : m.natAbs ≤ pow2 53)
    (hpred : (m - 1).natAbs ≤ pow2 53) (h : n < m) : unitsOf n < unitsOf m := by
  have hlt : unitsOf (m - 1) < unitsOf m :=
    unitsOf_lt_of_succ_le hpred (by rwa [Int.sub_add_cancel]) (by omega)
  exact (unitsOf_mono (by omega)).trans_lt hlt

/-- **Integers apart are rounded apart.** -/
theorem unitsOf_lt {n m : Int} (hn : n.natAbs < pow2 64) (hm : m.natAbs < pow2 64) (h : n < m)
    (hapart : Apart n m) : unitsOf n < unitsOf m := by
  rcases hapart with hshort | hshort | ⟨hn53, hm53⟩ | hfar
  · exact unitsOf_lt_of_succ_le hshort.le (by omega) h
  · exact unitsOf_lt_of_le_pred hshort.le (by omega) h
  · -- The greater of two that are not negative is not the least, the lesser of two others not the
    -- greatest.
    obtain hpos | hneg := Int.lt_or_le 0 m
    · exact unitsOf_lt_of_le_pred hm53 (by omega) h
    · exact unitsOf_lt_of_succ_le hn53 (by omega) h
  · have hgap : (2049 : Int) * unit ≤ (m - n) * unit :=
      Int.mul_le_mul_of_nonneg_right (by omega) (Int.natCast_nonneg _)
    have hunit : (0 : Int) < unit := Int.natCast_pos.mpr unit_pos
    obtain ⟨hhigh, _⟩ := unitsOf_near hn
    obtain ⟨_, hlow⟩ := unitsOf_near hm
    rw [Int.sub_mul] at hgap
    omega

/-- **The order of doubles that are nearest to integers** is that of the integers, where rounding
tells these apart. -/
theorem unitsOf_lt_iff {n m : Int} :
    unitsOf n < unitsOf m ↔ n < m ∧ Double.ofInt n ≠ Double.ofInt m := by
  rw [ne_eq, ofInt_eq_iff]
  constructor
  · intro h
    refine ⟨?_, h.ne⟩
    by_contra hle
    exact absurd (unitsOf_mono (not_lt.mp hle)) (not_le.mpr h)
  · rintro ⟨h, hne⟩
    exact lt_of_le_of_ne (unitsOf_mono h.le) hne

end FieldRules.Numeric
