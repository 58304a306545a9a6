/-!
# Numeric/Power — powers of two and of ten

Bounds of fixed-width numbers are powers of two, and places of decimals are powers of ten.
-/

namespace FieldRules.Numeric

/-- `1` doubled `k` times. -/
def pow2 (k : Nat) : Nat := Nat.pow 2 k

/-- `1` with `k` zeros. -/
def pow10 (k : Nat) : Nat := Nat.pow 10 k

theorem pow2_pos (k : Nat) : 0 < pow2 k := Nat.pow_pos (Nat.zero_lt_succ 1)

end FieldRules.Numeric
