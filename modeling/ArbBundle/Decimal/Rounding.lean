/-!
# Rounding — quotients to the nearest integer

`roundDiv num den` is the integer nearest to `num / den`, and the even one of two that are equally
near.  `two_mul_roundDiv_le` and `le_two_mul_roundDiv` say that it is off by half a unit at most.
-/

namespace ArbBundle
namespace Decimal

/-- The integer nearest to `num / den`; of two equally near ones the even one. -/
def roundDiv (num den : Nat) : Nat :=
  let q := num / den
  let r := num % den
  if 2 * r < den then q
  else if den < 2 * r then q + 1
  else if q % 2 = 0 then q
  else q + 1

/-- The nearest integer is the quotient or the one behind it. -/
theorem roundDiv_eq_or (num den : Nat) :
    roundDiv num den = num / den ∨ roundDiv num den = num / den + 1 := by
  simp only [roundDiv]
  split
  · exact Or.inl rfl
  · split
    · exact Or.inr rfl
    · split
      · exact Or.inl rfl
      · exact Or.inr rfl

/-- The rounded quotient exceeds the exact one by half a unit at most. -/
theorem two_mul_roundDiv_le (num den : Nat) :
    2 * (roundDiv num den * den) ≤ 2 * num + den := by
  have h := Nat.div_add_mod num den
  have hc : num / den * den = den * (num / den) := Nat.mul_comm _ _
  have hs : (num / den + 1) * den = den * (num / den) + den := by rw [Nat.succ_mul, hc]
  simp only [roundDiv]
  split
  · omega
  · split
    · omega
    · split <;> omega

/-- The rounded quotient falls short of the exact one by half a unit at most. -/
theorem le_two_mul_roundDiv (num : Nat) {den : Nat} (hd : 0 < den) :
    2 * num ≤ 2 * (roundDiv num den * den) + den := by
  have h := Nat.div_add_mod num den
  have hm := Nat.mod_lt num hd
  have hc : num / den * den = den * (num / den) := Nat.mul_comm _ _
  have hs : (num / den + 1) * den = den * (num / den) + den := by rw [Nat.succ_mul, hc]
  simp only [roundDiv]
  split
  · omega
  · split
    · omega
    · split <;> omega

end Decimal
end ArbBundle
