import Mathlib.Algebra.Order.Field.Rat
import Mathlib.Data.Rat.Lemmas
import Mathlib.Tactic.FieldSimp
import Mathlib.Tactic.Linarith
import Mathlib.Tactic.Positivity
import Mathlib.Tactic.Ring
import CommandShell.Number.Binary64

/-!
# How far rounding goes

Rounding a quotient to a whole number moves it by at most a half. Main statements: since the
quotient that is rounded has at least 53 significant bits, `round` changes a positive number by at
most the 53rd binary fraction of it; and `round` keeps the order of the numbers.
-/

namespace CommandShell.Binary64

variable {num den : Nat} {x y : Rat}

/-- The whole number that is chosen is at most a half away from the quotient. -/
theorem abs_roundDiv_sub_le (num : Nat) (hden : 0 < den) :
    |(roundDiv num den : Rat) - num / den| ≤ 1 / 2 := by
  have hnear : 2 * num ≤ 2 * (den * roundDiv num den) + den ∧
      2 * (den * roundDiv num den) ≤ 2 * num + den := by
    have hdiv : den * (num / den) + num % den = num := Nat.div_add_mod num den
    have hmod := Nat.mod_lt num hden
    rw [roundDiv]
    split
    · omega
    · split
      · rw [Nat.mul_add, Nat.mul_one]
        omega
      · rcases Nat.mod_two_eq_zero_or_one (num / den) with heven | hodd
        · rw [heven, Nat.add_zero]
          omega
        · rw [hodd, Nat.mul_add, Nat.mul_one]
          omega
  have hlow : (2 : Rat) * num ≤ 2 * (den * roundDiv num den) + den := by exact_mod_cast hnear.1
  have hhigh : (2 : Rat) * (den * roundDiv num den) ≤ 2 * num + den := by exact_mod_cast hnear.2
  have hpos : (0 : Rat) < den := by exact_mod_cast hden
  rw [abs_sub_le_iff, sub_le_iff_le_add, sub_le_iff_le_add, div_le_iff₀ hpos, ← sub_le_iff_le_add',
    le_div_iff₀ hpos]
  constructor <;> linarith

/-- With so many places, the quotient has 53 bits in front of the binary point. -/
theorem le_shiftLeft_places (hnum : 0 < num) : den <<< 52 ≤ num <<< places num den := by
  rw [places]
  split
  · have hlow : 2 ^ num.log2 ≤ num := Nat.log2_self_le hnum.ne'
    have hhigh : den < 2 ^ (den.log2 + 1) := Nat.lt_log2_self
    rw [Nat.shiftLeft_eq, Nat.shiftLeft_eq]
    calc den * 2 ^ 52
        ≤ 2 ^ (den.log2 + 1) * 2 ^ 52 := Nat.mul_le_mul_right _ hhigh.le
      _ ≤ 2 ^ num.log2 * 2 ^ (52 + (den.log2 - num.log2) + 1) := by
          rw [← Nat.pow_add, ← Nat.pow_add]
          exact Nat.pow_le_pow_right (by decide) (by omega)
      _ ≤ num * 2 ^ (52 + (den.log2 - num.log2) + 1) := Nat.mul_le_mul_right _ hlow
  · next h => exact Nat.not_lt.1 h

/-- With more than 52 places, the quotient has no more than 53 bits in front of the binary point. -/
theorem shiftLeft_places_lt (hden : 0 < den) (h : places num den ≠ 52) :
    num <<< places num den < den <<< 53 := by
  have hlow : 2 ^ den.log2 ≤ den := Nat.log2_self_le hden.ne'
  have hhigh : num < 2 ^ (num.log2 + 1) := Nat.lt_log2_self
  rw [places] at h ⊢
  split
  · next hshort =>
    rw [Nat.shiftLeft_eq, Nat.shiftLeft_eq] at hshort ⊢
    rw [Nat.pow_succ, ← Nat.mul_assoc]
    omega
  · next hlong =>
    have hplaces : 52 + (den.log2 - num.log2) ≠ 52 := by rwa [if_neg hlong] at h
    rw [Nat.shiftLeft_eq, Nat.shiftLeft_eq]
    calc num * 2 ^ (52 + (den.log2 - num.log2))
        < 2 ^ (num.log2 + 1) * 2 ^ (52 + (den.log2 - num.log2)) :=
          Nat.mul_lt_mul_of_pos_right hhigh (by positivity)
      _ = 2 ^ den.log2 * 2 ^ 53 := by
          rw [← Nat.pow_add, ← Nat.pow_add]
          congr 1
          omega
      _ ≤ den * 2 ^ 53 := Nat.mul_le_mul_right _ hlow

theorem le_places (num den : Nat) : 52 ≤ places num den := by
  rw [places]
  split <;> omega

theorem round_nonneg (x : Rat) : 0 ≤ round x := by
  rw [round]
  split
  · exact le_rfl
  · rw [Rat.mkRat_eq_div]
    positivity

theorem round_of_nonpos (hx : x ≤ 0) : round x = 0 := by
  rw [round, if_pos hx]

/-- The quotient of whole numbers as which `x` is rounded, in front of `p` binary places. -/
structure Scaled (x : Rat) (num den p : Nat) : Prop where
  den_pos : 0 < den
  eq : x = num / den / 2 ^ p
  le_quotient : (2 : Rat) ^ 52 ≤ num / den
  places_le : 52 ≤ p
  quotient_lt : p ≠ 52 → (num / den : Rat) < 2 ^ 53
  round_eq : round x = roundDiv num den / 2 ^ p

/-- A positive number is rounded as a quotient of at least 53 bits, in front of so many places. -/
theorem exists_scaled (hx : 0 < x) : ∃ num den p : Nat, Scaled x num den p := by
  obtain ⟨num, hnum⟩ := Int.eq_ofNat_of_zero_le (Rat.num_nonneg.2 hx.le)
  have hpos : 0 < num := by
    have := Rat.num_pos.2 hx
    omega
  have hden : (0 : Rat) < x.den := by exact_mod_cast x.den_pos
  have hquotient : (num : Rat) / x.den = x := by
    rw [div_eq_iff hden.ne', Rat.mul_den_eq_num, hnum]
    rfl
  refine ⟨num <<< places num x.den, x.den, places num x.den, x.den_pos, ?_, ?_,
    le_places num x.den, fun hp => ?_, ?_⟩
  · rw [Nat.shiftLeft_eq, Nat.cast_mul, mul_div_right_comm, hquotient]
    push_cast
    rw [mul_div_cancel_right₀ _ (by positivity)]
  · rw [le_div_iff₀ hden]
    have h : x.den <<< 52 ≤ num <<< places num x.den := le_shiftLeft_places hpos
    rw [Nat.shiftLeft_eq x.den] at h
    rw [mul_comm]
    exact_mod_cast h
  · rw [div_lt_iff₀ hden]
    have h : num <<< places num x.den < x.den <<< 53 := shiftLeft_places_lt x.den_pos hp
    rw [Nat.shiftLeft_eq x.den] at h
    rw [mul_comm]
    exact_mod_cast h
  · rw [round, if_neg hx.not_ge, hnum]
    simp only [Int.toNat_natCast]
    rw [Rat.mkRat_eq_div, Nat.shiftLeft_eq 1, Nat.one_mul]
    push_cast
    rfl

/-- Rounding a positive number moves it by at most the 53rd binary fraction of it. -/
theorem abs_round_sub_le (hx : 0 < x) : |round x - x| ≤ x / 2 ^ 53 := by
  obtain ⟨num, den, p, hscaled⟩ := exists_scaled hx
  have hnear := abs_roundDiv_sub_le num hscaled.den_pos
  have hbits := hscaled.le_quotient
  have hpower : (0 : Rat) < 2 ^ p := by positivity
  calc |round x - x|
      = |(roundDiv num den : Rat) - num / den| / 2 ^ p := by
        rw [hscaled.round_eq, hscaled.eq, ← sub_div, abs_div, abs_of_pos hpower]
    _ ≤ num / den / 2 ^ 53 / 2 ^ p := by
        refine div_le_div_of_nonneg_right ?_ hpower.le
        linarith
    _ = x / 2 ^ 53 := by rw [hscaled.eq, div_right_comm]

/-- Up to one, rounding moves a number by at most the 53rd binary fraction of one. -/
theorem abs_round_sub_le_of_le_one (hzero : 0 ≤ x) (hone : x ≤ 1) :
    |round x - x| ≤ 1 / 2 ^ 53 := by
  rcases hzero.eq_or_lt with rfl | hpos
  · rw [round_of_nonpos le_rfl, sub_zero, abs_zero]
    positivity
  · exact (abs_round_sub_le hpos).trans (div_le_div_of_nonneg_right hone (by positivity))

/-! ## Order -/

/-- A larger quotient is not rounded to a smaller whole number. -/
theorem roundDiv_le_of_lt {num' den' : Nat} (hden : 0 < den) (hden' : 0 < den')
    (h : (num / den : Rat) < num' / den') : roundDiv num den ≤ roundDiv num' den' := by
  have hleft := (abs_le.1 (abs_roundDiv_sub_le num hden)).2
  have hright := (abs_le.1 (abs_roundDiv_sub_le num' hden')).1
  have hlt : (roundDiv num den : Rat) < (roundDiv num' den' + 1 : Nat) := by
    push_cast
    linarith
  exact Nat.lt_succ_iff.1 (by exact_mod_cast hlt)

theorem roundDiv_le (hden : 0 < den) {k : Nat} (h : (num / den : Rat) < k) :
    roundDiv num den ≤ k := by
  have hnear := (abs_le.1 (abs_roundDiv_sub_le num hden)).2
  have hlt : (roundDiv num den : Rat) < (k + 1 : Nat) := by
    push_cast
    linarith
  exact Nat.lt_succ_iff.1 (by exact_mod_cast hlt)

theorem le_roundDiv (hden : 0 < den) {k : Nat} (h : (k : Rat) ≤ num / den) :
    k ≤ roundDiv num den := by
  have hnear := (abs_le.1 (abs_roundDiv_sub_le num hden)).1
  have hlt : (k : Rat) < (roundDiv num den + 1 : Nat) := by
    push_cast
    linarith
  exact Nat.lt_succ_iff.1 (by exact_mod_cast hlt)

theorem halve_powers (p : Nat) : (2 : Rat) ^ 53 / 2 ^ (p + 1) = 2 ^ 52 / 2 ^ p := by
  rw [pow_succ 2 52, pow_succ 2 p, mul_div_mul_right _ _ two_ne_zero]

/-- The smaller of two numbers is rounded with no fewer places than the larger one. -/
theorem Scaled.places_mono {num' den' p p' : Nat} (hx : Scaled x num den p)
    (hy : Scaled y num' den' p') (hxy : x ≤ y) : p' ≤ p := by
  by_contra hlt
  have hp : p + 1 ≤ p' := by omega
  have hcap := hy.quotient_lt (by have := hx.places_le; omega)
  have hpow : (2 : Rat) ^ (p + 1) ≤ 2 ^ p' := pow_le_pow_right₀ (by norm_num) hp
  have hsmall : y < 2 ^ 52 / 2 ^ p := by
    calc y = num' / den' / 2 ^ p' := hy.eq
      _ < 2 ^ 53 / 2 ^ p' := div_lt_div_of_pos_right hcap (by positivity)
      _ ≤ 2 ^ 53 / 2 ^ (p + 1) := div_le_div_of_nonneg_left (by positivity) (by positivity) hpow
      _ = 2 ^ 52 / 2 ^ p := halve_powers p
  have hlarge : (2 : Rat) ^ 52 / 2 ^ p ≤ x := by
    rw [hx.eq]
    exact div_le_div_of_nonneg_right hx.le_quotient (by positivity)
  linarith

/-- Rounding keeps the order: numbers of one number of places keep it as whole numbers do, and
between others there is a power of two. -/
theorem round_mono : Monotone round := by
  intro x y hxy
  rcases hxy.eq_or_lt with rfl | hlt
  · exact le_rfl
  rcases le_or_gt x 0 with hneg | hpos
  · rw [round_of_nonpos hneg]
    exact round_nonneg y
  obtain ⟨num, den, p, hx⟩ := exists_scaled hpos
  obtain ⟨num', den', p', hy⟩ := exists_scaled (hpos.trans hlt)
  rw [hx.round_eq, hy.round_eq]
  rcases (hx.places_mono hy hxy).eq_or_lt with rfl | hplaces
  · have hpower : (0 : Rat) < 2 ^ p' := by positivity
    rw [hx.eq, hy.eq, div_lt_div_iff_of_pos_right hpower] at hlt
    rw [div_le_div_iff_of_pos_right hpower]
    exact_mod_cast roundDiv_le_of_lt hx.den_pos hy.den_pos hlt
  · have hcap : (num / den : Rat) < (2 ^ 53 : Nat) := by
      push_cast
      exact hx.quotient_lt (by have := hy.places_le; omega)
    have hfloor : ((2 ^ 52 : Nat) : Rat) ≤ num' / den' := by
      push_cast
      exact hy.le_quotient
    have hleft : (roundDiv num den : Rat) ≤ 2 ^ 53 := by
      exact_mod_cast roundDiv_le hx.den_pos hcap
    have hright : (2 : Rat) ^ 52 ≤ roundDiv num' den' := by
      exact_mod_cast le_roundDiv hy.den_pos hfloor
    have hpow : (2 : Rat) ^ (p' + 1) ≤ 2 ^ p := pow_le_pow_right₀ (by norm_num) hplaces
    calc (roundDiv num den : Rat) / 2 ^ p
        ≤ 2 ^ 53 / 2 ^ p := div_le_div_of_nonneg_right hleft (by positivity)
      _ ≤ 2 ^ 53 / 2 ^ (p' + 1) := div_le_div_of_nonneg_left (by positivity) (by positivity) hpow
      _ = 2 ^ 52 / 2 ^ p' := halve_powers p'
      _ ≤ roundDiv num' den' / 2 ^ p' := div_le_div_of_nonneg_right hright (by positivity)

theorem round_one : round 1 = 1 := by decide +kernel

theorem round_le_one (hx : x ≤ 1) : round x ≤ 1 :=
  (round_mono hx).trans_eq round_one

end CommandShell.Binary64
