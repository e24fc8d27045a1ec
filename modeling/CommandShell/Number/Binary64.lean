/-!
# Binary64 numbers between zero and one

Scores are computed in IEEE 754 double precision, and their last bits show. A number of that
format is kept as the rational number it stands for, and each operation is the exact one followed
by `round`: the closest number with 53 significant bits, the one with an even significand where
two are equally close. Between zero and one this is all of the format's rounding as long as the
numbers stay far above its smallest ones, as quotients of text lengths do.
-/

namespace CommandShell.Binary64

/-- The whole number closest to `num / den`; a half goes to the even neighbour. -/
def roundDiv (num den : Nat) : Nat :=
  let q := num / den
  let r := num % den
  if 2 * r < den then q
  else if den < 2 * r then q + 1
  else q + q % 2

/-- The number of binary places at which `num / den`, at most one, has 53 significant bits. -/
def places (num den : Nat) : Nat :=
  let p := 52 + (den.log2 - num.log2)
  if num <<< p < den <<< 52 then p + 1 else p

/-- The number of the format closest to `x`, for `x` at most one; below zero there is none. -/
def round (x : Rat) : Rat :=
  if x ≤ 0 then 0
  else
    let num := x.num.toNat
    let p := places num x.den
    mkRat (roundDiv (num <<< p) x.den) (1 <<< p)

/-- The 64 bits of a number of the format: sign, biased exponent and fraction. -/
def bits (x : Rat) : Nat :=
  if x ≤ 0 then 0
  else
    let num := x.num.toNat
    let p := places num x.den
    ((1075 - p) <<< 52) + ((num <<< p) / x.den - (1 <<< 52))

end CommandShell.Binary64
