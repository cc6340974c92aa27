/-
Numbers with a fixed count of decimal places.

A binary floating-point number is a whole number times a power of two, so its
exact value is at hand and rounding it to some decimal places is one division of
whole numbers. The quotient is rounded to the nearest, and a quotient that lies in
the middle goes to the even neighbour. What is rounded is the exact value: 0.125
lies in the middle, 0.995 does not, because the nearest binary number to it is a
little less.
-/
set_option autoImplicit false

namespace Taskbook.FixedPoint

/-- The quotient rounded to the nearest whole number, from the middle to the even
one. -/
def roundDiv (numerator denominator : Nat) : Nat :=
  let quotient := numerator / denominator
  let double := 2 * (numerator % denominator)
  if double < denominator then quotient
  else if denominator < double then quotient + 1
  else if quotient % 2 = 0 then quotient
  else quotient + 1

/-- The rounded quotient is off by at most one half. -/
theorem roundDiv_near (numerator : Nat) {denominator : Nat} (h : 0 < denominator) :
    2 * (denominator * roundDiv numerator denominator) ≤ 2 * numerator + denominator ∧
      2 * numerator ≤ 2 * (denominator * roundDiv numerator denominator) + denominator := by
  have parts := Nat.div_add_mod numerator denominator
  have small := Nat.mod_lt numerator h
  have next : denominator * (numerator / denominator + 1)
      = denominator * (numerator / denominator) + denominator := Nat.mul_succ _ _
  simp only [roundDiv]
  split
  · omega
  · split
    · rw [next]
      omega
    · split
      · omega
      · rw [next]
        omega

/-- The parts of a binary number: its sign, and a whole number with the power of
two that it is multiplied with, less 1075. None for what is no number. -/
def parts? (x : Float) : Option (Bool × Nat × Nat) :=
  let bits := x.toBits.toNat
  let negative := bits >>> 63 == 1
  let exponent := (bits >>> 52) % 2048
  let hidden := 1 <<< 52
  let fraction := bits % hidden
  if exponent = 2047 then none
  else if exponent = 0 then some (negative, fraction, 1)
  else some (negative, fraction + hidden, exponent)

/-- How many units of the last of `places` decimal places make one. -/
def scale (places : Nat) : Nat :=
  Nat.pow 10 places

/-- `whole * 2 ^ (exponent - 1075)` counted in units of the last of `places`
decimal places. -/
def units (places whole exponent : Nat) : Nat :=
  if 1075 ≤ exponent then (whole <<< (exponent - 1075)) * scale places
  else roundDiv (whole * scale places) (1 <<< (1075 - exponent))

/-- A whole number with at least `width` digits. -/
def padded (width n : Nat) : String :=
  let digits := Nat.toDigits 10 n
  String.ofList (List.replicate (width - digits.length) '0' ++ digits)

/-- The number with `places` decimal places, at least one. -/
def text (places : Nat) (x : Float) : String :=
  match parts? x with
  | some (negative, whole, exponent) =>
    let count := units places whole exponent
    (if negative then "-" else "") ++ toString (count / scale places) ++ "." ++
      padded places (count % scale places)
  | none => if x.isNaN then "nan" else if x < 0 then "-inf" else "inf"

end Taskbook.FixedPoint
