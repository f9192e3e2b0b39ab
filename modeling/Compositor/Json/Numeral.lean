import Compositor.Number

/-!
# Numerals

A JSON number is kept as it is written, digit by digit, until someone asks for a value. Whole numbers
are read exactly. Numbers in floating point are read in two roundings: the leading digits that fit
a word make up the significand, and the power of ten is multiplied or divided on.
-/

set_option autoImplicit false

namespace Compositor.Json

abbrev Digit := Fin 10

def digitsValue (digits : List Digit) : Nat :=
  digits.foldl (fun value digit => value * 10 + digit.val) 0

/-- The least number beyond 64 bits. -/
def wordLimit : Nat := UInt64.size

structure Numeral where
  negative : Bool
  whole : List Digit
  fraction : Option (List Digit)
  /-- The sign and the digits of the exponent, if there is one. -/
  exponent : Option (Bool × List Digit)
  deriving DecidableEq, Repr

namespace Numeral

/-- The number without its sign, if it is written as a whole number that fits a word. -/
def magnitude? (numeral : Numeral) : Option Nat :=
  if numeral.fraction.isNone ∧ numeral.exponent.isNone ∧ digitsValue numeral.whole < wordLimit then
    some (digitsValue numeral.whole)
  else none

/-- The value of a whole number below `bound`, where `bound` is at most `wordLimit`. Nothing with a
minus sign is such a number, not even a zero. -/
def natBelow? (bound : Nat) (numeral : Numeral) : Option Nat :=
  if numeral.negative then none else numeral.magnitude?.filter (· < bound)

end Numeral

/-! ## Floating point -/

/-- Digits read off a numeral: a significand and the power of ten that belongs to it. -/
structure Scaled where
  significand : Nat
  power : Int
  deriving DecidableEq, Repr

namespace Scaled

/-- Adds a digit before the point. Once the significand is full, digits only count. -/
def pushWhole (scaled : Scaled) (digit : Digit) : Scaled :=
  let longer := scaled.significand * 10 + digit.val
  if scaled.power = 0 ∧ longer < wordLimit then ⟨longer, 0⟩
  else ⟨scaled.significand, scaled.power + 1⟩

def pushFraction (scaled : Scaled) : List Digit → Scaled
  | [] => scaled
  | digit :: rest =>
    let longer := scaled.significand * 10 + digit.val
    if longer < wordLimit then pushFraction ⟨longer, scaled.power - 1⟩ rest else scaled

def largestPower : Nat := 308

def powerOfTen (power : Nat) : Float := Float.ofScientific 1 false power

/-- Divides by a power of ten, at most 308 places at a time. A value that has become zero stays. -/
def divideByPower (value : Float) (power : Nat) : Float :=
  if power ≤ largestPower then value / powerOfTen power
  else if value == 0 then value
  else divideByPower (value / powerOfTen largestPower) (power - largestPower)
termination_by power
decreasing_by simp only [largestPower] at *; omega

def multiplyByPower? (value : Float) (power : Nat) : Option Float :=
  if power ≤ largestPower then (some (value * powerOfTen power)).filter Float.isFinite
  else if value == 0 then some value
  else none

def value? (scaled : Scaled) : Option Float :=
  let value := (UInt64.ofNat scaled.significand).toFloat
  if 0 ≤ scaled.power then multiplyByPower? value scaled.power.toNat
  else some (divideByPower value (-scaled.power).toNat)

end Scaled

namespace Numeral

def scaled (numeral : Numeral) : Scaled :=
  (numeral.whole.foldl Scaled.pushWhole ⟨0, 0⟩).pushFraction (numeral.fraction.getD [])

def largestExponent : Nat := 0x7fffffff

/-- The number without its sign, unless it is too large. An exponent beyond all bounds leaves
nothing of the number, or makes it too large if it was not zero. -/
def unsigned? (numeral : Numeral) : Option Float :=
  let scaled := numeral.scaled
  match numeral.exponent with
  | none => scaled.value?
  | some (negative, digits) =>
    let exponent := digitsValue digits
    if exponent ≤ largestExponent then
      let shift : Int := if negative then -exponent else exponent
      ({ scaled with power := scaled.power + shift } : Scaled).value?
    else if scaled.significand ≠ 0 ∧ ¬negative then none
    else some 0

def float? (numeral : Numeral) : Option Float :=
  numeral.unsigned?.map fun value => if numeral.negative then -value else value

/-- The number in double precision, unless it is too large. Whole numbers need one rounding. -/
def double? (numeral : Numeral) : Option Double :=
  numeral.float?.map fun value => ⟨value.toBits⟩

def word? (numeral : Numeral) : Option UInt64 :=
  (numeral.magnitude?.filter fun magnitude =>
    !numeral.negative || (1 ≤ magnitude && magnitude ≤ UInt64.size / 2)).map UInt64.ofNat

/-- The number in single precision, unless it is too large even for double precision. Whole numbers
that fit a word are rounded once; other numbers pass through double precision. -/
def single? (numeral : Numeral) : Option Single :=
  match numeral.word? with
  | some word =>
    let value := word.toFloat32
    some ⟨(if numeral.negative then -value else value).toBits⟩
  | none => numeral.float?.map fun value => ⟨value.toFloat32.toBits⟩

end Numeral

end Compositor.Json
