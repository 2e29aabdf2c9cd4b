/-! Binary floating point numbers of 64 bits, kept as their bits. Every finite one is a fraction of
two natural numbers up to sign, and all arithmetic goes through one rounding of such a fraction to
the nearest number, ties to the even significand. -/
namespace DesiredState

/-- A floating point number, given by its bits: sign, eleven bits of exponent, 52 of fraction. -/
structure Binary64 where
  bits : UInt64
  deriving DecidableEq, Inhabited, Repr

namespace Binary64

def isNegative (x : Binary64) : Bool := x.bits.toNat / 0x8000000000000000 == 1

def exponentField (x : Binary64) : Nat := x.bits.toNat / 0x10000000000000 % 0x800

def fractionField (x : Binary64) : Nat := x.bits.toNat % 0x10000000000000

def isNaN (x : Binary64) : Bool := x.exponentField == 2047 && x.fractionField != 0

def isInfinite (x : Binary64) : Bool := x.exponentField == 2047 && x.fractionField == 0

def isFinite (x : Binary64) : Bool := x.exponentField != 2047

/-- A finite number. -/
abbrev Finite := { x : Binary64 // x.isFinite = true }

/-- Both zeros, whatever their sign. -/
def isZero (x : Binary64) : Bool := x.exponentField == 0 && x.fractionField == 0

/-- Equality of numbers: a NaN equals nothing, and the two zeros are equal. -/
def equals (x y : Binary64) : Bool :=
  !x.isNaN && !y.isNaN && (x.bits == y.bits || (x.isZero && y.isZero))

/-- The significand of a finite number, with the leading bit that its field leaves out. -/
def significand (x : Binary64) : Nat :=
  if x.exponentField = 0 then x.fractionField else x.fractionField + 0x10000000000000

/-- A finite number has the magnitude `significand * 2 ^ (scale - 1074)`. -/
def scale (x : Binary64) : Nat := x.exponentField - 1

/-- The magnitude of a finite number, in units of the least positive number `2 ^ -1074`. -/
def units (x : Binary64) : Nat := x.significand <<< x.scale

def ofMagnitudeBits (negative : Bool) (magnitude : Nat) : Binary64 :=
  ⟨UInt64.ofNat (if negative then magnitude + 0x8000000000000000 else magnitude)⟩

/-- The quotient of two natural numbers, rounded to the nearest, a half to the even neighbour. -/
def roundQuotient (num den : Nat) : Nat :=
  let q := num / den
  let r := num % den
  if 2 * r < den then q
  else if den < 2 * r then q + 1
  else if q % 2 = 0 then q else q + 1

/-- The largest `e` with `2 ^ e ≤ num / den`, for positive `num` and `den`. -/
def floorLog2 (num den : Nat) : Int :=
  let e : Int := (num.log2 : Int) - (den.log2 : Int)
  let fits := if e < 0 then den ≤ num <<< (-e).toNat else den <<< e.toNat ≤ num
  if fits then e else e - 1

/-- The bits of the magnitude nearest to `num / den`: the significand has 53 bits unless the
number is subnormal, and what is beyond the largest finite number is infinite. The exponent field
and a carry out of the significand add up without a case distinction. -/
def magnitudeBits (num den : Nat) : Nat :=
  if num = 0 then 0
  else
    let e := max (floorLog2 num den - 52) (-1074)
    let m := if e < 0 then roundQuotient (num <<< (-e).toNat) den
      else roundQuotient num (den <<< e.toNat)
    min ((e + 1074).toNat <<< 52 + m) 0x7ff0000000000000

/-- The number nearest to `num / den`, with the given sign. -/
def ofRatio (negative : Bool) (num den : Nat) : Binary64 :=
  ofMagnitudeBits negative (magnitudeBits num den)

def ofNat (n : Nat) : Binary64 := ofRatio false n 1

def ofInt (i : Int) : Binary64 := ofRatio (i < 0) i.natAbs 1

/-- The product of two finite numbers. -/
def mul (x y : Binary64) : Binary64 :=
  ofRatio (x.isNegative != y.isNegative) (x.units * y.units) (1 <<< 2148)

/-- The quotient of two finite numbers, of which the second is not zero. -/
def div (x y : Binary64) : Binary64 :=
  ofRatio (x.isNegative != y.isNegative) x.units y.units

def neg (x : Binary64) : Binary64 := ⟨x.bits ^^^ 0x8000000000000000⟩

instance : Mul Binary64 := ⟨mul⟩
instance : Div Binary64 := ⟨div⟩
instance : Neg Binary64 := ⟨neg⟩

/-- Bits under which every NaN looks the same. -/
def canonicalBits (x : Binary64) : UInt64 := if x.isNaN then 0x7ff8000000000000 else x.bits

theorem equals_self (x : Binary64) : x.equals x = !x.isNaN := by
  simp [equals]

theorem Finite.isNaN_eq_false (x : Finite) : x.val.isNaN = false := by
  have h := x.property
  simp_all [isFinite, isNaN]

example : ofNat 1 = ⟨0x3ff0000000000000⟩ := by decide +kernel
example : ofRatio false 1 10 = ⟨0x3fb999999999999a⟩ := by decide +kernel
example : ofNat (2 ^ 53 + 1) = ofNat (2 ^ 53) := by decide +kernel
example : (ofNat (2 ^ 1024)).isInfinite = true := by decide +kernel
example : ofRatio true 5 (10 ^ 324) = ⟨0x8000000000000001⟩ := by decide +kernel
example : (ofNat 1 / ofNat 10) * ofNat 10 = ofNat 1 := by decide +kernel
example : equals ⟨0⟩ ⟨0x8000000000000000⟩ = true := by decide +kernel
example : equals ⟨0x7ff8000000000000⟩ ⟨0x7ff8000000000000⟩ = false := by decide +kernel

end Binary64
end DesiredState
