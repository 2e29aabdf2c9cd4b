import DesiredState.Decimal.Layout

/-! Numbers as documents hold them: integers that fit in 64 bits, signed or not, and real numbers.
A numeral with a point, an exponent, too many digits or a negative zero is a real number. -/
namespace DesiredState

/-- A number of a document. An integer and a real number are never the same number, and every real
number is finite. -/
inductive Numeral where
  | integer (value : Int)
  | real (value : Binary64.Finite)
  deriving DecidableEq, Inhabited, Repr

namespace Numeral

/-- Equality of numbers of one kind. -/
def equals : Numeral → Numeral → Bool
  | integer i, integer j => i == j
  | real x, real y => x.val.equals y.val
  | _, _ => false

theorem equals_self (n : Numeral) : n.equals n = true := by
  cases n with
  | integer i => simp [equals]
  | real x => simp [equals, Binary64.equals_self, x.isNaN_eq_false]

def ofReal? (x : Binary64) : Option Numeral :=
  if h : x.isFinite then some (real ⟨x, h⟩) else none

def fits (i : Int) : Bool := Int64.minValue.toInt ≤ i && i < UInt64.size

/-- An integer as a signed one of 64 bits, if it is in their range. -/
def int64? (i : Int) : Option Int64 :=
  if Int64.minValue.toInt ≤ i ∧ i ≤ Int64.maxValue.toInt then some (Int64.ofInt i) else none

def writeInteger (i : Int) : List Char :=
  if i < 0 then '-' :: Nat.toDigits 10 i.natAbs else Nat.toDigits 10 i.natAbs

def showInteger (i : Int) : String := String.ofList (writeInteger i)

def write : Numeral → List Char
  | integer i => writeInteger i
  | real x => Decimal.Layout.document.write x.val

def digit (c : Char) : Nat := c.toNat - '0'.toNat

def ofDigits (ds : List Char) : Nat := ds.foldl (fun n c => n * 10 + digit c) 0

/-- Appends decimal digits to a significand as long as it stays within 64 bits, and returns the
digits that are left over. -/
def absorb : List Char → Nat → Nat × List Char
  | [], s => (s, [])
  | c :: cs, s =>
    if s * 10 + digit c < UInt64.size then absorb cs (s * 10 + digit c) else (s, c :: cs)

def greatestPower : Nat := 308

def power (k : Nat) : Binary64 := .ofNat (Nat.pow 10 k)

/-- Divides by the largest power of ten, `n` times or until nothing is left. -/
def shrink : Nat → Binary64 → Binary64
  | 0, x => x
  | n + 1, x => if x.isZero then x else shrink n (x / power greatestPower)

/-- Multiplies by a power of ten, with one rounding for each power that it takes: the exponent
`-400` takes a division by `10 ^ 308` and one by `10 ^ 92`. Nothing is beyond the greatest number. -/
def scaled (x : Binary64) (exponent : Int) : Option Binary64 :=
  let k := exponent.natAbs
  if x.isZero then some x
  else if 0 ≤ exponent then
    if k ≤ greatestPower then
      let y := x * power k
      if y.isInfinite then none else some y
    else none
  else
    let n := (k - 1) / greatestPower
    some (shrink n x / power (k - n * greatestPower))

/-- The parts of a numeral as they are written. -/
structure Parts where
  negative : Bool
  whole : List Char
  /-- The digits after the point, if there is one. -/
  fraction : Option (List Char)
  /-- The exponent after its mark, if there is one. -/
  exponent : Option Int

/-- The number that the parts denote. Digits beyond 64 bits count as zeros. -/
def ofParts (p : Parts) : Option Numeral :=
  let (significand, rest) := absorb p.whole 0
  match p.fraction, p.exponent, rest with
  | none, none, [] =>
    if !p.negative then some (integer significand)
    else if 0 < significand ∧ significand ≤ 0x8000000000000000 then some (integer (-significand))
    else ofReal? (-Binary64.ofNat significand)
  | fraction, exponent, rest =>
    let fraction := fraction.getD []
    let (significand, dropped) := absorb fraction significand
    let shift : Int := (rest.length : Int) - ((fraction.length : Int) - (dropped.length : Int))
    (scaled (.ofNat significand) (shift + exponent.getD 0)).bind fun x =>
      ofReal? (if p.negative then -x else x)

def takeDigits (cs : List Char) : List Char × List Char := cs.span Char.isDigit

/-- The decimal digits at the front, of which there is at least one. -/
def readDigits (cs : List Char) : Option (List Char × List Char) :=
  match takeDigits cs with
  | ([], _) => none
  | found => some found

/-- Whether a sign at the front is a minus sign, and what follows it. -/
def readSign : List Char → Bool × List Char
  | '-' :: cs => (true, cs)
  | '+' :: cs => (false, cs)
  | cs => (false, cs)

/-- The digits after a point, if there is one. How digits are read depends on the notation. -/
def readFraction (digits : List Char → Option (List Char × List Char)) :
    List Char → Option (Option (List Char) × List Char)
  | '.' :: cs => (digits cs).map fun r => (some r.1, r.2)
  | cs => some (none, cs)

/-- An exponent, if there is one: its mark, perhaps a sign, and digits. -/
def readExponent (digits : List Char → Option (List Char × List Char)) :
    List Char → Option (Option Int × List Char)
  | [] => some (none, [])
  | c :: cs =>
    if c = 'e' ∨ c = 'E' then do
      let (negative, cs) := readSign cs
      let (ds, rest) ← digits cs
      let n : Int := ofDigits ds
      return (some (if negative then -n else n), rest)
    else some (none, c :: cs)

/-- The digits before a point: a zero alone, or digits that do not start with zero. -/
def readWhole (cs : List Char) : Option (List Char × List Char) :=
  match readDigits cs with
  | some ('0' :: _ :: _, _) => none
  | found => found

/-- The numeral at the front, and what follows it. -/
def read (cs : List Char) : Option (Numeral × List Char) := do
  let (negative, cs) := match cs with
    | '-' :: cs => (true, cs)
    | cs => (false, cs)
  let (whole, cs) ← readWhole cs
  let (fraction, cs) ← readFraction readDigits cs
  let (exponent, cs) ← readExponent readDigits cs
  let n ← ofParts { negative, whole, fraction, exponent }
  return (n, cs)

example : read "-12,".toList = some (integer (-12), [',']) := by decide +kernel
example : read "-0".toList = some (real ⟨⟨0x8000000000000000⟩, by decide⟩, []) := by decide +kernel
example : read "01".toList = none := by decide +kernel
example : read "18446744073709551615".toList = some (integer (2 ^ 64 - 1), []) := by decide +kernel
example : read "18446744073709551616".toList = some (real ⟨⟨0x43f0000000000000⟩, by decide⟩, []) := by
  decide +kernel
example : read "9007199254740993.0".toList = some (real ⟨⟨0x4340000000000001⟩, by decide⟩, []) := by
  decide +kernel
example : read "123e-400".toList = some (real ⟨⟨0⟩, by decide⟩, []) := by decide +kernel
example : read "0e99999".toList = some (real ⟨⟨0⟩, by decide⟩, []) := by decide +kernel
example : read "1e99999".toList = none := by decide +kernel
example : read "1e308".toList = some (real ⟨⟨0x7fe1ccf385ebc8a0⟩, by decide⟩, []) := by decide +kernel
example : read "2e308".toList = none := by decide +kernel
example : read "-9223372036854775808".toList = some (integer (-2 ^ 63), []) := by decide +kernel

end Numeral
end DesiredState
