import DesiredState.Toml.DateTime

/-! Values of a TOML text that hold no other values. -/
namespace DesiredState.Toml

/-- A value without parts. -/
inductive Scalar where
  | text (value : String)
  | integer (value : Int64)
  | float (value : Binary64)
  | boolean (value : Bool)
  | dateTime (value : DateTime)
  deriving DecidableEq, Inhabited

namespace Scalar

/-- Digits, of which there is at least one. An underscore may stand between two of them, and is
dropped. -/
def readDigits (isDigit : Char → Bool) : List Char → Option (List Char × List Char)
  | c :: '_' :: rest => if isDigit c then before c (readDigits isDigit rest) else none
  | c :: d :: rest =>
    if isDigit c then
      if isDigit d then before c (readDigits isDigit (d :: rest)) else some ([c], d :: rest)
    else none
  | [c] => if isDigit c then some ([c], []) else none
  | [] => none

/-- An integer after the mark of its base. It has no sign. -/
def readBased (base : Nat) (cs : List Char) : Option (Scalar × List Char) := do
  let (digits, rest) ← readDigits (fun c => (Document.hexValue? c).any (· < base)) cs
  return (integer (← Numeral.int64? (← natural? base digits)), rest)

def readDecimals : List Char → Option (List Char × List Char) := readDigits Char.isDigit

/-- The digits before a point: a zero alone, or digits that do not start with zero. -/
def readWhole : List Char → Option (List Char × List Char)
  | '0' :: rest => some (['0'], rest)
  | cs => readDecimals cs

/-- The number that the parts of a numeral denote: an integer of 64 bits, or the float nearest to a
numeral with a point or an exponent. Of what is beyond all floats only the negative is a number. -/
def ofParts (p : Numeral.Parts) : Option Scalar :=
  match p.fraction, p.exponent with
  | none, none =>
    let n : Int := Numeral.ofDigits p.whole
    (Numeral.int64? (if p.negative then -n else n)).map integer
  | fraction, exponent =>
    let fraction := fraction.getD []
    let x := Decimal.toBinary64 p.negative
      ⟨Numeral.ofDigits (p.whole ++ fraction), exponent.getD 0 - fraction.length⟩
    if x.isInfinite && !p.negative then none else some (float x)

def readNumber : List Char → Option (Scalar × List Char)
  | '0' :: 'x' :: rest => readBased 16 rest
  | '0' :: 'o' :: rest => readBased 8 rest
  | '0' :: 'b' :: rest => readBased 2 rest
  | cs =>
    let (negative, cs) := Numeral.readSign cs
    match cs with
    | 'i' :: 'n' :: 'f' :: rest => some (float (.ofMagnitudeBits negative 0x7ff0000000000000), rest)
    | 'n' :: 'a' :: 'n' :: rest => some (float (.ofMagnitudeBits negative 0x7ff8000000000000), rest)
    | cs => do
      let (whole, cs) ← readWhole cs
      let (fraction, cs) ← Numeral.readFraction readDecimals cs
      let (exponent, cs) ← Numeral.readExponent readDecimals cs
      return (← ofParts { negative, whole, fraction, exponent }, cs)

/-- The value without parts at the front, and what follows it. What starts like a date is one. -/
def read : List Char → Option (Scalar × List Char)
  | 't' :: 'r' :: 'u' :: 'e' :: rest => some (boolean true, rest)
  | 'f' :: 'a' :: 'l' :: 's' :: 'e' :: rest => some (boolean false, rest)
  | cs =>
    match readString cs with
    | some (s, rest) => some (text (String.ofList s), rest)
    | none =>
      match readDateTime cs with
      | some (d, rest) => some (dateTime d, rest)
      | none => readNumber cs

example : read "-9_223_372_036_854_775_808]".toList = some (integer Int64.minValue, [']']) := by
  decide +kernel
example : read "9223372036854775808".toList = none := by decide +kernel
example : read "0xDEAD_beef".toList = some (integer 3735928559, []) := by decide +kernel
example : read "1_".toList = none := by decide +kernel
example : read "01".toList = some (integer 0, ['1']) := by decide +kernel
example : read "-0".toList = some (integer 0, []) := by decide +kernel
example : read "6.626e-34".toList = some (float ⟨0x390b85f8c5445f02⟩, []) := by decide +kernel
example : read "5e+2_2.".toList = some (float (.ofNat (5 * 10 ^ 22)), ['.']) := by decide +kernel
example : read "1e400".toList = none := by decide +kernel
example : (read "-1e400".toList).isSome = true := by decide +kernel
example : read "+inf".toList = some (float ⟨0x7ff0000000000000⟩, []) := by decide +kernel
example : read "'a'".toList = some (text "a", []) := by decide +kernel

end Scalar
end DesiredState.Toml
