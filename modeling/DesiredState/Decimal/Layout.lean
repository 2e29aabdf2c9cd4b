import DesiredState.Decimal

/-! How a finite number is written in decimal: positionally, or with an exponent. -/
namespace DesiredState.Decimal

/-- The choices that two ways of writing numbers make differently. Numbers whose leading digit
stands for a power of ten between `lowest` and `highest` are written positionally, all others with
an exponent; a missing bound bounds nothing. -/
structure Layout where
  lowest : Option Int
  highest : Option Int
  /-- Whole numbers that are written positionally end in `.0`. -/
  pointZero : Bool
  tie : Tie

/-- Numbers without any exponent, whole ones without a point. -/
def Layout.plain : Layout := ⟨none, none, false, .up⟩

/-- Numbers as documents hold them: a mark of a real number on every one of them. -/
def Layout.document : Layout := ⟨some (-5), some 15, true, .even⟩

/-- The digits with the point where it belongs. -/
def Layout.positional (l : Layout) (digits : List Char) (exponent : Int) : List Char :=
  let whole := (digits.length : Int) + exponent
  if 0 ≤ exponent then
    digits ++ List.replicate exponent.toNat '0' ++ (if l.pointZero then ['.', '0'] else [])
  else if 0 < whole then digits.take whole.toNat ++ '.' :: digits.drop whole.toNat
  else '0' :: '.' :: (List.replicate (-whole).toNat '0' ++ digits)

/-- One digit, the others after a point, and the power of ten of the first with its sign. -/
def scientific (digits : List Char) (power : Int) : List Char :=
  let mantissa := match digits with
    | [] => []
    | [d] => [d]
    | d :: rest => d :: '.' :: rest
  mantissa ++ 'e' :: (if power < 0 then '-' else '+') :: Nat.toDigits 10 power.natAbs

def Layout.writeDecimal (l : Layout) (d : Decimal) : List Char :=
  let digits := Nat.toDigits 10 d.digits
  let power := (digits.length : Int) - 1 + d.exponent
  if l.lowest.all (· ≤ power) && l.highest.all (power ≤ ·) then l.positional digits d.exponent
  else scientific digits power

/-- The text of a finite number. Zero keeps its sign. -/
def Layout.write (l : Layout) (x : Binary64) : List Char :=
  let magnitude := if x.isZero then l.positional ['0'] 0 else l.writeDecimal (shortest l.tie x)
  if x.isNegative then '-' :: magnitude else magnitude

example : Layout.plain.writeDecimal ⟨15, -6⟩ = "0.000015".toList := by decide +kernel
example : Layout.plain.writeDecimal ⟨1, 17⟩ = "100000000000000000".toList := by decide +kernel
example : Layout.document.writeDecimal ⟨1, 17⟩ = "1e+17".toList := by decide +kernel
example : Layout.document.writeDecimal ⟨123, -20⟩ = "1.23e-18".toList := by decide +kernel
example : Layout.document.writeDecimal ⟨1, 2⟩ = "100.0".toList := by decide +kernel
example : Layout.document.write ⟨0x8000000000000000⟩ = "-0.0".toList := by decide +kernel

end DesiredState.Decimal
