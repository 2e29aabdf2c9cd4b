import DesiredState.Binary64

/-! The shortest decimal of a binary number: among the decimals that round to the number, those on
the coarsest grid of a power of ten, and of these the nearest. All of it is exact arithmetic on
natural numbers. -/
namespace DesiredState

/-- The number `digits * 10 ^ exponent`. -/
structure Decimal where
  digits : Nat
  exponent : Int
  deriving DecidableEq, Repr

namespace Decimal

/-- Which of two equally near decimals is taken. -/
inductive Tie where
  | up
  | even
  deriving DecidableEq, Repr

/-- A positive number between the bounds of what rounds to it, all three over one denominator. The
bounds themselves round to it if it is `closed`. -/
structure Basin where
  low : Nat
  value : Nat
  high : Nat
  denominator : Nat
  closed : Bool

/-- The basin of a finite positive number. Below a power of two the next number is only half as
far away as above it, unless the numbers there are subnormal. -/
def Basin.of (x : Binary64) : Basin :=
  let gap := 1 <<< x.scale
  let gapBelow := if x.significand = 0x10000000000000 ∧ x.scale ≠ 0 then gap else 2 * gap
  { low := 4 * x.units - gapBelow
    value := 4 * x.units
    high := 4 * x.units + 2 * gap
    denominator := 4 <<< 1074
    closed := x.significand % 2 == 0 }

/-- The multiple of `10 ^ k` nearest to the value among those in the basin, if there is one: only
the two multiples around the value can be. -/
def Basin.onGrid (b : Basin) (tie : Tie) (k : Int) : Option Nat :=
  let up := Nat.pow 10 (-k).toNat
  let unit := b.denominator * Nat.pow 10 k.toNat
  let low := b.low * up
  let value := b.value * up
  let high := b.high * up
  let inside (c : Nat) : Bool :=
    if b.closed then low ≤ c * unit && c * unit ≤ high else low < c * unit && c * unit < high
  let c := value / unit
  let below := value - c * unit
  let above := (c + 1) * unit - value
  match inside c, inside (c + 1) with
  | true, true =>
    if below < above then some c
    else if above < below then some (c + 1)
    else match tie with
      | .up => some (c + 1)
      | .even => if c % 2 = 0 then some c else some (c + 1)
  | true, false => some c
  | false, true => some (c + 1)
  | false, false => none

/-- A power of ten above the value, less than a hundred times the value. -/
def Basin.top (b : Basin) : Int :=
  let length (n : Nat) : Int := (Nat.toDigits 10 n).length
  if b.denominator ≤ b.value then length (b.value / b.denominator)
  else 2 - length (b.denominator / b.value)

/-- The shortest decimal of a finite positive number. Seventeen digits always tell a number from
its neighbours, so that the search from `top` down ends within twenty grids. -/
def shortest (tie : Tie) (x : Binary64) : Decimal :=
  let b := Basin.of x
  let found := (List.range 20).findSome? fun (i : Nat) =>
    let k := b.top - i
    (b.onGrid tie k).map fun c => Decimal.mk c k
  found.getD ⟨0, 0⟩

/-- The binary number nearest to a decimal, with the given sign. Exponents that leave no doubt about
the result are not computed with. -/
def toBinary64 (negative : Bool) (d : Decimal) : Binary64 :=
  let magnitude := (Nat.toDigits 10 d.digits).length + d.exponent
  if d.digits = 0 ∨ magnitude < -400 then .ofRatio negative 0 1
  else if 400 < magnitude then .ofMagnitudeBits negative 0x7ff0000000000000
  else .ofRatio negative (d.digits * Nat.pow 10 d.exponent.toNat) (Nat.pow 10 (-d.exponent).toNat)

example : toBinary64 true ⟨5, -1⟩ = ⟨0xbfe0000000000000⟩ := by decide +kernel
example : (toBinary64 false ⟨1, 400⟩).isInfinite = true := by decide +kernel
example : shortest .even (.ofRatio false 1 10) = ⟨1, -1⟩ := by decide +kernel
example : shortest .even ⟨1⟩ = ⟨5, -324⟩ := by decide +kernel
example : shortest .even ⟨0x7fefffffffffffff⟩ = ⟨17976931348623157, 292⟩ := by decide +kernel
example : shortest .even (.ofNat (10 ^ 23)) = ⟨1, 23⟩ := by decide +kernel
example : shortest .up (.ofRatio false (2 ^ 52 + 1) 4) = ⟨11258999068426243, -1⟩ := by decide +kernel
example : shortest .even (.ofRatio false (2 ^ 52 + 1) 4) = ⟨11258999068426242, -1⟩ := by
  decide +kernel

end Decimal
end DesiredState
