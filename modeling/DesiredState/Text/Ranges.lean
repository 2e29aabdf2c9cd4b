/-! Sets of characters given by ranges of code points. -/
namespace DesiredState.Text

/-- Inclusive ranges of code points, ascending and apart. -/
abbrev Ranges := List (Nat × Nat)

def Ranges.has (ranges : Ranges) (c : Char) : Bool :=
  ranges.any fun r => r.1 ≤ c.toNat && c.toNat ≤ r.2

end DesiredState.Text
