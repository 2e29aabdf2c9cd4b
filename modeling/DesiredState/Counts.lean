import DesiredState.Numeral
import DesiredState.Partition

/-! How many records a collection has written so far. -/
namespace DesiredState

/-- Numbers of inserted, updated and deleted records. -/
structure Counts where
  added : Nat := 0
  updated : Nat := 0
  deleted : Nat := 0
  deriving DecidableEq, Inhabited, Repr

namespace Counts

def total (c : Counts) : Nat := c.added + c.updated + c.deleted

def bump (c : Counts) : Phase → Counts
  | .delete => { c with deleted := c.deleted + 1 }
  | .add => { c with added := c.added + 1 }
  | .update => { c with updated := c.updated + 1 }

/-- What has been written since earlier counts. -/
def since (c earlier : Counts) : Counts :=
  ⟨c.added - earlier.added, c.updated - earlier.updated, c.deleted - earlier.deleted⟩

def display (c : Counts) : String :=
  "added=" ++ Numeral.showInteger c.added ++ " updated=" ++ Numeral.showInteger c.updated ++
    " deleted=" ++ Numeral.showInteger c.deleted

@[simp] theorem total_bump (c : Counts) (phase : Phase) : (c.bump phase).total = c.total + 1 := by
  cases phase <;> simp [bump, total] <;> omega

end Counts
end DesiredState
