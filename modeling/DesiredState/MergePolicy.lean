import DesiredState.Outcome
import DesiredState.SchemaError

/-! When a stored record matches a desired one, and how it is made to. -/
namespace DesiredState

/-- A rule for comparing and merging records. -/
structure MergePolicy (α : Type) where
  /-- Whether the stored record already matches the desired one. -/
  equals : (stored desired : α) → Bool
  /-- The stored record with the desired one merged into it. What was merged before an error stays. -/
  merge : (stored desired : α) → Outcome SchemaError α

/-- A kind of records: its name, the key that identifies a record, and the policy that is used where
no other one is given. -/
structure RecordKind (α : Type) where
  name : String
  key : α → String
  policy : MergePolicy α

namespace MergePolicy

variable {α : Type}

/-- Every record matches, and merging changes nothing. -/
def alwaysEqual : MergePolicy α := ⟨fun _ _ => true, fun stored _ => ⟨stored, none⟩⟩

/-- No record matches, and merging is that of another policy. -/
def alwaysMerge (policy : MergePolicy α) : MergePolicy α := ⟨fun _ _ => false, policy.merge⟩

/-- Merging puts the desired record in place of the stored one. -/
def replaceUnless (equals : α → α → Bool) : MergePolicy α :=
  ⟨equals, fun _ desired => ⟨desired, none⟩⟩

/-- No record matches, and merging always fails. -/
def failing (e : SchemaError) : MergePolicy α :=
  ⟨fun _ _ => false, fun stored _ => ⟨stored, some e⟩⟩

end MergePolicy
end DesiredState
