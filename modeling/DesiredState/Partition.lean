import DesiredState.KeyMap

/-! The records of two sequences, paired by key. Both sequences are taken in full, the stored one
first; where a sequence repeats a key, its last record counts. No records are compared here. -/
namespace DesiredState

/-- A sequence of records that hands over one record at a time. -/
structure Feed (α : Type) where
  pending : List α
  taken : List α := []

namespace Feed

variable {α β : Type}

/-- Takes all pending records in order, and folds them up. -/
def drain (f : β → α → β) (b : β) (feed : Feed α) : β × Feed α :=
  go feed.pending feed.taken b
where
  go : List α → List α → β → β × Feed α
    | [], taken, b => (b, ⟨[], taken⟩)
    | a :: pending, taken, b => go pending (taken ++ [a]) (f b a)

theorem drain_go (f : β → α → β) (pending taken : List α) (b : β) :
    drain.go f pending taken b = (pending.foldl f b, ⟨[], taken ++ pending⟩) := by
  induction pending generalizing taken b with
  | nil => simp [drain.go]
  | cons a pending ih => simp [drain.go, ih]

/-- Draining folds the pending records, and leaves all of them taken. -/
@[simp] theorem drain_eq (f : β → α → β) (b : β) (feed : Feed α) :
    feed.drain f b = (feed.pending.foldl f b, ⟨[], feed.taken ++ feed.pending⟩) :=
  drain_go f feed.pending feed.taken b

end Feed

/-- A phase of reconciliation. -/
inductive Phase where
  /-- Removing stored records that are not desired. -/
  | delete
  /-- Inserting desired records that are not stored. -/
  | add
  /-- Updating records that are stored, desired and do not match. -/
  | update
  deriving DecidableEq, Inhabited, Repr

def Phase.name : Phase → String
  | delete => "delete"
  | add => "add"
  | update => "update"

/-- The records of one key. One side at least has one. -/
inductive Pairing (α : Type) where
  | storedOnly (stored : α)
  | desiredOnly (desired : α)
  | both (stored desired : α)
  deriving DecidableEq

namespace Pairing

variable {α : Type}

/-- The phase that is concerned with the key. -/
def phase : Pairing α → Phase
  | storedOnly _ => .delete
  | desiredOnly _ => .add
  | both _ _ => .update

def stored? : Pairing α → Option α
  | storedOnly s => some s
  | desiredOnly _ => none
  | both s _ => some s

def desired? : Pairing α → Option α
  | storedOnly _ => none
  | desiredOnly d => some d
  | both _ d => some d

def withDesired (d : α) : Pairing α → Pairing α
  | storedOnly s => both s d
  | desiredOnly _ => desiredOnly d
  | both s _ => both s d

end Pairing

/-- All keys of two sequences, each with its records. -/
abbrev Partition (α : Type) := KeyMap (Pairing α)

namespace Partition

variable {α : Type}

def addStored (key : α → String) (p : Partition α) (s : α) : Partition α :=
  p.insert (key s) (.storedOnly s)

def addDesired (key : α → String) (p : Partition α) (d : α) : Partition α :=
  p.insert (key d) (match p.get? (key d) with
    | some pairing => pairing.withDesired d
    | none => .desiredOnly d)

def ofRecords (key : α → String) (stored desired : List α) : Partition α :=
  desired.foldl (addDesired key) (stored.foldl (addStored key) ∅)

/-- The partition of what two feeds have pending, and the feeds after they have been drained. -/
def ofFeeds (key : α → String) (stored desired : Feed α) : Partition α × Feed α × Feed α :=
  let (p, stored) := stored.drain (addStored key) ∅
  let (p, desired) := desired.drain (addDesired key) p
  (p, stored, desired)

theorem ofFeeds_eq (key : α → String) (stored desired : Feed α) :
    ofFeeds key stored desired =
      (ofRecords key stored.pending desired.pending,
        ⟨[], stored.taken ++ stored.pending⟩, ⟨[], desired.taken ++ desired.pending⟩) := by
  simp [ofFeeds, ofRecords]

def entriesOf (p : Partition α) (phase : Phase) : Entries (Pairing α) :=
  p.entries.filter fun e => e.2.phase == phase

/-- The keys that a phase is concerned with, ascending. -/
def keysOf (p : Partition α) (phase : Phase) : List String := (p.entriesOf phase).map (·.1)

def count (p : Partition α) (phase : Phase) : Nat := (p.entriesOf phase).length

example : (ofRecords (fun s : String × Nat => s.1) [("a", 1), ("b", 2), ("a", 3)]
    [("b", 4), ("c", 5), ("b", 6)]).entries =
    [("a", .storedOnly ("a", 3)), ("b", .both ("b", 2) ("b", 6)),
      ("c", .desiredOnly ("c", 5))] := by
  decide +kernel

end Partition
end DesiredState
