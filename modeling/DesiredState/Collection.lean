import DesiredState.Backend
import DesiredState.WriteOrder

/-! A collection of stored records that is brought to a desired state. An operation pairs the stored
and the desired records by key, and runs its phases over the pairs: deleting, adding, updating. The
first error ends it; what was written before stays written. Each phase goes over a list of entries
that is handed to it, so that nothing here depends on an order of the keys. -/
namespace DesiredState

/-- Why an operation ended early. -/
inductive ReconcileError (ε : Type) where
  /-- The backend refused the write for a key. -/
  | transaction (phase : Phase) (key : String) (source : ε)
  /-- The records of a key could not be merged. -/
  | schema (key : String) (source : SchemaError)
  /-- The stored records have been taken by an earlier operation. -/
  | drained
  deriving DecidableEq

namespace ReconcileError

variable {ε : Type}

def message (describe : ε → String) : ReconcileError ε → String
  | transaction phase key source =>
    phase.name ++ " failed for `" ++ key ++ "`: " ++ describe source
  | schema key source => "merge failed for `" ++ key ++ "`: " ++ source.message
  | drained => "stored sequence already drained"

/-- The phase that failed. Merging belongs to the update phase. -/
def phase? : ReconcileError ε → Option Phase
  | transaction phase _ _ => some phase
  | schema _ _ => some .update
  | drained => none

def key? : ReconcileError ε → Option String
  | transaction _ key _ => some key
  | schema key _ => some key
  | drained => none

def sourceMessage? (describe : ε → String) : ReconcileError ε → Option String
  | transaction _ _ source => some (describe source)
  | schema _ source => some source.message
  | drained => none

def refusal? : ReconcileError ε → Option ε
  | transaction _ _ source => some source
  | _ => none

end ReconcileError

variable {α ε σ : Type}

/-- How far a run has come. -/
structure Progress (σ : Type) where
  /-- The state of the backend. -/
  state : σ
  counts : Counts
  events : List Event := []

/-- Asks the backend for a write, and counts it if it is taken. -/
def Progress.issue (backend : Backend α ε σ) (phase : Phase) (key : String) (w : Write α)
    (p : Progress σ) : Outcome (ReconcileError ε) (Progress σ) :=
  let reply := backend.answer w p.state
  match reply.error? with
  | none =>
    { state :=
        { state := reply.state
          counts := p.counts.bump phase
          events := p.events ++ reply.events ++ [.applied phase key] } }
  | some e =>
    { state :=
        { state := reply.state
          counts := p.counts
          events := p.events ++ reply.events ++ [.refused phase key (backend.describe e)] }
      error? := some (.transaction phase key e) }

/-- What a phase does for one key. Keys of other phases are passed over, and so are records that
already match. -/
def Progress.apply (backend : Backend α ε σ) (policy : MergePolicy α) (phase : Phase)
    (entry : String × Pairing α) (p : Progress σ) : Outcome (ReconcileError ε) (Progress σ) :=
  match phase, entry.2 with
  | .delete, .storedOnly s => p.issue backend .delete entry.1 (.delete s)
  | .add, .desiredOnly d => p.issue backend .add entry.1 (.insert d)
  | .update, .both s d =>
    if policy.equals s d then { state := p }
    else
      match policy.merge s d with
      | ⟨merged, none⟩ => p.issue backend .update entry.1 (.update merged)
      | ⟨_, some e⟩ => { state := p, error? := some (.schema entry.1 e) }
  | _, _ => { state := p }

def Progress.run (backend : Backend α ε σ) (policy : MergePolicy α) (phase : Phase)
    (entries : Entries (Pairing α)) (p : Progress σ) : Outcome (ReconcileError ε) (Progress σ) :=
  Outcome.walk (Progress.apply backend policy phase) entries p

/-- Phases one after another, each over its own list of entries. -/
def Progress.runAll (backend : Backend α ε σ) (policy : MergePolicy α)
    (order : Phase → Entries (Pairing α)) (phases : List Phase) (p : Progress σ) :
    Outcome (ReconcileError ε) (Progress σ) :=
  Outcome.walk (fun phase => Progress.run backend policy phase (order phase)) phases p

/-- What a collection can be asked to do. -/
inductive Operation where
  | add
  | update
  | delete
  | reconcile
  deriving DecidableEq, Inhabited, Repr

/-- The phases of an operation, in order. Deleting comes first, so that no key is ever there twice. -/
def Operation.phases : Operation → List Phase
  | add => [.add]
  | update => [.update]
  | delete => [.delete]
  | reconcile => [.delete, .add, .update]

/-- What reconciling would do, by ascending keys. -/
structure Plan where
  add : List String := []
  update : List String := []
  unchanged : List String := []
  delete : List String := []
  deriving DecidableEq, Inhabited

namespace Plan

def isEmpty (p : Plan) : Bool := p.add.isEmpty && p.update.isEmpty && p.delete.isEmpty

def sortedKeys (entries : Entries (Pairing α)) : List String :=
  (entries.map (·.1)).mergeSort fun a b => decide (a ≤ b)

/-- Whether both sides have a record of the key and the policy finds them equal. -/
def matched (policy : MergePolicy α) (entry : String × Pairing α) : Bool :=
  match entry.2 with
  | .both s d => policy.equals s d
  | _ => false

def ofEntries (policy : MergePolicy α) (entries : Entries (Pairing α)) : Plan where
  add := sortedKeys (entries.filter fun e => e.2.phase == .add)
  update := sortedKeys (entries.filter fun e => e.2.phase == .update && !matched policy e)
  unchanged := sortedKeys (entries.filter fun e => e.2.phase == .update && matched policy e)
  delete := sortedKeys (entries.filter fun e => e.2.phase == .delete)

end Plan

/-- Stored records, bound to the state of a backend. The first operation takes the stored records,
and there is no second one. -/
structure Collection (α σ : Type) where
  stored : Feed α
  drained : Bool := false
  /-- The policy to use instead of that of the kind of records. -/
  policy? : Option (MergePolicy α) := none
  counts : Counts := {}
  /-- The state of the backend. -/
  state : σ

/-- What an operation leaves behind. -/
structure Performed (α ε σ ρ : Type) where
  collection : Collection α σ
  /-- The desired records that it was given, after it has taken them. -/
  desired : Feed α
  result : Except (ReconcileError ε) ρ
  events : List Event

namespace Collection

def ofRecords (stored : List α) (state : σ) (policy? : Option (MergePolicy α)) :
    Collection α σ where
  stored := { pending := stored }
  policy? := policy?
  state := state

def policy (kind : RecordKind α) (c : Collection α σ) : MergePolicy α := c.policy?.getD kind.policy

def partitionEvent (kind : RecordKind α) (p : Partition α) : Event :=
  .partitioned kind.name p.size (p.count .add) (p.count .update) (p.count .delete)

/-- Pairs the records, which drains both sequences, and goes on with the partition. A collection that
has been drained before takes nothing. -/
def withPartition {ρ : Type} (kind : RecordKind α) (c : Collection α σ) (desired : Feed α)
    (act : Partition α → Collection α σ → Feed α → Performed α ε σ ρ) : Performed α ε σ ρ :=
  if c.drained then { collection := c, desired, result := .error .drained, events := [] }
  else
    let (p, stored, desired) := Partition.ofFeeds kind.key c.stored desired
    act p { c with stored, drained := true } desired

/-- Performs an operation, going over the keys of each phase in an order that the partition gives. -/
def performIn (order : Partition α → Phase → Entries (Pairing α)) (kind : RecordKind α)
    (backend : Backend α ε σ) (op : Operation) (c : Collection α σ) (desired : Feed α) :
    Performed α ε σ Unit :=
  c.withPartition kind desired fun p c desired =>
    let start := { state := c.state, counts := c.counts, events := [partitionEvent kind p] }
    let out := Progress.runAll backend (c.policy kind) (order p) op.phases start
    let collection := { c with state := out.state.state, counts := out.state.counts }
    match out.error? with
    | some e => { collection, desired, result := .error e, events := out.state.events }
    | none =>
      let summary := if op = .reconcile then
          [Event.reconciled kind.name (collection.counts.since c.counts)]
        else []
      { collection, desired, result := .ok (), events := out.state.events ++ summary }

/-- Performs an operation, the writes of each phase in ascending order of the keys that they are
filed under. -/
def perform (kind : RecordKind α) (backend : Backend α ε σ) (op : Operation) (c : Collection α σ)
    (desired : Feed α) : Performed α ε σ Unit :=
  c.performIn (fun p _ => p.writeOrder kind (c.policy kind)) kind backend op desired

/-- Tells what reconciling would do, from the entries in an order derived from the partition. -/
def planIn (order : Partition α → Entries (Pairing α)) (kind : RecordKind α) (c : Collection α σ)
    (desired : Feed α) : Performed α ε σ Plan :=
  c.withPartition kind desired fun p c desired =>
    { collection := c
      desired
      result := .ok (Plan.ofEntries (c.policy kind) (order p))
      events := [partitionEvent kind p] }

/-- Tells what reconciling would do, and writes nothing. -/
def plan (kind : RecordKind α) (c : Collection α σ) (desired : Feed α) : Performed α ε σ Plan :=
  c.planIn (·.entries) kind desired

/-- How many entries a phase of the next operation has work to do for. An error in a phase with more
than one leaves open which of the others have been dealt with. -/
def workload (kind : RecordKind α) (c : Collection α σ) (desired : Feed α) (phase : Phase) : Nat :=
  let p := Partition.ofRecords kind.key c.stored.pending desired.pending
  ((p.entriesOf phase).filter fun e => !Plan.matched (c.policy kind) e).length

/-- A collection as it is shown to people, the state of its backend by name. -/
def display (c : Collection α σ) (state : String) : String :=
  let flag (b : Bool) := if b then "true" else "false"
  "Collection \x7b drained: " ++ flag c.drained ++ ", tx: " ++ state ++ ", custom_shepherd: " ++
    flag c.policy?.isSome ++ ", added: " ++ Numeral.showInteger c.counts.added ++ ", updated: " ++
    Numeral.showInteger c.counts.updated ++ ", deleted: " ++ Numeral.showInteger c.counts.deleted ++
    " \x7d"

end Collection
end DesiredState
