import DesiredState.Backend
import DesiredState.Table

/-! A store of rows in memory. Rows are filed under the key that they have when they are written. On
insertion the assigned columns of a row get ascending numbers, each of which is given out only once,
also when the insertion fails at a later column. Every write that is kept goes into a journal. -/
namespace DesiredState

/-- How a store behaves. -/
structure StoreConfig where
  /-- The first number to be assigned. -/
  firstId : Int64 := 1
  /-- Whether inserting a key that is there and writing to one that is not are errors. -/
  strict : Bool := true
  deriving DecidableEq, Inhabited

/-- Why a store refuses a write. -/
inductive StoreError where
  | duplicate (table key : String)
  | notFound (table key : String)
  /-- An assigned column rejects its number. -/
  | model (source : SchemaError)
  deriving DecidableEq, Inhabited

namespace StoreError

def message : StoreError → String
  | duplicate table key => "duplicate key: " ++ table ++ " `" ++ key ++ "`"
  | notFound table key => "not found: " ++ table ++ " `" ++ key ++ "`"
  | model source => "model error: " ++ source.message

def source? : StoreError → Option SchemaError
  | model source => some source
  | _ => none

end StoreError

/-- A write that a store has kept. -/
structure JournalEntry where
  kind : WriteKind
  key : String
  deriving DecidableEq, Inhabited

/-- Rows of a table by key, the next number to assign, and the writes kept so far, oldest first. -/
structure Store (table : Table) where
  config : StoreConfig
  rows : KeyMap table.Row
  nextId : Int64
  journal : List JournalEntry

namespace Store

variable {table : Table}

def empty (config : StoreConfig) : Store table :=
  { config, rows := ∅, nextId := config.firstId, journal := [] }

def list (s : Store table) : List table.Row := s.rows.values

def get? (s : Store table) (key : String) : Option table.Row := s.rows.get? key

def size (s : Store table) : Nat := s.rows.size

def isEmpty (s : Store table) : Bool := s.rows.entries.isEmpty

/-- Forgets the writes so far, and keeps the rows. -/
def clearJournal (s : Store table) : Store table := { s with journal := [] }

/-- A row that is being given its numbers, and the next number. -/
structure Numbering (table : Table) where
  row : table.Row
  nextId : Int64

/-- Gives a number to one column. A number that the column rejects is not used up. -/
def Numbering.assign (i : Fin table.width) (n : Numbering table) :
    Outcome SchemaError (Numbering table) :=
  match table.write n.row i (.integer n.nextId) with
  | .ok row => { state := ⟨row, n.nextId + 1⟩ }
  | .error e => { state := n, error? := some e }

def assigned (table : Table) : List (Fin table.width) :=
  table.indices.filter fun i => (table.column i).isAssigned

/-- Gives numbers to all assigned columns of a row, in their order. -/
def number (row : table.Row) (nextId : Int64) : Outcome SchemaError (Numbering table) :=
  Outcome.walk Numbering.assign (assigned table) ⟨row, nextId⟩

/-- The store after a kept write, which is told. -/
def keep (s : Store table) (kind : WriteKind) (key : String) (rows : KeyMap table.Row)
    (nextId : Int64) : Reply StoreError (Store table) where
  state := { s with rows, nextId, journal := s.journal ++ [⟨kind, key⟩] }
  events := [.kept kind table.name key]

variable (schema : Schema)

/-- Files a new row, with its numbers, under the key that it has without them. -/
def insert (row : schema.table.Row) (s : Store schema.table) :
    Reply StoreError (Store schema.table) :=
  let key := schema.key row
  if s.config.strict && s.rows.contains key then
    { state := s, error? := some (.duplicate schema.table.name key) }
  else
    match number row s.nextId with
    | ⟨n, none⟩ => s.keep .insert key (s.rows.insert key n.row) n.nextId
    | ⟨n, some e⟩ => { state := { s with nextId := n.nextId }, error? := some (.model e) }

/-- Files a row in place of the one of its key. -/
def update (row : schema.table.Row) (s : Store schema.table) :
    Reply StoreError (Store schema.table) :=
  let key := schema.key row
  if s.config.strict && !s.rows.contains key then
    { state := s, error? := some (.notFound schema.table.name key) }
  else s.keep .update key (s.rows.insert key row) s.nextId

/-- Drops the row of the key of a row. -/
def delete (row : schema.table.Row) (s : Store schema.table) :
    Reply StoreError (Store schema.table) :=
  let key := schema.key row
  if s.config.strict && !s.rows.contains key then
    { state := s, error? := some (.notFound schema.table.name key) }
  else s.keep .delete key (s.rows.erase key) s.nextId

/-- A store as what collections write to. -/
def backend : Backend schema.table.Row StoreError (Store schema.table) where
  answer
    | .insert row => insert schema row
    | .update row => update schema row
    | .delete row => delete schema row
  describe := StoreError.message

end Store
end DesiredState
