import DesiredState.FieldType
import DesiredState.MergePolicy
import DesiredState.Tags

/-! Tables: ordered columns that describe the fields of a record. A row has one slot for each column;
a slot is written through the type of its column, so that what a column rejects never gets in. -/
namespace DesiredState

/-- The description of one field. -/
structure Column where
  name : String
  type : FieldType
  /-- Whether the field is part of the primary key. -/
  isKey : Bool := false
  /-- Whether the store assigns the field when a record is inserted. -/
  isAssigned : Bool := false
  tags : Tags := {}
  deriving DecidableEq, Inhabited

namespace Column

/-- Whether comparing and merging leave the field alone: keys, assigned fields, and fields that are
tagged so. -/
def ignored (c : Column) : Bool := c.isKey || c.isAssigned || c.tags.lookup "eq" == some "-"

/-- What the slot holds after a value has been written to it. -/
def accept (c : Column) (v : Value) : Except SchemaError Value :=
  (c.type.accept v).mapError (·.inField c.name)

def display (c : Column) : String :=
  let flag (b : Bool) := if b then "true" else "false"
  "Column \x7b name: " ++ Text.quote c.name ++ ", pk: " ++ flag c.isKey ++
    ", incremented: " ++ flag c.isAssigned ++ ", tags: " ++ c.tags.display ++ " \x7d"

end Column

/-- The columns of the records of one kind, and the name of these records. -/
structure Table where
  name : String
  columns : List Column
  deriving DecidableEq, Inhabited

namespace Table

def width (t : Table) : Nat := t.columns.length

/-- The fields of one record, a slot for each column. -/
abbrev Row (t : Table) := Vector Value t.width

def column (t : Table) (i : Fin t.width) : Column := t.columns.get i

def indices (t : Table) : List (Fin t.width) := List.finRange t.width

def get {t : Table} (row : t.Row) (i : Fin t.width) : Value := row[i]

def write (t : Table) (row : t.Row) (i : Fin t.width) (v : Value) : Except SchemaError t.Row :=
  ((t.column i).accept v).map fun v => row.set i v

/-- Writes the slot at a number, if the table has a column there. -/
def set (t : Table) (row : t.Row) (index : Nat) (v : Value) : Except SchemaError t.Row :=
  if h : index < t.width then t.write row ⟨index, h⟩ v else .error (.noColumn index t.width)

/-- One field of one row. -/
structure Field where
  index : Nat
  column : Column
  value : Value

def fields (t : Table) (row : t.Row) : List Field :=
  t.indices.map fun (i : Fin t.width) => ⟨i.val, t.column i, get row i⟩

/-- Whether two rows are equal in a column. -/
def agreesAt {t : Table} (a b : t.Row) (i : Fin t.width) : Bool := (get a i).equals (get b i)

/-- Writes slots of one row into another, in the given order, up to the first one that its column
rejects. -/
def copy (t : Table) (desired : t.Row) (columns : List (Fin t.width)) (stored : t.Row) :
    Outcome SchemaError t.Row :=
  Outcome.walk
    (fun i row =>
      match t.write row i (get desired i) with
      | .ok row => ⟨row, none⟩
      | .error e => ⟨row, some e⟩)
    columns stored

/-- Rows match if they agree in some columns, and merging copies these. -/
def only (t : Table) (columns : List (Fin t.width)) : MergePolicy t.Row where
  equals stored desired := columns.all (agreesAt stored desired)
  merge stored desired := t.copy desired columns stored

def compared (t : Table) : List (Fin t.width) := t.indices.filter fun i => !(t.column i).ignored

/-- Comparing and merging all columns that are not ignored. -/
def policy (t : Table) : MergePolicy t.Row := t.only t.compared

/-- Rows match if they agree in all columns, and merging replaces the row. -/
def replace (t : Table) : MergePolicy t.Row :=
  .replaceUnless fun stored desired => t.indices.all (agreesAt stored desired)

end Table

/-- A table together with the key of its rows. -/
structure Schema where
  table : Table
  key : table.Row → String

namespace Schema

/-- The part of a key that one slot makes: a text as it is, any other value as it is shown. -/
def keyPart : Value → String
  | .text s => s
  | v => v.display

/-- The table with the key that some of its columns make, joined by slashes. -/
def ofKeyColumns (table : Table) (columns : List (Fin table.width)) : Schema where
  table := table
  key row := String.intercalate "/" (columns.map fun i => keyPart (Table.get row i))

/-- The table with the key that its primary key columns make, in their order. -/
def ofTable (table : Table) : Schema :=
  ofKeyColumns table (table.indices.filter fun i => (table.column i).isKey)

def kind (s : Schema) : RecordKind s.table.Row where
  name := s.table.name
  key := s.key
  policy := s.table.policy

end Schema
end DesiredState
