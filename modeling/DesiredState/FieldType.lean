import DesiredState.SchemaError
import DesiredState.Value

/-! Types of fields. A field of a type holds what `Carrier` says; it is read from a value and written
to one, and what is read from a value is written back as that value. -/
namespace DesiredState

/-- The type of a field. -/
inductive FieldType where
  | any
  | boolean
  | int64
  | int32
  | uint32
  | real
  | text
  | blob
  | document
  | optional (type : FieldType)
  deriving DecidableEq, Inhabited, Repr

namespace FieldType

/-- What a field of the type holds. -/
def Carrier : FieldType → Type
  | any => Value
  | boolean => Bool
  | int64 => Int64
  | int32 => Int32
  | uint32 => UInt32
  | real => Binary64
  | text => String
  | blob => List UInt8
  | document => Document
  | optional type => Option type.Carrier

/-- A value of another kind than the one expected. -/
def mismatch {α : Type} (expected : String) (found : Value) : Except SchemaError α :=
  .error (.typeMismatch expected found.kind)

/-- Reads a field of the type from a value. -/
def read : (type : FieldType) → Value → Except SchemaError type.Carrier
  | any, v => .ok v
  | boolean, .boolean b => .ok b
  | boolean, v => mismatch "bool" v
  | int64, .integer i => .ok i
  | int64, v => mismatch "int" v
  | int32, .integer i =>
    if Int32.minValue.toInt ≤ i.toInt ∧ i.toInt ≤ Int32.maxValue.toInt then .ok i.toInt32
    else .error (.outOfRange "i32" i)
  | int32, v => mismatch "int" v
  | uint32, .integer i =>
    if 0 ≤ i.toInt ∧ i.toInt < UInt32.size then .ok (UInt32.ofNat i.toInt.toNat)
    else .error (.outOfRange "u32" i)
  | uint32, v => mismatch "int" v
  | real, .real x => .ok x
  | real, v => mismatch "real" v
  | text, .text s => .ok s
  | text, v => mismatch "text" v
  | blob, .blob bytes => .ok bytes
  | blob, v => mismatch "blob" v
  | document, .document d => .ok d
  | document, v => mismatch "json" v
  | optional _, .null => .ok none
  | optional type, v => (type.read v).map some

/-- Writes what a field holds to a value. Nothing is written as null, however deep it is nested. -/
def write : (type : FieldType) → type.Carrier → Value
  | any, v => v
  | boolean, b => .boolean b
  | int64, i => .integer i
  | int32, i => .integer i.toInt64
  | uint32, n => .integer (Int64.ofNat n.toNat)
  | real, x => .real x
  | text, s => .text s
  | blob, bytes => .blob bytes
  | document, d => .document d
  | optional _, none => .null
  | optional type, some a => type.write a

/-- The value that a field holds after a value has been put into it. -/
def accept (type : FieldType) (v : Value) : Except SchemaError Value :=
  (type.read v).map type.write

end FieldType
end DesiredState
