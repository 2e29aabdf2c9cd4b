import DesiredState.Numeral

/-! Why a value cannot be put into a field. -/
namespace DesiredState

/-- What is wrong with a value, or with the place it should go to. -/
inductive SchemaError where
  /-- The value is of another kind than the field. -/
  | typeMismatch (expected found : String)
  /-- The integer does not fit the width of the field. -/
  | outOfRange (target : String) (value : Int64)
  /-- Something is wrong in a named field. -/
  | field (name : String) (source : SchemaError)
  /-- Two records have different numbers of fields. -/
  | fieldCount (stored desired : Nat)
  /-- The table ends before the index. -/
  | noColumn (index length : Nat)
  deriving DecidableEq, Inhabited

namespace SchemaError

def message : SchemaError → String
  | typeMismatch expected found => "type mismatch: expected " ++ expected ++ ", found " ++ found
  | outOfRange target value =>
    "value " ++ Numeral.showInteger value.toInt ++ " out of range for " ++ target
  | field name source => "field `" ++ name ++ "`: " ++ source.message
  | fieldCount stored desired =>
    "field count mismatch: stored has " ++ Numeral.showInteger stored ++ ", desired has " ++
      Numeral.showInteger desired
  | noColumn index length =>
    "no column at index " ++ Numeral.showInteger index ++ " (table has " ++
      Numeral.showInteger length ++ ")"

def source? : SchemaError → Option SchemaError
  | field _ source => some source
  | _ => none

/-- Names the field of an error. The innermost name stays: an error that has one is left alone. -/
def inField (name : String) : SchemaError → SchemaError
  | field inner source => field inner source
  | e => field name e

example : ((outOfRange "i32" (-5)).inField "cpus").message =
    "field `cpus`: value -5 out of range for i32" := by decide +kernel

end SchemaError
end DesiredState
