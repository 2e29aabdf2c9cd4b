import DesiredState.Document.Writer
import DesiredState.Text.Quoted

/-! Values of fields. A value is of one of seven kinds, and values of different kinds are never
equal. -/
namespace DesiredState

/-- A value of a field. -/
inductive Value where
  | null
  | boolean (value : Bool)
  | integer (value : Int64)
  | real (value : Binary64)
  | text (value : String)
  | blob (bytes : List UInt8)
  | document (value : Document)
  deriving Inhabited

namespace Value

/-- The kind of a value, as messages name it. -/
def kind : Value → String
  | null => "null"
  | boolean _ => "bool"
  | integer _ => "int"
  | real _ => "real"
  | text _ => "text"
  | blob _ => "blob"
  | document _ => "json"

def isNull : Value → Bool
  | null => true
  | _ => false

/-- Equality of values. A real number that is no number equals nothing, not even itself. -/
def equals : Value → Value → Bool
  | null, null => true
  | boolean a, boolean b => a == b
  | integer i, integer j => i == j
  | real x, real y => x.equals y
  | text s, text t => s == t
  | blob a, blob b => a == b
  | document d, document e => d.equals e
  | _, _ => false

def isNaN : Value → Bool
  | real x => x.isNaN
  | _ => false

/-- The values that do not equal themselves are the real numbers that are no number. -/
theorem equals_self (v : Value) : v.equals v = !v.isNaN := by
  cases v with
  | real x => exact x.equals_self
  | document d => exact d.equals_self
  | _ => simp [equals, isNaN]

/-- Nothing equals what is no number. -/
theorem isNaN_eq_false_of_equals {v w : Value} (h : v.equals w = true) : w.isNaN = false := by
  cases w with
  | real y => cases v <;> simp_all [equals, Binary64.equals, isNaN]
  | _ => rfl

/-- The text of a real number, which never has an exponent. -/
def displayReal (x : Binary64) : String :=
  if x.isNaN then "NaN"
  else if x.isInfinite then (if x.isNegative then "-inf" else "inf")
  else String.ofList (Decimal.Layout.plain.write x)

/-- A value as it is shown to people: texts are quoted, and of blobs only the size is told. -/
def display : Value → String
  | null => "null"
  | boolean b => if b then "true" else "false"
  | integer i => Numeral.showInteger i.toInt
  | real x => displayReal x
  | text s => Text.quote s
  | blob bytes => "<" ++ Numeral.showInteger bytes.length ++ " bytes>"
  | document d => d.compact

example : (integer (-7)).display = "-7" := by decide +kernel
example : (real ⟨0x8000000000000000⟩).display = "-0" := by decide +kernel
example : (blob [0, 255]).display = "<2 bytes>" := by decide +kernel
example : (integer 1).equals (real (.ofNat 1)) = false := by decide +kernel
example : null.equals (document .null) = false := by decide +kernel

end Value
end DesiredState
