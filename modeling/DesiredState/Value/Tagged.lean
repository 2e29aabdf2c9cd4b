import DesiredState.Value
import DesiredState.Document.Reader

/-! Values as documents: an object of one member, whose key tells the kind. Null alone is a mere
text. -/
namespace DesiredState.Value

/-- The document of a real number; there is none of what is no finite number. -/
def realDocument (x : Binary64) : Document :=
  if h : x.isFinite then .number (.real ⟨x, h⟩) else .null

/-- The document that holds a value. -/
def toDocument : Value → Document
  | null => .text "Null"
  | boolean b => .object [("Bool", .boolean b)]
  | integer i => .object [("Int", .number (.integer i.toInt))]
  | real x => .object [("Real", realDocument x)]
  | text s => .object [("Text", .text s)]
  | blob bytes => .object [("Blob", .array (bytes.map fun b => .number (.integer b.toNat)))]
  | document d => .object [("Json", d)]

def toText (v : Value) : String := v.toDocument.compact

def integer? : Document → Option Int64
  | .number (.integer i) => Numeral.int64? i
  | _ => none

/-- A real number. Integers are rounded to one. -/
def real? : Document → Option Binary64
  | .number (.integer i) => some (.ofInt i)
  | .number (.real x) => some x.val
  | _ => none

def byte? : Document → Option UInt8
  | .number (.integer i) => if 0 ≤ i ∧ i < 256 then some (UInt8.ofNat i.toNat) else none
  | _ => none

/-- The value of a member whose key tells the kind. -/
def ofMember? (key : String) (content : Document) : Option Value :=
  if key = "Null" then (match content with | .null => some null | _ => none)
  else if key = "Bool" then (match content with | .boolean b => some (boolean b) | _ => none)
  else if key = "Int" then (integer? content).map integer
  else if key = "Real" then (real? content).map real
  else if key = "Text" then (match content with | .text s => some (text s) | _ => none)
  else if key = "Blob" then
    (match content with | .array items => (items.mapM byte?).map blob | _ => none)
  else if key = "Json" then some (document content.canonical)
  else none

/-- The value that a document holds, if it has exactly one member. -/
def ofDocument? : Document → Option Value
  | .text s => if s = "Null" then some null else none
  | .object [(key, content)] => ofMember? key content
  | _ => none

def ofText? (s : String) : Option Value := (Document.ofText? s).bind ofDocument?

example : (text "Null").toText = "\x7b\"Text\":\"Null\"\x7d" := by decide +kernel
example : (real ⟨0x7ff8000000000000⟩).toText = "\x7b\"Real\":null\x7d" := by decide +kernel
example : (ofText? " \x7b\"Blob\" : [1, 255]\x7d ").map toText =
    some "\x7b\"Blob\":[1,255]\x7d" := by decide +kernel
example : (ofText? "\x7b\"Int\":3,\"Int\":3\x7d").isNone = true := by decide +kernel

end DesiredState.Value
