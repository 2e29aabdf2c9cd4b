import DesiredState.KeyMap
import DesiredState.Numeral

/-! Structured documents. An object is a list of members as they are written; `canonical` puts them
into ascending order of their keys, of each key the last one. -/
namespace DesiredState

/-- A document: a tree of arrays and objects over numbers, texts, booleans and nulls. -/
inductive Document where
  | null
  | boolean (value : Bool)
  | number (value : Numeral)
  | text (value : String)
  | array (items : List Document)
  | object (members : List (String × Document))
  deriving Inhabited

namespace Document

mutual

/-- Equality of documents. Arrays are compared by position, canonical objects by their members. -/
def equals : Document → Document → Bool
  | null, null => true
  | boolean a, boolean b => a == b
  | number m, number n => m.equals n
  | text s, text t => s == t
  | array as, array bs => equalItems as bs
  | object as, object bs => equalMembers as bs
  | _, _ => false

def equalItems : List Document → List Document → Bool
  | [], [] => true
  | a :: as, b :: bs => a.equals b && equalItems as bs
  | _, _ => false

def equalMembers : List (String × Document) → List (String × Document) → Bool
  | [], [] => true
  | (j, a) :: as, (k, b) :: bs => j == k && a.equals b && equalMembers as bs
  | _, _ => false

end

mutual

/-- Every document equals itself, since every number in it does. -/
theorem equals_self : (d : Document) → d.equals d = true
  | null => rfl
  | boolean b => by simp [equals]
  | number n => by simp [equals, n.equals_self]
  | text s => by simp [equals]
  | array items => by simp [equals, equalItems_self items]
  | object members => by simp [equals, equalMembers_self members]

theorem equalItems_self : (ds : List Document) → equalItems ds ds = true
  | [] => by simp [equalItems]
  | d :: ds => by simp [equalItems, equals_self d, equalItems_self ds]

theorem equalMembers_self : (ms : List (String × Document)) → equalMembers ms ms = true
  | [] => by simp [equalMembers]
  | (k, d) :: ms => by simp [equalMembers, equals_self d, equalMembers_self ms]

end

mutual

/-- The same document with the members of all objects in ascending order, each key once. -/
def canonical : Document → Document
  | array items => array (canonicalItems items)
  | object members => object (Entries.sorted (canonicalMembers members))
  | d => d

def canonicalItems : List Document → List Document
  | [] => []
  | d :: ds => d.canonical :: canonicalItems ds

/-- The members with canonical documents, in the order of writing. -/
def canonicalMembers : List (String × Document) → List (String × Document)
  | [] => []
  | (k, d) :: ms => (k, d.canonical) :: canonicalMembers ms

end

example : (object [("b", null), ("a", null), ("b", boolean true)]).canonical.equals
    (object [("a", null), ("b", boolean true)]) = true := by decide +kernel
example : (number (.integer 1)).equals (number (.real ⟨.ofNat 1, by decide +kernel⟩)) = false := by decide +kernel

end Document
end DesiredState
