import DesiredState.Text.Quoted

/-! Annotations of a column: texts under text keys, in the order in which the keys were first set. -/
namespace DesiredState

/-- Keys with their texts. -/
structure Tags where
  pairs : List (String × String) := []
  deriving DecidableEq, Inhabited

namespace Tags

/-- Puts a text in place of the one under the same key, or else at the end. -/
def setPair (key value : String) : List (String × String) → List (String × String)
  | [] => [(key, value)]
  | (k, v) :: rest => if k = key then (key, value) :: rest else (k, v) :: setPair key value rest

def set (tags : Tags) (key value : String) : Tags := ⟨setPair key value tags.pairs⟩

/-- The tags that are left when pairs are set one after another. -/
def ofPairs (pairs : List (String × String)) : Tags :=
  pairs.foldl (fun tags p => tags.set p.1 p.2) ⟨[]⟩

def lookup (tags : Tags) (key : String) : Option String :=
  (tags.pairs.find? fun p => p.1 == key).map (·.2)

def display (tags : Tags) : String :=
  let pair (p : String × String) := "(" ++ Text.quote p.1 ++ ", " ++ Text.quote p.2 ++ ")"
  "Tags([" ++ String.intercalate ", " (tags.pairs.map pair) ++ "])"

example : (ofPairs [("eq", "-"), ("unit", "m"), ("eq", "x")]).pairs =
    [("eq", "x"), ("unit", "m")] := by decide
example : (ofPairs [("eq", "-")]).display = "Tags([(\"eq\", \"-\")])" := by decide +kernel

end Tags
end DesiredState
