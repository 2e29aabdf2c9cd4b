import DesiredState.Toml.Line

/-! The tree of tables that the lines of a TOML text build up. -/
namespace DesiredState.Toml

/-- What lines have built so far: the root table, and the parts of the header that is open. -/
structure Tree where
  header : List String := []
  root : Members := []

namespace Tree

def add (t : Tree) : Line → Option Tree
  | .blank => some t
  | .header key => (t.root.openTable key).map fun root => ⟨key.parts, root⟩
  | .element key => (t.root.openElement key).map fun root => ⟨key.parts, root⟩
  | .assignment key node =>
    (t.root.within t.header (Members.assign key node)).map fun root => { t with root }

def ofLines? (lines : List Line) : Option Tree := lines.foldlM add {}

def rootOf? (s : String) : Option Members := do
  let tree ← ofLines? (← Line.ofText? s)
  return tree.root

example : (rootOf? "[a.b]\nx = 1 # one\n[a]\ny.z = true").bind (Members.scalar? ["a", "y", "z"]) =
    some (.boolean true) := by
  decide +kernel
example : (rootOf? "[[a]]\nx = 1\n[[a]]\nx = 2\n[a.b]\n").bind (Members.scalar? ["a", "x"]) =
    some (.integer 2) := by
  decide +kernel
example : (rootOf? "a = \x7bb.c = [1, # one\n 2,], b.d = 'e'\x7d").bind
    (Members.scalar? ["a", "b", "d"]) = some (.text "e") := by decide +kernel
example : (rootOf? "[a]\n[a]").isNone = true := by decide +kernel
example : (rootOf? "a.b = 1\n[a]").isNone = true := by decide +kernel
example : (rootOf? "a.b = 1\n[a.c]").isSome = true := by decide +kernel
example : (rootOf? "[a.b]\n[a]\nb.c = 1").isNone = true := by decide +kernel
example : (rootOf? "[a.b.c]\n[a]\nb.d = 1").isNone = true := by decide +kernel
example : (rootOf? "[a.b.c]\n[a]\nb.d.e = 1").isSome = true := by decide +kernel
example : (rootOf? "a = [,]").isNone = true := by decide +kernel
example : (rootOf? "a = \x7bb = 1,\x7d").isNone = true := by decide +kernel
example : (rootOf? "a = \x7b\x7d\n[a.b]").isNone = true := by decide +kernel

end Tree
end DesiredState.Toml
