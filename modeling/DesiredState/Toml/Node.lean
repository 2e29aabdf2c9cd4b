import DesiredState.Toml.Scalar

/-! Trees of tables, and how the parts of a text add to them. Each table is defined at most once:
what may still be added to it depends on how it came to be. -/
namespace DesiredState.Toml

/-- How a table came to be. -/
inductive Origin where
  /-- By a header of its own. -/
  | header
  /-- By the header of a table within it. -/
  | implied
  /-- By a key of several parts. -/
  | dotted
  /-- By a value in braces, to which nothing can be added. -/
  | inline
  deriving DecidableEq, Inhabited, Repr

/-- A value: without parts, an array, a table, or tables that are collected under one name. -/
inductive Node where
  | scalar (value : Scalar)
  | array (items : List Node)
  | table (origin : Origin) (members : List (String × Node))
  | tables (elements : List (List (String × Node)))
  deriving Inhabited

/-- What a table holds, in ascending order of the names. -/
abbrev Members := Entries Node

/-- The place of a value: the tables on the way to it, and its name in the last of them. -/
structure Key where
  path : List String
  name : String
  deriving DecidableEq, Inhabited

def Key.parts (k : Key) : List String := k.path ++ [k.name]

namespace Members

/-- The value without parts at a place below a table. Of collected tables the last one counts. -/
def scalar? : List String → Members → Option Scalar
  | [], _ => none
  | name :: path, ms =>
    match ms.get? name with
    | some (.scalar value) => if path.isEmpty then some value else none
    | some (.table _ sub) => scalar? path sub
    | some (.tables elements) => elements.getLast?.bind (scalar? path)
    | _ => none

/-- Changes the table at the end of a path, which `act` gets together with its origin. Tables that
are missing on the way are `made`, and of those that are there only some may be entered. Of
collected tables the last one counts. -/
def descend (made : Origin) (enters : Origin → Bool) (act : Origin → Members → Option Members) :
    List String → Origin → Members → Option Members
  | [], origin, ms => act origin ms
  | name :: path, _, ms => do
    let node ← match ms.get? name with
      | none => (descend made enters act path made []).map (Node.table made)
      | some (.table origin sub) =>
        if enters origin then (descend made enters act path origin sub).map (Node.table origin)
        else none
      | some (.tables elements) =>
        elements.getLast?.bind fun last =>
          (descend made enters act path .header last).map fun sub =>
            Node.tables (elements.dropLast ++ [sub])
      | some _ => none
    return ms.insert name node

/-- Gives a value a name in a table that has no such name. -/
def put (name : String) (node : Node) (ms : Members) : Option Members :=
  if (ms.get? name).isSome then none else some (ms.insert name node)

/-- Gives a value a place below a table. The tables on the way are those of keys of several parts,
and only such a table ends the way. -/
def assign (key : Key) (node : Node) : Origin → Members → Option Members :=
  descend .dotted (fun o => o == .implied || o == .dotted)
    (fun origin ms =>
      if (origin == .dotted) == key.path.isEmpty then none else ms.put key.name node)
    key.path

/-- Changes the table at the end of a path of headers. -/
def within (path : List String) (act : Origin → Members → Option Members) (ms : Members) :
    Option Members :=
  descend .implied (· != .inline) act path .header ms

/-- Opens the table of a header, which has no header so far. -/
def openTable (key : Key) : Members → Option Members :=
  within key.path fun _ ms =>
    match ms.get? key.name with
    | none => some (ms.insert key.name (.table .header []))
    | some (.table .implied sub) => some (ms.insert key.name (.table .header sub))
    | some _ => none

/-- Opens one more of the tables that are collected under a name. -/
def openElement (key : Key) : Members → Option Members :=
  within key.path fun _ ms =>
    match ms.get? key.name with
    | none => some (ms.insert key.name (.tables [[]]))
    | some (.tables elements) => some (ms.insert key.name (.tables (elements ++ [[]])))
    | some _ => none

end Members
end DesiredState.Toml
