import DesiredState.Toml.Node

/-! The lines of a TOML text: headers, assignments of values to keys, and lines that say nothing. A
value in brackets may go over several lines of the text. -/
namespace DesiredState.Toml

/-- How many arrays and braces may be nested in each other, and how many parts a key may have. -/
def nestingLimit : Nat := 79

/-- What a part of a key is made of if it has no quotes. -/
def isBare (c : Char) : Bool := c.isAlphanum || c == '_' || c == '-'

def readPart : List Char → Option (String × List Char)
  | '"' :: rest => (readBasic rest).map fun r => (String.ofList r.1, r.2)
  | '\'' :: rest => (readLiteral rest).map fun r => (String.ofList r.1, r.2)
  | cs =>
    match cs.span isBare with
    | ([], _) => none
    | (part, rest) => some (String.ofList part, rest)

/-- A key of at most `limit` parts, which points separate. Blanks around the parts do not count. -/
def readKey : (limit : Nat) → List Char → Option (Key × List Char)
  | 0, _ => none
  | limit + 1, cs => do
    let (part, rest) ← readPart (skipBlanks cs)
    match skipBlanks rest with
    | '.' :: rest =>
      let (key, rest) ← readKey limit rest
      return (⟨part :: key.path, key.name⟩, rest)
    | rest => return (⟨[], part⟩, rest)

mutual

/-- The value at the front, and what follows it. `depth` is how many more arrays and braces may be
nested; `fuel` bounds the calls, of which there are at most two for each character. -/
def readNode (fuel depth : Nat) (cs : List Char) : Option (Node × List Char) :=
  match fuel with
  | 0 => none
  | fuel + 1 =>
    match cs, depth with
    | '[' :: rest, depth + 1 => do
      let (items, rest) ← readItems fuel depth rest
      return (.array items, rest)
    | '{' :: rest, depth + 1 =>
      match skipBlanks rest with
      | '}' :: rest => some (.table .inline [], rest)
      | rest => do
        let (members, rest) ← readMembers fuel depth [] rest
        return (.table .inline members, rest)
    | cs, _ => do
      let (value, rest) ← Scalar.read cs
      return (.scalar value, rest)

/-- Items separated by commas, up to the end of their array. Lines may end between them, and a comma
may follow the last one. -/
def readItems (fuel depth : Nat) (cs : List Char) : Option (List Node × List Char) :=
  match fuel with
  | 0 => none
  | fuel + 1 => do
    match ← skipLines? false cs with
    | ']' :: rest => return ([], rest)
    | cs =>
      let (item, rest) ← readNode fuel depth cs
      match ← skipLines? false rest with
      | ',' :: rest =>
        let (items, rest) ← readItems fuel depth rest
        return (item :: items, rest)
      | ']' :: rest => return ([item], rest)
      | _ => none

/-- Assignments separated by commas, up to the closing brace, on top of those before them. -/
def readMembers (fuel depth : Nat) (members : Members) (cs : List Char) :
    Option (Members × List Char) :=
  match fuel with
  | 0 => none
  | fuel + 1 => do
    let (key, rest) ← readKey nestingLimit cs
    let (node, rest) ← readNode fuel depth (skipBlanks (← skip? '=' rest))
    let members ← members.assign key node .inline
    match skipBlanks rest with
    | ',' :: rest => readMembers fuel depth members rest
    | '}' :: rest => return (members, rest)
    | _ => none

end

/-- What a line says. -/
inductive Line where
  | blank
  | header (key : Key)
  /-- The header of one of several tables under one name. -/
  | element (key : Key)
  | assignment (key : Key) (node : Node)
  deriving Inhabited

namespace Line

def read : List Char → Option (Line × List Char)
  | '[' :: '[' :: rest => do
    let (key, rest) ← readKey nestingLimit rest
    return (element key, ← endLine? (← skip? ']' (← skip? ']' rest)))
  | '[' :: rest => do
    let (key, rest) ← readKey nestingLimit rest
    return (header key, ← endLine? (← skip? ']' rest))
  | cs =>
    match endLine? cs with
    | some rest => some (blank, rest)
    | none => do
      let (key, rest) ← readKey nestingLimit cs
      let rest := skipBlanks (← skip? '=' rest)
      let (node, rest) ← readNode (2 * rest.length + 2) nestingLimit rest
      return (assignment key node, ← endLine? rest)

def readAll : (fuel : Nat) → List Char → Option (List Line)
  | 0, _ => none
  | fuel + 1, cs =>
    match skipBlanks cs with
    | [] => some []
    | cs => do
      let (line, rest) ← read cs
      return line :: (← readAll fuel rest)

/-- The lines of a text, which may start with a byte order mark. -/
def ofText? (s : String) : Option (List Line) :=
  let cs := match s.toList with
    | '\ufeff' :: cs => cs
    | cs => cs
  readAll (cs.length + 1) cs

end Line
end DesiredState.Toml
