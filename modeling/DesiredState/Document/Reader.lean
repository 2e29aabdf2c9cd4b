import DesiredState.Document

/-! Reading documents from text. Objects keep their members as they are written; arrays and objects
may be nested up to a limit. -/
namespace DesiredState.Document

def isBlank (c : Char) : Bool := c == ' ' || c == '\n' || c == '\t' || c == '\r'

def skipBlanks (cs : List Char) : List Char := cs.dropWhile isBlank

def hexValue? (c : Char) : Option Nat :=
  if c.isDigit then some (c.toNat - '0'.toNat)
  else if 'a' ≤ c ∧ c ≤ 'f' then some (c.toNat - 'a'.toNat + 10)
  else if 'A' ≤ c ∧ c ≤ 'F' then some (c.toNat - 'A'.toNat + 10)
  else none

def unit? (a b c d : Char) : Option Nat := do
  let a ← hexValue? a
  let b ← hexValue? b
  let c ← hexValue? c
  let d ← hexValue? d
  return ((a * 16 + b) * 16 + c) * 16 + d

def ofUnit? (u : Nat) : Option Char :=
  if 0xd800 ≤ u ∧ u < 0xe000 then none else some (Char.ofNat u)

def ofPair? (high low : Nat) : Option Char :=
  if 0xd800 ≤ high ∧ high < 0xdc00 ∧ 0xdc00 ≤ low ∧ low < 0xe000 then
    some (Char.ofNat (0x10000 + (high - 0xd800) * 0x400 + (low - 0xdc00)))
  else none

def unescape? : Char → Option Char
  | '"' => some '"'
  | '\\' => some '\\'
  | '/' => some '/'
  | 'b' => some '\x08'
  | 'f' => some '\x0c'
  | 'n' => some '\n'
  | 'r' => some '\r'
  | 't' => some '\t'
  | _ => none

/-- The characters up to a closing quote, and what follows it. Control characters have to be
escaped, and surrogates come in pairs. -/
def readText : List Char → Option (List Char × List Char)
  | '"' :: rest => some ([], rest)
  | '\\' :: 'u' :: a :: b :: c :: d :: rest => do
    let u ← unit? a b c d
    match ofUnit? u with
    | some ch =>
      let (cs, rest) ← readText rest
      return (ch :: cs, rest)
    | none =>
      match rest with
      | '\\' :: 'u' :: e :: f :: g :: h :: rest =>
        let v ← unit? e f g h
        let ch ← ofPair? u v
        let (cs, rest) ← readText rest
        return (ch :: cs, rest)
      | _ => none
  | '\\' :: c :: rest => do
    let ch ← unescape? c
    let (cs, rest) ← readText rest
    return (ch :: cs, rest)
  | c :: rest =>
    if c < ' ' ∨ c = '\\' then none
    else do
      let (cs, rest) ← readText rest
      return (c :: cs, rest)
  | [] => none

mutual

/-- The document at the front, and what follows it. `depth` is how many more arrays and objects may
be nested; `fuel` bounds the calls, of which there are at most two for each character. -/
def readValue (fuel depth : Nat) (cs : List Char) : Option (Document × List Char) :=
  match fuel with
  | 0 => none
  | fuel + 1 =>
    match skipBlanks cs with
    | 'n' :: 'u' :: 'l' :: 'l' :: rest => some (null, rest)
    | 't' :: 'r' :: 'u' :: 'e' :: rest => some (boolean true, rest)
    | 'f' :: 'a' :: 'l' :: 's' :: 'e' :: rest => some (boolean false, rest)
    | '"' :: rest => do
      let (s, rest) ← readText rest
      return (text (String.ofList s), rest)
    | '[' :: rest =>
      match depth, skipBlanks rest with
      | 0, _ => none
      | _, ']' :: rest => some (array [], rest)
      | depth + 1, rest => do
        let (items, rest) ← readItems fuel depth rest
        return (array items, rest)
    | '{' :: rest =>
      match depth, skipBlanks rest with
      | 0, _ => none
      | _, '}' :: rest => some (object [], rest)
      | depth + 1, rest => do
        let (members, rest) ← readMembers fuel depth rest
        return (object members, rest)
    | rest => do
      let (n, rest) ← Numeral.read rest
      return (number n, rest)

/-- Items separated by commas, up to the end of their array. -/
def readItems (fuel depth : Nat) (cs : List Char) : Option (List Document × List Char) :=
  match fuel with
  | 0 => none
  | fuel + 1 => do
    let (d, rest) ← readValue fuel depth cs
    match skipBlanks rest with
    | ',' :: rest =>
      let (ds, rest) ← readItems fuel depth rest
      return (d :: ds, rest)
    | ']' :: rest => return ([d], rest)
    | _ => none

/-- Members separated by commas, up to the end of their object. -/
def readMembers (fuel depth : Nat) (cs : List Char) :
    Option (List (String × Document) × List Char) :=
  match fuel with
  | 0 => none
  | fuel + 1 =>
    match skipBlanks cs with
    | '"' :: rest => do
      let (k, rest) ← readText rest
      match skipBlanks rest with
      | ':' :: rest =>
        let (d, rest) ← readValue fuel depth rest
        match skipBlanks rest with
        | ',' :: rest =>
          let (ms, rest) ← readMembers fuel depth rest
          return ((String.ofList k, d) :: ms, rest)
        | '}' :: rest => return ([(String.ofList k, d)], rest)
        | _ => none
      | _ => none
    | _ => none

end

def nestingLimit : Nat := 127

/-- The document that a whole text denotes, its objects as they are written. -/
def ofText? (s : String) : Option Document := do
  let cs := s.toList
  let (d, rest) ← readValue (2 * cs.length + 2) nestingLimit cs
  if (skipBlanks rest).isEmpty then return d else none

end DesiredState.Document
