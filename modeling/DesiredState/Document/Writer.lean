import DesiredState.Document

/-! Documents as compact text: no blanks, and in texts only what has to be escaped. -/
namespace DesiredState.Document

def hexDigit (n : Nat) : Char := Nat.digitChar (n % 16)

/-- A character of a text: quotes, backslashes and control characters are escaped. -/
def escape (c : Char) : List Char :=
  if c = '"' then ['\\', '"']
  else if c = '\\' then ['\\', '\\']
  else if c = '\x08' then ['\\', 'b']
  else if c = '\t' then ['\\', 't']
  else if c = '\n' then ['\\', 'n']
  else if c = '\x0c' then ['\\', 'f']
  else if c = '\r' then ['\\', 'r']
  else if c < ' ' then ['\\', 'u', '0', '0', hexDigit (c.toNat / 16), hexDigit c.toNat]
  else [c]

def writeText (s : String) : List Char := '"' :: (s.toList.flatMap escape ++ ['"'])

mutual

def write : Document → List Char
  | null => ['n', 'u', 'l', 'l']
  | boolean true => ['t', 'r', 'u', 'e']
  | boolean false => ['f', 'a', 'l', 's', 'e']
  | number n => n.write
  | text s => writeText s
  | array [] => ['[', ']']
  | array (d :: ds) => '[' :: (d.write ++ writeItems ds)
  | object [] => ['{', '}']
  | object ((k, d) :: ms) => '{' :: (writeText k ++ ':' :: (d.write ++ writeMembers ms))

/-- What follows the first item, up to the end of the array. -/
def writeItems : List Document → List Char
  | [] => [']']
  | d :: ds => ',' :: (d.write ++ writeItems ds)

/-- What follows the first member, up to the end of the object. -/
def writeMembers : List (String × Document) → List Char
  | [] => ['}']
  | (k, d) :: ms => ',' :: (writeText k ++ ':' :: (d.write ++ writeMembers ms))

end

def compact (d : Document) : String := String.ofList d.write

example : (array [null, text "a\"\x1f", object [("k", boolean true)], array []]).compact =
    "[null,\"a\\\"\\u001f\",\x7b\"k\":true\x7d,[]]" := by decide +kernel

end DesiredState.Document
