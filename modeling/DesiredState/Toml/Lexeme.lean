import DesiredState.Document.Reader

/-! The smallest parts of a TOML text: blanks, comments, ends of lines, and strings in their four
forms. -/
namespace DesiredState.Toml

def isBlank (c : Char) : Bool := c == ' ' || c == '\t'

/-- What comments and strings may hold: no control character but the tab. -/
def isPlain (c : Char) : Bool := c == '\t' || (' ' ≤ c && c ≤ '~') || '\x80' ≤ c

def skipBlanks (cs : List Char) : List Char := cs.dropWhile isBlank

def newline? : List Char → Option (List Char)
  | '\n' :: rest => some rest
  | '\r' :: '\n' :: rest => some rest
  | _ => none

/-- What follows the rest of a line: blanks, perhaps a comment, and the end of the line or text. -/
def endLine? (cs : List Char) : Option (List Char) :=
  let cs := match skipBlanks cs with
    | '#' :: rest => rest.dropWhile isPlain
    | rest => rest
  if cs.isEmpty then some [] else newline? cs

/-- What follows any number of blanks, ends of lines and comments. -/
def skipLines? : (inComment : Bool) → List Char → Option (List Char)
  | _, [] => some []
  | _, '\n' :: rest => skipLines? false rest
  | _, '\r' :: '\n' :: rest => skipLines? false rest
  | true, c :: rest => if isPlain c then skipLines? true rest else none
  | false, '#' :: rest => skipLines? true rest
  | false, c :: rest => if isBlank c then skipLines? false rest else some (c :: rest)

def natural? (base : Nat) (cs : List Char) : Option Nat :=
  (cs.mapM Document.hexValue?).map fun ds => ds.foldl (fun n d => n * base + d) 0

def charOf? (n : Nat) : Option Char :=
  if n < 0xd800 ∨ 0xe000 ≤ n ∧ n < 0x110000 then some (Char.ofNat n) else none

/-- The character that a letter after a backslash stands for. -/
def unescape? : Char → Option Char
  | '"' => some '"'
  | '\\' => some '\\'
  | 'b' => some '\x08'
  | 'f' => some '\x0c'
  | 'n' => some '\n'
  | 'r' => some '\r'
  | 't' => some '\t'
  | _ => none

def before (c : Char) (read : Option (List Char × List Char)) : Option (List Char × List Char) :=
  read.map fun r => (c :: r.1, r.2)

/-- A string of one line with escapes, up to its closing quote. -/
def readBasic : List Char → Option (List Char × List Char)
  | '"' :: rest => some ([], rest)
  | '\\' :: 'u' :: a :: b :: c :: d :: rest => do
    before (← charOf? (← natural? 16 [a, b, c, d])) (readBasic rest)
  | '\\' :: 'U' :: a :: b :: c :: d :: e :: f :: g :: h :: rest => do
    before (← charOf? (← natural? 16 [a, b, c, d, e, f, g, h])) (readBasic rest)
  | '\\' :: c :: rest => do before (← unescape? c) (readBasic rest)
  | c :: rest => if isPlain c ∧ c ≠ '\\' then before c (readBasic rest) else none
  | [] => none

/-- A string of one line without escapes, up to its closing quote. -/
def readLiteral : List Char → Option (List Char × List Char)
  | '\'' :: rest => some ([], rest)
  | c :: rest => if isPlain c then before c (readLiteral rest) else none
  | [] => none

/-- The quotes right after the three that close a string of several lines belong to the string, as
long as there are at most two of them. -/
def closeQuotes (quote : Char) : List Char → List Char × List Char
  | c :: d :: rest =>
    if c = quote ∧ d = quote then ([c, d], rest)
    else if c = quote then ([c], d :: rest)
    else ([], c :: d :: rest)
  | [c] => if c = quote then ([c], []) else ([], [c])
  | [] => ([], [])

/-- A string of several lines with escapes, up to its closing quotes. A backslash at the end of a
line drops all blanks and ends of lines up to the next character; this is when `trimming`. -/
def readBasicLines : (trimming : Bool) → List Char → Option (List Char × List Char)
  | true, ' ' :: rest => readBasicLines true rest
  | true, '\t' :: rest => readBasicLines true rest
  | true, '\n' :: rest => readBasicLines true rest
  | true, '\r' :: '\n' :: rest => readBasicLines true rest
  | _, '"' :: '"' :: '"' :: rest => some (closeQuotes '"' rest)
  | _, '\n' :: rest => before '\n' (readBasicLines false rest)
  | _, '\r' :: '\n' :: rest => before '\n' (readBasicLines false rest)
  | _, '\\' :: 'u' :: a :: b :: c :: d :: rest => do
    before (← charOf? (← natural? 16 [a, b, c, d])) (readBasicLines false rest)
  | _, '\\' :: 'U' :: a :: b :: c :: d :: e :: f :: g :: h :: rest => do
    before (← charOf? (← natural? 16 [a, b, c, d, e, f, g, h])) (readBasicLines false rest)
  | _, '\\' :: c :: rest =>
    if (newline? (skipBlanks (c :: rest))).isSome then readBasicLines true (c :: rest)
    else do before (← unescape? c) (readBasicLines false rest)
  | _, c :: rest => if isPlain c ∧ c ≠ '\\' then before c (readBasicLines false rest) else none
  | _, [] => none

/-- A string of several lines without escapes, up to its closing quotes. -/
def readLiteralLines : List Char → Option (List Char × List Char)
  | '\'' :: '\'' :: '\'' :: rest => some (closeQuotes '\'' rest)
  | '\n' :: rest => before '\n' (readLiteralLines rest)
  | '\r' :: '\n' :: rest => before '\n' (readLiteralLines rest)
  | c :: rest => if isPlain c then before c (readLiteralLines rest) else none
  | [] => none

/-- The end of a line right after the opening quotes does not count. -/
def skipNewline (cs : List Char) : List Char := (newline? cs).getD cs

/-- A string in any of the four forms. -/
def readString : List Char → Option (List Char × List Char)
  | '"' :: '"' :: '"' :: rest => readBasicLines false (skipNewline rest)
  | '"' :: rest => readBasic rest
  | '\'' :: '\'' :: '\'' :: rest => readLiteralLines (skipNewline rest)
  | '\'' :: rest => readLiteral rest
  | _ => none

example : readString "\"a\\u00e9\\n\" x".toList = some ("aé\n".toList, " x".toList) := by
  decide +kernel
example : readString "\"\"\"\na\\  \n  b\"\"\"\"\"!".toList = some ("ab\"\"".toList, ['!']) := by
  decide +kernel
example : readString "'''\r\nraw\\\r\nline'''".toList = some ("raw\\\nline".toList, []) := by
  decide +kernel
example : readString "\"\\ud800\"".toList = none := by decide +kernel

end DesiredState.Toml
