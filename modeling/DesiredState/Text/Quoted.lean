import DesiredState.Text.GraphemeExtend
import DesiredState.Text.Unprintable

/-! Quoted text: what a reader could not see or tell apart between two quotes is escaped. -/
namespace DesiredState.Text

/-- Letters without a glyph, which stand where a syllable lacks a part. With them, everything that
is ignorable in display by default is either invisible or overlaid. -/
def fillers : Ranges := [(0x115f, 0x1160), (0x3164, 0x3164), (0xffa0, 0xffa0)]

/-- Marks that extend the character before them and still take up a place of their own. -/
def spacingMarks : Ranges := [(0xff9e, 0xff9f)]

def isInvisible (c : Char) : Bool := unprintable.has c || fillers.has c

/-- Whether a character would be drawn onto the one before it. -/
def isOverlaid (c : Char) : Bool := graphemeExtend.has c && !spacingMarks.has c

/-- A character by its code point. -/
def escapeCodePoint (c : Char) : List Char :=
  '\\' :: 'u' :: '{' :: (Nat.toDigits 16 c.toNat ++ ['}'])

/-- A character between quotes. Marks that would be drawn onto the character before them are escaped
too. -/
def escape (c : Char) : List Char :=
  if c = '\x00' then ['\\', '0']
  else if c = '\t' then ['\\', 't']
  else if c = '\r' then ['\\', 'r']
  else if c = '\n' then ['\\', 'n']
  else if c = '"' then ['\\', '"']
  else if c = '\\' then ['\\', '\\']
  else if ' ' ≤ c ∧ c ≤ '~' then [c]
  else if isOverlaid c || isInvisible c then escapeCodePoint c
  else [c]

def quote (s : String) : String :=
  String.ofList ('"' :: (s.toList.flatMap escape ++ ['"']))

example : quote "a\"b\\" = "\"a\\\"b\\\\\"" := by decide +kernel
example : quote "é\u0301\u200d'" = "\"é\\u\x7b301\x7d\\u\x7b200d\x7d'\"" := by decide +kernel
example : quote "\u3164\uff76\uff9e" = "\"\\u\x7b3164\x7d\uff76\uff9e\"" := by decide +kernel
example : spacingMarks.all (fun r => graphemeExtend.has (Char.ofNat r.1)) = true := by decide +kernel
example : fillers.all (fun r => !unprintable.has (Char.ofNat r.1)) = true := by decide +kernel

end DesiredState.Text
