import DesiredState.Text.Ranges

/-! White space of all scripts. -/
namespace DesiredState.Text

def whitespace : Ranges := [
  (0x9, 0xd), (0x20, 0x20), (0x85, 0x85), (0xa0, 0xa0), (0x1680, 0x1680), (0x2000, 0x200a),
  (0x2028, 0x2029), (0x202f, 0x202f), (0x205f, 0x205f), (0x3000, 0x3000)]

def trim (cs : List Char) : List Char :=
  ((cs.dropWhile whitespace.has).reverse.dropWhile whitespace.has).reverse

example : trim " \u3000a b\n".toList = "a b".toList := by decide +kernel
example : whitespace.has '\u200b' = false := by decide +kernel

end DesiredState.Text
