import StubLibc.Numeral
import StubLibc.Text.Unshown

/-!
# Quoted text in messages

A text between double quotes as a message shows it: the quote, the backslash and the common
controls are escaped by a letter, characters without a shape of their own by their code in braces,
and every other character stands for itself.
-/

namespace StubLibc.Text

/-- A character as it stands between quotes. -/
def quotedChar (c : Char) : List Char :=
  if c = '"' then ['\\', '"']
  else if c = '\\' then ['\\', '\\']
  else if c = '\n' then ['\\', 'n']
  else if c = '\r' then ['\\', 'r']
  else if c = '\t' then ['\\', 't']
  else if c.toNat = 0 then ['\\', '0']
  else if isUnshown c then
    ['\\', 'u', '\x7b'] ++ Numeral.digits .hexLower c.toNat ++ ['\x7d']
  else [c]

def quoted (text : List Char) : String :=
  String.ofList ('"' :: text.flatMap quotedChar ++ ['"'])

end StubLibc.Text
