import Scriptorium.Text.Hidden

/-! Text between double quotes, as it is shown in messages: quotes, backslashes and the common
controls have short escapes, and a character that would not show is written by its code point. -/

namespace Scriptorium.Text

private def hexDigits (n : Nat) : List Char := Nat.toDigits 16 n

/-- The characters that stand for one character between quotes. -/
def escaped (c : Char) : List Char :=
  if c = '"' then ['\\', '"']
  else if c = '\\' then ['\\', '\\']
  else if c = '\n' then ['\\', 'n']
  else if c = '\r' then ['\\', 'r']
  else if c = '\t' then ['\\', 't']
  else if c.toNat = 0 then ['\\', '0']
  else if isHidden c then ['\\', 'u', '\x7b'] ++ hexDigits c.toNat ++ ['\x7d']
  else [c]

def quoted (s : String) : String :=
  String.ofList (['"'] ++ s.toList.flatMap escaped ++ ['"'])

end Scriptorium.Text
