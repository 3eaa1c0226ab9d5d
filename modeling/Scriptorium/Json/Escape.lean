/-! Escapes in JSON strings. A string is read in two steps: first only the characters between the
quotes are taken, escapes and all, and what they stand for is found out when somebody asks. -/

namespace Scriptorium.Json

private def hexDigit? (c : Char) : Option Nat :=
  if c.isDigit then some (c.toNat - '0'.toNat)
  else if 'a' ≤ c && c ≤ 'f' then some (c.toNat - 'a'.toNat + 10)
  else if 'A' ≤ c && c ≤ 'F' then some (c.toNat - 'A'.toNat + 10)
  else none

def isHexDigit (c : Char) : Bool := (hexDigit? c).isSome

private def hexValue (digits : List Char) : Nat :=
  digits.foldl (fun n c => 16 * n + (hexDigit? c).getD 0) 0

/-- The characters that may stand after a backslash, `u` and its digits aside. -/
def isEscapeLetter (c : Char) : Bool := ['"', '\\', '/', 'b', 'f', 'n', 'r', 't'].contains c

private def letterMeaning : Char → Char
  | 'b' => '\x08'
  | 'f' => '\x0c'
  | 'n' => '\n'
  | 'r' => '\r'
  | 't' => '\t'
  | c => c

/-- The characters that a string stands for, after those that were found already, in reverse. Two
escapes may stand for one character together; half of such a pair stands for nothing. -/
private def meaning? (read : List Char) : List Char → Option (List Char)
  | [] => some read.reverse
  | '\\' :: 'u' :: a :: b :: c :: d :: rest =>
    let n := hexValue [a, b, c, d]
    if n < 0xD800 ∨ 0xE000 ≤ n then meaning? (Char.ofNat n :: read) rest
    else
      match rest with
      | '\\' :: 'u' :: a :: b :: c :: d :: rest =>
        let m := hexValue [a, b, c, d]
        if n < 0xDC00 ∧ 0xDC00 ≤ m ∧ m < 0xE000 then
          meaning? (Char.ofNat (0x10000 + (n - 0xD800) * 0x400 + (m - 0xDC00)) :: read) rest
        else none
      | _ => none
  | '\\' :: c :: rest => meaning? (letterMeaning c :: read) rest
  | c :: rest => meaning? (c :: read) rest

/-- The text that a string stands for, if it stands for one. -/
def unescape? (raw : List Char) : Option String := (meaning? [] raw).map String.ofList

/-- Writes a text between quotes as far as it needs escapes: quotes, backslashes and controls. -/
def escape (s : String) : List Char :=
  s.toList.flatMap fun c =>
    if c = '"' then ['\\', '"']
    else if c = '\\' then ['\\', '\\']
    else if c = '\n' then ['\\', 'n']
    else if c = '\r' then ['\\', 'r']
    else if c = '\t' then ['\\', 't']
    else if c = '\x08' then ['\\', 'b']
    else if c = '\x0c' then ['\\', 'f']
    else if c < ' ' then
      ['\\', 'u', '0', '0'] ++ Nat.toDigits 16 (c.toNat / 16) ++ Nat.toDigits 16 (c.toNat % 16)
    else [c]

end Scriptorium.Json
