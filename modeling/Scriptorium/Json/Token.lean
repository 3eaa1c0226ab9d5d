import Scriptorium.Json.Escape
import Scriptorium.Json.Value

/-! The tokens of JSON text. A number or a word is the longest run of the characters that occur in
numbers or words: no value may follow another one without a sign between them, so nothing is lost
by taking as much as possible. -/

namespace Scriptorium.Json

inductive Token where
  | openArray
  | closeArray
  | openObject
  | closeObject
  | comma
  | colon
  /-- A value that holds no other values. -/
  | scalar (v : Value)
deriving Inhabited

private def isBlank (c : Char) : Bool := c = ' ' || c = '\n' || c = '\t' || c = '\r'

/-- The characters of a string up to its closing quote, after those that were read already, in
reverse. Escapes have to be complete, and control characters have to be escaped. -/
private def rawString (read : List Char) : List Char → Option (List Char × List Char)
  | [] => none
  | '"' :: rest => some (read.reverse, rest)
  | '\\' :: 'u' :: a :: b :: c :: d :: rest =>
    if [a, b, c, d].all isHexDigit then rawString (d :: c :: b :: a :: 'u' :: '\\' :: read) rest
    else none
  | '\\' :: c :: rest => if isEscapeLetter c then rawString (c :: '\\' :: read) rest else none
  | c :: rest => if c < ' ' || c = '\\' then none else rawString (c :: read) rest

private def digits1 (cs : List Char) : Option (List Char × List Char) :=
  match cs with
  | c :: rest =>
    if c.isDigit then some (c :: rest.takeWhile Char.isDigit, rest.dropWhile Char.isDigit)
    else none
  | [] => none

/-- The number that some characters make up. -/
def Number.ofChars? (cs : List Char) : Option Number := do
  let (negative, rest) := match cs with
    | '-' :: rest => (true, rest)
    | rest => (false, rest)
  let (whole, rest) ← match rest with
    | '0' :: rest => some (['0'], rest)
    | rest => digits1 rest
  let (fraction, rest) ← match rest with
    | '.' :: rest => (digits1 rest).map fun (ds, rest) => (some ds, rest)
    | rest => some (none, rest)
  let (exponent, rest) ← match rest with
    | c :: rest =>
      if c = 'e' || c = 'E' then
        let (sign, rest) := match rest with
          | '+' :: rest => (some '+', rest)
          | '-' :: rest => (some '-', rest)
          | rest => (none, rest)
        (digits1 rest).map fun (ds, rest) => (some (sign, ds), rest)
      else none
    | [] => some (none, [])
  guard rest.isEmpty
  some ⟨negative, whole, fraction, exponent⟩

private def isNumeric (c : Char) : Bool :=
  c.isDigit || c = '-' || c = '+' || c = '.' || c = 'e' || c = 'E'

private def word? : List Char → Option Value
  | ['n', 'u', 'l', 'l'] => some .null
  | ['t', 'r', 'u', 'e'] => some (.bool true)
  | ['f', 'a', 'l', 's', 'e'] => some (.bool false)
  | _ => none

/-- The token that begins with a character. -/
private def token? (c : Char) (rest : List Char) : Option (Token × List Char) :=
  match c with
  | '[' => some (.openArray, rest)
  | ']' => some (.closeArray, rest)
  | '\x7b' => some (.openObject, rest)
  | '\x7d' => some (.closeObject, rest)
  | ',' => some (.comma, rest)
  | ':' => some (.colon, rest)
  | '"' => (rawString [] rest).map fun (raw, rest) => (.scalar (.string raw), rest)
  | c =>
    if c.isDigit || c = '-' then
      (Number.ofChars? (c :: rest.takeWhile isNumeric)).map fun n =>
        (.scalar (.number n), rest.dropWhile isNumeric)
    else
      (word? (c :: rest.takeWhile Char.isAlpha)).map fun v =>
        (.scalar v, rest.dropWhile Char.isAlpha)

private theorem rawString_shorter {read cs raw rest : List Char}
    (h : rawString read cs = some (raw, rest)) : rest.length ≤ cs.length := by
  fun_induction rawString read cs <;> simp_all <;> omega

private theorem token?_shorter {c : Char} {rest after : List Char} {t : Token}
    (h : token? c rest = some (t, after)) : after.length ≤ rest.length := by
  unfold token? at h
  split at h
  case h_7 =>
    obtain ⟨_, read, same⟩ := Option.map_eq_some_iff.mp h
    cases same
    exact rawString_shorter read
  case h_8 =>
    split at h
    all_goals
      obtain ⟨_, _, same⟩ := Option.map_eq_some_iff.mp h
      cases same
      exact (List.dropWhile_sublist _).length_le
  all_goals cases h; exact Nat.le_refl _

/-- The tokens of a text, after those that were read already, in reverse; none if some character
begins no token. -/
private def tokensFrom? (read : List Token) (cs : List Char) : Option (List Token) :=
  match cs with
  | [] => some read.reverse
  | c :: rest =>
    if isBlank c then tokensFrom? read rest
    else
      match _ : token? c rest with
      | some (t, after) => tokensFrom? (t :: read) after
      | none => none
termination_by cs.length
decreasing_by
  · simp
  · exact Nat.lt_succ_of_le (token?_shorter ‹_›)

def tokens? (s : String) : Option (List Token) := tokensFrom? [] s.toList

end Scriptorium.Json
