/-! Reading the text of a TOML document: blanks and comments, strings, keys. A reader takes the text
from where it stands and gives what it read with the text that is left, or nothing if the text
there has another form. What is left is shorter, by which the readers of strings and keys end. -/

namespace Scriptorium.Toml

/-- Reads an `α` off the front of a text. -/
abbrev Reader (α : Type) := List Char → Option (α × List Char)

namespace Reader

def literal (word : String) : Reader Unit := fun cs =>
  let w := word.toList
  if w.isPrefixOf cs then some ((), cs.drop w.length) else none

/-- Reads with the first of two readers that fits. -/
def orElse (p q : Reader α) : Reader α := fun cs => (p cs).or (q cs)

def map (f : α → β) (p : Reader α) : Reader β := fun cs => (p cs).map fun (a, rest) => (f a, rest)

def maybe (p : Reader α) : List Char → Option α × List Char := fun cs =>
  match p cs with
  | some (a, rest) => (some a, rest)
  | none => (none, cs)

end Reader

def isBlank (c : Char) : Bool := c = ' ' || c = '\t'

def skipBlanks (cs : List Char) : List Char := cs.dropWhile isBlank

/-- A character that may stand in a comment or, quotes and backslashes aside, in a string. -/
def isPlain (c : Char) : Bool := c = '\t' || (' ' ≤ c && c ≤ '~') || 0x80 ≤ c.toNat

/-- A line ends in a line feed, which a carriage return may precede. -/
def newline : Reader Unit
  | '\n' :: rest => some ((), rest)
  | '\r' :: '\n' :: rest => some ((), rest)
  | _ => none

private theorem newline_shorter {cs rest : List Char} (h : newline cs = some ((), rest)) :
    rest.length < cs.length := by
  unfold newline at h
  split at h <;> simp at h <;> subst h <;> simp only [List.length_cons] <;> omega

/-- Drops a comment, if one starts here. -/
def skipComment : List Char → List Char
  | '#' :: rest => rest.dropWhile isPlain
  | cs => cs

/-- What may follow the last thing on a line. -/
def lineEnd (cs : List Char) : Option (List Char) :=
  match skipComment (skipBlanks cs) with
  | [] => some []
  | rest => (newline rest).map (·.2)

/-- Drops blanks, comments and line ends, as between the items of an array. -/
def skipLines (inComment : Bool) : List Char → List Char
  | [] => []
  | '\r' :: '\n' :: rest => skipLines false rest
  | c :: rest =>
    if c = '\n' then skipLines false rest
    else if inComment then if isPlain c then skipLines true rest else c :: rest
    else if isBlank c then skipLines false rest
    else if c = '#' then skipLines true rest
    else c :: rest

/-- Drops blanks and line ends. -/
def skipBlankLines : List Char → List Char
  | [] => []
  | '\r' :: '\n' :: rest => skipBlankLines rest
  | c :: rest => if isBlank c || c = '\n' then skipBlankLines rest else c :: rest

private theorem length_skipBlankLines_le (cs : List Char) :
    (skipBlankLines cs).length ≤ cs.length := by
  fun_induction skipBlankLines cs <;> simp_all <;> omega

/-- The value of a hexadecimal digit. -/
def hexValue (c : Char) : Option Nat :=
  if c.isDigit then some (c.toNat - '0'.toNat)
  else if 'a' ≤ c && c ≤ 'f' then some (c.toNat - 'a'.toNat + 10)
  else if 'A' ≤ c && c ≤ 'F' then some (c.toNat - 'A'.toNat + 10)
  else none

/-- The character whose code point is written in the given number of hexadecimal digits. -/
private def codePoint (width : Nat) : Reader Char := fun cs =>
  let digits := cs.take width
  let n := digits.foldl (fun n c => 16 * n + (hexValue c).getD 0) 0
  if digits.length = width ∧ digits.all (fun c => (hexValue c).isSome) ∧ n.isValidChar then
    some (Char.ofNat n, cs.drop width)
  else none

/-- What follows a backslash. -/
private def escape : Reader Char
  | 'b' :: rest => some ('\x08', rest)
  | 't' :: rest => some ('\t', rest)
  | 'n' :: rest => some ('\n', rest)
  | 'f' :: rest => some ('\x0c', rest)
  | 'r' :: rest => some ('\r', rest)
  | '"' :: rest => some ('"', rest)
  | '\\' :: rest => some ('\\', rest)
  | 'u' :: rest => codePoint 4 rest
  | 'U' :: rest => codePoint 8 rest
  | _ => none

private theorem codePoint_shorter {width : Nat} {cs rest : List Char} {c : Char} (h : 0 < width)
    (read : codePoint width cs = some (c, rest)) : rest.length < cs.length := by
  simp only [codePoint] at read
  split at read
  · next ok =>
    have := ok.1
    cases read
    simp only [List.length_take] at this
    simp only [List.length_drop]
    omega
  · exact nomatch read

private theorem escape_shorter {cs rest : List Char} {c : Char} (h : escape cs = some (c, rest)) :
    rest.length < cs.length := by
  unfold escape at h
  split at h
  case h_8 | h_9 =>
    have := codePoint_shorter (by decide) h
    simp only [List.length_cons]
    omega
  all_goals cases h <;> simp

private theorem length_dropWhile_le (p : Char → Bool) (cs : List Char) :
    (cs.dropWhile p).length ≤ cs.length :=
  (List.dropWhile_sublist p).length_le

/-- The rest of a string on one line, with what was read of it in reverse. With `escapes` unset the
backslash is a character like any other. -/
private def lineString (quote : Char) (escapes : Bool) (read cs : List Char) :
    Option (String × List Char) :=
  match cs with
  | [] => none
  | c :: rest =>
    if c = quote then some (String.ofList read.reverse, rest)
    else if escapes && c = '\\' then
      match _ : escape rest with
      | some (e, after) => lineString quote escapes (e :: read) after
      | none => none
    else if isPlain c then lineString quote escapes (c :: read) rest
    else none
termination_by cs.length
decreasing_by
  · have := escape_shorter ‹_›
    simp only [List.length_cons]
    omega
  · simp

/-- The rest of a string of several lines, with what was read of it in reverse. Three quotes close
it; up to two more before them belong to the string. A line end counts as a line feed, and a
backslash at the end of a line takes the line end and all blank space after it away. -/
private def blockString (quote : Char) (escapes : Bool) (read cs : List Char) :
    Option (String × List Char) :=
  match cs with
  | [] => none
  | c :: rest =>
    if c = quote then
      let run := c :: rest.takeWhile (· = quote)
      let after := rest.dropWhile (· = quote)
      if run.length < 3 then blockString quote escapes (run ++ read) after
      else if run.length ≤ 5 then
        some (String.ofList (List.replicate (run.length - 3) quote ++ read).reverse, after)
      else none
    else
      match _ : newline (c :: rest) with
      | some (_, after) => blockString quote escapes ('\n' :: read) after
      | none =>
        if escapes && c = '\\' then
          match _ : newline (skipBlanks rest) with
          | some (_, after) => blockString quote escapes read (skipBlankLines after)
          | none =>
            match _ : escape rest with
            | some (e, after) => blockString quote escapes (e :: read) after
            | none => none
        else if isPlain c then blockString quote escapes (c :: read) rest
        else none
termination_by cs.length
decreasing_by
  · have := length_dropWhile_le (· = quote) rest
    simp only [List.length_cons]
    omega
  · exact newline_shorter ‹_›
  · have := newline_shorter ‹_›
    have := length_dropWhile_le isBlank rest
    have := length_skipBlankLines_le after
    simp only [skipBlanks, List.length_cons] at *
    omega
  · have := escape_shorter ‹_›
    simp only [List.length_cons]
    omega
  · simp

private theorem lineString_shorter {quote : Char} {escapes : Bool} {read cs rest : List Char}
    {s : String} (h : lineString quote escapes read cs = some (s, rest)) :
    rest.length < cs.length := by
  fun_induction lineString quote escapes read cs with
  | case1 => exact nomatch h
  | case2 => cases h; simp
  | case3 _ _ _ _ _ _ _ he ih =>
    have := ih h
    have := escape_shorter he
    simp only [List.length_cons]
    omega
  | case4 => exact nomatch h
  | case5 _ _ _ _ _ _ ih => exact Nat.lt_succ_of_lt (ih h)
  | case6 => exact nomatch h

/-- A line end right after the opening quotes is no part of the string. -/
private def block (quote : Char) (escapes : Bool) : Reader String := fun cs =>
  blockString quote escapes [] ((Reader.maybe newline cs).2)

def string : Reader String
  | '"' :: '"' :: '"' :: rest => block '"' true rest
  | '\'' :: '\'' :: '\'' :: rest => block '\'' false rest
  | '"' :: rest => lineString '"' true [] rest
  | '\'' :: rest => lineString '\'' false [] rest
  | _ => none

private def isBare (c : Char) : Bool := c.isAlphanum || c = '_' || c = '-'

/-- One part of a key: bare, or a string on one line. -/
private def keyPart : Reader String
  | '"' :: rest => lineString '"' true [] rest
  | '\'' :: rest => lineString '\'' false [] rest
  | c :: rest =>
    if isBare c then some (String.ofList (c :: rest.takeWhile isBare), rest.dropWhile isBare)
    else none
  | [] => none

private theorem keyPart_shorter {cs rest : List Char} {s : String}
    (h : keyPart cs = some (s, rest)) : rest.length < cs.length := by
  unfold keyPart at h
  split at h
  · exact Nat.lt_succ_of_lt (lineString_shorter h)
  · exact Nat.lt_succ_of_lt (lineString_shorter h)
  · next c after _ _ =>
    split at h
    · cases h
      exact Nat.lt_succ_of_le (length_dropWhile_le isBare after)
    · exact nomatch h
  · exact nomatch h

/-- The parts of a key, with dots between them and blanks around each, after those that were read
already, in reverse. -/
private def keyParts (read : List String) (cs : List Char) : Option (List String × List Char) :=
  match _ : keyPart (skipBlanks cs) with
  | none => none
  | some (part, rest) =>
    match _ : skipBlanks rest with
    | '.' :: after => keyParts (part :: read) after
    | after => some ((part :: read).reverse, after)
termination_by cs.length
decreasing_by
  have := keyPart_shorter ‹_›
  have := length_dropWhile_le isBlank cs
  have rest_le := length_dropWhile_le isBlank rest
  simp only [skipBlanks] at *
  simp only [‹rest.dropWhile isBlank = '.' :: after›, List.length_cons] at rest_le
  omega

/-- Nesting deeper than this is refused, in keys as in values. -/
def depthLimit : Nat := 80

def key : Reader (List String) := fun cs => do
  let (parts, rest) ← keyParts [] cs
  guard (parts.length < depthLimit)
  some (parts, rest)

end Scriptorium.Toml
