import Scriptorium.Toml.Scalar
import Scriptorium.Toml.Outline

/-! Reading a whole TOML 1.0 document into the table of its root. Arrays and inline tables may be
nested below `depthLimit`. -/

namespace Scriptorium.Toml

/-- The items of an array after its opening bracket, at most `count` of them, each read with
`item`. -/
private def items (item : Reader Value) (read : List Value) (cs : List Char) :
    (count : Nat) → Option (List Value × List Char)
  | 0 => none
  | count + 1 =>
    match skipLines false cs with
    | ']' :: rest => some (read.reverse, rest)
    | cs => do
      let (v, rest) ← item cs
      match skipLines false rest with
      | ',' :: rest => items item (v :: read) rest count
      | ']' :: rest => some ((v :: read).reverse, rest)
      | _ => none

/-- The pairs of an inline table after its opening brace, at least one and at most `count`. All of
it stands on one line, and no comma follows the last pair. -/
private def pairs (item : Reader Value) (read : OpenTable) (cs : List Char) :
    (count : Nat) → Option (Table × List Char)
  | 0 => none
  | count + 1 => do
    let (k, rest) ← key cs
    let (_, rest) ← Reader.literal "=" rest
    let (v, rest) ← item (skipBlanks rest)
    let read ← read.enter k (.leaf v)
    match skipBlanks rest with
    | ',' :: rest => pairs item read rest count
    | '\x7d' :: rest => some (Node.entryValues read.entries, rest)
    | _ => none

/-- A value with at most `depth` arrays and inline tables around one another and at most `count`
items in each. -/
private def valueWithin (count : Nat) : (depth : Nat) → Reader Value
  | 0 => fun cs =>
    match cs with
    | '[' :: _ | '\x7b' :: _ => none
    | _ => scalar cs
  | depth + 1 => fun cs =>
    match cs with
    | '[' :: rest =>
      (items (valueWithin count depth) [] rest count).map fun (vs, rest) => (.array vs, rest)
    | '\x7b' :: rest =>
      match skipBlanks rest with
      | '\x7d' :: rest => some (.table [], rest)
      | rest =>
        (pairs (valueWithin count depth) ⟨.header, []⟩ rest count).map fun (t, rest) =>
          (.table t, rest)
    | _ => scalar cs

/-- A value. No array in a text has more items than the text has characters, which `count` is at
least. -/
def value (count : Nat) : Reader Value := valueWithin count (depthLimit - 1)

/-- Takes in one line of a document that is not blank; the document has at most `count`
characters. -/
private def line (count : Nat) (o : Outline) (cs : List Char) : Option (Outline × List Char) :=
  match cs with
  | '[' :: '[' :: rest => do
    let (path, rest) ← key rest
    let (_, rest) ← Reader.literal "]]" rest
    some (← o.openItem path, ← lineEnd rest)
  | '[' :: rest => do
    let (path, rest) ← key rest
    let (_, rest) ← Reader.literal "]" rest
    some (← o.openTable path, ← lineEnd rest)
  | cs => do
    let (k, rest) ← key cs
    let (_, rest) ← Reader.literal "=" rest
    let (v, rest) ← value count (skipBlanks rest)
    some (← o.line k v, ← lineEnd rest)

/-- Takes in the lines of a document of at most `count` characters, at most `fuel` of them. -/
private def lines (count : Nat) (o : Outline) (cs : List Char) : (fuel : Nat) → Option Outline
  | 0 => none
  | fuel + 1 =>
    match skipBlanks cs with
    | [] => some o
    | '#' :: rest => (lineEnd ('#' :: rest)).bind fun rest => lines count o rest fuel
    | cs =>
      match newline cs with
      | some (_, rest) => lines count o rest fuel
      | none => (line count o cs).bind fun (o, rest) => lines count o rest fuel

/-- The root table of a document, or nothing if the text is no document. A byte order mark in front
is passed over. -/
def parse? (text : String) : Option Table := do
  let cs := match text.toList with
    | '\ufeff' :: rest => rest
    | cs => cs
  let count := cs.length + 1
  (← lines count .empty cs count).close

end Scriptorium.Toml
