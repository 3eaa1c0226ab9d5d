import Scriptorium.Generator

/-! A generator that knows nothing of a script but the places of two words in its text. Two signs
`@` in a row are an error. Otherwise the text itself is the code of the program, and each word
`function` in it stands for a nested unit, whose code is its place. -/

namespace Scriptorium

namespace Bytes

/-- Where a word begins in a text, overlaps excepted, after the places that were found already, in
reverse. The first `skip` octets, which belong to an earlier occurrence, are passed over; `place`
is the place of the first octet. -/
def occurrencesFrom (word : Bytes) (found : List Nat) (skip place : Nat) : Bytes → List Nat
  | [] => found.reverse
  | b :: rest =>
    match skip with
    | skip + 1 => occurrencesFrom word found skip (place + 1) rest
    | 0 =>
      if word.isPrefixOf (b :: rest) then
        occurrencesFrom word (place :: found) (word.length - 1) (place + 1) rest
      else occurrencesFrom word found 0 (place + 1) rest

def occurrences (word text : Bytes) : List Nat := occurrencesFrom word [] 0 0 text

end Bytes

namespace Generator

/-- The complaint about two signs `@` at a place of a source. -/
def strayAt (source : Source) (place : Nat) : Diagnostic where
  severity := .error
  code := ⟨.syntactic, 1⟩
  message := "unexpected token `@`"
  sourceName := source.name
  span := ⟨UInt32.ofNat place, UInt32.ofNat (place + 2)⟩
  notes := ["`@` is only valid inside decorators"]

/-- The nested unit for the word `function` at a place. -/
def nested (place : Nat) : SubUnit :=
  let name := s!"fn{place}"
  ⟨⟨name, Bytes.word 8 place⟩, ⟨name, 0, 0⟩⟩

def outline : Generator := fun source _ =>
  let text := Bytes.utf8 source.text
  match (Bytes.occurrences (Bytes.utf8 "@@") text).head? with
  | some place => ⟨[strayAt source place], none⟩
  | none =>
    let places := Bytes.occurrences (Bytes.utf8 "function") text
    let subs := places.mapIdx fun i place => (UInt32.ofNat (i + 1), nested place)
    ⟨[], some ⟨⟨"program", text⟩, .ofList subs, [.number (.ofNat text.length)]⟩⟩

end Generator
end Scriptorium
