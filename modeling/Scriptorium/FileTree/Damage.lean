import Scriptorium.FileTree

/-! Changes to a file that no program meant to make: some bits flipped, the end cut off, octets
added. Places are counted from the start or, if negative, from the end. -/

namespace Scriptorium

structure Damage where
  /-- Places and the bits to flip there. -/
  flips : List (Int × UInt8) := []
  /-- What is kept of the file. -/
  keep : Option Int := none
  added : Bytes := []
deriving Inhabited

namespace Damage

/-- A place in a file of the given length; one before the start is no place. -/
def place? (length : Nat) (at_ : Int) : Option Nat :=
  let n := if at_ < 0 then at_ + length else at_
  if n < 0 then none else some n.toNat

private def flip (content : Bytes) (f : Int × UInt8) : Bytes :=
  match place? content.length f.1 with
  | none => content
  | some n => content.modify n (· ^^^ f.2)

def apply (d : Damage) (content : Bytes) : Bytes :=
  let content := d.flips.foldl flip content
  let content := match d.keep with
    | none => content
    | some n => content.take ((place? content.length n).getD 0)
  content ++ d.added

end Damage

namespace FileTree

def damage (t : FileTree) (p : Path) (d : Damage) : Except Error FileTree := do
  t.write p (d.apply (← t.read p))

/-- Copies a file. The one that is written is emptied before anything is read, so that nothing is
left of a file that is copied onto itself. -/
def copy (t : FileTree) (p copy : Path) : Except Error FileTree := do
  let _ ← t.read p
  let t ← t.write copy []
  t.write copy (← t.read p)

/-- Writes a file and makes the directories around it that are missing. -/
def writeDeep (t : FileTree) (p : Path) (content : Bytes) : FileTree × Except Error Unit :=
  match t.makeDirectories p.parent with
  | (t, .error e) => (t, .error e)
  | (t, .ok ()) =>
    match t.write p content with
    | .ok t => (t, .ok ())
    | .error e => (t, .error e)

end FileTree
end Scriptorium
