import Scriptorium.Toml.Value

/-! A document as it grows line by line. Each table remembers how it came about, because that
decides who may add to it: a table that was only passed through on the way to another one may still
get a header of its own, a table made by a dotted key may only be extended by dotted keys from the
same place, and every other table is closed to both. -/

namespace Scriptorium.Toml

/-- How a table came about. -/
inductive Origin where
  /-- By its own header, as an item of an array of tables, or as the root. -/
  | header
  /-- On the way to a table below it. -/
  | passed
  /-- By a dotted key. -/
  | dotted
deriving DecidableEq, Inhabited

inductive Node where
  | leaf (value : Value)
  | table (origin : Origin) (entries : List (String × Node))
  /-- An array of tables, the last one first. -/
  | tables (reversed : List (List (String × Node)))
deriving Inhabited

namespace Node

mutual

def toValue : Node → Value
  | .leaf v => v
  | .table _ entries => .table (entryValues entries)
  | .tables reversed => .tables (tableValues [] reversed)

def entryValues : List (String × Node) → Table
  | [] => []
  | (k, n) :: rest => (k, n.toValue) :: entryValues rest

/-- The values of tables in reverse order, with those before them put after. -/
def tableValues (after : List Table) : List (List (String × Node)) → List Table
  | [] => after
  | t :: rest => tableValues (entryValues t :: after) rest

end

end Node

/-- An open table: its origin and its entries in order. -/
structure OpenTable where
  origin : Origin
  entries : List (String × Node)
deriving Inhabited

namespace OpenTable

def find? (t : OpenTable) (k : String) : Option Node := t.entries.lookup k

def append (t : OpenTable) (k : String) (n : Node) : OpenTable :=
  { t with entries := t.entries ++ [(k, n)] }

def replace (t : OpenTable) (k : String) (n : Node) : OpenTable :=
  { t with entries := t.entries.map fun e => if e.1 = k then (k, n) else e }

def erase (t : OpenTable) (k : String) : OpenTable :=
  { t with entries := t.entries.filter fun e => e.1 != k }

/-- Changes the table at the end of a path, making the tables that are missing on the way. A path
of headers leads through every table and through the last item of an array of tables; a path of
dotted keys does not lead into a table that has a header. -/
def modify (dotted : Bool) (f : OpenTable → Option OpenTable) :
    (path : List String) → OpenTable → Option OpenTable
  | [], t => f t
  | k :: path, t =>
    match t.find? k with
    | none => do
      let child ← modify dotted f path ⟨if dotted then .dotted else .passed, []⟩
      some (t.append k (.table child.origin child.entries))
    | some (.table origin entries) =>
      if dotted && origin = .header then none
      else do
        let child ← modify dotted f path ⟨origin, entries⟩
        some (t.replace k (.table child.origin child.entries))
    | some (.tables (last :: before)) => do
      let child ← modify dotted f path ⟨.header, last⟩
      some (t.replace k (.tables (child.entries :: before)))
    | some (.tables []) | some (.leaf _) => none

/-- Enters the value of a dotted key. The table that takes it is the one the line belongs to or was
itself made by a dotted key, and the key is new there. -/
def enter (t : OpenTable) (key : List String) (n : Node) : Option OpenTable :=
  match key.getLast? with
  | none => none
  | some last =>
    let path := key.dropLast
    t.modify true (fun target =>
      if (target.origin == .dotted) == path.isEmpty || (target.find? last).isSome then none
      else some (target.append last n)) path

end OpenTable

/-- The root, and the table that the lines belong to since the last header, which is put in its
place when the next header or the end comes. -/
structure Outline where
  root : OpenTable
  current : OpenTable
  path : List String
  isItem : Bool
deriving Inhabited

namespace Outline

def empty : Outline := ⟨⟨.header, []⟩, ⟨.header, []⟩, [], false⟩

/-- Puts the current table in its place. -/
def settle (o : Outline) : Option OpenTable :=
  match o.path.getLast? with
  | none => some o.current
  | some last =>
    o.root.modify false (fun parent =>
      match parent.find? last with
      | none =>
        if o.isItem then some (parent.append last (.tables [o.current.entries]))
        else some (parent.append last (.table o.current.origin o.current.entries))
      | some (.tables reversed) =>
        if o.isItem then some (parent.replace last (.tables (o.current.entries :: reversed)))
        else none
      | some _ => none) o.path.dropLast

/-- Begins a table by its header. Its place must be free, or held by a table that was only passed
through, which then is taken up again. -/
def openTable (o : Outline) (path : List String) : Option Outline := do
  let root ← o.settle
  let last ← path.getLast?
  let taken ← find root path
  match taken with
  | none => do
    let root ← root.modify false some path.dropLast
    some ⟨root, ⟨.header, []⟩, path, false⟩
  | some (.table .passed entries) => do
    let root ← root.modify false (fun parent => some (parent.erase last)) path.dropLast
    some ⟨root, ⟨.header, entries⟩, path, false⟩
  | some _ => none
where
  /-- What a path of headers leads to, if it leads through tables only. -/
  find (t : OpenTable) : List String → Option (Option Node)
    | [] => none
    | [k] => some (t.find? k)
    | k :: path =>
      match t.find? k with
      | none => some none
      | some (.table origin entries) => find ⟨origin, entries⟩ path
      | some (.tables (last :: _)) => find ⟨.header, last⟩ path
      | some _ => none

/-- Begins an item of an array of tables. -/
def openItem (o : Outline) (path : List String) : Option Outline := do
  let root ← o.settle
  let last ← path.getLast?
  let root ← root.modify false (fun parent =>
    match parent.find? last with
    | none => some (parent.append last (.tables []))
    | some (.tables _) => some parent
    | some _ => none) path.dropLast
  some ⟨root, ⟨.header, []⟩, path, true⟩

/-- A line with a key and its value. -/
def line (o : Outline) (key : List String) (v : Value) : Option Outline := do
  some { o with current := ← o.current.enter key (.leaf v) }

def close (o : Outline) : Option Table := do
  some (Node.entryValues (← o.settle).entries)

end Outline
end Scriptorium.Toml
