import Scriptorium.Bytes

/-! A tree of directories and files as a value. A path is a text of names with slashes between
them; `..` goes up one directory, at the top nowhere, `.` stays where it is, and empty names are
none. Operations give the tree they leave behind and say what stood in their way, if something did.
What a location holds after a change is said by `get?_set` and `get?_erase`. -/

namespace Scriptorium

/-- A path as it is written. -/
abbrev Path := String

namespace Path

/-- A path seen from another one: a path from the top stands for itself. -/
def join (base name : Path) : Path :=
  if name.toList.head? = some '/' then name
  else if base.toList.getLast?.all (· = '/') then base ++ name
  else base ++ "/" ++ name

/-- What stands between the slashes. -/
def segments : List Char → List (List Char)
  | [] => [[]]
  | c :: cs =>
    if c = '/' then [] :: segments cs
    else
      match segments cs with
      | [] => [[c]]
      | s :: rest => (c :: s) :: rest

/-- The names along a path. -/
def names (p : Path) : List String :=
  ((segments p.toList).map String.ofList).filter (· != "")

/-- A path that ends in a slash leads to a directory or to nothing. -/
def endsInSlash (p : Path) : Bool := p.toList.getLast? = some '/'

/-- The path without its last name, where `.` does not count as a name. -/
def parent (p : Path) : Path :=
  let trim (reversed : List (List Char)) := reversed.dropWhile fun s => s.isEmpty || s == ['.']
  let around := trim (trim (segments p.toList).reverse).tail
  String.ofList (['/'].intercalate around.reverse)

/-- A null character makes a path unusable as a whole. -/
def hasNull (p : Path) : Bool := p.toList.contains '\x00'

end Path

/-- A place in the tree: the names that lead there from the top, none of them `..`. -/
abbrev Location := List String

namespace FileTree

inductive Entry where
  | directory
  | file (content : Bytes)
deriving DecidableEq, Inhabited

inductive Error where
  | notFound
  | notADirectory
  | isADirectory
  | alreadyExists
  | notEmpty
  | nameTooLong
  | invalidName
deriving DecidableEq

def Error.message : Error → String
  | .notFound => "no such file or directory"
  | .notADirectory => "not a directory"
  | .isADirectory => "is a directory"
  | .alreadyExists => "file exists"
  | .notEmpty => "directory not empty"
  | .nameTooLong => "file name too long"
  | .invalidName => "invalid file name"

end FileTree

/-- What is found where. A location that is not listed holds nothing; the top is a directory. -/
structure FileTree where
  entries : List (Location × FileTree.Entry)
deriving DecidableEq, Inhabited

namespace FileTree

def empty : FileTree := ⟨[]⟩

def get? (t : FileTree) (l : Location) : Option Entry :=
  if l = [] then some .directory else t.entries.lookup l

def set (t : FileTree) (l : Location) (e : Entry) : FileTree :=
  ⟨(l, e) :: t.entries.filter fun x => x.1 != l⟩

/-- Removes what a location holds and all below it. -/
def erase (t : FileTree) (l : Location) : FileTree :=
  ⟨t.entries.filter fun x => !l.isPrefixOf x.1⟩

private theorem lookup_filter_of_keep (keep : Location → Bool) {l : Location}
    (es : List (Location × Entry)) (h : keep l = true) :
    (es.filter fun x => keep x.1).lookup l = es.lookup l := by
  induction es with
  | nil => rfl
  | cons e es ih =>
    obtain ⟨k, v⟩ := e
    by_cases same : l = k
    · subst same
      simp [h]
    · by_cases hk : keep k = true
      · simp [hk, List.lookup_cons, beq_eq_false_iff_ne.mpr same, ih]
      · simp [hk, List.lookup_cons, beq_eq_false_iff_ne.mpr same, ih]

private theorem lookup_filter_of_drop (keep : Location → Bool) {l : Location}
    (es : List (Location × Entry)) (h : keep l = false) :
    (es.filter fun x => keep x.1).lookup l = none := by
  induction es with
  | nil => rfl
  | cons e es ih =>
    obtain ⟨k, v⟩ := e
    by_cases hk : keep k = true
    · have same : l ≠ k := fun e => by simp [e, hk] at h
      simp [hk, List.lookup_cons, beq_eq_false_iff_ne.mpr same, ih]
    · simp [hk, ih]

theorem get?_set (t : FileTree) {l m : Location} (e : Entry) (h : l ≠ []) :
    (t.set l e).get? m = if m = l then some e else t.get? m := by
  by_cases top : m = []
  · subst top
    simp [get?, h.symm]
  · by_cases same : m = l
    · subst same
      simp [get?, set, top]
    · simp only [get?, set, top, same, if_false, List.lookup_cons, beq_eq_false_iff_ne.mpr same]
      exact lookup_filter_of_keep (fun k => k != l) t.entries (by simpa using same)

theorem get?_erase (t : FileTree) {l m : Location} (h : m ≠ []) :
    (t.erase l).get? m = if l.isPrefixOf m then none else t.get? m := by
  simp only [get?, erase, h, if_false]
  split
  · next hp => exact lookup_filter_of_drop (fun k => !l.isPrefixOf k) t.entries (by simp [hp])
  · next hp =>
    have keep : (!l.isPrefixOf m) = true := by rw [Bool.eq_false_iff.mpr hp]; rfl
    exact lookup_filter_of_keep (fun k => !l.isPrefixOf k) t.entries keep

/-- A name has at most 255 octets. -/
def checkName (n : String) : Except Error Unit :=
  if 255 < (Bytes.utf8 n).length then .error .nameTooLong else .ok ()

/-- Goes from a directory through directories. -/
def walk (t : FileTree) : (start : Location) → (names : List String) → Except Error Location
  | start, [] => .ok start
  | start, n :: names =>
    if n = "." then t.walk start names
    else if n = ".." then t.walk start.dropLast names
    else do
      checkName n
      match t.get? (start ++ [n]) with
      | none => .error .notFound
      | some (.file _) => .error .notADirectory
      | some .directory => t.walk (start ++ [n]) names

/-- The location that names lead to. The directory around it exists; whether the location itself
holds something is left open. -/
def locateNames (t : FileTree) (names : List String) : Except Error Location :=
  match names.getLast? with
  | none => .ok []
  | some last => do
    let around ← t.walk [] names.dropLast
    if last = "." then .ok around
    else if last = ".." then .ok around.dropLast
    else
      checkName last
      .ok (around ++ [last])

/-- The names along a path that is of use: it has no null character and at most 4095 octets. -/
@[irreducible]
def route (p : Path) : Except Error (List String) :=
  if p.hasNull then .error .invalidName
  else if 4095 < (Bytes.utf8 p).length then .error .nameTooLong
  else .ok p.names

/-- The location that a path leads to. If it ends in a slash, the location is a directory. -/
def locate (t : FileTree) (p : Path) : Except Error Location := do
  let names ← route p
  t.locateNames (if p.endsInSlash then names ++ ["."] else names)

def isDirectory (t : FileTree) (names : List String) : Bool :=
  match t.locateNames names with
  | .ok l => t.get? l = some .directory
  | .error _ => false

def read (t : FileTree) (p : Path) : Except Error Bytes := do
  match t.get? (← t.locate p) with
  | none => .error .notFound
  | some .directory => .error .isADirectory
  | some (.file content) => .ok content

/-- Writes a file in a directory that exists, in place of the file that was there. -/
def write (t : FileTree) (p : Path) (content : Bytes) : Except Error FileTree := do
  let l ← t.locate p
  match t.get? l with
  | some .directory => .error .isADirectory
  | _ => .ok (t.set l (.file content))

/-- Writes a file beside others in `dir` under a name of its own and then moves it to `p` in one
step, so that `p` has its old content or all of the new one. -/
def replace (t : FileTree) (dir p : Path) (content : Bytes) : Except Error FileTree := do
  let _ ← t.walk [] (← route dir)
  t.write p content

/-- Makes one directory in another one that exists. -/
def makeDirectory (t : FileTree) (names : List String) : Except Error FileTree := do
  let l ← t.locateNames names
  match t.get? l with
  | some _ => .error .alreadyExists
  | none => .ok (t.set l .directory)

/-- Makes a directory and those around it that are missing. The ones made before an obstacle was
met stay, and an obstacle that is a directory is none. A directory that is called by `.` at the end
is not made, only those around it are. -/
def makeNames (t : FileTree) (names : List String) : FileTree × Except Error Unit :=
  let settled (t : FileTree) (e : Error) : Except Error Unit :=
    if t.isDirectory names then .ok () else .error e
  match t.makeDirectory names with
  | .ok t => (t, .ok ())
  | .error .notFound =>
    match _ : names.filter (· ≠ ".") with
    | [] => (t, .error .notFound)
    | n :: rest =>
      match t.makeNames (n :: rest).dropLast with
      | (t, .error e) => (t, .error e)
      | (t, .ok ()) =>
        match t.makeDirectory names with
        | .ok t => (t, .ok ())
        | .error e => (t, settled t e)
  | .error e => (t, settled t e)
termination_by names.length
decreasing_by
  have := List.length_filter_le (· ≠ ".") names
  simp only [‹names.filter _ = n :: rest›, List.length_cons] at this
  simp only [List.length_dropLast, List.length_cons]
  omega

@[inherit_doc makeNames]
def makeDirectories (t : FileTree) (p : Path) : FileTree × Except Error Unit :=
  match route p with
  | .error e => (t, .error e)
  | .ok names => t.makeNames names

/-- Removes a file. -/
def removeFile (t : FileTree) (p : Path) : Except Error FileTree := do
  let l ← t.locate p
  match t.get? l with
  | none => .error .notFound
  | some .directory => .error .isADirectory
  | some (.file _) => .ok (t.erase l)

/-- Removes a directory with nothing in it. It has to be called by its name. -/
def removeEmpty (t : FileTree) (p : Path) : Except Error FileTree := do
  let names ← route p
  let around ← t.walk [] names.dropLast
  match names.getLast? with
  | none | some "." => .error .invalidName
  | some ".." => .error .notEmpty
  | some last => .ok (t.erase (around ++ [last]))

/-- Removes all in a directory and then the directory, if it can still be found by then. -/
def removeDirectory (t : FileTree) (p : Path) : FileTree × Except Error Unit :=
  match t.locate p with
  | .error e => (t, .error e)
  | .ok l =>
    match t.get? l with
    | none => (t, .error .notFound)
    | some (.file _) => (t, .error .notADirectory)
    | some .directory =>
      let t := (t.erase l).set l .directory
      match t.removeEmpty p with
      | .ok t => (t, .ok ())
      | .error .notFound => (t, .ok ())
      | .error e => (t, .error e)

/-- The files below a location, by the path that leads there from it, in ascending order. -/
def filesBelow (t : FileTree) (l : Location) : List (Path × Bytes) :=
  let below := t.entries.filterMap fun
    | (k, .file content) =>
      if l.isPrefixOf k then some ("/".intercalate (k.drop l.length), content) else none
    | (_, .directory) => none
  below.mergeSort fun a b => a.1 ≤ b.1

end FileTree
end Scriptorium
