import Scriptorium.FileTree
import Scriptorium.Proofs.Except

/-! Where paths lead, and what changes to a tree leave in place. A path leads to the same location
in every tree in which it leads anywhere (`FileTree.locate_eq_ok`). Making directories changes no
location that held something (`FileTree.Grows`), and writing a file changes one location only
(`FileTree.write_eq_ok`). Directories stay, so that a path that can be followed stays so. -/

namespace Scriptorium

/-! ### Paths -/

/-- Where a name leads from a location. -/
def Location.enter (l : Location) (name : String) : Location :=
  if name = "." then l else if name = ".." then l.dropLast else l ++ [name]

namespace Path

/-- The location that a path leads to wherever it can be followed. -/
def location (p : Path) : Location := p.names.foldl Location.enter []

theorem segments_ne_nil (cs : List Char) : segments cs ≠ [] := by
  cases cs with
  | nil => exact List.cons_ne_nil _ _
  | cons c cs =>
    rw [segments]
    split
    · exact List.cons_ne_nil _ _
    · split <;> exact List.cons_ne_nil _ _

theorem segments_append_slash (cs ds : List Char) :
    segments (cs ++ '/' :: ds) = segments cs ++ segments ds := by
  induction cs with
  | nil => simp [segments]
  | cons c cs ih =>
    rw [List.cons_append, segments, segments, ih]
    by_cases slash : c = '/'
    · rw [if_pos slash, if_pos slash, List.cons_append]
    · rw [if_neg slash, if_neg slash]
      cases h : segments cs with
      | nil => exact absurd h (segments_ne_nil cs)
      | cons s rest => rfl

theorem segments_of_not_mem {cs : List Char} (h : '/' ∉ cs) : segments cs = [cs] := by
  induction cs with
  | nil => rfl
  | cons c cs ih =>
    have hc : c ≠ '/' := fun slash => h (slash ▸ List.mem_cons_self)
    rw [segments, if_neg hc, ih fun hcs => h (List.mem_cons_of_mem c hcs)]

/-- A text that can be the name of one thing in a directory. -/
structure IsName (name : String) : Prop where
  nonempty : name ≠ ""
  noSlash : '/' ∉ name.toList

theorem names_of_isName {name : String} (h : IsName name) : names name = [name] := by
  rw [names, segments_of_not_mem h.noSlash]
  simp [h.nonempty]

private theorem names_append_slash (p q : String) (cs : List Char)
    (hp : p.toList = cs ++ '/' :: q.toList) :
    names p = names (String.ofList cs) ++ names q := by
  simp only [names, hp, segments_append_slash, List.map_append, List.filter_append,
    String.toList_ofList]

/-- A path that does not start at the top goes on from where the path before it leads. -/
theorem names_join_of_relative (base : Path) {p : Path} (relative : p.toList.head? ≠ some '/') :
    (base.join p).names = base.names ++ p.names := by
  rw [join, if_neg relative]
  split
  · next closed =>
    cases last : base.toList.getLast? with
    | none =>
      have empty : base = "" := String.toList_eq_nil_iff.mp (List.getLast?_eq_none_iff.mp last)
      rw [empty, String.empty_append]
      rfl
    | some c =>
      obtain rfl : c = '/' := by simpa [last] using closed
      obtain ⟨cs, hcs⟩ := List.getLast?_eq_some_iff.mp last
      have base_names : base.names = names (String.ofList cs) ++ names "" :=
        names_append_slash base "" cs (by rw [hcs]; rfl)
      have nothing : names "" = [] := rfl
      have chars : (base ++ p).toList = cs ++ '/' :: p.toList := by
        rw [String.toList_append, hcs, List.append_assoc]
        rfl
      rw [names_append_slash _ _ _ chars, base_names, nothing, List.append_nil]
  · have chars : (base ++ "/" ++ p).toList = base.toList ++ '/' :: p.toList := by
      simp only [String.toList_append, List.append_assoc]
      rfl
    rw [names_append_slash _ _ _ chars, String.ofList_toList]

theorem IsName.relative {name : String} (h : IsName name) : name.toList.head? ≠ some '/' :=
  fun rooted => h.noSlash (List.mem_of_head? rooted)

theorem names_join (base : Path) {name : String} (h : IsName name) :
    (base.join name).names = base.names ++ [name] := by
  rw [names_join_of_relative base h.relative, names_of_isName h]

theorem location_join (base : Path) {name : String} (h : IsName name) :
    (base.join name).location = Location.enter base.location name := by
  rw [location, names_join base h, List.foldl_append]
  rfl

/-- A name that stands for a thing of its own in a directory. -/
structure IsProperName (name : String) : Prop extends IsName name where
  notDot : name ≠ "."
  notDots : name ≠ ".."

theorem isProperName_iff {name : String} (noSlash : '/' ∉ name.toList) :
    IsProperName name ↔ ¬ (name = "" ∨ name = "." ∨ name = "..") := by
  constructor
  · intro h
    rintro (empty | dot | dots)
    · exact h.nonempty empty
    · exact h.notDot dot
    · exact h.notDots dots
  · intro h
    exact ⟨⟨fun empty => h (.inl empty), noSlash⟩, fun dot => h (.inr (.inl dot)),
      fun dots => h (.inr (.inr dots))⟩

/-- Names of more than two characters are none of the special ones. -/
theorem isProperName_of_long {name : String} (noSlash : '/' ∉ name.toList)
    (long : 2 < name.toList.length) : IsProperName name := by
  refine (isProperName_iff noSlash).mpr ?_
  rintro (rfl | rfl | rfl)
  all_goals exact absurd long (by decide)

theorem location_join_proper (base : Path) {name : String} (h : IsProperName name) :
    (base.join name).location = base.location ++ [name] := by
  rw [location_join base h.toIsName, Location.enter, if_neg h.notDot, if_neg h.notDots]

end Path

namespace FileTree

variable {t t' : FileTree} {p : Path} {l : Location} {names : List String} {content : Bytes}

/-! ### Following a path -/

theorem walk_eq_ok {start : Location} (h : t.walk start names = .ok l) :
    l = names.foldl Location.enter start := by
  induction names generalizing start with
  | nil => cases h; rfl
  | cons n names ih =>
    rw [walk] at h
    rw [List.foldl_cons, Location.enter]
    split at h
    · next dot => rw [if_pos dot]; exact ih h
    · next notDot =>
      rw [if_neg notDot]
      split at h
      · next dots => rw [if_pos dots]; exact ih h
      · next notDots =>
        rw [if_neg notDots]
        obtain ⟨-, -, h⟩ := bind_eq_ok.mp h
        split at h
        · cases h
        · cases h
        · exact ih h

/-- A tree that has the directories of another one can be walked in the same way. -/
theorem walk_mono (dirs : ∀ l, t.get? l = some .directory → t'.get? l = some .directory)
    {start : Location} (h : t.walk start names = .ok l) : t'.walk start names = .ok l := by
  induction names generalizing start with
  | nil => exact h
  | cons n names ih =>
    rw [walk] at h ⊢
    split at h
    · next dot => rw [if_pos dot]; exact ih h
    · next notDot =>
      rw [if_neg notDot]
      split at h
      · next dots => rw [if_pos dots]; exact ih h
      · next notDots =>
        rw [if_neg notDots]
        obtain ⟨u, checked, h⟩ := bind_eq_ok.mp h
        refine bind_eq_ok.mpr ⟨u, checked, ?_⟩
        split at h
        · cases h
        · cases h
        · next found => rw [dirs _ found]; exact ih h

theorem locateNames_eq_ok (h : t.locateNames names = .ok l) :
    l = names.foldl Location.enter [] := by
  rw [locateNames] at h
  split at h
  · next none_ =>
    cases h
    rw [List.getLast?_eq_none_iff.mp none_]
    rfl
  · next last hlast =>
    obtain ⟨front, rfl⟩ := List.getLast?_eq_some_iff.mp hlast
    obtain ⟨around, walked, h⟩ := bind_eq_ok.mp h
    rw [List.dropLast_concat] at walked
    obtain rfl := walk_eq_ok walked
    rw [List.foldl_append, List.foldl_cons, List.foldl_nil, Location.enter]
    split at h
    · next dot => cases h; rw [if_pos dot]
    · next notDot =>
      rw [if_neg notDot]
      split at h
      · next dots => cases h; rw [if_pos dots]
      · next notDots =>
        obtain ⟨-, -, h⟩ := bind_eq_ok.mp h
        cases h
        rw [if_neg notDots]

theorem locateNames_mono (dirs : ∀ l, t.get? l = some .directory → t'.get? l = some .directory)
    (h : t.locateNames names = .ok l) : t'.locateNames names = .ok l := by
  rw [locateNames] at h ⊢
  split at h
  · exact h
  · obtain ⟨around, walked, h⟩ := bind_eq_ok.mp h
    exact bind_eq_ok.mpr ⟨around, walk_mono dirs walked, h⟩

theorem route_eq_ok (h : route p = .ok names) : names = p.names ∧ (Bytes.utf8 p).length ≤ 4095 := by
  rw [route] at h
  split at h
  · cases h
  · split at h
    · cases h
    · next short =>
      cases h
      exact ⟨rfl, Nat.not_lt.mp short⟩

theorem locate_eq_ok (h : t.locate p = .ok l) : l = p.location := by
  obtain ⟨names, routed, h⟩ := bind_eq_ok.mp h
  obtain ⟨rfl, -⟩ := route_eq_ok routed
  rw [locateNames_eq_ok h, Path.location]
  split
  · rw [List.foldl_append]
    rfl
  · rfl

theorem locate_mono (dirs : ∀ l, t.get? l = some .directory → t'.get? l = some .directory)
    (h : t.locate p = .ok l) : t'.locate p = .ok l := by
  obtain ⟨names, routed, h⟩ := bind_eq_ok.mp h
  exact bind_eq_ok.mpr ⟨names, routed, locateNames_mono dirs h⟩

/-! ### Reading and writing files -/

theorem read_eq_ok :
    t.read p = .ok content ↔
      t.locate p = .ok p.location ∧ t.get? p.location = some (.file content) := by
  constructor
  · intro h
    obtain ⟨l, found, h⟩ := bind_eq_ok.mp h
    obtain rfl := locate_eq_ok found
    split at h
    · cases h
    · cases h
    · next file =>
      cases h
      exact ⟨found, file⟩
  · rintro ⟨found, file⟩
    refine bind_eq_ok.mpr ⟨_, found, ?_⟩
    rw [file]

/-- What writing a file asks for and what it changes. -/
theorem write_eq_ok (h : t.write p content = .ok t') :
    t.locate p = .ok p.location ∧ t.get? p.location ≠ some .directory ∧
      ∀ l, t'.get? l = if l = p.location then some (.file content) else t.get? l := by
  obtain ⟨l, found, h⟩ := bind_eq_ok.mp h
  obtain rfl := locate_eq_ok found
  split at h
  · cases h
  · next notDirectory =>
    cases h
    refine ⟨found, notDirectory, fun l => get?_set t _ fun top => ?_⟩
    rw [top] at notDirectory
    exact notDirectory rfl

theorem replace_eq_ok {dir : Path} (h : t.replace dir p content = .ok t') :
    t.write p content = .ok t' := by
  obtain ⟨_, -, walked⟩ := bind_eq_ok.mp h
  obtain ⟨_, -, written⟩ := bind_eq_ok.mp walked
  exact written

theorem write_directory (h : t.write p content = .ok t') (dir : t.get? l = some .directory) :
    t'.get? l = some .directory := by
  obtain ⟨-, notDirectory, changed⟩ := write_eq_ok h
  have other : l ≠ p.location := fun same => notDirectory (same ▸ dir)
  rw [changed, if_neg other, dir]

theorem read_of_write (h : t.write p content = .ok t') : t'.read p = .ok content := by
  obtain ⟨found, -, changed⟩ := write_eq_ok h
  exact read_eq_ok.mpr ⟨locate_mono (fun _ => write_directory h) found, by rw [changed, if_pos rfl]⟩

theorem read_of_write_elsewhere {q : Path} {other : Bytes} (h : t.write q other = .ok t')
    (apart : p.location ≠ q.location) (file : t.read p = .ok content) :
    t'.read p = .ok content := by
  obtain ⟨-, -, changed⟩ := write_eq_ok h
  obtain ⟨found, holds⟩ := read_eq_ok.mp file
  refine read_eq_ok.mpr ⟨locate_mono (fun _ => write_directory h) found, ?_⟩
  rw [changed, if_neg apart, holds]

/-! ### Making directories -/

/-- Only directories were added, and only where there was nothing. -/
def Grows (t t' : FileTree) : Prop :=
  ∀ l, t'.get? l = t.get? l ∨ t.get? l = none ∧ t'.get? l = some .directory

namespace Grows

theorem refl (t : FileTree) : t.Grows t := fun _ => .inl rfl

theorem trans {u : FileTree} (h : t.Grows u) (h' : u.Grows t') : t.Grows t' := by
  intro l
  rcases h l with same | ⟨nothing, dir⟩
  · rcases h' l with same' | ⟨nothing', dir'⟩
    · exact .inl (same'.trans same)
    · exact .inr ⟨same ▸ nothing', dir'⟩
  · rcases h' l with same' | ⟨nothing', -⟩
    · exact .inr ⟨nothing, same'.trans dir⟩
    · rw [dir] at nothing'
      cases nothing'

theorem directory (h : t.Grows t') (dir : t.get? l = some .directory) :
    t'.get? l = some .directory := by
  rcases h l with same | ⟨nothing, -⟩
  · exact same.trans dir
  · rw [dir] at nothing
    cases nothing

theorem file_iff (h : t.Grows t') :
    t'.get? l = some (.file content) ↔ t.get? l = some (.file content) := by
  rcases h l with same | ⟨nothing, dir⟩
  · rw [same]
  · simp [nothing, dir]

theorem read (h : t.Grows t') (file : t.read p = .ok content) : t'.read p = .ok content := by
  obtain ⟨found, holds⟩ := read_eq_ok.mp file
  exact read_eq_ok.mpr ⟨locate_mono (fun _ => h.directory) found, h.file_iff.mpr holds⟩

end Grows

theorem makeDirectory_grows (h : t.makeDirectory names = .ok t') : t.Grows t' := by
  obtain ⟨l, found, h⟩ := bind_eq_ok.mp h
  split at h
  · cases h
  · next nothing =>
    cases h
    have notTop : l ≠ [] := fun top => by rw [top] at nothing; cases nothing
    intro m
    rw [get?_set t _ notTop]
    split
    · next same => exact .inr ⟨same ▸ nothing, rfl⟩
    · exact .inl rfl

theorem makeNames_grows (t : FileTree) (names : List String) : t.Grows (t.makeNames names).1 := by
  fun_induction FileTree.makeNames t names with
  | case1 names t' made => exact makeDirectory_grows made
  | case2 names => exact Grows.refl t
  | case3 names _ n rest _ t' e around ih =>
    rw [around] at ih
    exact ih
  | case4 names _ n rest _ u around t' made ih =>
    rw [around] at ih
    exact ih.trans (makeDirectory_grows made)
  | case5 names _ _ n rest _ u around e _ ih =>
    rw [around] at ih
    exact ih
  | case6 names => exact Grows.refl t

theorem makeDirectories_grows (t : FileTree) (p : Path) : t.Grows (t.makeDirectories p).1 := by
  rw [makeDirectories]
  split
  · exact Grows.refl t
  · exact makeNames_grows t _

theorem directory_of_isDirectory (h : t.isDirectory names = true) :
    t.get? (names.foldl Location.enter []) = some .directory := by
  rw [isDirectory] at h
  split at h
  · next l found =>
    rw [← locateNames_eq_ok found]
    exact of_decide_eq_true h
  · cases h

theorem directory_of_makeDirectory (h : t.makeDirectory names = .ok t') :
    t'.get? (names.foldl Location.enter []) = some .directory := by
  obtain ⟨l, found, h⟩ := bind_eq_ok.mp h
  split at h
  · cases h
  · next nothing =>
    cases h
    have notTop : l ≠ [] := fun top => by rw [top] at nothing; cases nothing
    rw [← locateNames_eq_ok found, get?_set t _ notTop, if_pos rfl]

/-- A directory that was made, or need not be, is there. -/
theorem directory_of_makeNames (h : t.makeNames names = (t', .ok ())) :
    t'.get? (names.foldl Location.enter []) = some .directory := by
  -- The directories around are made in a call of its own, about which nothing is needed here.
  rw [makeNames] at h
  split at h
  · next made =>
    cases h
    exact directory_of_makeDirectory made
  · split at h
    · cases h
    · split at h
      · cases h
      · split at h
        · next made =>
          cases h
          exact directory_of_makeDirectory made
        · dsimp only at h
          split at h
          · next there =>
            cases h
            exact directory_of_isDirectory there
          · cases h
  · dsimp only at h
    split at h
    · next there =>
      cases h
      exact directory_of_isDirectory there
    · cases h

theorem directory_of_makeDirectories (h : t.makeDirectories p = (t', .ok ())) :
    t'.get? p.location = some .directory := by
  rw [makeDirectories] at h
  split at h
  · cases h
  · next names routed =>
    obtain ⟨rfl, -⟩ := route_eq_ok routed
    exact directory_of_makeNames h

/-- A directory that could be made has a path of use. -/
theorem length_of_makeDirectories (h : t.makeDirectories p = (t', .ok ())) :
    (Bytes.utf8 p).length ≤ 4095 := by
  rw [makeDirectories] at h
  split at h
  · cases h
  · next names routed => exact (route_eq_ok routed).2

end FileTree
end Scriptorium
