import Scriptorium.Proofs.Record.Store

/-! Where stores and their records are. The directory of a store is one name below its root, and a
record is one name below the directory of its store, apart from what a filter of single characters
lets through (`RecordStore.openAt_placement`): a version may be empty or one of the names by which
directories call themselves and those around them, and a kind of records may have slashes in it. -/

namespace Scriptorium

namespace Path

variable {base p : Path} {name name' : String}

/-- The path of something in the directory of another path. -/
def IsChildOf (p base : Path) : Prop :=
  ∃ name, IsProperName name ∧ p = base.join name

/-- What is joined to a path can be told from the result, unless it starts at the top. -/
theorem join_right_injective (base : Path) (relative : name.toList.head? ≠ some '/')
    (relative' : name'.toList.head? ≠ some '/') (h : base.join name = base.join name') :
    name = name' := by
  rw [join, join, if_neg relative, if_neg relative'] at h
  apply String.toList_inj.mp
  split at h
  all_goals
    have chars := congrArg String.toList h
    simp only [String.toList_append] at chars
    exact List.append_cancel_left chars

/-- Joined to a path, exactly the proper names are things in its directory. -/
theorem isChildOf_join (relative : name.toList.head? ≠ some '/') :
    (base.join name).IsChildOf base ↔ IsProperName name := by
  constructor
  · rintro ⟨name', proper, same⟩
    rw [join_right_injective base relative proper.relative same]
    exact proper
  · exact fun proper => ⟨name, proper, rfl⟩

theorem location_join_empty (base : Path) : (base.join "").location = base.location := by
  have nothing : names "" = [] := rfl
  rw [location, names_join_of_relative base (by decide), nothing, List.append_nil, location]

end Path

namespace RecordStore

variable {s : RecordStore} {t t' : FileTree} {root : Path} {version : String} {profile : Profile}

/-! ### Directories -/

theorem noSlash_directoryName (version : String) : '/' ∉ (directoryName version).toList := by
  intro slash
  simp only [directoryName, String.toList_ofList, List.mem_map] at slash
  obtain ⟨c, -, slash⟩ := slash
  split at slash
  · next safe =>
    subst slash
    exact absurd safe (by decide)
  · exact absurd slash (by decide)

/-- A directory name without the character that stands for others is the version itself. -/
theorem eq_of_directoryName {name : String} (plain : '_' ∉ name.toList)
    (h : directoryName version = name) : version = name := by
  have chars := congrArg String.toList h
  rw [directoryName, String.toList_ofList] at chars
  rw [← chars] at plain
  -- The filter replaces characters one by one, and none of them was replaced.
  apply String.toList_inj.mp
  rw [← chars]
  refine (List.map_id _).symm.trans (List.map_congr_left fun c mem => ?_)
  have kept := fun replaced => plain (List.mem_map.mpr ⟨c, mem, replaced⟩)
  split
  · rfl
  · next unsafe_ => exact absurd (if_neg unsafe_) kept

/-- The versions whose directories have no names of their own. -/
def Nameless (version : String) : Prop := version = "" ∨ version = "." ∨ version = ".."

instance (version : String) : Decidable (Nameless version) := inferInstanceAs (Decidable (_ ∨ _))

theorem nameless_directoryName : Nameless (directoryName version) ↔ Nameless version := by
  constructor
  · rintro (empty | dot | dots)
    · exact .inl (eq_of_directoryName (by decide) empty)
    · exact .inr (.inl (eq_of_directoryName (by decide) dot))
    · exact .inr (.inr (eq_of_directoryName (by decide) dots))
  · rintro (rfl | rfl | rfl)
    all_goals decide

theorem isProperName_directory (version : String) (profile : Profile) :
    Path.IsProperName (directoryName version ++ profile.dirSuffix) ↔
      ¬ (profile = .standard ∧ Nameless version) := by
  cases profile with
  | standard =>
    rw [Profile.dirSuffix, String.append_empty,
      Path.isProperName_iff (noSlash_directoryName version)]
    simp only [true_and]
    exact not_congr nameless_directoryName
  | optimistic =>
    have noSlash : '/' ∉ (directoryName version ++ "_opt").toList := by
      rw [String.toList_append, List.mem_append, not_or]
      exact ⟨noSlash_directoryName version, by decide⟩
    have long : 2 < (directoryName version ++ "_opt").toList.length := by
      have suffix : "_opt".toList.length = 4 := by decide
      rw [String.toList_append, List.length_append]
      omega
    simpa [Profile.dirSuffix] using Path.isProperName_of_long noSlash long

theorem relative_directory (version : String) (profile : Profile) :
    (directoryName version ++ profile.dirSuffix).toList.head? ≠ some '/' := by
  intro rooted
  have slash := List.mem_of_head? rooted
  rw [String.toList_append, List.mem_append] at slash
  rcases slash with slash | slash
  · exact noSlash_directoryName version slash
  · cases profile
    all_goals exact absurd slash (by decide)

/-- A store that could be opened has its directory. -/
theorem directory_of_openAt {minSize : Nat}
    (opened : openAt t root version profile minSize = (t', .ok s)) :
    t'.get? s.directory.location = some .directory := by
  rw [openAt] at opened
  generalize directoryPath root version profile = directory at opened
  split at opened
  · next made =>
    cases opened
    exact FileTree.directory_of_makeDirectories made
  · cases opened

/-! ### Records -/

theorem head_recordName (kind : String) (source : SourceKey) (version : String)
    (profile : Profile) :
    ((RecordKey.derive kind source version profile).text ++ ".rec").toList.head? = some '/' ↔
      kind.toList.head? = some '/' := by
  simp only [RecordKey.derive, String.toList_append, List.append_assoc]
  cases kind.toList with
  | nil => simp
  | cons c cs => rfl

/-- A store that could be opened has its directory there, and the directory is in that of the root
except under the standard profile for the versions that have no name of their own, with which it is
the root or what is around it. The records of a kind are in the directory of the store unless the
kind has a slash in it; with one at its start it leads wherever it says. -/
theorem openAt_placement {minSize : Nat}
    (opened : openAt t root version profile minSize = (t', .ok s)) :
    t'.get? s.directory.location = some .directory ∧
    (s.directory.IsChildOf root ↔ ¬ (profile = .standard ∧ Nameless version)) ∧
    (profile = .standard → version = "" ∨ version = "." →
      s.directory.location = root.location) ∧
    (profile = .standard → version = ".." → s.directory.location = root.location.dropLast) ∧
    ∀ (kind : String) (source : SourceKey) (version' : String) (profile' : Profile),
      let key := RecordKey.derive kind source version' profile'
      (kind.toList.head? ≠ some '/' →
        ((s.recordPath key).IsChildOf s.directory ↔ '/' ∉ kind.toList)) ∧
      (kind.toList.head? = some '/' → s.recordPath key = key.text ++ ".rec") := by
  have there := directory_of_openAt opened
  obtain ⟨rfl, -, -⟩ := openAt_eq_ok opened
  refine ⟨there, ?_, ?_, ?_, ?_⟩
  · rw [directoryPath, Path.isChildOf_join (relative_directory version profile)]
    exact isProperName_directory version profile
  · rintro rfl (rfl | rfl)
    · exact Path.location_join_empty root
    · have isName : Path.IsName "." := ⟨by decide, by decide⟩
      exact Path.location_join root isName
  · rintro rfl rfl
    have isName : Path.IsName ".." := ⟨by decide, by decide⟩
    exact Path.location_join root isName
  · intro kind source version' profile' key
    have rooted := head_recordName kind source version' profile'
    refine ⟨fun relative => ?_, fun top => ?_⟩
    · rw [← isProperName_recordName kind source version' profile']
      exact Path.isChildOf_join ((not_congr rooted).mpr relative)
    · exact if_pos (rooted.mpr top)

/-- Opened for the version `..`, a store has the directory around its root. -/
theorem openAt_placement_around :
    let s : RecordStore := ⟨"/r/..", "..", .standard, 0⟩
    openAt .empty "/r" ".." .standard 0 = (⟨[(["r"], .directory)]⟩, .ok s) ∧
      ¬ s.directory.IsChildOf "/r" ∧ s.directory.location = [] := by
  intro s
  have opened : openAt .empty "/r" ".." .standard 0 = (⟨[(["r"], .directory)]⟩, .ok s) := by
    decide +kernel
  have root : Path.location "/r" = ["r"] := by decide +kernel
  obtain ⟨-, child, -, around, -⟩ := openAt_placement opened
  have nameless : Nameless ".." := .inr (.inr rfl)
  refine ⟨opened, fun below => child.mp below ⟨rfl, nameless⟩, ?_⟩
  rw [around rfl rfl, root]
  rfl

end RecordStore
end Scriptorium
