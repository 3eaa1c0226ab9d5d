import Scriptorium.Proofs.Record.Store

/-! The stores below one root as a map. Stores of different versions and profiles may share a
directory, since a version loses characters in the name of its directory and may end in what marks
the other profile. Their records stay apart by name all the same, so that what a store loads is what
was last stored for its version, its profile and the source (`Families.load_latest`). -/

namespace Scriptorium

/-- What a successful call of `store` was about. -/
structure StoreCall where
  version : String
  profile : Profile
  source : SourceKey
  bundle : Bundle
  id : UInt64

namespace StoreCall

/-- The call was made through a store of the same version and profile, for this source. -/
def IsFor (c : StoreCall) (s : RecordStore) (source : SourceKey) : Prop :=
  c.version = s.version ∧ c.profile = s.profile ∧ c.source = source

instance (c : StoreCall) (s : RecordStore) (source : SourceKey) : Decidable (c.IsFor s source) :=
  inferInstanceAs (Decidable (_ ∧ _ ∧ _))

def stream (c : StoreCall) : Bytes := RecordKey.stream c.version c.profile c.source

def record (c : StoreCall) : Record :=
  ⟨(RecordKey.derive RecordStore.scriptKind c.source c.version c.profile).text, c.bundle, c.id⟩

end StoreCall

/-- The stores that were opened below a root, the calls that succeeded on one of them, the latest
first, and the tree that this has led to. -/
inductive Families (root : Path) : List RecordStore → List StoreCall → FileTree → Prop
  | start {stores t} : (∀ s ∈ stores, RecordStore.Opened root s) → RecordStore.NoRecords root t →
      Families root stores [] t
  | opened {stores calls t version profile minSize t' s} : Families root stores calls t →
      RecordStore.openAt t root version profile minSize = (t', .ok s) →
      Families root (s :: stores) calls t'
  | notOpened {stores calls t version profile minSize t' e} : Families root stores calls t →
      RecordStore.openAt t root version profile minSize = (t', .error e) →
      Families root stores calls t'
  | stored {stores calls t s source bundle id t'} : Families root stores calls t → s ∈ stores →
      bundle.Holdable → s.store t (s.scriptKey source) source bundle id = .ok t' →
      Families root stores (⟨s.version, s.profile, source, bundle, id⟩ :: calls) t'

namespace Families

open RecordStore

variable {root : Path} {stores : List RecordStore} {calls : List StoreCall} {t t' : FileTree}
  {s : RecordStore} {source : SourceKey}

/-- The last call for a source on the stores of one version and profile. -/
def latest? (calls : List StoreCall) (s : RecordStore) (source : SourceKey) : Option StoreCall :=
  calls.find? fun c => c.IsFor s source

theorem stores_opened (h : Families root stores calls t) : ∀ s ∈ stores, Opened root s := by
  induction h with
  | start opened => exact opened
  | opened _ made ih => exact List.forall_mem_cons.mpr ⟨⟨_, _, _, _, _, made⟩, ih⟩
  | notOpened _ _ ih => exact ih
  | stored _ _ _ _ ih => exact ih

/-- What the place of a record holds, by the last call for it. -/
def Holds (s : RecordStore) (source : SourceKey) (t : FileTree) : Option StoreCall → Prop
  | none => ∀ content,
      t.get? (s.recordPath (s.scriptKey source)).location ≠ some (.file content)
  | some c => c.bundle.Holdable ∧ t.read (s.recordPath (s.scriptKey source)) =
      .ok (s.contentOf (s.scriptKey source) source c.bundle c.id)

theorem Holds.grows {c : Option StoreCall} (h : Holds s source t c) (grows : t.Grows t') :
    Holds s source t' c := by
  cases c with
  | none => exact fun content file => h content (grows.file_iff.mp file)
  | some c => exact ⟨h.1, grows.read h.2⟩

/-- A file that is written somewhere else leaves the place as it is. -/
theorem Holds.elsewhere {c : Option StoreCall} {q : Path} {content : Bytes}
    (h : Holds s source t c) (written : t.write q content = .ok t')
    (apart : (s.recordPath (s.scriptKey source)).location ≠ q.location) : Holds s source t' c := by
  obtain ⟨-, -, changed⟩ := FileTree.write_eq_ok written
  cases c with
  | none => intro content' file; exact h content' (by rwa [changed, if_neg apart] at file)
  | some c => exact ⟨h.1, FileTree.read_of_write_elsewhere written apart h.2⟩

/-- Two opened stores have one place for the records of two scripts only if they are of one version
and profile and the scripts are the same. -/
theorem eq_of_location {s' : RecordStore} {source' : SourceKey} (opened : Opened root s)
    (opened' : Opened root s')
    (free : Digest.CollisionFree [RecordKey.stream s.version s.profile source,
      RecordKey.stream s'.version s'.profile source'])
    (h : (s.recordPath (s.scriptKey source)).location =
      (s'.recordPath (s'.scriptKey source')).location) :
    s.version = s'.version ∧ s.profile = s'.profile ∧ source = source' := by
  obtain ⟨-, digests⟩ := RecordKey.derive_injective (scriptKey_eq_of_location h)
  have streams := free _ List.mem_cons_self _ (List.mem_cons_of_mem _ List.mem_cons_self) digests
  exact RecordKey.stream_injective
    (Nat.lt_of_le_of_lt opened.length_version (by decide))
    (Nat.lt_of_le_of_lt opened'.length_version (by decide)) streams

/-- The place of a record follows the last call for it, whichever stores were used in between. -/
theorem holds_latest (h : Families root stores calls t) (opened : Opened root s)
    (free : Digest.CollisionFree
      (RecordKey.stream s.version s.profile source :: calls.map StoreCall.stream)) :
    Holds s source t (latest? calls s source) := by
  induction h with
  | start _ none_ => exact fun content => none_ s source content opened.directory
  | @opened _ _ t₀ version profile minSize t₁ s₁ before made ih =>
    have grows := openAt_grows t₀ root version profile minSize
    rw [made] at grows
    exact (ih free).grows grows
  | @notOpened _ _ t₀ version profile minSize t₁ e before failed ih =>
    have grows := openAt_grows t₀ root version profile minSize
    rw [failed] at grows
    exact (ih free).grows grows
  | @stored _ calls t₀ s₁ source₁ bundle id t₁ before mem holdable stored ih =>
    have written := store_eq_ok stored
    have opened₁ := before.stores_opened s₁ mem
    have earlier : Holds s source t₀ (latest? calls s source) := by
      apply ih (free.mono _)
      intro x hx
      rcases List.mem_cons.mp hx with rfl | hx
      · exact List.mem_cons_self
      · exact List.mem_cons_of_mem _ (List.mem_cons_of_mem _ hx)
    rw [latest?, List.find?_cons]
    by_cases isFor : (⟨s₁.version, s₁.profile, source₁, bundle, id⟩ : StoreCall).IsFor s source
    · -- The new call is for this record: its file is the one that was written.
      obtain ⟨version, profile, rfl⟩ := isFor
      dsimp only at version profile
      have directory : s₁.directory = s.directory := by
        rw [opened₁.directory, opened.directory, version, profile]
      rw [decide_eq_true (show StoreCall.IsFor _ s source₁ from ⟨version, profile, rfl⟩)]
      refine ⟨holdable, ?_⟩
      rw [recordPath, scriptKey, ← directory, ← version, ← profile, contentOf, ← version, ← profile]
      exact FileTree.read_of_write written
    · -- The new call is for another record, and that one lies elsewhere.
      rw [decide_eq_false isFor]
      have two : Digest.CollisionFree [RecordKey.stream s.version s.profile source,
          RecordKey.stream s₁.version s₁.profile source₁] := by
        apply free.mono
        intro x hx
        rcases List.mem_cons.mp hx with rfl | hx
        · exact List.mem_cons_self
        · rw [List.mem_singleton.mp hx]
          exact List.mem_cons_of_mem _ List.mem_cons_self
      apply earlier.elsewhere written
      intro same
      apply isFor
      obtain ⟨version, profile, source_⟩ := eq_of_location opened opened₁ two same
      exact ⟨version.symm, profile.symm, source_.symm⟩

/-- What an opened store loads for a source is the record of the last call for it on the stores of
the same version and profile, and nothing if there was no such call, unless the names of two records
stand for different streams with one digest. -/
theorem load_latest (h : Families root stores calls t) (mem : s ∈ stores)
    (free : Digest.CollisionFree
      (RecordKey.stream s.version s.profile source :: calls.map StoreCall.stream)) :
    s.load t source (s.scriptKey source) =
      .ok ((latest? calls s source).map StoreCall.record) := by
  have opened := h.stores_opened s mem
  have holds := h.holds_latest opened free
  cases found : latest? calls s source with
  | none =>
    rw [found] at holds
    exact load_of_not_read fun content file => holds content (FileTree.read_eq_ok.mp file).2
  | some c =>
    rw [found] at holds
    have isFor : c.IsFor s source := of_decide_eq_true (List.find?_some found :)
    obtain ⟨version, profile, same⟩ := isFor
    refine load_eq_some.mpr ⟨_, holds.2, ?_⟩
    rw [recordIn_contentOf opened (holdable_scriptKey s source) holds.1, StoreCall.record, version,
      profile, same, scriptKey]

/-- Two families that share a directory, each with a record of one source. -/
theorem load_latest_shared :
    let standard : RecordStore := ⟨"/1_opt", "1_opt", .standard, 0⟩
    let optimistic : RecordStore := ⟨"/1_opt", "1", .optimistic, 0⟩
    let source : SourceKey := ⟨⟨1, 2⟩, false⟩
    let first : Bundle := ⟨⟨"main", [1]⟩, ∅, [.str "a"]⟩
    let second : Bundle := ⟨⟨"main", [2]⟩, ∅, [.null]⟩
    ∃ t t', standard.store ⟨[(["1_opt"], .directory)]⟩ (standard.scriptKey source) source first 1 =
        .ok t ∧
      optimistic.store t (optimistic.scriptKey source) source second 2 = .ok t' ∧
      standard.load t' source (standard.scriptKey source) =
        .ok (some ⟨(standard.scriptKey source).text, first, 1⟩) := by
  intro standard optimistic source first second
  have both : ((standard.store ⟨[(["1_opt"], .directory)]⟩ (standard.scriptKey source) source
      first 1) >>= fun t =>
        optimistic.store t (optimistic.scriptKey source) source second 2).isOk := by decide +kernel
  obtain ⟨t', stored⟩ := exists_of_isOk both
  obtain ⟨t, stored₁, stored₂⟩ := bind_eq_ok.mp stored
  have standardOpened : openAt .empty "/" "1_opt" .standard 0 =
      (⟨[(["1_opt"], .directory)]⟩, .ok standard) := by decide +kernel
  have optimisticOpened : openAt ⟨[(["1_opt"], .directory)]⟩ "/" "1" .optimistic 0 =
      (⟨[(["1_opt"], .directory)]⟩, .ok optimistic) := by decide +kernel
  have start : Families "/" [] [] .empty :=
    .start (fun _ mem => absurd mem List.not_mem_nil) (noRecords_empty "/")
  have families := (start.opened standardOpened).opened optimisticOpened
  have holdable : first.Holdable ∧ second.Holdable := by decide
  have history := (families.stored (List.mem_cons_of_mem _ List.mem_cons_self) holdable.1
    stored₁).stored List.mem_cons_self holdable.2 stored₂
  refine ⟨t, t', stored₁, stored₂, ?_⟩
  exact load_latest history (List.mem_cons_of_mem _ List.mem_cons_self)
    (by decide +kernel)

end Families
end Scriptorium
