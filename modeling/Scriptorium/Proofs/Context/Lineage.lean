import Scriptorium.Proofs.Context.Numbering

/-! Numbers across restarts. Each context counts for itself: a fresh compile gets the least number
above those of the artifacts that its own context has returned (`Context.History.nextAbove`). Every
record below a root was given its number by a fresh compile of some context that has the root, and
where such a number comes up again, that was another context (`Context.Lineage.fresh_number`). -/

namespace Scriptorium

namespace Context

variable {allowed : List Event → Target → Target → Prop} {log log' : List Event} {c : Context}
  {call : Call} {files files' : FileTree} {a : Artifact} {root : Path}
  {members : List (List Event × Context)} {i : Nat} {key : SourceKey} {store : RecordStore}
  {record : Record} {id x y : UInt64}

/-! ### The counter of one context -/

/-- The number is the least one above those of all artifacts that were returned. -/
def NextAbove (log : List Event) (id : UInt64) : Prop :=
  ∀ x, x < id ↔ ∃ a ∈ returned log, x ≤ a.compilationId

theorem NextAbove.eq (h : NextAbove log x) (h' : NextAbove log y) : x = y := by
  have same : ∀ z, z < x ↔ z < y := fun z => (h z).trans (h' z).symm
  apply UInt64.le_antisymm
  · exact UInt64.not_lt.mp fun gt => UInt64.lt_irrefl y ((same y).mp gt)
  · exact UInt64.not_lt.mp fun lt => UInt64.lt_irrefl x ((same x).mpr lt)

theorem new_nextCompilation {config : Config} {version : String} {target : Target}
    {verifier : Option Verifier}
    (made : Context.new config version target verifier files = .ok (c, files')) :
    c.nextCompilation = 0 := by
  obtain ⟨memory, -, made⟩ := bind_eq_ok.mp made
  cases made
  rfl

theorem returned_compiled_above : (∃ a ∈ returned (.compiled c call :: log), x ≤ a.compilationId) ↔
    (∃ a, (c.answer call).outcome = .done a ∧ x ≤ a.compilationId) ∨
      ∃ a ∈ returned log, x ≤ a.compilationId := by
  simp only [mem_returned_compiled, or_and_right, exists_or]

theorem NextAbove.answer (h : NextAbove log c.nextCompilation)
    (remembered : ∀ e ∈ c.remembered, e.2 ∈ returned log)
    (room : ∀ a, c.Fresh call a → a.compilationId.toNat + 1 < UInt64.size) :
    NextAbove (.compiled c call :: log) (c.answer call).context.nextCompilation := by
  intro x
  rw [returned_compiled_above, ← h x]
  cases c.answer_numbers call with
  | @recalled key a mem done _ next =>
    -- The counter is above the number of what was in memory already.
    have known : x ≤ a.compilationId → x < c.nextCompilation :=
      fun le => (h x).mpr ⟨a, remembered _ mem, le⟩
    rw [next, done]
    simpa using known
  | nothing none_ next =>
    rw [next]
    simp only [none_, false_and, exists_false, false_or]
  | @restored a done _ room next =>
    rw [next, lt_max_iff, lt_next_iff room, done]
    simp [or_comm]
  | @fresh a done asked number next =>
    have above := lt_next_iff (x := x) (room a ⟨done, asked⟩)
    rw [next, ← number, above, done]
    simpa [number] using fun lt => UInt64.le_of_lt lt

/-- A context counts what it returned, and nothing else: its counter is the least number above those
of all artifacts that it returned. -/
theorem History.nextAbove (h : History allowed log c) (room : LeavesRoom log) :
    NextAbove log c.nextCompilation := by
  induction h with
  | new _ made =>
    intro x
    rw [new_nextCompilation made]
    simp [returned]
  | compiled call h ih =>
    exact (ih room.of_cons).answer (fun _ mem => h.returned_of_remembered mem)
      fun a => room _ call a List.mem_cons_self
  | cleared _ ih => exact ih room.of_cons
  | aside _ ih => exact ih room
  | shared _ _ ih => exact ih room

/-! ### The records below a root -/

/-- What may become of a context and its log between compiles. -/
inductive Idles : List Event × Context → List Event × Context → Prop
  | cleared (log : List Event) (c : Context) : Idles (log, c) (.cleared :: log, c.clearMemory)
  | aside (log : List Event) (c : Context) (guards registry folding nextScope) :
      Idles (log, c) (log, { c with guards, registry, folding, nextScope })
  | shared (log : List Event) (c : Context) (target) : Idles (log, c) (log, { c with target })

/-- What contexts with a common root have come to, each with its own log, and the files below the
root. They are made one after another, in any number, and go on in any order. Files may be lost or
damaged, but no record comes from elsewhere. -/
inductive Lineage (root : Path) : List (List Event × Context) → FileTree → Prop
  | start {t : FileTree} : RecordStore.NoRecords root t → Lineage root [] t
  | new {ms t config version target verifier t'} {d : Context} : Lineage root ms t →
      config.cache.directory = root →
      Context.new config version target verifier t = .ok (d, t') → Lineage root (([], d) :: ms) t'
  | compiled {ms n older} {d : Context} (call : Call) : Lineage root ms call.files →
      ms[n]? = some (older, d) →
      (∀ b, (call.generator call.source (d.fingerprintOf call.source).strict).bundle = some b →
        b.Holdable) →
      Lineage root (ms.set n (.compiled d call :: older, (d.answer call).context))
        (d.answer call).files
  | idled {ms n m m'} {t : FileTree} : Lineage root ms t → ms[n]? = some m → Idles m m' →
      Lineage root (ms.set n m') t
  | interfered {ms t t'} : Lineage root ms t →
      (∀ s key r, RecordStore.Offers root t' s key r → RecordStore.Offers root t s key r) →
      Lineage root ms t'

theorem History.storeFits (h : History allowed log c) (opened : c.store = some store) :
    c.StoreFits store := by
  induction h with
  | new _ made => exact ((new_eq_ok made).1.store store opened).2
  | @compiled _ c call _ ih =>
    have setup := answer_setup c call
    exact setup.storeFits (ih (setup.store.symm.trans opened))
  | @cleared _ c _ ih =>
    have setup : c.SameSetup c.clearMemory := ⟨rfl, rfl, rfl, rfl⟩
    exact setup.storeFits (ih opened)
  | aside _ ih | shared _ _ ih =>
    obtain ⟨below, version, profile, minSize⟩ := ih opened
    exact ⟨below, version, profile, minSize⟩

/-- A history of a context that keeps its records below the root. -/
structure LivesBelow (root : Path) (m : List Event × Context) : Prop where
  history : History (fun _ _ _ => True) m.1 m.2
  directory : m.2.config.cache.directory = root

theorem Idles.livesBelow {m m' : List Event × Context} (idles : Idles m m')
    (h : LivesBelow root m) : LivesBelow root m' := by
  cases idles with
  | cleared => exact ⟨h.history.cleared, h.directory⟩
  | aside => exact ⟨h.history.aside, h.directory⟩
  | shared => exact ⟨h.history.shared trivial, h.directory⟩

/-- Each of the contexts has a history of its own, and keeps its records below the root. -/
theorem Lineage.livesBelow (h : Lineage root members files) : ∀ m ∈ members, LivesBelow root m := by
  induction h with
  | start => exact fun _ mem => absurd mem List.not_mem_nil
  | new _ directory made ih =>
    refine List.forall_mem_cons.mpr ⟨⟨.new trivial made, ?_⟩, ih⟩
    rw [(new_eq_ok made).1.setup.1]
    exact directory
  | @compiled ms n older d call _ found _ ih =>
    have before := ih _ (List.mem_of_getElem? found)
    intro m mem
    rcases List.mem_or_eq_of_mem_set mem with mem | rfl
    · exact ih m mem
    · exact ⟨before.history.compiled call, (answer_setup d call).config ▸ before.directory⟩
  | idled _ found idles ih =>
    intro m mem
    rcases List.mem_or_eq_of_mem_set mem with mem | rfl
    · exact ih m mem
    · exact idles.livesBelow (ih _ (List.mem_of_getElem? found))
  | interfered _ _ ih => exact ih

/-- A fresh compile of a source with this key was given the number. -/
def Gave (log : List Event) (key : SourceKey) (id : UInt64) : Prop :=
  ∃ before call a, .compiled before call ∈ log ∧ before.Fresh call a ∧
    (before.fingerprintOf call.source).key = key ∧ a.compilationId = id

theorem Gave.mono (h : Gave log key id) (subset : log ⊆ log') : Gave log' key id := by
  obtain ⟨before, call, a, mem, fresh, same, number⟩ := h
  exact ⟨before, call, a, subset mem, fresh, same, number⟩

/-- What was given stays given when one of the contexts goes on. -/
theorem exists_gave_set {m m' : List Event × Context} (found : members[i]? = some m)
    (subset : m.1 ⊆ m'.1) (h : ∃ m ∈ members, Gave m.1 key id) :
    ∃ m ∈ members.set i m', Gave m.1 key id := by
  obtain ⟨x, mem, gave⟩ := h
  obtain ⟨j, there⟩ := List.getElem?_of_mem mem
  obtain ⟨bound, -⟩ := List.getElem?_eq_some_iff.mp found
  by_cases own : i = j
  · subst own
    cases found.symm.trans there
    exact ⟨m', List.mem_set bound m', gave.mono subset⟩
  · rw [← List.getElem?_set_ne own] at there
    exact ⟨x, List.mem_of_getElem? there, gave⟩

/-- A compile that writes a record is a fresh one, and the record has its number. -/
theorem answer_files (c : Context) (call : Call) : (c.answer call).files = call.files ∨
    ∃ store b a, c.store = some store ∧ c.Fresh call a ∧
      (call.generator call.source (c.fingerprintOf call.source).strict).bundle = some b ∧
      store.store call.files (store.scriptKey (c.fingerprintOf call.source).key)
        (c.fingerprintOf call.source).key b a.compilationId = .ok (c.answer call).files := by
  have compiles := c.answer_compiles call
  have fresh : ∀ a, (c.answer call).outcome = .done a → (c.answer call).asked = true →
      c.Fresh call a := fun _ => .mk
  generalize c.answer call = r at compiles fresh ⊢
  cases compiles with
  | remembered | broken | restored | refused => exact .inl rfl
  | established _ _ generated =>
    rcases files_of_establish .. with same | ⟨store, _, a, place, done, stored⟩
    · exact .inl same
    · obtain ⟨opened, rfl, -⟩ := record?_eq_some.mp place
      exact .inr ⟨store, _, a, opened, fresh a done rfl, generate_eq_ok generated, stored⟩

/-- Whatever record there is below the root, its number was given to it by one of the contexts. -/
theorem Lineage.gave (h : Lineage root members files)
    (offers : RecordStore.Offers root files store key record) :
    ∃ m ∈ members, Gave m.1 key record.compilationId := by
  induction h with
  | start nothing => exact absurd offers nothing.not_offers
  | new _ _ made ih =>
    obtain ⟨m, mem, gave⟩ := ih (offers.of_grows (new_eq_ok made).2)
    exact ⟨m, List.mem_cons_of_mem _ mem, gave⟩
  | @compiled ms n older d call before found holdable ih =>
    have kept : (∃ m ∈ ms, Gave m.1 key record.compilationId) →
        ∃ m ∈ ms.set n (.compiled d call :: older, (d.answer call).context),
          Gave m.1 key record.compilationId :=
      exists_gave_set found (List.subset_cons_self _ older)
    rcases d.answer_files call with same | ⟨writer, b, a, opens, fresh, made, stored⟩
    · exact kept (ih (same ▸ offers))
    · have lives := before.livesBelow _ (List.mem_of_getElem? found)
      have opened := lives.directory ▸ (lives.history.storeFits opens).opened
      rcases offers.of_store opened (holdable b made) stored with earlier | ⟨-, -, rfl, rfl⟩
      · exact kept (ih earlier)
      · obtain ⟨bound, -⟩ := List.getElem?_eq_some_iff.mp found
        exact ⟨_, List.mem_set bound _, d, call, a, List.mem_cons_self, fresh, rfl, rfl⟩
  | @idled ms n m m' t _ found idles ih =>
    refine exists_gave_set found ?_ (ih offers)
    cases idles with
    | cleared => exact List.subset_cons_self _ _
    | aside | shared => exact List.Subset.refl _
  | interfered _ interference ih => exact ih (interference _ _ _ offers)

/-- A context cannot have given the number of its next fresh compile. -/
theorem NextAbove.not_gave (h : NextAbove log id) : ¬ Gave log key id := by
  rintro ⟨before, call, a, mem, fresh, -, rfl⟩
  have returned : a ∈ returned log :=
    List.mem_filterMap.mpr ⟨_, mem, Outcome.artifact?_eq_some.mpr fresh.done⟩
  exact UInt64.lt_irrefl _ ((h a.compilationId).mpr ⟨a, returned, UInt64.le_refl _⟩)

/-- However contexts with a common root were made one after another and went on, a fresh compile
gets the least number above those of the artifacts that its own context has returned. So a record
that can be read has the same number exactly if its number is that one, and then it was given to it
in another context. -/
theorem Lineage.fresh_number (h : Lineage root members call.files) (mem : (log, c) ∈ members)
    (room : LeavesRoom log) (fresh : c.Fresh call a) :
    NextAbove log a.compilationId ∧
      ∀ store key record, RecordStore.Opened root store →
        store.load call.files key (store.scriptKey key) = .ok (some record) →
        (record.compilationId = a.compilationId ↔ NextAbove log record.compilationId) ∧
        (record.compilationId = a.compilationId → ¬ Gave log key record.compilationId ∧
          ∃ m ∈ members, Gave m.1 key record.compilationId) := by
  have above := ((h.livesBelow _ mem).history).nextAbove room
  rw [← fresh.number] at above
  refine ⟨above, fun store key record opened loaded => ⟨⟨?_, ?_⟩, ?_⟩⟩
  · exact fun same => same ▸ above
  · exact fun above' => above'.eq above
  · intro same
    refine ⟨fun gave => above.not_gave (same ▸ gave), ?_⟩
    exact h.gave (RecordStore.offers_of_load opened loaded)

/-- The first fresh compile after a restart gets the number 0, though the record of another source
has it. -/
theorem Lineage.fresh_number_again :
    ∃ (members : List (List Event × Context)) (log : List Event) (c : Context) (call : Call)
      (a : Artifact) (store : RecordStore) (key : SourceKey) (record : Record),
      Lineage "/k" members call.files ∧ (log, c) ∈ members ∧ c.Fresh call a ∧
        store.load call.files key (store.scriptKey key) = .ok (some record) ∧
        key ≠ (c.fingerprintOf call.source).key ∧ a.compilationId = 0 ∧
        record.compilationId = 0 ∧ ¬ Gave log key 0 ∧ ∃ m ∈ members, Gave m.1 key 0 := by
  let generator : Generator := fun _ _ => ⟨[], some ⟨⟨"main", [1]⟩, ∅, []⟩⟩
  let config : Config :=
    { cache := { persistent := true, directory := "/k", minPersistSize := 0 } }
  let start := fun files =>
    (Context.new config "1" (.ofHost (.new false)) none files).toOption
  let call := fun (name : String) (files : FileTree) =>
    (⟨generator, [], files, .empty, .ofString name "x"⟩ : Call)
  let first := fun x : Context × FileTree => x.1.answer (call "a" x.2)
  let recorded := fun x y : Context × FileTree => do
    let store ← y.1.store
    let key := (x.1.fingerprintOf (.ofString "a" "x")).key
    let record ← (store.load y.2 key (store.scriptKey key)).toOption
    record.map fun record => (store, key, record)
  let run := (start .empty).bind fun x => (start (first x).files).bind fun y =>
    (y.1.answer (call "b" y.2)).outcome.artifact?.bind fun a =>
      (recorded x y).map fun found => (x, y, a, found)
  have checks : run.any fun (_, y, a, _, key, record) =>
      (y.1.answer (call "b" y.2)).asked && a.compilationId == 0 && record.compilationId == 0 &&
        decide (key ≠ (y.1.fingerprintOf (.ofString "b" "x")).key) := by
    decide +kernel
  obtain ⟨⟨x, y, a, store, key, record⟩, ran, checks⟩ := (Option.any_eq_true _ _).mp checks
  obtain ⟨x, made, ran⟩ := Option.bind_eq_some_iff.mp ran
  obtain ⟨y, made', ran⟩ := Option.bind_eq_some_iff.mp ran
  obtain ⟨a, returned, ran⟩ := Option.bind_eq_some_iff.mp ran
  obtain ⟨_, found, same⟩ := Option.map_eq_some_iff.mp ran
  cases same
  simp only [Bool.and_eq_true, beq_iff_eq, decide_eq_true_eq] at checks
  obtain ⟨⟨⟨asked, zero⟩, zero'⟩, other⟩ := checks
  obtain ⟨_, opens, found⟩ := Option.bind_eq_some_iff.mp found
  obtain ⟨_, loaded, found⟩ := Option.bind_eq_some_iff.mp found
  obtain ⟨_, rfl, same⟩ := Option.map_eq_some_iff.mp found
  cases same
  have new := eq_ok_of_toOption made
  have new' := eq_ok_of_toOption made'
  have holdable : ∀ b, (some ⟨⟨"main", [1]⟩, ∅, []⟩ : Option Bundle) = some b → b.Holdable := by
    rintro b ⟨⟩
    decide
  have once : Lineage "/k" [([], x.1)] (call "a" x.2).files :=
    .new (.start (RecordStore.noRecords_empty "/k")) rfl new
  have lineage : Lineage "/k"
      [([], y.1), ([.compiled x.1 (call "a" x.2)], (first x).context)] (call "b" y.2).files :=
    (once.compiled (n := 0) (call "a" x.2) rfl holdable).new rfl new'
  have fresh : y.1.Fresh (call "b" y.2) a := ⟨Outcome.artifact?_eq_some.mp returned, asked⟩
  have fits := ((new_eq_ok new').1.store store opens).2
  have below : RecordStore.Opened "/k" store := by
    have opened := fits.opened
    rwa [(new_eq_ok new').1.setup.1] at opened
  have room : LeavesRoom [] := fun _ _ _ mem => absurd mem List.not_mem_nil
  have numbers := lineage.fresh_number List.mem_cons_self room fresh
  obtain ⟨-, elsewhere⟩ := numbers.2 store _ record below (eq_ok_of_toOption loaded)
  obtain ⟨ungiven, given⟩ := elsewhere (zero'.trans zero.symm)
  rw [zero'] at ungiven given
  exact ⟨_, [], y.1, call "b" y.2, a, store, _, record, lineage, List.mem_cons_self, fresh,
    eq_ok_of_toOption loaded, other, zero, zero', ungiven, given⟩

end Context
end Scriptorium
