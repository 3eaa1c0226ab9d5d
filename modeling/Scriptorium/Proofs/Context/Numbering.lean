import Scriptorium.Proofs.Context.Frame
import Scriptorium.Proofs.Context.History

/-! Numbers of compilations. The counter is above the number of every artifact that was returned, so
that a fresh compile gets a number of its own, and it never goes back
(`Context.History.counts_up`). It is above the number of every artifact in memory for the same
reason, which is why an artifact that is found there can be returned again (`Context.Numbered`). -/

namespace Scriptorium

namespace Context

variable {allowed : List Event → Target → Target → Prop} {log : List Event} {c c' d : Context}
  {call : Call} {generator : Generator} {held : List Artifact} {files : FileTree} {sink : Sink}
  {source : Source} {f : Fingerprint} {a : Artifact}

/-- The artifact that a compile returned. -/
def Event.artifact? : Event → Option Artifact
  | .compiled c call => (c.answer call).outcome.artifact?
  | .cleared => none

/-- All artifacts that were returned. -/
def returned (log : List Event) : List Artifact := log.filterMap Event.artifact?

/-- The compile returns an artifact of what the generator made. -/
structure Fresh (c : Context) (call : Call) (a : Artifact) : Prop where
  done : (c.answer call).outcome = .done a
  asked : (c.answer call).asked = true

/-- No fresh compile was given the last number there is. -/
def LeavesRoom (log : List Event) : Prop :=
  ∀ before call a, .compiled before call ∈ log → before.Fresh call a →
    a.compilationId.toNat + 1 < UInt64.size

theorem LeavesRoom.of_cons {e : Event} (h : LeavesRoom (e :: log)) : LeavesRoom log :=
  fun before call a mem => h before call a (List.mem_cons_of_mem e mem)

theorem lt_next_iff {id x : UInt64} (room : id.toNat + 1 < UInt64.size) : x < id + 1 ↔ x ≤ id := by
  have next := UInt64.toNat_add id 1
  have one : (1 : UInt64).toNat = 1 := rfl
  rw [UInt64.size] at room
  rw [UInt64.lt_iff_toNat_lt, UInt64.le_iff_toNat_le]
  omega

theorem lt_next {id : UInt64} (room : id.toNat + 1 < UInt64.size) : id < id + 1 :=
  (lt_next_iff room).mpr (UInt64.le_refl id)

theorem lt_max_iff {x y z : UInt64} : x < max y z ↔ x < y ∨ x < z := by
  have unfolded : max y z = if y ≤ z then z else y := rfl
  rw [unfolded]
  split
  · next le => exact ⟨.inr, fun h => h.elim (UInt64.lt_of_lt_of_le · le) fun lt => lt⟩
  · next nle =>
    have lt := UInt64.not_le.mp nle
    exact ⟨.inl, fun h => h.elim (fun lt => lt) (UInt64.lt_trans · lt)⟩

theorem le_max (x y : UInt64) : x ≤ max x y ∧ y ≤ max x y := by
  have least := mt lt_max_iff.mpr (UInt64.lt_irrefl (max x y))
  exact ⟨UInt64.not_lt.mp fun lt => least (.inl lt), UInt64.not_lt.mp fun lt => least (.inr lt)⟩

/-! ### The counter in a compile -/

/-- What a compile does to the counter. -/
inductive Numbers (c : Context) (r : Compiled) : Prop
  | recalled {key : SourceKey} {a : Artifact} : (key, a) ∈ c.remembered → r.outcome = .done a →
      r.asked = false → r.context.nextCompilation = c.nextCompilation → Numbers c r
  | nothing : (∀ a, r.outcome ≠ .done a) → r.context.nextCompilation = c.nextCompilation →
      Numbers c r
  | restored {a : Artifact} : r.outcome = .done a → r.asked = false →
      a.compilationId.toNat + 1 < UInt64.size →
      r.context.nextCompilation = max c.nextCompilation (a.compilationId + 1) → Numbers c r
  | fresh {a : Artifact} : r.outcome = .done a → r.asked = true →
      a.compilationId = c.nextCompilation →
      r.context.nextCompilation = c.nextCompilation + 1 → Numbers c r

theorem InstallChanges.nextCompilation (h : c.InstallChanges c') :
    c'.nextCompilation = c.nextCompilation := by
  obtain ⟨_, _, _, _, _, _, _, _, rfl⟩ := h
  rfl

theorem fromMemory_nextCompilation (c : Context) (held : List Artifact) (f : Fingerprint) :
    (c.fromMemory held f).2.nextCompilation = c.nextCompilation := by
  rw [fromMemory]
  split <;> rfl

theorem persist_nextCompilation (c : Context) (files : FileTree)
    (place : Option (RecordStore × RecordKey)) (f : Fingerprint) (b : Bundle) (id : UInt64) :
    (c.persist files place f b id).1.nextCompilation = c.nextCompilation := by
  rcases c.persist_cases files place f b id with same | same <;> rw [same]
  rfl

theorem giveUp_nextCompilation (c : Context) (s : Setback) :
    (c.giveUp s).2.nextCompilation = c.nextCompilation := by
  cases s <;> rfl

/-- A record that is restored keeps its number, and the counter is raised above that. -/
theorem restore_numbers (c : Context) (held : List Artifact) (source : Source) (f : Fingerprint)
    (record : Record) (sink : Sink) (files : FileTree) :
    c.Numbers ⟨(c.restore held source f record).1, (c.restore held source f record).2, sink, files,
      false⟩ := by
  have installed :=
    (c.countPersistentHit.install_changes held source record.bundle).nextCompilation
  rw [restore]
  split
  · next s d installs =>
    rw [installs] at installed
    exact .nothing (fun _ => giveUp_ne_done s) ((d.giveUp_nextCompilation s).trans installed)
  · next _ d installs =>
    rw [installs] at installed
    split
    · exact .nothing (by simp) installed
    · next reserved =>
      rw [reserve] at reserved
      split at reserved
      · next room =>
        cases reserved
        refine .restored rfl rfl room ?_
        exact congrArg (max · (record.compilationId + 1)) installed
      · cases reserved

/-- What the generator made gets the number that the counter stands at. -/
theorem establish_numbers (c : Context) (held : List Artifact) (files : FileTree) (source : Source)
    (f : Fingerprint) (place : Option (RecordStore × RecordKey)) (b : Bundle) (sink : Sink) :
    let established := c.establish held files source f place b
    c.Numbers ⟨established.1, established.2.1, sink, established.2.2, true⟩ := by
  have installed := (c.install_changes held source b).nextCompilation
  simp only [establish]
  split
  · next s d installs =>
    rw [installs] at installed
    exact .nothing (fun _ => giveUp_ne_done s) ((d.giveUp_nextCompilation s).trans installed)
  · next _ d installs =>
    rw [installs] at installed
    refine .fresh rfl rfl installed ?_
    refine (persist_nextCompilation _ files place f b d.nextCompilation).trans ?_
    exact congrArg (· + 1) installed

theorem Numbers.of_looked {r : Compiled} (h : d.Numbers r)
    (remembered : ∀ e ∈ d.remembered, e ∈ c.remembered)
    (same : d.nextCompilation = c.nextCompilation) : c.Numbers r := by
  cases h with
  | recalled mem done asked next => exact .recalled (remembered _ mem) done asked (next.trans same)
  | nothing none_ next => exact .nothing none_ (next.trans same)
  | restored done asked room next => exact .restored done asked room (same ▸ next)
  | fresh done asked id next => exact .fresh done asked (id.trans same) (same ▸ next)

theorem Compiles.numbers {r : Compiled} (h : c.Compiles generator held files sink source f r) :
    c.Numbers r := by
  have remembered : ∀ e ∈ (c.fromMemory held f).2.remembered, e ∈ c.remembered :=
    fun _ => mem_fromMemory
  have same := c.fromMemory_nextCompilation held f
  cases h with
  | remembered hit =>
    have mem := (fromMemory_eq_some (congrArg Prod.fst hit)).1
    rw [hit] at same
    exact .recalled mem rfl rfl same
  | broken miss =>
    rw [miss] at same
    exact .nothing nofun same
  | restored miss =>
    rw [miss] at remembered same
    exact (restore_numbers ..).of_looked remembered same
  | refused miss =>
    rw [miss] at same
    exact .nothing nofun same
  | established miss =>
    rw [miss] at remembered same
    exact (establish_numbers ..).of_looked remembered same

theorem answer_numbers (c : Context) (call : Call) : c.Numbers (c.answer call) :=
  (c.answer_compiles call).numbers

theorem Fresh.number (h : c.Fresh call a) : a.compilationId = c.nextCompilation := by
  cases c.answer_numbers call with
  | recalled _ _ asked | restored _ asked => cases h.asked.symm.trans asked
  | nothing none_ => exact absurd h.done (none_ a)
  | fresh done _ number =>
    cases done.symm.trans h.done
    exact number

/-- A compile adds to memory at most the artifact that it returns. -/
theorem mem_remembered_answer {e : SourceKey × Artifact}
    (mem : e ∈ (c.answer call).context.remembered) :
    e ∈ c.remembered ∨ (c.answer call).outcome = .done e.2 := by
  have compiles := c.answer_compiles call
  have delivered : ∀ {b : Bundle},
      (c.fromMemory call.held (c.fingerprintOf call.source)).2.Delivers
        (c.fingerprintOf call.source) b (c.answer call).outcome (c.answer call).context →
      e ∈ c.remembered ∨ (c.answer call).outcome = .done e.2 := by
    intro b delivers
    rcases delivers.remembered e mem with before | ⟨a, rfl, done⟩
    · exact .inl (mem_fromMemory before)
    · exact .inr done
  rcases compiles.delivers with ⟨a, -, -, context, -⟩ | ⟨-, -, memory, -⟩ |
    ⟨store, record, -, -, delivers, -⟩ | ⟨b, -, delivers, -⟩
  · rw [context] at mem
    exact .inl (mem_fromMemory mem)
  · rw [remembered_eq memory] at mem
    exact .inl (mem_fromMemory mem)
  · exact delivered delivers
  · exact delivered delivers

/-! ### The counter in a history -/

/-- The counter is above the numbers of all artifacts that were returned or are in memory, and no
lower than it ever was. -/
structure Numbered (log : List Event) (c : Context) : Prop where
  returned : ∀ a ∈ returned log, a.compilationId < c.nextCompilation
  remembered : ∀ e ∈ c.remembered, e.2.compilationId < c.nextCompilation
  monotone : ∀ before call, .compiled before call ∈ log →
    before.nextCompilation ≤ c.nextCompilation

theorem mem_returned_compiled {before : Context} :
    a ∈ returned (.compiled before call :: log) ↔
      (before.answer call).outcome = .done a ∨ a ∈ returned log := by
  rw [returned, List.filterMap_cons, Event.artifact?, ← Outcome.artifact?_eq_some]
  cases (before.answer call).outcome.artifact? with
  | none => simp [returned]
  | some a' => simp [returned, eq_comm]

/-- Every artifact in memory was returned. -/
theorem History.returned_of_remembered (h : History allowed log c) {x : SourceKey × Artifact}
    (mem : x ∈ c.remembered) : x.2 ∈ returned log := by
  induction h with
  | new _ made =>
    rw [(new_eq_ok made).1.remembered] at mem
    cases mem
  | compiled call _ ih =>
    rcases mem_remembered_answer mem with before | done
    · exact mem_returned_compiled.mpr (.inr (ih before))
    · exact mem_returned_compiled.mpr (.inl done)
  | @cleared _ c _ ih =>
    rw [remembered_clearMemory] at mem
    cases mem
  | aside _ ih => exact ih mem
  | shared _ _ ih => exact ih mem

/-- A compile leaves the counter where it is or raises it, and what it returns has a number below
the counter. -/
theorem Numbered.rises (h : Numbered log c)
    (room : ∀ a, c.Fresh call a → a.compilationId.toNat + 1 < UInt64.size) :
    c.nextCompilation ≤ (c.answer call).context.nextCompilation ∧
      ∀ a, (c.answer call).outcome = .done a →
        a.compilationId < (c.answer call).context.nextCompilation := by
  cases c.answer_numbers call with
  | recalled mem done _ next =>
    rw [next]
    refine ⟨UInt64.le_refl _, fun a done' => ?_⟩
    cases done.symm.trans done'
    exact h.remembered _ mem
  | nothing none_ next =>
    rw [next]
    exact ⟨UInt64.le_refl _, fun a done => absurd done (none_ a)⟩
  | @restored a done _ room next =>
    rw [next]
    obtain ⟨rises, above⟩ := le_max c.nextCompilation (a.compilationId + 1)
    refine ⟨rises, fun a' done' => ?_⟩
    cases done.symm.trans done'
    exact UInt64.lt_of_lt_of_le (lt_next room) above
  | @fresh a done asked id next =>
    have above := lt_next (room a ⟨done, asked⟩)
    rw [id] at above
    rw [next]
    refine ⟨UInt64.le_of_lt above, fun a' done' => ?_⟩
    cases done.symm.trans done'
    rw [id]
    exact above

theorem Numbered.answer (h : Numbered log c)
    (room : ∀ a, c.Fresh call a → a.compilationId.toNat + 1 < UInt64.size) :
    Numbered (.compiled c call :: log) (c.answer call).context := by
  obtain ⟨rises, below⟩ := h.rises room
  refine ⟨fun a mem => ?_, fun e mem => ?_, fun before call' mem => ?_⟩
  · rcases mem_returned_compiled.mp mem with done | mem
    · exact below a done
    · exact UInt64.lt_of_lt_of_le (h.returned a mem) rises
  · rcases mem_remembered_answer mem with mem | done
    · exact UInt64.lt_of_lt_of_le (h.remembered e mem) rises
    · exact below e.2 done
  · rcases List.mem_cons.mp mem with same | mem
    · cases same
      exact rises
    · exact UInt64.le_trans (h.monotone before call' mem) rises

theorem History.numbered (h : History allowed log c) (room : LeavesRoom log) :
    Numbered log c := by
  induction h with
  | new _ made =>
    refine ⟨fun _ mem => absurd mem List.not_mem_nil, fun e mem => ?_,
      fun _ _ mem => absurd mem List.not_mem_nil⟩
    rw [(new_eq_ok made).1.remembered] at mem
    exact absurd mem List.not_mem_nil
  | compiled call _ ih =>
    exact (ih room.of_cons).answer fun a => room _ call a List.mem_cons_self
  | @cleared _ c _ ih =>
    have before := ih room.of_cons
    refine ⟨before.returned, fun e mem => ?_, fun before' call mem => ?_⟩
    · rw [remembered_clearMemory] at mem
      cases mem
    · rcases List.mem_cons.mp mem with same | mem
      · cases same
      · exact before.monotone before' call mem
  | aside _ ih => exact ⟨(ih room).returned, (ih room).remembered, (ih room).monotone⟩
  | shared _ _ ih => exact ⟨(ih room).returned, (ih room).remembered, (ih room).monotone⟩

/-- In any history, with any records on disk, a fresh compile gets the number that the counter
stands at, and all artifacts that were returned before have lower ones. The counter never goes back,
and stays where it is in a compile that returns no artifact or one from memory. -/
theorem History.counts_up (h : History allowed log c) (room : LeavesRoom log) (call : Call) :
    (∀ a, c.Fresh call a → a.compilationId = c.nextCompilation ∧
      ∀ a' ∈ returned log, a'.compilationId < a.compilationId) ∧
    (∀ before call', .compiled before call' ∈ log →
      before.nextCompilation ≤ c.nextCompilation) ∧
    ((∀ a, (c.answer call).outcome ≠ .done a) →
      (c.answer call).context.nextCompilation = c.nextCompilation) ∧
    ∀ a, (c.fromMemory call.held (c.fingerprintOf call.source)).1 = some a →
      (c.answer call).outcome = .done a ∧
        (c.answer call).context.nextCompilation = c.nextCompilation := by
  have numbered := h.numbered room
  refine ⟨fun a fresh => ?_, numbered.monotone, fun none_ => ?_, fun a hit => ?_⟩
  · cases c.answer_numbers call with
    | recalled _ _ asked | restored _ asked => cases fresh.asked.symm.trans asked
    | nothing none_ => exact absurd fresh.done (none_ a)
    | fresh done _ id =>
      cases done.symm.trans fresh.done
      rw [id]
      exact ⟨rfl, numbered.returned⟩
  · cases c.answer_numbers call with
    | nothing _ next => exact next
    | recalled _ done | restored done | fresh done => exact absurd done (none_ _)
  · have same := c.fromMemory_nextCompilation call.held (c.fingerprintOf call.source)
    rcases looked : c.fromMemory call.held (c.fingerprintOf call.source) with ⟨found, d⟩
    rw [looked] at hit same
    cases hit
    rw [answer, compile_of_hit looked]
    exact ⟨rfl, same⟩

/-- After a record with the number 7 was restored, the next fresh compile gets the number 8. -/
theorem History.counts_up_restored :
    ∃ (c : Context) (log : List Event) (call : Call) (a a' : Artifact),
      History (fun _ _ _ => True) log c ∧ LeavesRoom log ∧ a' ∈ returned log ∧
        a'.compilationId = 7 ∧ c.Fresh call a ∧ a.compilationId = 8 ∧
        a'.compilationId < a.compilationId := by
  let generator : Generator := fun _ _ => ⟨[], some ⟨⟨"main", [1]⟩, ∅, []⟩⟩
  let config : Config :=
    { cache := { persistent := true, directory := "/k", minPersistSize := 0 } }
  let source := Source.ofString "a" "x"
  let recorded := fun x : Context × FileTree =>
    (x.1.record? (x.1.fingerprintOf source)).bind fun (store, key) =>
      (store.store x.2 key source.fingerprint.key ⟨⟨"main", [1]⟩, ∅, []⟩ 7).toOption
  let first := fun files => (⟨generator, [], files, .empty, source⟩ : Call)
  let next : Call := ⟨generator, [], .empty, .empty, .ofString "b" "y"⟩
  let run := (Context.new config "1" (.ofHost (.new false)) none .empty).toOption.bind fun x =>
    (recorded x).map fun files => (x, files)
  have checks : run.any fun (x, files) =>
      (x.1.answer (first files)).asked == false &&
      ((x.1.answer (first files)).outcome.artifact?.map (·.compilationId)) == some 7 &&
      ((x.1.answer (first files)).context.answer next).asked &&
      (((x.1.answer (first files)).context.answer next).outcome.artifact?.map
        (·.compilationId)) == some 8 := by
    decide +kernel
  obtain ⟨⟨⟨c, made⟩, files⟩, ran, checks⟩ := (Option.any_eq_true _ _).mp checks
  obtain ⟨⟨c₀, made₀⟩, new, ran⟩ := Option.bind_eq_some_iff.mp ran
  obtain ⟨files₀, -, same⟩ := Option.map_eq_some_iff.mp ran
  cases same
  simp only [Bool.and_eq_true, beq_iff_eq] at checks
  obtain ⟨⟨⟨restored, seven⟩, asked⟩, eight⟩ := checks
  obtain ⟨a', returned', seven⟩ := Option.map_eq_some_iff.mp seven
  obtain ⟨a, returned, eight⟩ := Option.map_eq_some_iff.mp eight
  have history : History (fun _ _ _ => True) [.compiled c (first files)]
      (c.answer (first files)).context := .compiled _ (.new trivial (eq_ok_of_toOption new))
  have room : LeavesRoom [.compiled c (first files)] := by
    intro before call x mem fresh
    cases List.mem_singleton.mp mem
    cases restored.symm.trans fresh.asked
  have mem : a' ∈ Context.returned [.compiled c (first files)] :=
    mem_returned_compiled.mpr (.inl (Outcome.artifact?_eq_some.mp returned'))
  have fresh : (c.answer (first files)).context.Fresh next a :=
    ⟨Outcome.artifact?_eq_some.mp returned, asked⟩
  have counts := (history.counts_up room next).1 a fresh
  exact ⟨_, _, next, a, a', history, room, mem, seven, fresh, eight, counts.2 a' mem⟩

end Context
end Scriptorium
