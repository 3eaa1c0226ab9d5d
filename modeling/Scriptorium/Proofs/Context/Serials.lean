import Scriptorium.Proofs.Context.Attempt
import Scriptorium.Proofs.Context.Frame
import Scriptorium.Proofs.Context.Numbering

/-! Which artifact is which. Artifacts are told apart by their serials: the compile that makes an
artifact gives it a serial of its own (`Context.Stamps`), so that what is found in memory for a live
artifact is that artifact itself (`Context.Serialed.eq_of_isSame`), and what an artifact was made
from is told by one compile alone (`Context.MadeFrom`). -/

namespace Scriptorium.Context

variable {allowed : List Event → Target → Target → Prop} {log : List Event} {c c' : Context}
  {call : Call} {held : List Artifact} {a a' : Artifact} {origin : String}

/-! ### One compile -/

/-- What a compile does to the next serial: a new artifact gets it. -/
inductive Stamps (serial : Nat) (o : Outcome) (next : Nat) : Prop
  | nothing : (∀ a, o ≠ .done a) → next = serial → Stamps serial o next
  | made {a : Artifact} : o = .done a → a.serial = serial → next = serial + 1 →
      Stamps serial o next

theorem InstallChanges.nextSerial (h : c.InstallChanges c') : c'.nextSerial = c.nextSerial := by
  obtain ⟨_, _, _, _, _, _, _, _, rfl⟩ := h
  rfl

theorem fromMemory_nextSerial (c : Context) (held : List Artifact) (f : Fingerprint) :
    (c.fromMemory held f).2.nextSerial = c.nextSerial := by
  rw [fromMemory]
  split <;> rfl

theorem giveUp_nextSerial (c : Context) (s : Setback) :
    (c.giveUp s).2.nextSerial = c.nextSerial := by
  cases s <;> rfl

theorem restore_stamps (c : Context) (held : List Artifact) (source : Source) (f : Fingerprint)
    (record : Record) : Stamps c.nextSerial (c.restore held source f record).1
      (c.restore held source f record).2.nextSerial := by
  have installed := (c.countPersistentHit.install_changes held source record.bundle).nextSerial
  rw [restore]
  split
  · next s d installs =>
    rw [installs] at installed
    exact .nothing (fun _ => giveUp_ne_done s) ((d.giveUp_nextSerial s).trans installed)
  · next _ d installs =>
    rw [installs] at installed
    split
    · refine .nothing (fun a done => ?_) installed
      cases done
    · next reserved =>
      rw [reserve] at reserved
      split at reserved
      · cases reserved
        exact .made rfl installed (congrArg (· + 1) installed)
      · cases reserved

theorem establish_stamps (c : Context) (held : List Artifact) (files : FileTree) (source : Source)
    (f : Fingerprint) (place : Option (RecordStore × RecordKey)) (b : Bundle) :
    Stamps c.nextSerial (c.establish held files source f place b).1
      (c.establish held files source f place b).2.1.nextSerial := by
  have installed := (c.install_changes held source b).nextSerial
  simp only [establish]
  split
  · next s d installs =>
    rw [installs] at installed
    exact .nothing (fun _ => giveUp_ne_done s) ((d.giveUp_nextSerial s).trans installed)
  · next _ d installs =>
    rw [installs] at installed
    have persisted : (persist (countFresh { d with nextCompilation := d.nextCompilation + 1 }) files
        place f b d.nextCompilation).1.nextSerial = c.nextSerial := by
      rcases persist_cases (countFresh { d with nextCompilation := d.nextCompilation + 1 }) files
        place f b d.nextCompilation with same | same <;> rw [same] <;> exact installed
    exact .made rfl persisted (congrArg (· + 1) persisted)

/-- A compile returns an artifact from memory that is the same as one that is held, or it comes to
nothing, or it installs something and makes an artifact of that at most. -/
inductive Serials (c : Context) (call : Call) : Prop
  | recalled {key : SourceKey} {a : Artifact} : c.installation? call = none →
      (c.answer call).outcome = .done a → (key, a) ∈ c.remembered → call.held.any a.isSame →
      (c.answer call).context.nextSerial = c.nextSerial → Serials c call
  | nothing : c.installation? call = none → (∀ a, (c.answer call).outcome ≠ .done a) →
      (c.answer call).context.nextSerial = c.nextSerial → Serials c call
  | installed : (c.installation? call).isSome →
      Stamps c.nextSerial (c.answer call).outcome (c.answer call).context.nextSerial →
      Serials c call

theorem answer_serials (c : Context) (call : Call) : c.Serials call := by
  have looked := c.fromMemory_nextSerial call.held (c.fingerprintOf call.source)
  have compiles := c.answer_compiles call
  have recalled := @Serials.recalled c call
  have nothing := @Serials.nothing c call
  have installed := @Serials.installed c call
  simp only [installation?] at recalled nothing installed
  generalize c.answer call = r at compiles recalled nothing installed
  cases compiles with
  | remembered hit =>
    obtain ⟨mem, alive⟩ := fromMemory_eq_some (congrArg Prod.fst hit)
    rw [hit] at looked recalled
    exact recalled rfl rfl mem alive looked
  | broken miss loaded =>
    rw [miss] at looked nothing
    rw [loaded] at nothing
    refine nothing rfl (fun a done => ?_) looked
    cases done
  | refused miss loaded generated =>
    rw [miss] at looked nothing
    rw [loaded, generated] at nothing
    refine nothing rfl (fun a done => ?_) looked
    cases done
  | restored miss loaded =>
    rw [miss] at looked installed
    rw [loaded, ← looked] at installed
    exact installed rfl (restore_stamps ..)
  | established miss loaded generated =>
    rw [miss] at looked installed
    rw [loaded, generated, ← looked] at installed
    exact installed rfl (establish_stamps ..)

/-! ### Histories -/

/-- Artifacts that were returned differ in their serials, which are below the next one. -/
structure Serialed (log : List Event) (c : Context) : Prop where
  below : ∀ a ∈ returned log, a.serial < c.nextSerial
  unique : ∀ a ∈ returned log, ∀ a' ∈ returned log, a.serial = a'.serial → a = a'

theorem Serialed.eq_of_isSame (h : Serialed log c) (mem : a ∈ returned log)
    (mem' : a' ∈ returned log) (same : a.isSame a') : a = a' :=
  h.unique a mem a' mem' (beq_iff_eq.mp same)

/-- A live artifact that is found in memory is one of those that are held. -/
theorem Serialed.mem_of_any (h : Serialed log c) (held_ : ∀ x ∈ held, x ∈ returned log)
    (mem : a ∈ returned log) (alive : held.any a.isSame) : a ∈ held := by
  obtain ⟨x, mem', same⟩ := List.any_eq_true.mp alive
  exact h.eq_of_isSame mem (held_ x mem') same ▸ mem'

/-- Nothing changes if what is returned was returned before. -/
private theorem Serialed.again (h : Serialed log c)
    (again : ∀ a, (c.answer call).outcome = .done a → a ∈ returned log)
    (same : (c.answer call).context.nextSerial = c.nextSerial) :
    Serialed (.compiled c call :: log) (c.answer call).context := by
  have before : ∀ a ∈ returned (.compiled c call :: log), a ∈ returned log := fun a mem =>
    (mem_returned_compiled.mp mem).elim (again a) id
  exact ⟨fun a mem => same ▸ h.below a (before a mem),
    fun a mem a' mem' => h.unique a (before a mem) a' (before a' mem')⟩

/-- A new artifact differs from all that were returned before. -/
private theorem Serialed.made (h : Serialed log c) (done : (c.answer call).outcome = .done a)
    (serial : a.serial = c.nextSerial)
    (next : (c.answer call).context.nextSerial = c.nextSerial + 1) :
    Serialed (.compiled c call :: log) (c.answer call).context := by
  have cases_ : ∀ x ∈ returned (.compiled c call :: log), x = a ∨ x ∈ returned log := by
    intro x mem
    refine (mem_returned_compiled.mp mem).imp_left fun new => ?_
    cases done.symm.trans new
    rfl
  have differs : ∀ x ∈ returned log, x.serial ≠ a.serial := fun x mem =>
    serial ▸ Nat.ne_of_lt (h.below x mem)
  refine ⟨fun x mem => ?_, fun x mem y mem' same => ?_⟩
  · rw [next]
    rcases cases_ x mem with rfl | old
    · exact serial ▸ Nat.lt_succ_self _
    · exact Nat.lt_succ_of_lt (h.below x old)
  · rcases cases_ x mem with rfl | old <;> rcases cases_ y mem' with rfl | old'
    · rfl
    · exact absurd same.symm (differs y old')
    · exact absurd same (differs x old)
    · exact h.unique x old y old' same

theorem Serialed.answer (h : Serialed log c)
    (remembered : ∀ e ∈ c.remembered, e.2 ∈ returned log) (call : Call) :
    Serialed (.compiled c call :: log) (c.answer call).context := by
  cases c.answer_serials call with
  | recalled _ done mem _ same =>
    refine h.again (fun a done' => ?_) same
    cases done.symm.trans done'
    exact remembered _ mem
  | nothing _ none_ same => exact h.again (fun a done => absurd done (none_ a)) same
  | installed _ stamps =>
    cases stamps with
    | nothing none_ same => exact h.again (fun a done => absurd done (none_ a)) same
    | made done serial next => exact h.made done serial next

theorem History.serialed (h : History allowed log c) : Serialed log c := by
  induction h with
  | new =>
    exact ⟨fun _ mem => absurd mem List.not_mem_nil, fun _ mem => absurd mem List.not_mem_nil⟩
  | compiled call h ih => exact ih.answer (fun _ => h.returned_of_remembered) call
  | cleared _ ih => exact ⟨ih.below, ih.unique⟩
  | aside _ ih => exact ⟨ih.below, ih.unique⟩
  | shared _ _ ih => exact ⟨ih.below, ih.unique⟩

/-! ### Origins -/

/-- A compile of a source with this origin installed what the artifact stands for. -/
def MadeFrom (log : List Event) (a : Artifact) (origin : String) : Prop :=
  ∃ before call, .compiled before call ∈ log ∧ (before.answer call).outcome = .done a ∧
    (before.installation? call).isSome ∧ call.source.origin = origin

theorem MadeFrom.returned (h : MadeFrom log a origin) : a ∈ returned log := by
  obtain ⟨before, call, mem, done, -⟩ := h
  exact List.mem_filterMap.mpr ⟨_, mem, Outcome.artifact?_eq_some.mpr done⟩

theorem MadeFrom.of_cleared (h : MadeFrom (.cleared :: log) a origin) : MadeFrom log a origin := by
  obtain ⟨before, call, mem, made⟩ := h
  exact ⟨before, call, (List.mem_cons.mp mem).resolve_left nofun, made⟩

theorem MadeFrom.cons (h : MadeFrom log a origin) (e : Event) : MadeFrom (e :: log) a origin := by
  obtain ⟨before, call, mem, made⟩ := h
  exact ⟨before, call, List.mem_cons_of_mem e mem, made⟩

/-- An artifact that is returned after an installation has the serial that was next. -/
theorem serial_eq_of_installation (installs : (c.installation? call).isSome)
    (done : (c.answer call).outcome = .done a) : a.serial = c.nextSerial := by
  cases c.answer_serials call with
  | recalled none_ | nothing none_ => simp [none_] at installs
  | installed _ stamps =>
    cases stamps with
    | nothing none_ => exact absurd done (none_ a)
    | made done' serial =>
      cases done'.symm.trans done
      exact serial

/-- What was returned before was not made by the last compile. -/
theorem Serialed.madeFrom_before (h : Serialed log c) (mem : a ∈ returned log)
    (made : MadeFrom (.compiled c call :: log) a origin) : MadeFrom log a origin := by
  obtain ⟨before, call', there, done, installs, from_⟩ := made
  rcases List.mem_cons.mp there with same | there
  · cases same
    exact absurd (serial_eq_of_installation installs done) (Nat.ne_of_lt (h.below a mem))
  · exact ⟨before, call', there, done, installs, from_⟩

/-- What the last compile made is of the origin of its source, and of no other. -/
theorem Serialed.madeFrom_last (h : Serialed log c) (installs : (c.installation? call).isSome)
    (done : (c.answer call).outcome = .done a) :
    MadeFrom (.compiled c call :: log) a origin ↔ call.source.origin = origin := by
  constructor
  · rintro ⟨before, call', there, done', installs', from_⟩
    rcases List.mem_cons.mp there with same | there
    · cases same
      exact from_
    · have returned : MadeFrom log a origin := ⟨before, call', there, done', installs', from_⟩
      have lt := h.below a returned.returned
      exact absurd (serial_eq_of_installation installs done) (Nat.ne_of_lt lt)
  · exact fun from_ => ⟨c, call, List.mem_cons_self, done, installs, from_⟩

/-- Every artifact that was returned was made from a source, whose origin is its own. -/
theorem History.exists_madeFrom (h : History allowed log c) (mem : a ∈ returned log) :
    ∃ origin, MadeFrom log a origin ∧ ∀ other, MadeFrom log a other → other = origin := by
  induction h with
  | new => exact absurd mem List.not_mem_nil
  | @compiled log c call h ih =>
    have serialed := h.serialed
    have before : a ∈ returned log → ∃ origin, MadeFrom (.compiled c call :: log) a origin ∧
        ∀ other, MadeFrom (.compiled c call :: log) a other → other = origin := by
      intro mem
      obtain ⟨origin, made, only⟩ := ih mem
      refine ⟨origin, made.cons _, fun other made' => ?_⟩
      exact only other (serialed.madeFrom_before mem made')
    rcases mem_returned_compiled.mp mem with done | old
    · cases c.answer_serials call with
      | recalled _ done' there =>
        cases done'.symm.trans done
        exact before (h.returned_of_remembered there)
      | nothing _ none_ => exact absurd done (none_ a)
      | installed installs =>
        exact ⟨call.source.origin, (serialed.madeFrom_last installs done).mpr rfl,
          fun other made => ((serialed.madeFrom_last installs done).mp made).symm⟩
    · exact before old
  | cleared _ ih =>
    obtain ⟨origin, made, only⟩ := ih mem
    exact ⟨origin, made.cons _, fun other made' => only other made'.of_cleared⟩
  | aside _ ih => exact ih mem
  | shared _ _ ih => exact ih mem

end Scriptorium.Context
