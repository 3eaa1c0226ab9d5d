import Scriptorium.Proofs.Context.History

/-! Diagnostics belong to the compile that emitted them. A sink may come to a compile in any state:
taking its list leaves the number of errors as it was, so that the two need not agree
(`Sink.Handled.countP_le`). Every compile resets it before anything else, and what the generator
then emits is all that the sink and the error of the compile can tell
(`Context.answer_diagnostics`). -/

namespace Scriptorium

namespace Sink

theorem emitAll_empty (ds : List Diagnostic) :
    empty.emitAll ds = ⟨ds, ds.countP (·.isError)⟩ := by
  have pending := emitAll_pending empty ds
  have errorCount := emitAll_errorCount empty ds
  generalize empty.emitAll ds = s at pending errorCount ⊢
  obtain ⟨list, count⟩ := s
  simpa [empty] using And.intro pending errorCount

theorem hasErrors_emitAll_empty (ds : List Diagnostic) :
    (empty.emitAll ds).hasErrors ↔ ∃ d ∈ ds, d.isError := by
  rw [emitAll_empty, hasErrors, decide_eq_true_iff, List.countP_pos_iff]

end Sink

namespace Generated

/-- A compile that comes to this fails: there is no bundle, or it comes with an error. -/
def Fails (g : Generated) : Prop := g.bundle = none ∨ ∃ d ∈ g.diagnostics, d.isError

/-- What is said without an error. -/
theorem filter_diagnostics {g : Generated} (h : ¬ g.Fails) :
    g.diagnostics.filter (fun d => !d.isError) = g.diagnostics ∧
      g.diagnostics.countP (·.isError) = 0 := by
  have harmless : ∀ d ∈ g.diagnostics, ¬ d.isError := fun d mem error => h (.inr ⟨d, mem, error⟩)
  exact ⟨List.filter_eq_self.mpr fun d mem => by simpa using harmless d mem,
    List.countP_eq_zero.mpr harmless⟩

end Generated

namespace Context

variable {c : Context} {held : List Artifact} {files : FileTree} {source : Source}
  {f : Fingerprint} {record : Record} {b : Bundle} {place : Option (RecordStore × RecordKey)}

/-! ### The generator and its sink -/

/-- What the generator is told of and has to say when a call reaches it. -/
def generated (c : Context) (call : Call) : Generated :=
  call.generator call.source (c.fingerprintOf call.source).strict

theorem generate_reset (generator : Generator) (source : Source) (strict : Bool) (sink : Sink) :
    let g := generator source strict
    (generate generator source strict sink.reset).2 =
        ⟨g.diagnostics, g.diagnostics.countP (·.isError)⟩ ∧
      ∀ e, (generate generator source strict sink.reset).1 = .error e ↔
        g.Fails ∧ e = .diagnostics g.diagnostics := by
  have errors := Sink.hasErrors_emitAll_empty (generator source strict).diagnostics
  rw [Sink.emitAll_empty] at errors
  simp only [generate, Sink.reset, Sink.emitAll_empty, Generated.Fails]
  cases found : (generator source strict).bundle with
  | none =>
    exact ⟨rfl, fun e => ⟨fun h => ⟨.inl rfl, (Except.error.inj h).symm⟩, fun h => h.2 ▸ rfl⟩⟩
  | some b =>
    simp only [reduceCtorEq, false_or, ← errors]
    cases Sink.hasErrors _ with
    | true => exact ⟨rfl, fun e => ⟨fun h => ⟨rfl, (Except.error.inj h).symm⟩, fun h => h.2 ▸ rfl⟩⟩
    | false =>
      refine ⟨rfl, fun e => ⟨fun h => ?_, fun h => absurd h.1 Bool.false_ne_true⟩⟩
      cases h

/-! ### Compiles -/

/-- An installation does not end for what a generator says. -/
theorem giveUp_ne_diagnostics (s : Setback) (ds : List Diagnostic) :
    (c.giveUp s).1 ≠ .failed (.diagnostics ds) := by
  cases s <;> nofun

/-- What was restored is not refused for what a generator says. -/
theorem restore_ne_diagnostics (ds : List Diagnostic) :
    (c.restore held source f record).1 ≠ .failed (.diagnostics ds) := by
  intro failed
  rw [restore] at failed
  split at failed
  · exact giveUp_ne_diagnostics _ ds failed
  · split at failed <;> cases failed

theorem establish_ne_diagnostics (ds : List Diagnostic) :
    (c.establish held files source f place b).1 ≠ .failed (.diagnostics ds) := by
  intro failed
  rw [establish] at failed
  split at failed
  · exact giveUp_ne_diagnostics _ ds failed
  · cases failed

/-- A call reaches the generator if nothing is found in memory and no record on disk. -/
theorem asked_iff (c : Context) (call : Call) :
    (c.answer call).asked = true ↔
      (c.fromMemory call.held (c.fingerprintOf call.source)).1 = none ∧
        fromDisk (c.record? (c.fingerprintOf call.source)) call.files
          (c.fingerprintOf call.source) = .ok none := by
  have compiles := c.answer_compiles call
  generalize c.answer call = r at compiles ⊢
  cases compiles with
  | remembered hit => simp [hit]
  | broken miss loaded | restored miss loaded | refused miss loaded | established miss loaded =>
    simp [miss, loaded]

/-- How outcome and sink of a compile go with what a generator has to say about its source. -/
structure Reports (g : Generated) (r : Compiled) : Prop where
  /-- The compile fails with the list of all that was said, if the generator was asked in vain. -/
  refused : ∀ ds, r.outcome = .failed (.diagnostics ds) ↔
    r.asked = true ∧ g.Fails ∧ ds = g.diagnostics
  /-- The sink then holds the same list with its errors, as many as the message tells. -/
  told : ∀ ds, r.outcome = .failed (.diagnostics ds) →
    r.sink = ⟨ds, ds.countP (·.isError)⟩ ∧ (CompileError.diagnostics ds).message =
      s!"compilation failed with {r.sink.errorCount} error(s)"
  silent : r.asked = false → r.sink = .empty
  /-- Whatever else becomes of generated code, there was no error. -/
  harmless : r.asked = true → (∀ ds, r.outcome ≠ .failed (.diagnostics ds)) →
    r.sink = ⟨g.diagnostics.filter (fun d => !d.isError), 0⟩

private theorem Reports.of_not_asked {g : Generated} {r : Compiled} (asked : r.asked = false)
    (sink : r.sink = .empty) (other : ∀ ds, r.outcome ≠ .failed (.diagnostics ds)) :
    Reports g r where
  refused ds := ⟨fun failed => absurd failed (other ds), fun h => by simp [asked] at h⟩
  told ds failed := absurd failed (other ds)
  silent _ := sink
  harmless h := by simp [asked] at h

theorem answer_reports (c : Context) (call : Call) :
    Reports (c.generated call) (c.answer call) := by
  have compiles := c.answer_compiles call
  obtain ⟨said, fails⟩ := generate_reset call.generator call.source
    (c.fingerprintOf call.source).strict call.sink
  generalize c.answer call = r at compiles ⊢
  cases compiles with
  | remembered hit => exact .of_not_asked rfl rfl nofun
  | broken miss loaded => exact .of_not_asked rfl rfl nofun
  | restored miss loaded => exact .of_not_asked rfl rfl restore_ne_diagnostics
  | refused miss loaded generated =>
    rw [generated] at said fails
    obtain ⟨failed, rfl⟩ := (fails _).mp rfl
    refine ⟨fun ds => ?_, fun ds same => ?_, nofun, fun _ other => absurd rfl (other _)⟩
    · constructor
      · intro same
        cases same
        exact ⟨rfl, failed, rfl⟩
      · rintro ⟨-, -, rfl⟩
        rfl
    · cases same
      cases said
      exact ⟨rfl, rfl⟩
  | established miss loaded generated =>
    rw [generated] at said fails
    have whole : ¬ (c.generated call).Fails := fun failed => nomatch (fails _).mpr ⟨failed, rfl⟩
    obtain ⟨kept, none_⟩ := Generated.filter_diagnostics whole
    refine ⟨fun ds => ?_, fun ds failed => ?_, nofun, fun _ _ => ?_⟩
    · exact ⟨fun failed => absurd failed (establish_ne_diagnostics ds),
        fun h => absurd h.2.1 whole⟩
    · exact absurd failed (establish_ne_diagnostics ds)
    · rw [kept, ← none_]
      exact said

/-- After a compile the number of errors is that of the list. -/
theorem answer_sink_agrees (c : Context) (call : Call) :
    (c.answer call).sink.errorCount = (c.answer call).sink.pending.countP (·.isError) := by
  have reports := c.answer_reports call
  cases asked : (c.answer call).asked with
  | false =>
    rw [reports.silent asked]
    rfl
  | true =>
    by_cases refused : ∃ ds, (c.answer call).outcome = .failed (.diagnostics ds)
    · obtain ⟨ds, failed⟩ := refused
      rw [(reports.told ds failed).1]
    · rw [reports.harmless asked (not_exists.mp refused)]
      refine (List.countP_eq_zero.mpr fun d mem => ?_).symm
      simpa using (List.mem_filter.mp mem).2

/-- For every compile with any sink, the generator is asked if nothing is found in memory and on
disk; what it then says, and nothing else, is in the error and in the sink. What the sink had been
through makes no difference. -/
theorem answer_diagnostics (c : Context) (call : Call) :
    ((c.answer call).asked = true ↔
      (c.fromMemory call.held (c.fingerprintOf call.source)).1 = none ∧
        fromDisk (c.record? (c.fingerprintOf call.source)) call.files
          (c.fingerprintOf call.source) = .ok none) ∧
      Reports (c.generated call) (c.answer call) ∧
      ∀ sink, c.answer { call with sink } = c.answer call :=
  ⟨c.asked_iff call, c.answer_reports call, fun _ => rfl⟩

end Context

namespace Sink

open Context

/-- What a sink may have been through: whoever has it may use it, and any context may compile with
it. -/
inductive Handled : Sink → Prop
  | empty : Handled .empty
  | emit {s : Sink} (d : Diagnostic) : Handled s → Handled (s.emit d)
  | taken {s : Sink} : Handled s → Handled s.takeAll.2
  | reset {s : Sink} : Handled s → Handled s.reset
  | compiled {s : Sink} (c : Context) (call : Call) : Handled s → call.sink = s →
      Handled (c.answer call).sink

/-- The number of errors is never less than the errors in the list, so that a sink without errors
has none in its list. -/
theorem Handled.countP_le {s : Sink} (h : Handled s) :
    s.pending.countP (·.isError) ≤ s.errorCount := by
  induction h with
  | empty | reset => exact Nat.le_refl 0
  | @emit s d _ ih =>
    simp only [Sink.emit, List.countP_append, List.countP_singleton]
    split <;> omega
  | taken => exact Nat.zero_le _
  | compiled c call => exact Nat.le_of_eq (c.answer_sink_agrees call).symm

/-- It may be more: the list was taken, and its errors still count. -/
example : let d : Diagnostic := ⟨.error, ⟨.syntactic, 1⟩, "unexpected end", "a", ⟨0, 0⟩, []⟩
    (empty.emit d).takeAll.2 = ⟨[], 1⟩ ∧ (empty.emit d).takeAll.2.reset = empty := by
  decide

end Sink
end Scriptorium
