import Scriptorium.Proofs.Context.Opening

/-! Histories of a context. The log of a history has each compile with the context as it was then
and with all that the compile was given, the last one first. What a log says of memory is that an
artifact stands there behind those that were delivered later (`Context.Recalls`); each compile that
delivers anything makes its artifact the last one in memory (`Context.Compiles.memory`). -/

namespace Scriptorium

/-- The artifact that was delivered. -/
def Outcome.artifact? : Outcome → Option Artifact
  | .done a => some a
  | .failed _ => none
  | .broken _ => none

theorem Outcome.artifact?_eq_some {o : Outcome} {a : Artifact} :
    o.artifact? = some a ↔ o = .done a := by
  cases o <;> simp [artifact?]

namespace Context

/-- What a compile is given. -/
structure Call where
  generator : Generator
  held : List Artifact
  files : FileTree
  sink : Sink
  source : Source

/-- The compile that a call asks for. -/
def answer (c : Context) (call : Call) : Compiled :=
  c.compile call.generator call.held call.files call.sink call.source

inductive Event where
  | compiled (before : Context) (call : Call)
  | cleared

/-- The contexts that a log leads to, the last event first. Guards, scopes and folding change beside
it, and so does the target, as far as it is allowed. -/
inductive History (allowed : List Event → Target → Target → Prop) : List Event → Context → Prop
  | new {c : Context} {config version target verifier files files'} : allowed [] target target →
      Context.new config version target verifier files = .ok (c, files') →
      History allowed [] c
  | compiled {log c} (call : Call) : History allowed log c →
      History allowed (.compiled c call :: log) (c.answer call).context
  | cleared {log c} : History allowed log c → History allowed (.cleared :: log) c.clearMemory
  | aside {log c guards registry folding nextScope} : History allowed log c →
      History allowed log { c with guards, registry, folding, nextScope }
  | shared {log c target} : History allowed log c → allowed log c.target target →
      History allowed log { c with target }

variable {allowed : List Event → Target → Target → Prop} {log : List Event} {c c' : Context}
  {generator : Generator} {held : List Artifact} {files : FileTree} {sink : Sink}
  {source : Source} {f : Fingerprint} {b : Bundle} {place : Option (RecordStore × RecordKey)}

theorem answer_compiles (c : Context) (call : Call) :
    c.Compiles call.generator call.held call.files call.sink call.source
      (c.fingerprintOf call.source) (c.answer call) :=
  c.compiles_compile ..

theorem answer_setup (c : Context) (call : Call) : c.SameSetup (c.answer call).context :=
  (c.answer_compiles call).setup

/-! ### Memory after a compile -/

/-- Delivered artifacts are put into memory; nothing else becomes of it. -/
structure Remembers (c : Context) (held : List Artifact) (f : Fingerprint) (o : Outcome)
    (c' : Context) : Prop where
  done : ∀ a, o = .done a →
    c'.memory = c.memory.map fun m => m.put (fun a => held.any a.isSame) f.key a
  otherwise : (∀ a, o ≠ .done a) → c'.memory = c.memory

/-- A compile that is given up leaves memory as it was. -/
theorem remembers_giveUp {d : Context} (keeps : d.memory = c.memory) (s : Setback) :
    c.Remembers held f (d.giveUp s).1 (d.giveUp s).2 :=
  ⟨fun _ done => absurd done (giveUp_ne_done s), fun _ => (d.giveUp_means s).2.trans keeps⟩

theorem restore_remembers (c : Context) (held : List Artifact) (source : Source) (f : Fingerprint)
    (record : Record) : c.Remembers held f (c.restore held source f record).1
      (c.restore held source f record).2 := by
  have keeps := install_keeps c.countPersistentHit held source record.bundle
  rw [restore]
  split
  · next s e installs =>
    rw [installs] at keeps
    exact remembers_giveUp (c := c) keeps.memory s
  · next installed e installs =>
    rw [installs] at keeps
    split
    · exact ⟨by simp, fun _ => keeps.memory⟩
    · next e' reserved =>
      rw [reserve] at reserved
      split at reserved
      · cases reserved
        refine ⟨fun a done => ?_, fun none_ => absurd rfl (none_ _)⟩
        cases done
        exact congrArg (Option.map _) keeps.memory
      · cases reserved

theorem establish_remembers (c : Context) (held : List Artifact) (files : FileTree)
    (source : Source) (f : Fingerprint) (place : Option (RecordStore × RecordKey)) (b : Bundle) :
    c.Remembers held f (c.establish held files source f place b).1
      (c.establish held files source f place b).2.1 := by
  have keeps := install_keeps c held source b
  rw [establish]
  split
  · next s e installs =>
    rw [installs] at keeps
    exact remembers_giveUp keeps.memory s
  · next installed e installs =>
    rw [installs] at keeps
    have persisted := (persist_means
      (countFresh { e with nextCompilation := e.nextCompilation + 1 }) files place f b
      e.nextCompilation).2.trans keeps.memory
    refine ⟨fun a done => ?_, fun none_ => absurd rfl (none_ _)⟩
    cases done
    exact congrArg (Option.map _) persisted

/-- An artifact that was found in memory is delivered, and any other that is delivered is put there
after the search. -/
theorem Compiles.memory {r : Compiled} (h : c.Compiles generator held files sink source f r) :
    let found := c.fromMemory held f
    (∃ a, found.1 = some a ∧ r.outcome = .done a ∧ r.context.memory = found.2.memory) ∨
      (found.1 = none ∧ found.2.Remembers held f r.outcome r.context) := by
  cases h with
  | remembered hit =>
    rw [hit]
    exact .inl ⟨_, rfl, rfl, rfl⟩
  | broken miss | refused miss =>
    rw [miss]
    exact .inr ⟨rfl, by simp, fun _ => rfl⟩
  | restored miss =>
    rw [miss]
    exact .inr ⟨rfl, restore_remembers ..⟩
  | established miss =>
    rw [miss]
    exact .inr ⟨rfl, establish_remembers ..⟩

end Context
end Scriptorium
