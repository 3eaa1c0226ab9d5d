import Mathlib.Data.List.Nodup
import Scriptorium.Proofs.Session.FoldingLog

/-! Folding is for contexts with a single scope. The first scope of a context brings folding into
being, and the second one ends it for good: nothing that was folded before is valid, and nothing is
folded or found after (`Session.Run.folds_for_one_scope`). Whether folding has ended can be read off
the log, since besides a further scope only `invalidateForever` ends it. -/

namespace Scriptorium

namespace Session

/-- An event has to do with the scopes or the folding of a context. -/
def Event.Concerns (n : Nat) : Event → Prop
  | .nothing => False
  | .created scope => scope.station = n
  | .bound scopes => ∃ scope, some scope ∈ scopes ∧ scope.station = n
  | .acted m _ _ => m = n

/-- What holds of the folding of a context at any time of a session. -/
structure FoldsForOneScope (log : List Event) (n : Nat) (s : Session) (c : Context) : Prop where
  absent : c.folding = none ↔ scopesOf n log = []
  /-- Folding is never replaced: it is the one that the first scope brought into being, after all
  that the log has for it. -/
  replays : ∀ f, c.folding = some f → ∃ l, foldingLog n log = some l ∧
    Folding.run .empty (l.map (·.1)) = .ok (l, f, c.guards)
  /-- Nothing that was done in it is ever taken back. -/
  lasting : ∀ recent older l, log = recent ++ older → foldingLog n older = some l →
    ∃ l', foldingLog n log = some (l ++ l')
  enabled : (scopesOf n log).length = 1 →
    (∀ reply, .acted n .invalidateForever reply ∉ log) →
    ∃ f, c.folding = some f ∧ f.phase ≠ .disabled ∧ c.activeFolding = some f
  ended : 2 ≤ (scopesOf n log).length →
    ∃ f, c.folding = some f ∧ f.phase = .disabled ∧ c.activeFolding = none
  invalid : 2 ≤ (scopesOf n log).length → ∀ name value guard,
    .acted n (.fold name value) (.guard (some guard)) ∈ log → ¬ c.guards.isValid guard
  refused : 2 ≤ (scopesOf n log).length → ∀ name value,
    (s.perform (.act n (.fold name value))).1 = .acted n (.fold name value) (.guard none)
  forgotten : 2 ≤ (scopesOf n log).length → ∀ name,
    (s.perform (.act n (.lookup name))).1 = .acted n (.lookup name) (.value none)
  others : ∀ deed, ¬ (s.perform deed).1.Concerns n →
    ∃ c', (s.perform deed).2.context? n = some c' ∧ c.SameScoping c'
  distinct : (scopesOf n log).Nodup

variable {log older recent : List Event} {s s' : Session} {n : Nat} {c c' : Context} {e : Event}
  {l : Folding.Log} {f : Folding}

theorem Undergoes.sameScoping (h : Undergoes n e c c') (other : ¬ e.Concerns n) :
    c.SameScoping c' := by
  cases h with
  | nothing same => exact same
  | created | acted => exact absurd rfl other
  | createdElsewhere | actedElsewhere => exact .refl c
  | bound =>
    rw [foldl_rebind_eq_self fun scope mem own => other ⟨scope, mem, own⟩]
    exact .refl c

/-! ### What ends folding -/

theorem length_scopesOf_cons (e : Event) : (scopesOf n (e :: log)).length =
    (e.scope? n).toList.length + (scopesOf n log).length := by
  rw [scopesOf_cons, List.length_append]

/-- Folding is ended by a further scope or by name. -/
theorem ends_iff (e : Event) : .invalidateForever ∈ (e.actionsIn n).map (·.1) ↔
    (e.scope? n).isSome ∨ ∃ reply, e = .acted n .invalidateForever reply := by
  cases e with
  | nothing | bound => simp [Event.actionsIn, Event.scope?]
  | created scope => by_cases own : scope.station = n <;> simp [Event.actionsIn, Event.scope?, own]
  | acted m action reply =>
    by_cases own : m = n
    · simp [Event.actionsIn, Event.scope?, own, eq_comm]
    · simp [Event.actionsIn, Event.scope?, own]

theorem scopesOf_pos (logged : foldingLog n log = some l) : 0 < (scopesOf n log).length := by
  apply List.length_pos_iff.mpr
  intro none_
  cases (foldingLog_eq_none.mpr none_).symm.trans logged

/-- Where folding has ended, a second scope was made or folding was ended by name. -/
theorem two_scopes_of_ended (logged : foldingLog n log = some l)
    (ended : .invalidateForever ∈ l.map (·.1)) :
    2 ≤ (scopesOf n log).length ∨ ∃ reply, .acted n .invalidateForever reply ∈ log := by
  induction log generalizing l with
  | nil => cases logged
  | cons e older ih =>
    rw [length_scopesOf_cons]
    cases known : foldingLog n older with
    | none =>
      rw [foldingLog_first known] at logged
      obtain ⟨_, -, rfl⟩ := Option.map_eq_some_iff.mp logged
      cases ended
    | some l₀ =>
      cases logged.symm.trans (foldingLog_cons known e)
      have one := scopesOf_pos known
      rw [List.map_append, List.mem_append] at ended
      rcases ended with before | now
      · rcases ih known before with two | ⟨reply, mem⟩
        · exact .inl (Nat.le_add_left_of_le two)
        · exact .inr ⟨reply, List.mem_cons_of_mem e mem⟩
      · rcases (ends_iff e).mp now with made | ⟨reply, rfl⟩
        · obtain ⟨id, made⟩ := Option.isSome_iff_exists.mp made
          rw [made, Option.toList_some, List.length_singleton]
          exact .inl (by omega)
        · exact .inr ⟨reply, List.mem_cons_self⟩

/-- A second scope ends folding. -/
theorem ended_of_two_scopes (two : 2 ≤ (scopesOf n log).length) :
    ∃ l, foldingLog n log = some l ∧ .invalidateForever ∈ l.map (·.1) := by
  induction log with
  | nil => cases two
  | cons e older ih =>
    by_cases before : 2 ≤ (scopesOf n older).length
    · obtain ⟨l, logged, ended⟩ := ih before
      refine ⟨_, foldingLog_cons logged e, ?_⟩
      rw [List.map_append]
      exact List.mem_append_left _ ended
    · rw [length_scopesOf_cons] at two
      cases made : e.scope? n with
      | none =>
        rw [made, Option.toList_none, List.length_nil] at two
        omega
      | some id =>
        rw [made, Option.toList_some, List.length_singleton] at two
        cases known : foldingLog n older with
        | none =>
          rw [foldingLog_eq_none.mp known, List.length_nil] at two
          omega
        | some l =>
          refine ⟨_, foldingLog_cons known e, ?_⟩
          rw [List.map_append]
          apply List.mem_append_right
          exact (ends_iff e).mpr (.inl (Option.isSome_iff_exists.mpr ⟨id, made⟩))

/-! ### At any time -/

theorem activeFolding_of_ended (folding : c.folding = some f) (ended : f.phase = .disabled) :
    c.activeFolding = none := by
  rw [Context.activeFolding, folding, Option.filter_some, Folding.isDisabled, ended]
  rfl

theorem activeFolding_of_enabled (folding : c.folding = some f) (enabled : f.phase ≠ .disabled) :
    c.activeFolding = some f := by
  rw [Context.activeFolding, folding, Option.filter_some, Folding.isDisabled,
    decide_eq_false enabled]
  rfl

/-- After a second scope, folding has ended and nothing is bound. -/
theorem Run.ended (run : Run log s) (known : s.context? n = some c)
    (two : 2 ≤ (scopesOf n log).length) : ∃ l f, foldingLog n log = some l ∧
      c.folding = some f ∧ Folding.Coherent l f c.guards ∧ f.phase = .disabled ∧
        f.bindings = [] := by
  obtain ⟨l, logged, forever⟩ := ended_of_two_scopes two
  obtain ⟨f, folding, coherent⟩ := run.coherent known logged
  have ended := coherent.disabled.mpr forever
  refine ⟨l, f, logged, folding, coherent, ended, coherent.unbound ?_⟩
  rw [ended]
  exact nofun

/-- What is done in folding that is there is in the log. -/
theorem perform_act (known : s.context? n = some c) (folding : c.folding = some f)
    (action : Folding.Action) :
    (s.perform (.act n action)).1 = .acted n action (f.act c.guards action).1 := by
  rw [perform, Session.fold, known]
  simp only [folding, Option.map_some]

/-- The first scope of a context brings folding into being and the second one ends it, whatever
other contexts there are and whichever scopes are made current. -/
theorem Run.folds_for_one_scope (run : Run log s) (known : s.context? n = some c) :
    FoldsForOneScope log n s c where
  absent := by
    have reflects := run.reflects known
    rw [← foldingLog_eq_none]
    constructor
    · intro none_
      cases logged : foldingLog n log with
      | none => rfl
      | some l =>
        obtain ⟨f, folding, -⟩ := reflects.replays l logged
        cases none_.symm.trans folding
    · intro none_
      exact (reflects.unscoped none_).folding
  replays := by
    intro f folding
    have reflects := run.reflects known
    cases logged : foldingLog n log with
    | none => cases folding.symm.trans (reflects.unscoped logged).folding
    | some l =>
      obtain ⟨f', folding', ran⟩ := reflects.replays l logged
      cases folding.symm.trans folding'
      exact ⟨l, rfl, ran⟩
  lasting := by
    rintro recent older l rfl known
    exact ⟨_, foldingLog_append known recent⟩
  enabled := by
    intro one spared
    cases logged : foldingLog n log with
    | none =>
      rw [foldingLog_eq_none.mp logged] at one
      cases one
    | some l =>
      obtain ⟨f, folding, coherent⟩ := run.coherent known logged
      have enabled : f.phase ≠ .disabled := by
        intro ended
        rcases two_scopes_of_ended logged (coherent.disabled.mp ended) with two | ⟨reply, mem⟩
        · omega
        · exact spared reply mem
      exact ⟨f, folding, enabled, activeFolding_of_enabled folding enabled⟩
  ended := by
    intro two
    obtain ⟨-, f, -, folding, -, ended, -⟩ := run.ended known two
    exact ⟨f, folding, ended, activeFolding_of_ended folding ended⟩
  invalid := by
    intro two name value guard mem valid
    obtain ⟨l, f, logged, -, coherent, -, unbound⟩ := run.ended known two
    obtain ⟨recent, older, rfl⟩ := List.append_of_mem mem
    obtain ⟨before, logged'⟩ := run.acted
    cases logged.symm.trans logged'
    have bound := coherent.bound_of_isValid ⟨before, rfl⟩ valid
    rw [unbound] at bound
    cases bound
  refused := by
    intro two name value
    obtain ⟨-, f, -, folding, -, ended, -⟩ := run.ended known two
    rw [perform_act known folding, Folding.act, Folding.fold, Folding.isDisabled,
      if_pos (decide_eq_true ended)]
  forgotten := by
    intro two name
    obtain ⟨-, f, -, folding, -, -, unbound⟩ := run.ended known two
    rw [perform_act known folding, Folding.act, Folding.lookup, Folding.binding?, unbound]
    rfl
  others := by
    intro deed other
    obtain ⟨c', known', undergoes⟩ := perform_undergoes known deed
    exact ⟨c', known', undergoes.sameScoping other⟩
  distinct := by
    apply List.Nodup.of_map (·.number)
    rw [(run.reflects known).numbers, List.nodup_reverse]
    exact List.nodup_range

/-- A value is folded between the first scope and the second one. -/
theorem Run.folds_for_one_scope_two : ∃ log s c, Run log s ∧ s.context? 0 = some c ∧
    (scopesOf 0 log).length = 2 ∧
    .acted 0 (.fold "x" (.bool true)) (.guard (some ⟨0⟩)) ∈ log ∧
    FoldsForOneScope log 0 s c := by
  let opened := ((Session.new .empty).perform
    (.openContext "a" {} "1" (.ofHost (.new false)) none)).2
  let first := (opened.perform (.createScope 0 "b")).2
  let folded := (first.perform (.act 0 (.fold "x" (.bool true)))).2
  have run := Run.did (.createScope 0 "c") <| .did (.act 0 (.fold "x" (.bool true))) <|
    .did (.createScope 0 "b") <| .did (.openContext "a" {} "1" (.ofHost (.new false)) none) <|
    .start .empty
  have there : (folded.perform (.createScope 0 "c")).2.context? 0 |>.isSome := by decide +kernel
  obtain ⟨c, known⟩ := Option.isSome_iff_exists.mp there
  refine ⟨_, _, c, run, known, by decide +kernel, ?_, run.folds_for_one_scope known⟩
  apply List.mem_cons_of_mem
  exact List.mem_cons_self

end Session
end Scriptorium
