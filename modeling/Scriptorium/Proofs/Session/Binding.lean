import Scriptorium.Proofs.Session.FoldingLog

/-! A scope that becomes the current one drops what was folded in its own context, and nothing else.
A scope becomes current when it is bound or entered, and again when a scope that was entered from it
is left, in whatever order that happens; the log has all of these moments
(`Session.Run.current_eq`). So a folded value that is still valid is newer than any of them that has
to do with its context, and the others leave the context as it is
(`Session.Run.drops_on_binding`). -/

namespace Scriptorium

namespace Session

/-- The scope that was made current last. -/
def lastBound : List Event → Option Scope
  | [] => none
  | .bound scopes :: older => scopes.getLast?.getD (lastBound older)
  | .nothing :: older | .created _ :: older | .acted .. :: older => lastBound older

/-- What holds at any time of a session of a context and the scopes that become current. -/
structure DropsOnBinding (log : List Event) (n : Nat) (s : Session) (c : Context) : Prop where
  /-- No scope of the context became current after a value was folded that is valid. -/
  newer : ∀ recent older name value guard,
    log = recent ++ .acted n (.fold name value) (.guard (some guard)) :: older →
    c.guards.isValid guard → ∀ scopes, .bound scopes ∈ recent →
    ∀ scope, some scope ∈ scopes → scope.station ≠ n
  /-- The log has all scopes that became current. -/
  current : s.current = lastBound log
  binds : ∀ deed scopes, (s.perform deed).1 = .bound scopes →
    ∃ entered, (s.perform deed).2 = { scopes.foldl bind s with entered }
  /-- The context is left as it is when no scope or scopes of other contexts become current. -/
  others : ∀ deed scopes, (s.perform deed).1 = .bound scopes →
    (∀ scope, some scope ∈ scopes → scope.station ≠ n) → (s.perform deed).2.context? n = some c

variable {log older recent : List Event} {s s' : Session} {n m : Nat} {c c' : Context} {e : Event}
  {scopes : List (Option Scope)} {deed : Deed}

/-! ### The current scope -/

theorem current_foldl_bind (s : Session) (scopes : List (Option Scope)) :
    (scopes.foldl bind s).current = scopes.getLast?.getD s.current := by
  induction scopes generalizing s with
  | nil => rfl
  | cons scope scopes ih =>
    rw [List.foldl_cons, ih, List.getLast?_cons, Option.getD_some]
    cases scopes.getLast? <;> cases scope <;> rfl

/-- The scope that the log says was made current last is the current one. -/
theorem Run.current_eq (run : Run log s) : s.current = lastBound log := by
  induction run with
  | start files => rfl
  | @did log s deed run ih =>
    cases event : (s.perform deed).1 with
    | bound scopes =>
      obtain ⟨entered, after⟩ := perform_bound event
      rw [after, lastBound, ← ih]
      exact current_foldl_bind s scopes
    | nothing | created | acted =>
      have aside : deed.binds = false := by
        refine Bool.eq_false_iff.mpr fun binds => ?_
        obtain ⟨scopes, bound⟩ := perform_binds binds s
        cases event.symm.trans bound
      rw [lastBound, ← ih]
      exact (perform_aside aside s).1
  | aside run same ih => rw [same.current, ih]

/-! ### Values that were dropped -/

/-- A scope of a context that becomes current drops all that is folded there. -/
theorem drops_of_bound {scope : Scope} (mem : some scope ∈ scopes) (own : scope.station = n) :
    (.invalidateAll, .done) ∈ (Event.bound scopes).actionsIn n := by
  rw [Event.actionsIn]
  apply List.mem_map_of_mem
  apply List.mem_filter.mpr
  exact ⟨mem, decide_eq_true own⟩

/-- A folded value that is valid is newer than all that made a scope of its context the current
one, and where scopes of other contexts become current it stays. -/
theorem Run.drops_on_binding (run : Run log s) (known : s.context? n = some c) :
    DropsOnBinding log n s c where
  newer := by
    rintro recent older name value guard rfl valid scopes bound scope mem own
    obtain ⟨before, logged⟩ := run.acted
    obtain ⟨f, -, coherent⟩ := run.coherent known logged
    have kept := (coherent.isValid name value guard _ ⟨before, rfl⟩).mp valid
    have dropped : (.invalidateAll, .done) ∈ recent.reverse.flatMap (·.actionsIn n) := by
      apply List.mem_flatMap.mpr
      exact ⟨_, List.mem_reverse.mpr bound, drops_of_bound mem own⟩
    exact kept _ dropped (.inl trivial)
  current := run.current_eq
  binds := fun _ _ => perform_bound
  others := by
    intro deed scopes event others
    obtain ⟨entered, after⟩ := perform_bound event
    have rebound := context?_foldl_bind s scopes n
    rw [known, Option.map_some, foldl_rebind_eq_self others] at rebound
    rw [after]
    exact rebound

/-- A value stays valid while a scope of another context is entered. -/
theorem Run.drops_on_binding_elsewhere : ∃ log s c, Run log s ∧ s.context? 0 = some c ∧
    .acted 0 (.fold "x" (.bool true)) (.guard (some ⟨0⟩)) ∈ log ∧ c.guards.isValid ⟨0⟩ ∧
    s.current = some ⟨1, ⟨0⟩⟩ ∧ DropsOnBinding log 0 s c := by
  let opening (name : String) : Deed := .openContext name {} "1" (.ofHost (.new false)) none
  let opened := (((Session.new .empty).perform (opening "a")).2.perform (opening "b")).2
  let created := ((opened.perform (.createScope 0 "c")).2.perform (.createScope 1 "d")).2
  let entered := ((created.perform (.act 0 (.fold "x" (.bool true)))).2.perform
    (.enter ⟨1, ⟨0⟩⟩ "e")).2
  have run := Run.did (.enter ⟨1, ⟨0⟩⟩ "e") <| .did (.act 0 (.fold "x" (.bool true))) <|
    .did (.createScope 1 "d") <| .did (.createScope 0 "c") <| .did (opening "b") <|
    .did (opening "a") <| .start .empty
  have there : (entered.context? 0).any fun c => c.guards.isValid ⟨0⟩ := by decide +kernel
  obtain ⟨c, known, valid⟩ := (Option.any_eq_true _ _).mp there
  refine ⟨_, entered, c, run, known, ?_, valid, by decide +kernel, run.drops_on_binding known⟩
  apply List.mem_cons_of_mem
  exact List.mem_cons_self

end Session
end Scriptorium
