import Mathlib.Data.List.Range
import Scriptorium.Proofs.Session.Scopes

/-! What the log of a session says about the folding of one context. Folding comes into being with
the first scope of the context, and from then on it is what the own part of the log makes of new
folding (`Session.Reflects`). Events of other contexts are no part of it: their scopes are made and
made current without any effect. -/

namespace Scriptorium

namespace Session

/-- What an event does in the folding of a context that has one. -/
def Event.actionsIn (n : Nat) : Event → Folding.Log
  | .nothing => []
  | .created scope => if scope.station = n then [(.invalidateForever, .done)] else []
  | .bound scopes => (scopes.filter (·.any (·.station = n))).map fun _ => (.invalidateAll, .done)
  | .acted m action reply => if m = n then [(action, reply)] else []

/-- The scopes that were made of a context, the last one first. -/
def scopesOf (n : Nat) (log : List Event) : List ScopeId := log.filterMap (·.scope? n)

/-- All that was done in the folding of a context, the first action first; `none` if the context has
no scope. The scope that brings folding into being does nothing in it. -/
def foldingLog (n : Nat) : List Event → Option Folding.Log
  | [] => none
  | e :: older =>
    match foldingLog n older with
    | some l => some (l ++ e.actionsIn n)
    | none => (e.scope? n).map fun _ => []

/-- The folding of a context is what a log makes of new folding. -/
def Replays (c : Context) (l : Folding.Log) : Prop :=
  ∃ f, c.folding = some f ∧ Folding.run .empty (l.map (·.1)) = .ok (l, f, c.guards)

/-- What the log of a session says about a context. -/
structure Reflects (log : List Event) (n : Nat) (c : Context) : Prop where
  unscoped : foldingLog n log = none → c.Unscoped
  replays : ∀ l, foldingLog n log = some l → Replays c l
  numbers : (scopesOf n log).map (·.number) = (List.range c.nextScope).reverse

variable {log older recent : List Event} {s s' : Session} {n : Nat} {c c' : Context} {e : Event}
  {id : ScopeId} {l : Folding.Log} {f : Folding}

/-! ### The log -/

@[simp] theorem scopesOf_cons (e : Event) :
    scopesOf n (e :: log) = (e.scope? n).toList ++ scopesOf n log := by
  rw [scopesOf, List.filterMap_cons]
  cases e.scope? n <;> rfl

theorem foldingLog_cons (known : foldingLog n older = some l) (e : Event) :
    foldingLog n (e :: older) = some (l ++ e.actionsIn n) := by
  rw [foldingLog, known]

theorem foldingLog_first (none_ : foldingLog n older = none) (e : Event) :
    foldingLog n (e :: older) = (e.scope? n).map fun _ => [] := by
  rw [foldingLog, none_]

/-- What was done in folding stays in its log. -/
theorem foldingLog_append (known : foldingLog n older = some l) (recent : List Event) :
    foldingLog n (recent ++ older) = some (l ++ recent.reverse.flatMap (·.actionsIn n)) := by
  induction recent with
  | nil => simpa using known
  | cons e recent ih =>
    rw [List.cons_append, foldingLog_cons ih, List.append_assoc, List.reverse_cons,
      List.flatMap_append, List.flatMap_singleton]

theorem foldingLog_eq_none : foldingLog n log = none ↔ scopesOf n log = [] := by
  induction log with
  | nil => simp [foldingLog, scopesOf]
  | cons e older ih =>
    rw [scopesOf_cons, List.append_eq_nil_iff, ← ih]
    cases known : foldingLog n older with
    | some l => simp [foldingLog_cons known]
    | none => cases scope : e.scope? n <;> simp [foldingLog_first known, scope]

/-! ### Folding of one context -/

theorem Replays.congr (h : Replays c l) (folding : c'.folding = c.folding)
    (guards : c'.guards = c.guards) : Replays c' l := by
  obtain ⟨f, known, ran⟩ := h
  refine ⟨f, folding.trans known, ?_⟩
  rwa [guards]

theorem Replays.act (h : Replays c l) (folding : c.folding = some f) (a : Folding.Action) :
    Replays { c with folding := some (f.act c.guards a).2.1, guards := (f.act c.guards a).2.2 }
      (l ++ [(a, (f.act c.guards a).1)]) := by
  obtain ⟨f', folding', ran⟩ := h
  cases folding.symm.trans folding'
  refine ⟨_, rfl, ?_⟩
  rw [List.map_append]
  exact Folding.run_concat ran a

theorem Replays.dropFolded (h : Replays c l) :
    Replays c.dropFolded (l ++ [(.invalidateAll, .done)]) := by
  obtain ⟨f, folding, -⟩ := id h
  rw [Context.dropFolded, Context.updateFolding, folding]
  exact h.act folding .invalidateAll

theorem Replays.createScope (h : Replays c l) :
    Replays c.createScope.2 (l ++ [(.invalidateForever, .done)]) := by
  obtain ⟨f, folding, -⟩ := id h
  have ended := h.act folding .invalidateForever
  rw [Context.createScope, folding, Context.endFolding, Context.updateFolding, folding]
  exact ended.congr rfl rfl

theorem Replays.rebind (h : Replays c l) (scopes : List (Option Scope)) :
    Replays (scopes.foldl (rebind n) c) (l ++ (Event.bound scopes).actionsIn n) := by
  induction scopes generalizing c l with
  | nil => simpa [Event.actionsIn] using h
  | cons scope scopes ih =>
    rw [List.foldl_cons, Session.rebind]
    by_cases own : scope.any (·.station = n)
    · have dropped := ih h.dropFolded
      rw [List.append_assoc] at dropped
      simpa [Event.actionsIn, own] using dropped
    · simpa [Event.actionsIn, own] using ih h

theorem unscoped_rebind (h : c.Unscoped) (scopes : List (Option Scope)) :
    scopes.foldl (rebind n) c = c := by
  have same : ∀ scope, rebind n c scope = c := by
    intro scope
    rw [rebind, Context.dropFolded, Context.updateFolding, h.folding, ite_self]
  induction scopes with
  | nil => rfl
  | cons scope scopes ih => rwa [List.foldl_cons, same]

/-! ### Numbers of scopes -/

theorem nextScope_updateFolding (c : Context)
    (change : Folding → GuardTable → Folding × GuardTable) :
    (c.updateFolding change).nextScope = c.nextScope := by
  rw [Context.updateFolding]
  split <;> rfl

theorem createScope_number (c : Context) :
    c.createScope.1 = ⟨c.nextScope⟩ ∧ c.createScope.2.nextScope = c.nextScope + 1 := by
  rw [Context.createScope]
  split
  · exact ⟨rfl, rfl⟩
  · rw [Context.endFolding, nextScope_updateFolding]
    exact ⟨rfl, rfl⟩

theorem nextScope_rebind (c : Context) (scopes : List (Option Scope)) :
    (scopes.foldl (rebind n) c).nextScope = c.nextScope := by
  induction scopes generalizing c with
  | nil => rfl
  | cons scope scopes ih =>
    rw [List.foldl_cons, ih, rebind]
    split
    · exact nextScope_updateFolding c _
    · rfl

/-! ### One event -/

/-- A scope gets the next number, and no other event has to do with numbers. -/
theorem Undergoes.numbers (h : Undergoes n e c c') :
    (e.scope? n = none ∧ c'.nextScope = c.nextScope) ∨
      (e.scope? n = some ⟨c.nextScope⟩ ∧ c'.nextScope = c.nextScope + 1) := by
  cases h with
  | nothing same => exact .inl ⟨rfl, same.nextScope⟩
  | createdElsewhere other => exact .inl ⟨if_neg other, rfl⟩
  | created =>
    obtain ⟨number, next⟩ := createScope_number c
    rw [number]
    exact .inr ⟨if_pos rfl, next⟩
  | bound => exact .inl ⟨rfl, nextScope_rebind c _⟩
  | actedElsewhere | acted => exact .inl ⟨rfl, rfl⟩

theorem Undergoes.replays (h : Undergoes n e c c') (replays : Replays c l) :
    Replays c' (l ++ e.actionsIn n) := by
  cases h with
  | nothing same =>
    rw [Event.actionsIn, List.append_nil]
    exact replays.congr same.folding same.guards
  | createdElsewhere other =>
    rw [Event.actionsIn, if_neg other, List.append_nil]
    exact replays
  | created =>
    rw [Event.actionsIn, if_pos rfl]
    exact replays.createScope
  | bound => exact replays.rebind _
  | actedElsewhere other =>
    rw [Event.actionsIn, if_neg other, List.append_nil]
    exact replays
  | acted folding =>
    rw [Event.actionsIn, if_pos rfl]
    exact replays.act folding _

/-- Only its first scope brings folding into a context, and then it is new. -/
theorem Undergoes.begins (h : Undergoes n e c c') (unscoped : c.Unscoped) :
    (e.scope? n = none ∧ c'.Unscoped) ∨ (∃ id, e.scope? n = some id) ∧ Replays c' [] := by
  cases h with
  | nothing same =>
    exact .inl ⟨rfl, same.folding.trans unscoped.folding, same.guards.trans unscoped.guards,
      same.nextScope.trans unscoped.nextScope⟩
  | createdElsewhere other => exact .inl ⟨if_neg other, unscoped⟩
  | created =>
    refine .inr ⟨⟨_, if_pos rfl⟩, .new, ?_⟩
    rw [Context.createScope, unscoped.folding, unscoped.guards]
    exact ⟨rfl, rfl⟩
  | bound =>
    refine .inl ⟨rfl, ?_⟩
    rwa [unscoped_rebind unscoped]
  | actedElsewhere => exact .inl ⟨rfl, unscoped⟩
  | acted folding => cases unscoped.folding.symm.trans folding

/-- What a context goes through agrees with the log that the event is added to. -/
theorem Undergoes.reflects (h : Undergoes n e c c') (reflects : Reflects log n c) :
    Reflects (e :: log) n c' := by
  have numbers : (scopesOf n (e :: log)).map (·.number) = (List.range c'.nextScope).reverse := by
    rw [scopesOf_cons, List.map_append, reflects.numbers]
    rcases h.numbers with ⟨none_, same⟩ | ⟨made, next⟩
    · rw [none_, same]
      rfl
    · rw [made, next, List.range_succ, List.reverse_append]
      rfl
  cases known : foldingLog n log with
  | some l =>
    refine ⟨fun none_ => ?_, fun l' known' => ?_, numbers⟩
    · exact absurd (none_.symm.trans (foldingLog_cons known e)) nofun
    · cases known'.symm.trans (foldingLog_cons known e)
      exact h.replays (reflects.replays l known)
  | none =>
    have first := foldingLog_first known e
    rcases h.begins (reflects.unscoped known) with ⟨none_, unscoped⟩ | ⟨⟨id, made⟩, replays⟩
    · rw [none_] at first
      exact ⟨fun _ => unscoped, fun l' known' => absurd (first.symm.trans known') nofun, numbers⟩
    · rw [made] at first
      refine ⟨fun none_ => absurd (none_.symm.trans first) nofun, fun l' known' => ?_, numbers⟩
      cases known'.symm.trans first
      exact replays

/-! ### The whole log -/

/-- There is nothing in the log about contexts that are not there yet. -/
theorem Run.scopesOf_eq_nil (run : Run log s) (unknown : s.context? n = none) :
    scopesOf n log = [] := by
  induction run with
  | start files => rfl
  | @did log s deed run ih =>
    cases known : s.context? n with
    | some c =>
      obtain ⟨c', known', -⟩ := perform_undergoes known deed
      cases unknown.symm.trans known'
    | none =>
      rw [scopesOf_cons, (perform_unknown known deed).1, ih known]
      rfl
  | @aside log s s' run same ih =>
    cases known : s.context? n with
    | some c =>
      obtain ⟨c', known', -⟩ := same.known n c known
      cases unknown.symm.trans known'
    | none => exact ih known

theorem Reflects.congr (h : Reflects log n c) (same : c.SameScoping c') : Reflects log n c' := by
  refine ⟨fun none_ => ?_, fun l known => ?_, ?_⟩
  · obtain ⟨folding, guards, nextScope⟩ := h.unscoped none_
    exact ⟨same.folding.trans folding, same.guards.trans guards, same.nextScope.trans nextScope⟩
  · exact (h.replays l known).congr same.folding same.guards
  · rw [h.numbers, same.nextScope]

/-- At any time of a session, a context is what the log says. -/
theorem Run.reflects (run : Run log s) (known : s.context? n = some c) : Reflects log n c := by
  induction run generalizing c with
  | start files => cases known
  | @did log s deed run ih =>
    cases before : s.context? n with
    | some c₀ =>
      obtain ⟨c', known', undergoes⟩ := perform_undergoes before deed
      cases known.symm.trans known'
      exact undergoes.reflects (ih before)
    | none =>
      obtain ⟨elsewhere, new⟩ := perform_unknown before deed
      have unscoped := new c known
      have none_ : scopesOf n ((s.perform deed).1 :: log) = [] := by
        rw [scopesOf_cons, elsewhere, run.scopesOf_eq_nil before]
        rfl
      refine ⟨fun _ => unscoped, fun l logged => ?_, ?_⟩
      · cases (foldingLog_eq_none.mpr none_).symm.trans logged
      · rw [none_, unscoped.nextScope]
        rfl
  | @aside log s s' run same ih =>
    cases before : s.context? n with
    | some c₀ =>
      obtain ⟨c', known', same'⟩ := same.known n c₀ before
      cases known.symm.trans known'
      exact (ih before).congr same'
    | none => cases known.symm.trans (same.unknown n before)

/-- The session in which an event of the log came. -/
theorem Run.split (run : Run (recent ++ e :: older) s) :
    ∃ s₀ deed, Run older s₀ ∧ (s₀.perform deed).1 = e := by
  generalize same : recent ++ e :: older = log at run
  induction run generalizing recent with
  | start files => simp at same
  | @did log s deed run ih =>
    cases recent with
    | nil =>
      obtain ⟨rfl, rfl⟩ := List.cons.inj same
      exact ⟨s, deed, run, rfl⟩
    | cons e' recent => exact ih (List.cons.inj same).2
  | aside run _ ih => exact ih same

/-- What was done in the folding of a context is in its log. -/
theorem Run.acted {action : Folding.Action} {reply : Folding.Reply}
    (run : Run (recent ++ .acted n action reply :: older) s) : ∃ l,
      foldingLog n (recent ++ .acted n action reply :: older) =
        some (l ++ (action, reply) :: recent.reverse.flatMap (·.actionsIn n)) := by
  obtain ⟨s₀, deed, run₀, event⟩ := run.split
  obtain ⟨c, f, known, folding, -⟩ := perform_acted event
  cases logged : foldingLog n older with
  | none => cases folding.symm.trans ((run₀.reflects known).unscoped logged).folding
  | some l =>
    refine ⟨l, ?_⟩
    have acted := foldingLog_cons logged (.acted n action reply)
    rw [foldingLog_append acted recent, Event.actionsIn, if_pos rfl, List.append_assoc]
    rfl

/-- The folding of a context agrees with its log. -/
theorem Run.coherent (run : Run log s) (known : s.context? n = some c)
    (logged : foldingLog n log = some l) :
    ∃ f, c.folding = some f ∧ Folding.Coherent l f c.guards := by
  obtain ⟨f, folding, ran⟩ := (run.reflects known).replays l logged
  obtain ⟨l', f', t', ran', -, coherent⟩ := Folding.run_coherent .empty (l.map (·.1))
  cases ran.symm.trans ran'
  exact ⟨f, folding, coherent⟩

end Session
end Scriptorium
