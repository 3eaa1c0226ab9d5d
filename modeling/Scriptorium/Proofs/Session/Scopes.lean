import Scriptorium.Proofs.Context.Frame
import Scriptorium.Proofs.Folding
import Scriptorium.Session

/-! Scopes and folding in a session of several contexts. The log of a session says which scopes were
made, which were made current, and what was done to the folding of contexts. What a context goes
through in an event is told apart once (`Session.Undergoes`); all that is said of contexts later
follows from that. -/

namespace Scriptorium

namespace Session

/-- What can be done to the scopes of a session and the folding of its contexts, and what else the
contexts are for. -/
inductive Deed where
  | openContext (name : String) (config : Config) (version : String) (target : Target)
      (verifier : Option Verifier)
  | compile (n : Nat) (generator : Generator) (source : Source)
  | createScope (n : Nat) (slot : String)
  | bind (scope : Option Scope)
  | enter (scope : Scope) (slot : String)
  | exit (slot : String)
  | act (n : Nat) (action : Folding.Action)

/-- The deed has to do with what is current and what was entered. -/
def Deed.binds : Deed → Bool
  | .bind _ | .enter .. | .exit _ => true
  | .openContext .. | .compile .. | .createScope .. | .act .. => false

/-- What came of a deed. The scopes that were made current are listed in the order of time. -/
inductive Event where
  | nothing
  | created (scope : Scope)
  | bound (scopes : List (Option Scope))
  | acted (n : Nat) (action : Folding.Action) (reply : Folding.Reply)

/-- The scope of a context that an event made. -/
def Event.scope? (n : Nat) : Event → Option ScopeId
  | .created scope => if scope.station = n then some scope.id else none
  | .nothing | .bound _ | .acted .. => none

/-- What is made current when a slot is left. -/
def restoredBy (s : Session) (slot : String) : List (Option Scope) :=
  match s.entered.get? slot with
  | none => []
  | some e => [e.previous]

def perform (s : Session) : Deed → Event × Session
  | .openContext name config version target verifier =>
    match s.openContext name config version target verifier with
    | .ok (_, s) => (.nothing, s)
    | .error _ => (.nothing, s)
  | .compile n generator source =>
    match s.compile n generator source with
    | some (_, s) => (.nothing, s)
    | none => (.nothing, s)
  | .createScope n slot =>
    match s.createScope n slot with
    | some (scope, s) => (.created scope, s)
    | none => (.nothing, s)
  | .bind scope => (.bound [scope], s.bind scope)
  | .enter scope slot => (.bound (some scope :: s.restoredBy slot), s.enter scope slot)
  | .exit slot => (.bound (s.restoredBy slot), s.exit slot)
  | .act n action =>
    match s.fold n fun f t => f.act t action with
    | some (reply, s) => (.acted n action reply, s)
    | none => (.nothing, s)

end Session

/-- Scopes, guards and folding of a context are the same. -/
structure Context.SameScoping (c c' : Context) : Prop where
  folding : c'.folding = c.folding
  guards : c'.guards = c.guards
  nextScope : c'.nextScope = c.nextScope

/-- No scope of the context was made yet. -/
structure Context.Unscoped (c : Context) : Prop where
  folding : c.folding = none
  guards : c.guards = .empty
  nextScope : c.nextScope = 0

theorem Context.SameScoping.refl (c : Context) : c.SameScoping c := ⟨rfl, rfl, rfl⟩

theorem Context.CompileChanges.scoping {c c' : Context} (h : c.CompileChanges c') :
    c.SameScoping c' := by
  obtain ⟨_, _, _, _, _, _, _, _, _, rfl⟩ := h
  exact ⟨rfl, rfl, rfl⟩

namespace Session

/-- The current scope is the same, what was entered is the same, and no context has to do with
scopes otherwise than before. -/
structure SameScopes (s s' : Session) : Prop where
  current : s'.current = s.current
  entered : s'.entered = s.entered
  known : ∀ n c, s.context? n = some c → ∃ c', s'.context? n = some c' ∧ c.SameScoping c'
  unknown : ∀ n, s.context? n = none → s'.context? n = none

/-- The sessions that a log leads to, the last event first. Whatever leaves scopes and folding alone
may happen in between: artifacts are held and let go, memory is cleared, files change. -/
inductive Run : List Event → Session → Prop
  | start (files : FileTree) : Run [] (Session.new files)
  | did {log s} (deed : Deed) : Run log s → Run ((s.perform deed).1 :: log) (s.perform deed).2
  | aside {log s s'} : Run log s → s.SameScopes s' → Run log s'

variable {log older recent : List Event} {s s' : Session} {n m : Nat} {c c' : Context} {e : Event}
  {scope : Scope} {scopes : List (Option Scope)} {deed : Deed} {f : Folding} {l : Folding.Log}
  {action : Folding.Action} {reply : Folding.Reply}

/-! ### One context -/

theorem context?_update (s : Session) (n i : Nat) (f : Context → Context) :
    (s.update n f).context? i = if i = n then (s.context? i).map f else s.context? i := by
  rw [context?, station?, update, List.getElem?_modify, context?, station?]
  split
  · next same =>
    rw [if_pos same.symm]
    cases s.stations[i]? <;> rfl
  · next ne =>
    rw [if_neg (Ne.symm ne)]
    cases s.stations[i]? <;> rfl

/-- The context after a scope was made current. -/
def rebind (n : Nat) (c : Context) (scope : Option Scope) : Context :=
  if scope.any (·.station = n) then c.dropFolded else c

theorem rebind_own (own : scope.station = n) (c : Context) :
    rebind n c (some scope) = c.dropFolded :=
  if_pos (decide_eq_true own)

theorem rebind_other (other : scope.station ≠ n) (c : Context) : rebind n c (some scope) = c :=
  if_neg fun own => other (of_decide_eq_true own)

theorem context?_bind (s : Session) (scope : Option Scope) (n : Nat) :
    (s.bind scope).context? n = (s.context? n).map (rebind n · scope) := by
  cases scope with
  | none => exact (Option.map_id_apply ..).symm
  | some scope =>
    refine (context?_update s scope.station n Context.dropFolded).trans ?_
    by_cases own : n = scope.station
    · simp only [if_pos own, rebind_own own.symm]
    · simp only [if_neg own, rebind_other (Ne.symm own), Option.map_id']

theorem context?_foldl_bind (s : Session) (scopes : List (Option Scope)) (n : Nat) :
    (scopes.foldl bind s).context? n = (s.context? n).map (scopes.foldl (rebind n)) := by
  induction scopes generalizing s with
  | nil => exact (Option.map_id_apply ..).symm
  | cons scope scopes ih =>
    rw [List.foldl_cons, ih, context?_bind, Option.map_map]
    rfl

/-- Scopes of other contexts are made current without any change. -/
theorem foldl_rebind_eq_self (others : ∀ scope, some scope ∈ scopes → scope.station ≠ n) :
    scopes.foldl (rebind n) c = c := by
  induction scopes with
  | nil => rfl
  | cons scope scopes ih =>
    have same : rebind n c scope = c := by
      cases scope with
      | none => rfl
      | some scope => exact rebind_other (others scope List.mem_cons_self) c
    rw [List.foldl_cons, same]
    exact ih fun scope mem => others scope (List.mem_cons_of_mem _ mem)

/-- What a context goes through in an event. -/
inductive Undergoes (n : Nat) : Event → Context → Context → Prop
  | nothing {c c' : Context} : c.SameScoping c' → Undergoes n .nothing c c'
  | createdElsewhere {scope : Scope} {c : Context} : scope.station ≠ n →
      Undergoes n (.created scope) c c
  | created {c : Context} : Undergoes n (.created ⟨n, c.createScope.1⟩) c c.createScope.2
  | bound {scopes : List (Option Scope)} {c : Context} :
      Undergoes n (.bound scopes) c (scopes.foldl (rebind n) c)
  | actedElsewhere {m : Nat} {action reply} {c : Context} : m ≠ n →
      Undergoes n (.acted m action reply) c c
  | acted {c : Context} {f : Folding} {action : Folding.Action} : c.folding = some f →
      Undergoes n (.acted n action (f.act c.guards action).1) c
        { c with folding := some (f.act c.guards action).2.1
                 guards := (f.act c.guards action).2.2 }

/-! ### One deed -/

theorem exit_eq (s : Session) (slot : String) : ∃ entered,
    s.exit slot = { (s.restoredBy slot).foldl bind s with entered } := by
  rw [exit, restoredBy]
  cases s.entered.get? slot with
  | none => exact ⟨s.entered, rfl⟩
  | some e =>
    obtain ⟨previous⟩ := e
    refine ⟨s.entered.drop slot, ?_⟩
    cases previous <;> rfl

/-- Scopes that a deed makes current are made so one after another. -/
theorem perform_bound (h : (s.perform deed).1 = .bound scopes) :
    ∃ entered, (s.perform deed).2 = { scopes.foldl bind s with entered } := by
  cases deed with
  | bind scope =>
    cases h
    exact ⟨_, rfl⟩
  | exit slot =>
    cases h
    exact s.exit_eq slot
  | enter scope slot =>
    cases h
    obtain ⟨entered, left⟩ := (s.bind (some scope)).exit_eq slot
    refine ⟨((s.bind (some scope)).exit slot).entered.put slot ⟨s.current⟩, ?_⟩
    simp only [perform, enter, left]
    rfl
  | openContext | compile | createScope | act =>
    simp only [perform] at h
    split at h <;> cases h

theorem createScope_eq_some {slot : String} (h : s.createScope m slot = some (scope, s')) :
    ∃ c, s.context? m = some c ∧ scope = ⟨m, c.createScope.1⟩ ∧
      ∀ i, s'.context? i = (s.update m fun _ => c.createScope.2).context? i := by
  obtain ⟨⟨id, s₁⟩, made, same⟩ := Option.map_eq_some_iff.mp h
  obtain ⟨c, known, made⟩ := Option.map_eq_some_iff.mp made
  cases made
  cases same
  exact ⟨c, known, rfl, fun _ => rfl⟩

theorem fold_eq_some {α : Type} {x : α} {change : Folding → GuardTable → α × Folding × GuardTable}
    (h : s.fold m change = some (x, s')) : ∃ c f, s.context? m = some c ∧ c.folding = some f ∧
      x = (change f c.guards).1 ∧
      s' = s.update m fun c' => { c' with folding := some (change f c.guards).2.1
                                          guards := (change f c.guards).2.2 } := by
  rw [fold] at h
  split at h
  · cases h
  · next c known =>
    obtain ⟨f, folding, made⟩ := Option.map_eq_some_iff.mp h
    cases made
    exact ⟨c, f, known, folding, rfl, rfl⟩

/-- Something is done only in folding that is there. -/
theorem perform_acted (h : (s.perform deed).1 = .acted n action reply) :
    ∃ c f, s.context? n = some c ∧ c.folding = some f ∧ reply = (f.act c.guards action).1 := by
  cases deed with
  | act m action' =>
    simp only [perform] at h
    split at h
    · next acted =>
      cases h
      obtain ⟨c, f, known, folding, replied, -⟩ := fold_eq_some acted
      exact ⟨c, f, known, folding, replied⟩
    · cases h
  | bind | enter | exit => cases h
  | openContext | compile | createScope =>
    simp only [perform] at h
    split at h <;> cases h

theorem openContext_eq_ok {name : String} {config : Config} {version : String} {target : Target}
    {verifier : Option Verifier}
    (h : s.openContext name config version target verifier = .ok (c, s')) :
    c.Unscoped ∧ s'.stations = s.stations ++ [⟨c, []⟩] := by
  obtain ⟨⟨c₀, files⟩, made, opened⟩ := bind_eq_ok.mp h
  cases opened
  obtain ⟨memory, -, made⟩ := bind_eq_ok.mp made
  cases made
  exact ⟨⟨rfl, rfl, rfl⟩, rfl⟩

theorem compile_sameScopes {generator : Generator} {source : Source} {outcome : Outcome}
    (h : s.compile m generator source = some (outcome, s')) : s.SameScopes s' := by
  obtain ⟨st, found, same⟩ := Option.map_eq_some_iff.mp h
  cases same
  rw [station?] at found
  refine ⟨rfl, rfl, fun i c known => ?_, fun i unknown => ?_⟩
  · obtain ⟨st', found', rfl⟩ := Option.map_eq_some_iff.mp known
    rw [station?] at found'
    by_cases own : m = i
    · subst own
      cases found.symm.trans found'
      have changes := st.context.compile_changes generator (s.heldOf m) s.files s.sink source
      refine ⟨_, ?_, changes.scoping⟩
      rw [context?, station?, List.getElem?_set_self (List.getElem?_eq_some_iff.mp found).1]
      rfl
    · refine ⟨st'.context, ?_, .refl _⟩
      rw [context?, station?, List.getElem?_set_ne own, found']
      rfl
  · have beyond := List.getElem?_eq_none_iff.mp (Option.map_eq_none_iff.mp unknown)
    refine Option.map_eq_none_iff.mpr (List.getElem?_eq_none_iff.mpr ?_)
    rwa [List.length_set]

theorem perform_binds (binds : deed.binds = true) (s : Session) :
    ∃ scopes, (s.perform deed).1 = .bound scopes := by
  cases deed with
  | bind | enter | exit => exact ⟨_, rfl⟩
  | openContext | compile | createScope | act => cases binds

theorem perform_aside (aside : deed.binds = false) (s : Session) :
    (s.perform deed).2.current = s.current ∧ (s.perform deed).2.entered = s.entered := by
  cases deed with
  | bind | enter | exit => cases aside
  | openContext =>
    simp only [perform]
    split
    · next opened =>
      obtain ⟨x, -, opened⟩ := bind_eq_ok.mp opened
      cases opened
      exact ⟨rfl, rfl⟩
    · exact ⟨rfl, rfl⟩
  | compile =>
    simp only [perform]
    split
    · next compiled =>
      have same := compile_sameScopes compiled
      exact ⟨same.current, same.entered⟩
    · exact ⟨rfl, rfl⟩
  | createScope =>
    simp only [perform]
    split
    · next made =>
      obtain ⟨x, made, same⟩ := Option.map_eq_some_iff.mp made
      obtain ⟨c, -, made⟩ := Option.map_eq_some_iff.mp made
      cases made
      cases same
      exact ⟨rfl, rfl⟩
    · exact ⟨rfl, rfl⟩
  | act =>
    simp only [perform]
    split
    · next acted =>
      obtain ⟨-, -, -, -, -, rfl⟩ := fold_eq_some acted
      exact ⟨rfl, rfl⟩
    · exact ⟨rfl, rfl⟩

/-- A context that is known goes through the event of each deed. -/
theorem perform_undergoes (known : s.context? n = some c) (deed : Deed) :
    ∃ c', (s.perform deed).2.context? n = some c' ∧ Undergoes n (s.perform deed).1 c c' := by
  have bound : ∀ scopes, (s.perform deed).1 = .bound scopes →
      ∃ c', (s.perform deed).2.context? n = some c' ∧ Undergoes n (s.perform deed).1 c c' := by
    intro scopes event
    obtain ⟨entered, after⟩ := perform_bound event
    have rebound := context?_foldl_bind s scopes n
    rw [known] at rebound
    rw [event, after]
    exact ⟨_, rebound, .bound⟩
  cases deed with
  | bind | enter | exit => exact bound _ rfl
  | openContext =>
    simp only [perform]
    split
    · next opened =>
      obtain ⟨-, stations⟩ := openContext_eq_ok opened
      obtain ⟨st, found, rfl⟩ := Option.map_eq_some_iff.mp known
      refine ⟨st.context, ?_, .nothing (.refl _)⟩
      rw [context?, station?, stations,
        List.getElem?_append_left (List.getElem?_eq_some_iff.mp found).1]
      exact known
    · exact ⟨c, known, .nothing (.refl c)⟩
  | compile =>
    simp only [perform]
    split
    · next compiled =>
      obtain ⟨c', known', same⟩ := (compile_sameScopes compiled).known n c known
      exact ⟨c', known', .nothing same⟩
    · exact ⟨c, known, .nothing (.refl c)⟩
  | createScope m slot =>
    simp only [perform]
    split
    · next made =>
      obtain ⟨c₀, known₀, rfl, contexts⟩ := createScope_eq_some made
      rw [contexts, context?_update, known]
      by_cases own : n = m
      · cases own
        cases known.symm.trans known₀
        exact ⟨_, if_pos rfl, .created⟩
      · exact ⟨c, if_neg own, .createdElsewhere (Ne.symm own)⟩
    · exact ⟨c, known, .nothing (.refl c)⟩
  | act m action =>
    simp only [perform]
    split
    · next acted =>
      obtain ⟨c₀, f, known₀, folding, rfl, rfl⟩ := fold_eq_some acted
      rw [context?_update, known]
      by_cases own : n = m
      · cases own
        cases known.symm.trans known₀
        exact ⟨_, if_pos rfl, .acted folding⟩
      · exact ⟨c, if_neg own, .actedElsewhere (Ne.symm own)⟩
    · exact ⟨c, known, .nothing (.refl c)⟩

/-- A context that was not there before the deed is a new one, and has no scope yet. -/
theorem perform_unknown (unknown : s.context? n = none) (deed : Deed) :
    (s.perform deed).1.scope? n = none ∧
      ∀ c, (s.perform deed).2.context? n = some c → c.Unscoped := by
  have still : ∀ {s' : Session}, s'.context? n = none →
      ∀ c, s'.context? n = some c → c.Unscoped :=
    fun unknown' c known => absurd (unknown'.symm.trans known) nofun
  have bound : ∀ scopes, (s.perform deed).1 = .bound scopes →
      (s.perform deed).1.scope? n = none ∧
        ∀ c, (s.perform deed).2.context? n = some c → c.Unscoped := by
    intro scopes event
    obtain ⟨entered, after⟩ := perform_bound event
    have rebound := context?_foldl_bind s scopes n
    rw [unknown] at rebound
    rw [event, after]
    exact ⟨rfl, still rebound⟩
  cases deed with
  | bind | enter | exit => exact bound _ rfl
  | openContext =>
    simp only [perform]
    split
    · next c₀ s' opened =>
      obtain ⟨unscoped, stations⟩ := openContext_eq_ok opened
      refine ⟨rfl, fun c known => ?_⟩
      obtain ⟨st, found, rfl⟩ := Option.map_eq_some_iff.mp known
      have beyond : s.stations.length ≤ n :=
        List.getElem?_eq_none_iff.mp (Option.map_eq_none_iff.mp unknown)
      rw [station?, stations, List.getElem?_append_right beyond] at found
      cases List.mem_singleton.mp (List.mem_of_getElem? found)
      exact unscoped
    · exact ⟨rfl, still unknown⟩
  | compile m =>
    simp only [perform]
    split
    · next compiled =>
      exact ⟨rfl, still ((compile_sameScopes compiled).unknown n unknown)⟩
    · exact ⟨rfl, still unknown⟩
  | createScope m slot =>
    simp only [perform]
    split
    · next made =>
      obtain ⟨c₀, known₀, rfl, contexts⟩ := createScope_eq_some made
      refine ⟨if_neg fun own => ?_, still ?_⟩
      · cases own
        exact absurd (unknown.symm.trans known₀) nofun
      · rw [contexts, context?_update, unknown, Option.map_none, ite_self]
    · exact ⟨rfl, still unknown⟩
  | act m action =>
    simp only [perform]
    split
    · next acted =>
      obtain ⟨-, -, -, -, -, rfl⟩ := fold_eq_some acted
      refine ⟨rfl, still ?_⟩
      rw [context?_update, unknown, Option.map_none, ite_self]
    · exact ⟨rfl, still unknown⟩

end Session
end Scriptorium
