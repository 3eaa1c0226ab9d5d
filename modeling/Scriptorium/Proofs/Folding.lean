import Mathlib.Data.List.Induction
import Scriptorium.Folding
import Scriptorium.Proofs.Except
import Scriptorium.Proofs.Guard

/-! Folded constants are exactly as valid as their history says. The guard that a fold gives out is
valid until its name is folded anew or reassigned, all bindings are dropped, or someone invalidates
it; folding that has ended never gives out another one (`Folding.run_exact`). What carries the proof
is that the bindings are the folds of the log that nothing has dropped since
(`Folding.Coherent`): every valid guard is bound, and whatever drops a binding invalidates it. -/

namespace Scriptorium

/-! ### Guards -/

namespace GuardTable

variable {t : GuardTable} {r s : GuardRef}

theorem isValid_invalidateAll (t : GuardTable) (rs : List GuardRef) (s : GuardRef) :
    (t.invalidateAll rs).isValid s ↔ t.isValid s ∧ s ∉ rs := by
  induction rs generalizing t with
  | nil => simp [invalidateAll]
  | cons r rs ih =>
    have step : (t.invalidateAll (r :: rs)) = (t.invalidate r).invalidateAll rs := rfl
    rw [step, ih, isValid_invalidate]
    simp [and_assoc]

@[simp] theorem length_invalidateAll (t : GuardTable) (rs : List GuardRef) :
    (t.invalidateAll rs).guards.length = t.guards.length := by
  induction rs generalizing t with
  | nil => rfl
  | cons r rs ih => exact (ih (t.invalidate r)).trans (length_invalidate t r)

end GuardTable

namespace Folding

/-! ### Actions -/

/-- What can be done to folding and to the guards that it gives out. -/
inductive Action where
  | fold (name : String) (value : Constant)
  | lookup (name : String)
  | invalidateBinding (name : String)
  | invalidateAll
  | invalidateForever
  | invalidateGuard (guard : GuardRef)

inductive Reply where
  | guard (guard : Option GuardRef)
  | value (value : Option Constant)
  | did (did : Bool)
  | done

/-- What was done and what was replied, the first action first. -/
abbrev Log := List (Action × Reply)

/-- Does something, with every change of phase checked. -/
def perform (f : Folding) (t : GuardTable) : Action → Except Fault (Reply × Folding × GuardTable)
  | .fold name value => (f.foldChecked t name value).map fun (guard, f, t) => (.guard guard, f, t)
  | .lookup name => .ok (.value (f.lookup t name), f, t)
  | .invalidateBinding name =>
    let (did, f, t) := f.invalidateBinding t name
    .ok (.did did, f, t)
  | .invalidateAll => (f.dropAllChecked t .invalidated).map fun (f, t) => (.done, f, t)
  | .invalidateForever => (f.dropAllChecked t .disabled).map fun (f, t) => (.done, f, t)
  | .invalidateGuard guard => .ok (.did (t.isValid guard), f, t.invalidate guard)

/-- Does something, with no change of phase checked. -/
def act (f : Folding) (t : GuardTable) : Action → Reply × Folding × GuardTable
  | .fold name value =>
    let (guard, f, t) := f.fold t name value
    (.guard guard, f, t)
  | .lookup name => (.value (f.lookup t name), f, t)
  | .invalidateBinding name =>
    let (did, f, t) := f.invalidateBinding t name
    (.did did, f, t)
  | .invalidateAll => (.done, f.invalidateAll t)
  | .invalidateForever => (.done, f.invalidateForever t)
  | .invalidateGuard guard => (.did (t.isValid guard), f, t.invalidate guard)

theorem perform_eq (f : Folding) (t : GuardTable) (a : Action) :
    perform f t a = .ok (f.act t a) := by
  cases a with
  | fold name value =>
    rw [perform, foldChecked_eq]
    rfl
  | invalidateAll | invalidateForever =>
    rw [perform, dropAllChecked_eq]
    rfl
  | lookup | invalidateBinding | invalidateGuard => rfl

/-- Does one thing after another with new folding. The table may hold guards of others. -/
def run (t : GuardTable) (as : List Action) : Except Fault (Log × Folding × GuardTable) :=
  as.foldlM (fun (log, f, t) a =>
    (perform f t a).map fun (reply, f, t) => (log ++ [(a, reply)], f, t)) ([], .new, t)

namespace Action

/-- The action drops the folded value of a name, if it has one. -/
def Drops (name : String) : Action → Prop
  | .fold name' _ | .invalidateBinding name' => name' = name
  | .invalidateAll | .invalidateForever => True
  | .lookup _ | .invalidateGuard _ => False

/-- After the action, a guard that was given out for a name is not valid. -/
def Ends (name : String) (guard : GuardRef) (a : Action) : Prop :=
  a.Drops name ∨ a = .invalidateGuard guard

end Action

/-- At some place of the log, a name was folded to a value and the guard was given out; the rest of
the log comes after that. -/
def Log.Folds (log : Log) (name : String) (value : Constant) (guard : GuardRef) (after : Log) :
    Prop :=
  ∃ before, log = before ++ (.fold name value, .guard (some guard)) :: after

variable {log after after' : Log} {f f' : Folding} {t t' : GuardTable} {name : String}
  {value : Constant} {guard : GuardRef} {a : Action} {reply : Reply} {b : Binding}

/-- What a log says about folding and its guards. -/
structure Exact (log : Log) (f : Folding) (t : GuardTable) : Prop where
  isValid : ∀ name value guard after, log.Folds name value guard after →
    (t.isValid guard ↔ ∀ e ∈ after, ¬ e.1.Ends name guard)
  atMostOne : ∀ name value value' guard guard' after after', log.Folds name value guard after →
    log.Folds name value' guard' after' → t.isValid guard → t.isValid guard' → guard = guard'
  lookup : ∀ name value, f.lookup t name = some value ↔ ∃ guard after,
    log.Folds name value guard after ∧ (∀ e ∈ after, ∀ value', e.1 ≠ .fold name value') ∧
      t.isValid guard
  unbound : f.phase ≠ .active → f.bindings = []
  disabled : f.phase = .disabled ↔ .invalidateForever ∈ log.map (·.1)
  refused : ∀ before name value reply after, log = before ++ (.fold name value, reply) :: after →
    (reply = .guard none ↔ .invalidateForever ∈ before.map (·.1))

/-! ### What the operations change -/

theorem binding?_eq_some (h : f.binding? name = some b) : b ∈ f.bindings ∧ b.name = name :=
  ⟨List.mem_of_find?_eq_some h, by simpa using List.find?_some h⟩

theorem mem_unbind (f : Folding) (t : GuardTable) (name : String) (b : Binding) :
    b ∈ (f.unbind t name).1.bindings ↔ b ∈ f.bindings ∧ b.name ≠ name := by
  rw [unbind]
  split
  · next none_ =>
    refine ⟨fun mem => ⟨mem, fun same => ?_⟩, And.left⟩
    exact absurd (decide_eq_true same) (List.find?_eq_none.mp none_ b mem)
  · simp

theorem phase_unbind (f : Folding) (t : GuardTable) (name : String) :
    (f.unbind t name).1.phase = f.phase := by
  rw [unbind]
  split <;> rfl

theorem length_unbind (f : Folding) (t : GuardTable) (name : String) :
    (f.unbind t name).2.guards.length = t.guards.length := by
  rw [unbind]
  split
  · rfl
  · exact GuardTable.length_invalidate t _

theorem isValid_unbind (f : Folding) (t : GuardTable) (name : String) (guard : GuardRef) :
    (f.unbind t name).2.isValid guard ↔
      t.isValid guard ∧ ∀ b, f.binding? name = some b → b.guard ≠ guard := by
  rw [unbind]
  split
  · next none_ => simp [none_]
  · next b found => simp [found, GuardTable.isValid_invalidate, ne_comm]

/-! ### One action -/

/-- At most one value is bound to a name, and only folding that is active binds any. -/
structure Orderly (f : Folding) : Prop where
  unique : ∀ b ∈ f.bindings, ∀ b' ∈ f.bindings, b.name = b'.name → b = b'
  unbound : f.phase ≠ .active → f.bindings = []

/-- All that an action changes. A guard that is given out is new, and others become invalid only if
their binding is dropped or they are invalidated themselves. -/
structure Effect (f : Folding) (t : GuardTable) (a : Action) (reply : Reply) (f' : Folding)
    (t' : GuardTable) : Prop where
  grows : t.guards.length ≤ t'.guards.length
  issues : ∀ guard, reply = .guard (some guard) → t.guards.length = guard.index ∧
    guard.index < t'.guards.length ∧ t'.isValid guard
  isValid : ∀ guard : GuardRef, guard.index < t.guards.length → (t'.isValid guard ↔
    t.isValid guard ∧ a ≠ .invalidateGuard guard ∧
      ∀ b ∈ f.bindings, a.Drops b.name → b.guard ≠ guard)
  bindings : ∀ b, b ∈ f'.bindings ↔ (b ∈ f.bindings ∧ ¬ a.Drops b.name) ∨
    (a = .fold b.name b.value ∧ reply = .guard (some b.guard))
  unbound : f'.phase ≠ .active → f'.bindings = []
  disabled : f'.phase = .disabled ↔ f.phase = .disabled ∨ a = .invalidateForever
  refused : ∀ name value, a = .fold name value → (reply = .guard none ↔ f.phase = .disabled)

/-- The binding of a name is what unbinding it invalidates. -/
theorem Orderly.isValid_unbind (h : f.Orderly) (t : GuardTable) (name : String)
    (guard : GuardRef) : (f.unbind t name).2.isValid guard ↔
      t.isValid guard ∧ ∀ b ∈ f.bindings, name = b.name → b.guard ≠ guard := by
  rw [Folding.isValid_unbind]
  refine and_congr_right fun _ => ⟨fun kept b mem same => ?_, fun kept b found => ?_⟩
  · cases found : f.binding? name with
    | none => exact absurd (decide_eq_true same.symm) (List.find?_eq_none.mp found b mem)
    | some b' =>
      obtain ⟨mem', same'⟩ := binding?_eq_some found
      rw [h.unique b mem b' mem' (same.symm.trans same'.symm)]
      exact kept b' found
  · obtain ⟨mem, same⟩ := binding?_eq_some found
    exact kept b mem same.symm

private theorem effect_refused (ended : f.phase = .disabled) (h : f.Orderly) (t : GuardTable)
    (name : String) (value : Constant) :
    Effect f t (.fold name value) (.guard none) f t := by
  have none_ : f.bindings = [] := h.unbound (by simp [ended])
  refine ⟨Nat.le_refl _, by simp, fun guard _ => ?_, fun b => ?_, h.unbound, ?_, fun _ _ _ => ?_⟩
  · simp [none_]
  · simp [none_]
  · simp [ended]
  · simp [ended]

private theorem effect_folded (enabled : f.phase ≠ .disabled) (h : f.Orderly) (t : GuardTable)
    (name : String) (value : Constant) :
    let unbound := f.unbind t name
    let created := unbound.2.create name
    Effect f t (.fold name value) (.guard (some created.1))
      ⟨.active, unbound.1.bindings ++ [⟨name, value, created.1⟩]⟩ created.2 := by
  intro unbound created
  have same : unbound.2.guards.length = t.guards.length := length_unbind f t name
  have new : created.1.index = t.guards.length := same
  have grown : created.2.guards.length = t.guards.length + 1 := by
    simp [created, GuardTable.create, same]
  refine ⟨by omega, fun guard issued => ?_, fun guard old => ?_, fun b => ?_, fun idle => ?_, ?_,
    fun _ _ _ => ?_⟩
  · cases issued
    refine ⟨new.symm, by omega, ?_⟩
    rw [GuardTable.isValid_create, beq_self_eq_true, Bool.or_true]
  · have ne : (guard == created.1) = false := by
      refine beq_eq_false_iff_ne.mpr fun same => ?_
      rw [same] at old
      omega
    rw [GuardTable.isValid_create, ne, Bool.or_false, h.isValid_unbind]
    simp [Action.Drops]
  · simp only [List.mem_append, List.mem_singleton, Action.Drops, Action.fold.injEq,
      Reply.guard.injEq, Option.some.injEq]
    refine or_congr ((mem_unbind f t name b).trans (and_congr_right fun _ => ne_comm)) ?_
    cases b
    simp only [Binding.mk.injEq, eq_comm, and_assoc]
  · exact absurd rfl idle
  · simp [enabled]
  · simp [enabled]

private theorem effect_dropAll (f : Folding) (t : GuardTable) {phase : Phase}
    (drops : ∀ name, a.Drops name) (noFold : ∀ name value, a ≠ .fold name value)
    (spares : ∀ guard, a ≠ .invalidateGuard guard)
    (ends : a = .invalidateForever ↔ phase = .disabled) :
    Effect f t a .done (f.dropAll t phase).1 (f.dropAll t phase).2 := by
  refine ⟨?_, by simp, fun guard _ => ?_, fun b => ?_, fun _ => rfl, ?_,
    fun name value same => absurd same (noFold name value)⟩
  · exact Nat.le_of_eq (GuardTable.length_invalidateAll t _).symm
  · rw [dropAll, GuardTable.isValid_invalidateAll]
    simp [spares, drops]
  · simp [dropAll, drops, noFold]
  · rw [dropAll, ends]
    by_cases ended : f.phase = .disabled
    · simp [isDisabled, ended]
    · simp [isDisabled, ended]

/-- Every action can be performed: no change of phase is ever refused. -/
theorem perform_effect (h : f.Orderly) (t : GuardTable) (a : Action) : ∃ reply f' t',
    perform f t a = .ok (reply, f', t') ∧ Effect f t a reply f' t' := by
  cases a with
  | fold name value =>
    rw [perform, foldChecked_eq, fold]
    by_cases ended : f.phase = .disabled
    · rw [isDisabled, if_pos (decide_eq_true ended)]
      exact ⟨_, _, _, rfl, effect_refused ended h t name value⟩
    · rw [if_neg (by simpa [isDisabled] using ended)]
      exact ⟨_, _, _, rfl, effect_folded ended h t name value⟩
  | lookup name =>
    refine ⟨_, f, t, rfl, Nat.le_refl _, by simp, fun _ _ => ?_, fun b => ?_, h.unbound, ?_,
      by simp⟩
    · simp [Action.Drops]
    · simp [Action.Drops]
    · simp
  | invalidateBinding name =>
    refine ⟨.did (f.binding? name).isSome, (f.unbind t name).1, (f.unbind t name).2, rfl,
      Nat.le_of_eq (length_unbind f t name).symm, by simp, fun guard _ => ?_, fun b => ?_,
      fun idle => ?_, ?_, by simp⟩
    · simp [Action.Drops, h.isValid_unbind]
    · simp [Action.Drops, mem_unbind, ne_comm]
    · rw [phase_unbind] at idle
      refine List.eq_nil_iff_forall_not_mem.mpr fun b mem => ?_
      have before := ((mem_unbind f t name b).mp mem).1
      rw [h.unbound idle] at before
      cases before
    · simp [phase_unbind]
  | invalidateAll =>
    rw [perform, dropAllChecked_eq]
    exact ⟨_, _, _, rfl, effect_dropAll f t (fun _ => trivial) (by simp) (by simp) (by simp)⟩
  | invalidateForever =>
    rw [perform, dropAllChecked_eq]
    exact ⟨_, _, _, rfl, effect_dropAll f t (fun _ => trivial) (by simp) (by simp) (by simp)⟩
  | invalidateGuard guard =>
    refine ⟨_, _, _, rfl, Nat.le_of_eq (GuardTable.length_invalidate t guard).symm, by simp,
      fun other _ => ?_, fun b => ?_, h.unbound, ?_, by simp⟩
    · simp [Action.Drops, GuardTable.isValid_invalidate, ne_comm]
    · simp [Action.Drops]
    · simp

/-! ### The log -/

theorem folds_concat {e : Action × Reply} : Log.Folds (log ++ [e]) name value guard after ↔
    (after = [] ∧ e = (.fold name value, .guard (some guard))) ∨
      ∃ earlier, after = earlier ++ [e] ∧ log.Folds name value guard earlier := by
  constructor
  · rintro ⟨before, same⟩
    rcases List.eq_nil_or_concat after with rfl | ⟨earlier, e', rfl⟩
    · obtain ⟨-, last⟩ := List.append_inj' same rfl
      exact .inl ⟨rfl, List.singleton_inj.mp last⟩
    · rw [List.concat_eq_append, ← List.cons_append, ← List.append_assoc] at same
      obtain ⟨init, last⟩ := List.append_inj' same rfl
      rw [← List.singleton_inj.mp last, List.concat_eq_append]
      exact .inr ⟨earlier, rfl, before, init⟩
  · rintro (⟨rfl, rfl⟩ | ⟨earlier, rfl, before, rfl⟩)
    · exact ⟨log, rfl⟩
    · exact ⟨before, by simp⟩

/-- Of two folds of a log, one comes after the other, unless they are the same. -/
theorem Log.Folds.compare {name' : String} {value' : Constant} {guard' : GuardRef}
    (h : log.Folds name value guard after) (h' : log.Folds name' value' guard' after') :
    (name = name' ∧ value = value' ∧ guard = guard' ∧ after = after') ∨
      (.fold name value, .guard (some guard)) ∈ after' ∨
      (.fold name' value', .guard (some guard')) ∈ after := by
  obtain ⟨before, rfl⟩ := h
  obtain ⟨before', same⟩ := h'
  rcases List.append_eq_append_iff.mp same with ⟨xs, rfl, rest⟩ | ⟨xs, rfl, rest⟩
  · cases xs with
    | nil =>
      obtain ⟨first, rfl⟩ := List.cons.inj rest
      cases first
      exact .inl ⟨rfl, rfl, rfl, rfl⟩
    | cons x xs =>
      obtain ⟨-, rfl⟩ := List.cons.inj rest
      exact .inr (.inr (List.mem_append_right xs List.mem_cons_self))
  · cases xs with
    | nil =>
      obtain ⟨first, rfl⟩ := List.cons.inj rest
      cases first
      exact .inl ⟨rfl, rfl, rfl, rfl⟩
    | cons x xs =>
      obtain ⟨-, rfl⟩ := List.cons.inj rest
      exact .inr (.inl (List.mem_append_right xs List.mem_cons_self))

/-- The bindings are the folds of the log whose values nothing has dropped since, and the guards of
other folds are invalid. -/
structure Coherent (log : Log) (f : Folding) (t : GuardTable) : Prop where
  issued : ∀ name value guard after, log.Folds name value guard after →
    guard.index < t.guards.length ∧ ∀ e ∈ after, e.2 ≠ .guard (some guard)
  isValid : ∀ name value guard after, log.Folds name value guard after →
    (t.isValid guard ↔ ∀ e ∈ after, ¬ e.1.Ends name guard)
  bound : ∀ b, b ∈ f.bindings ↔ ∃ after, log.Folds b.name b.value b.guard after ∧
    ∀ e ∈ after, ¬ e.1.Drops b.name
  unbound : f.phase ≠ .active → f.bindings = []
  disabled : f.phase = .disabled ↔ .invalidateForever ∈ log.map (·.1)
  refused : ∀ before name value reply after, log = before ++ (.fold name value, reply) :: after →
    (reply = .guard none ↔ .invalidateForever ∈ before.map (·.1))

theorem coherent_new (t : GuardTable) : Coherent [] .new t := by
  have none_ : ∀ name value guard after, ¬ Log.Folds [] name value guard after := by
    rintro name value guard after ⟨before, same⟩
    exact absurd same.symm (by simp)
  refine ⟨fun _ _ _ _ folds => absurd folds (none_ _ _ _ _),
    fun _ _ _ _ folds => absurd folds (none_ _ _ _ _), fun b => ?_, fun _ => rfl, ?_,
    fun before _ _ _ _ same => absurd same.symm (by simp)⟩
  · simp [new, none_]
  · simp [new]

/-- The guard of a fold tells which fold it was. -/
theorem Coherent.eq_of_guard {name' : String} {value' : Constant} (h : Coherent log f t)
    (folds : log.Folds name value guard after) (folds' : log.Folds name' value' guard after') :
    name = name' := by
  rcases folds.compare folds' with ⟨same, -⟩ | mem | mem
  · exact same
  · exact absurd rfl ((h.issued _ _ _ _ folds').2 _ mem)
  · exact absurd rfl ((h.issued _ _ _ _ folds).2 _ mem)

theorem Coherent.orderly (h : Coherent log f t) : f.Orderly := by
  refine ⟨fun b mem b' mem' same => ?_, h.unbound⟩
  obtain ⟨after, folds, kept⟩ := (h.bound b).mp mem
  obtain ⟨after', folds', kept'⟩ := (h.bound b').mp mem'
  rcases folds.compare folds' with ⟨names, values, guards, -⟩ | later | later
  · cases b; cases b'
    cases names; cases values; cases guards
    rfl
  · exact absurd same (kept' _ later)
  · exact absurd same.symm (kept _ later)

/-- A valid guard is the one of a binding. -/
theorem Coherent.bound_of_isValid (h : Coherent log f t)
    (folds : log.Folds name value guard after) (valid : t.isValid guard) :
    ⟨name, value, guard⟩ ∈ f.bindings :=
  (h.bound _).mpr ⟨after, folds, fun e mem drops =>
    (h.isValid _ _ _ _ folds).mp valid e mem (.inl drops)⟩

/-- A guard of the log becomes invalid exactly by what ends it. -/
theorem Coherent.isValid_of_effect (h : Coherent log f t) (effect : Effect f t a reply f' t')
    (folds : log.Folds name value guard after) :
    t'.isValid guard ↔ t.isValid guard ∧ ¬ a.Ends name guard := by
  rw [effect.isValid guard (h.issued _ _ _ _ folds).1]
  refine and_congr_right fun valid => ?_
  constructor
  · rintro ⟨spared, others⟩ (drops | same)
    · exact others _ (h.bound_of_isValid folds valid) drops rfl
    · exact spared same
  · refine fun spared => ⟨fun same => spared (.inr same), fun b mem drops same => ?_⟩
    obtain ⟨after', folds', -⟩ := (h.bound b).mp mem
    rw [same] at folds'
    rw [h.eq_of_guard folds' folds] at drops
    exact spared (.inl drops)

/-- What an action changes agrees with the log that it is added to. -/
theorem Coherent.step (h : Coherent log f t) (effect : Effect f t a reply f' t') :
    Coherent (log ++ [(a, reply)]) f' t' := by
  refine ⟨fun name value guard after folds => ?_, fun name value guard after folds => ?_,
    fun b => ?_, effect.unbound, ?_, fun before name value reply' after same => ?_⟩
  · rcases folds_concat.mp folds with ⟨rfl, last⟩ | ⟨earlier, rfl, old⟩
    · cases last
      obtain ⟨-, lt, -⟩ := effect.issues guard rfl
      exact ⟨lt, fun _ mem => absurd mem List.not_mem_nil⟩
    · obtain ⟨lt, fresh⟩ := h.issued _ _ _ _ old
      refine ⟨Nat.lt_of_lt_of_le lt effect.grows, fun e mem same => ?_⟩
      rcases List.mem_append.mp mem with mem | mem
      · exact fresh e mem same
      · rw [List.mem_singleton.mp mem] at same
        have new := (effect.issues guard same).1
        omega
  · rcases folds_concat.mp folds with ⟨rfl, last⟩ | ⟨earlier, rfl, old⟩
    · cases last
      obtain ⟨-, -, valid⟩ := effect.issues guard rfl
      exact ⟨fun _ _ mem => absurd mem List.not_mem_nil, fun _ => valid⟩
    · rw [h.isValid_of_effect effect old, h.isValid _ _ _ _ old, List.forall_mem_append,
        List.forall_mem_singleton]
  · rw [effect.bindings, h.bound]
    constructor
    · rintro (⟨⟨after, folds, kept⟩, spared⟩ | ⟨rfl, rfl⟩)
      · refine ⟨after ++ [(a, reply)], folds_concat.mpr (.inr ⟨after, rfl, folds⟩), ?_⟩
        exact List.forall_mem_append.mpr ⟨kept, List.forall_mem_singleton.mpr spared⟩
      · exact ⟨[], folds_concat.mpr (.inl ⟨rfl, rfl⟩), fun _ mem => absurd mem List.not_mem_nil⟩
    · rintro ⟨after, folds, kept⟩
      rcases folds_concat.mp folds with ⟨-, last⟩ | ⟨earlier, rfl, old⟩
      · cases last
        exact .inr ⟨rfl, rfl⟩
      · obtain ⟨kept, spared⟩ := List.forall_mem_append.mp kept
        exact .inl ⟨⟨earlier, old, kept⟩, spared _ (List.mem_singleton_self _)⟩
  · rw [effect.disabled, h.disabled]
    simp [eq_comm]
  · rcases List.eq_nil_or_concat after with rfl | ⟨earlier, e, rfl⟩
    · obtain ⟨rfl, last⟩ := List.append_inj' same rfl
      cases List.singleton_inj.mp last
      rw [effect.refused name value rfl, h.disabled]
    · rw [List.concat_eq_append, ← List.cons_append, ← List.append_assoc] at same
      obtain ⟨init, -⟩ := List.append_inj' same rfl
      exact h.refused before name value reply' earlier init

theorem Coherent.exact (h : Coherent log f t) : Exact log f t := by
  refine ⟨h.isValid,
    fun name value value' guard guard' after after' folds folds' valid valid' => ?_,
    fun name value => ?_, h.unbound, h.disabled, h.refused⟩
  · rcases folds.compare folds' with ⟨-, -, same, -⟩ | later | later
    · exact same
    · exact absurd (.inl rfl) ((h.isValid _ _ _ _ folds').mp valid' _ later)
    · exact absurd (.inl rfl) ((h.isValid _ _ _ _ folds).mp valid _ later)
  · have looked : f.lookup t name = some value ↔
        ∃ b, f.binding? name = some b ∧ t.isValid b.guard ∧ b.value = value := by
      rw [Folding.lookup]
      cases f.binding? name <;> simp
    rw [looked]
    constructor
    · rintro ⟨b, found, valid, rfl⟩
      obtain ⟨mem, rfl⟩ := binding?_eq_some found
      obtain ⟨after, folds, kept⟩ := (h.bound b).mp mem
      exact ⟨b.guard, after, folds, fun e mem _ same => kept e mem (same ▸ rfl), valid⟩
    · rintro ⟨guard, after, folds, -, valid⟩
      have mem := h.bound_of_isValid folds valid
      cases found : f.binding? name with
      | none => exact absurd (decide_eq_true rfl) (List.find?_eq_none.mp found _ mem)
      | some b =>
        obtain ⟨mem', same⟩ := binding?_eq_some found
        cases h.orderly.unique _ mem' _ mem same
        exact ⟨_, rfl, valid, rfl⟩

/-! ### All actions -/

theorem run_concat {t₀ : GuardTable} {as : List Action} (ran : run t₀ as = .ok (log, f, t))
    (a : Action) :
    run t₀ (as ++ [a]) = .ok (log ++ [(a, (f.act t a).1)], (f.act t a).2) := by
  rw [run] at ran ⊢
  rw [List.foldlM_append, bind_eq_ok]
  refine ⟨_, ran, ?_⟩
  simp only [List.foldlM_cons, List.foldlM_nil, perform_eq]
  rfl

theorem run_coherent (t : GuardTable) (as : List Action) : ∃ log f t',
    run t as = .ok (log, f, t') ∧ log.map (·.1) = as ∧ Coherent log f t' := by
  induction as using List.reverseRecOn with
  | nil => exact ⟨[], .new, t, rfl, rfl, coherent_new t⟩
  | append_singleton as a ih =>
    obtain ⟨log, f, t₁, ran, actions, coherent⟩ := ih
    obtain ⟨reply, f', t', performed, effect⟩ := perform_effect coherent.orderly t₁ a
    have acted : f.act t₁ a = (reply, f', t') :=
      Except.ok.inj ((perform_eq f t₁ a).symm.trans performed)
    have ran' := run_concat ran a
    rw [acted] at ran'
    exact ⟨_, f', t', ran', by simp [actions], coherent.step effect⟩

/-- Whatever is done to folding, no change of phase is ever refused, and a guard is valid exactly
until something ends it. -/
theorem run_exact (t : GuardTable) (as : List Action) : ∃ log f t',
    run t as = .ok (log, f, t') ∧ log.map (·.1) = as ∧ Exact log f t' := by
  obtain ⟨log, f, t', ran, actions, coherent⟩ := run_coherent t as
  exact ⟨log, f, t', ran, actions, coherent.exact⟩

end Folding
end Scriptorium
