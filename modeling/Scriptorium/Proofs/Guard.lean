import Mathlib.Data.List.Dedup
import Scriptorium.Guard

/-! Guards that are handed out by name. A registry makes one guard for each name that is requested
and never another one; whoever has a guard may invalidate it behind the registry's back, and guards
of the same name may be made beside it. Whatever is done in whatever order, a guard is valid until
the first thing that invalidates it, which is the only one that is told so, and a registry has to do
with the guards of its names only (`GuardRegistry.one_guard_per_name`). -/

namespace Scriptorium

namespace GuardTable

variable {t : GuardTable} {r s : GuardRef}

@[simp] theorem length_invalidate (t : GuardTable) (r : GuardRef) :
    (t.invalidate r).guards.length = t.guards.length := by simp [invalidate]

@[simp] theorem length_create (t : GuardTable) (name : String) :
    (t.create name).2.guards.length = t.guards.length + 1 := by simp [create]

@[simp] theorem index_create (t : GuardTable) (name : String) :
    (t.create name).1.index = t.guards.length := rfl

/-- A guard that was there before is as valid as it was. -/
theorem isValid_create_of_lt (name : String) (old : r.index < t.guards.length) :
    (t.create name).2.isValid r = t.isValid r := by
  have ne : r ≠ (t.create name).1 := by
    rintro rfl
    exact Nat.lt_irrefl _ old
  rw [isValid_create, beq_eq_false_iff_ne.mpr ne, Bool.or_false]

theorem isValid_create_self (t : GuardTable) (name : String) :
    (t.create name).2.isValid (t.create name).1 := by
  rw [isValid_create, beq_self_eq_true, Bool.or_true]

end GuardTable

namespace GuardRegistry

/-! ### Actions -/

/-- What can be done to a registry and to guards, its own ones or others. -/
inductive Action where
  | request (name : String)
  /-- Makes a guard beside the registry. -/
  | create (name : String)
  | invalidateNamed (name : String)
  | invalidateGuard (guard : GuardRef)

inductive Reply where
  | guard (guard : GuardRef)
  | did (did : Bool)

/-- What was done and what was replied, the last action first. -/
abbrev Log := List (Action × Reply)

def act (r : GuardRegistry) (t : GuardTable) : Action → Reply × GuardRegistry × GuardTable
  | .request name =>
    let (guard, r, t) := r.getOrCreate t name
    (.guard guard, r, t)
  | .create name =>
    let (guard, t) := t.create name
    (.guard guard, r, t)
  | .invalidateNamed name =>
    let (did, t) := r.invalidate t name
    (.did did, r, t)
  | .invalidateGuard guard => (.did (t.isValid guard), r, t.invalidate guard)

/-- Does one thing after another with a new registry. The table may hold guards of others. -/
def run (t : GuardTable) (as : List Action) : Log × GuardRegistry × GuardTable :=
  as.foldl (fun (log, r, t) a => ((a, (r.act t a).1) :: log, (r.act t a).2)) ([], .empty, t)

/-! ### What a log says -/

/-- After a log, an entry makes a guard: for the registry by the first request of a name, or for
nobody. -/
def Makes (owner : Option String) (guard : GuardRef) (e : Action × Reply) (before : Log) : Prop :=
  e.2 = .guard guard ∧ match owner with
    | some name => e.1 = .request name ∧ ∀ e' ∈ before, e'.1 ≠ .request name
    | none => ∃ name, e.1 = .create name

/-- At some place of the log a guard was made; `since` is the log from then on. -/
def Log.Made (log : Log) (owner : Option String) (guard : GuardRef) (since : Log) : Prop :=
  ∃ e before, log = since ++ e :: before ∧ Makes owner guard e before

/-- The action invalidates a guard: by its name if the registry has it, or directly. -/
def Action.Invalidates (owner : Option String) (guard : GuardRef) (a : Action) : Prop :=
  a = .invalidateGuard guard ∨ ∃ name, owner = some name ∧ a = .invalidateNamed name

def Action.requested? : Action → Option String
  | .request name => some name
  | _ => none

/-- The names that were requested. -/
def Log.requested (log : Log) : List String := log.filterMap (·.1.requested?)

/-- What a log says about the guards of a registry and those beside it, with the table `t₀` before
it. -/
structure Exact (t₀ : GuardTable) (log : Log) (r : GuardRegistry) (t : GuardTable) : Prop where
  /-- Every request of a name gives the guard that its first request made. -/
  requests : ∀ name reply, (.request name, reply) ∈ log →
    ∃ guard since, log.Made (some name) guard since ∧ reply = .guard guard
  one : ∀ name guard guard' since since', log.Made (some name) guard since →
    log.Made (some name) guard' since' → guard = guard'
  /-- A guard was made at one place only, and was not there before. -/
  different : ∀ owner owner' guard since since', log.Made owner guard since →
    log.Made owner' guard since' → owner = owner' ∧ since = since'
  new : ∀ owner guard since, log.Made owner guard since →
    t₀.guards.length ≤ guard.index ∧ guard.index < t.guards.length
  isValid : ∀ owner guard since, log.Made owner guard since →
    (t.isValid guard ↔ ∀ e ∈ since, ¬ e.1.Invalidates owner guard)
  /-- Of all that invalidates a guard the first one is told so, and no other. -/
  did : ∀ owner guard since, log.Made owner guard since → ∀ later e earlier,
    since = later ++ e :: earlier → e.1.Invalidates owner guard →
    ∃ did : Bool, e.2 = .did did ∧ (did ↔ ∀ e' ∈ earlier, ¬ e'.1.Invalidates owner guard)
  unknown : ∀ later name reply before, log = later ++ (.invalidateNamed name, reply) :: before →
    (∀ e ∈ before, e.1 ≠ .request name) → reply = .did false
  registered : ∀ name guard, r.get? name = some guard ↔ ∃ since, log.Made (some name) guard since
  size : r.size = log.requested.dedup.length
  grows : t₀.guards.length ≤ t.guards.length
  /-- Guards that were there before are invalidated directly or not at all. -/
  others : ∀ guard : GuardRef, guard.index < t₀.guards.length →
    (t.isValid guard ↔ t₀.isValid guard ∧ ∀ e ∈ log, e.1 ≠ .invalidateGuard guard)

variable {t₀ t : GuardTable} {r : GuardRegistry} {log since : Log} {owner owner' : Option String}
  {name : String} {guard guard' : GuardRef} {a : Action} {e : Action × Reply}

theorem made_cons : Log.Made (e :: log) owner guard since ↔
    (since = [] ∧ Makes owner guard e log) ∨
      ∃ later, since = e :: later ∧ log.Made owner guard later := by
  constructor
  · rintro ⟨e', before, same, makes⟩
    rcases List.cons_eq_append_iff.mp same with ⟨rfl, rest⟩ | ⟨later, rfl, rest⟩
    · cases rest
      exact .inl ⟨rfl, makes⟩
    · exact .inr ⟨later, rfl, e', before, rest, makes⟩
  · rintro (⟨rfl, makes⟩ | ⟨later, rfl, e', before, rfl, makes⟩)
    · exact ⟨e, log, rfl, makes⟩
    · exact ⟨e', before, rfl, makes⟩

/-! ### One action -/

/-- The registry has the guard under the name of its owner, and under no other one. -/
def Owns (r : GuardRegistry) (owner : Option String) (guard : GuardRef) : Prop :=
  ∀ name, r.get? name = some guard ↔ owner = some name

theorem length_act_le (r : GuardRegistry) (t : GuardTable) (a : Action) :
    t.guards.length ≤ (r.act t a).2.2.guards.length := by
  cases a with
  | request name =>
    simp only [act, getOrCreate]
    cases r.get? name <;> simp
  | create name => simp [act]
  | invalidateNamed name =>
    simp only [act, invalidate]
    cases r.get? name <;> simp
  | invalidateGuard guard => simp [act]

theorem get?_act (r : GuardRegistry) (t : GuardTable) (a : Action) (name : String)
    (guard : GuardRef) : (r.act t a).2.1.get? name = some guard ↔ r.get? name = some guard ∨
      a = .request name ∧ r.get? name = none ∧ (t.create name).1 = guard := by
  cases a with
  | request other =>
    simp only [act, getOrCreate]
    cases known : r.get? other with
    | some there =>
      refine ⟨.inl, ?_⟩
      rintro (same | ⟨same, unknown, -⟩)
      · exact same
      · cases same
        cases unknown.symm.trans known
    | none =>
      by_cases same : name = other
      · subst same
        simp [get?, List.lookup_append, show r.entries.lookup name = none from known]
      · have differ : (name == other) = false := beq_eq_false_iff_ne.mpr same
        simp [get?, List.lookup_append, List.lookup_cons, differ, Ne.symm same]
  | create | invalidateNamed | invalidateGuard => simp [act]

theorem reply_request (r : GuardRegistry) (t : GuardTable) (name : String) :
    (r.act t (.request name)).1 = .guard ((r.get? name).getD (t.create name).1) := by
  simp only [act, getOrCreate]
  cases r.get? name <;> rfl

/-- An action leaves a guard as valid as it was unless it invalidates it. -/
theorem isValid_act (owns : r.Owns owner guard) (old : guard.index < t.guards.length) (a : Action) :
    (r.act t a).2.2.isValid guard ↔ t.isValid guard ∧ ¬ a.Invalidates owner guard := by
  cases a with
  | request name =>
    have same : (r.act t (.request name)).2.2.isValid guard = t.isValid guard := by
      simp only [act, getOrCreate]
      cases r.get? name with
      | none => exact GuardTable.isValid_create_of_lt name old
      | some guard => rfl
    simp [same, Action.Invalidates]
  | create name => simp [act, GuardTable.isValid_create_of_lt name old, Action.Invalidates]
  | invalidateNamed name =>
    have named : Action.Invalidates owner guard (.invalidateNamed name) ↔
        r.get? name = some guard := by simp [owns name, Action.Invalidates, eq_comm]
    rw [named]
    simp only [act, invalidate]
    cases r.get? name with
    | none => simp
    | some other => simp [GuardTable.isValid_invalidate, eq_comm (a := guard)]
  | invalidateGuard other =>
    simp [act, GuardTable.isValid_invalidate, Action.Invalidates, eq_comm (a := guard)]

theorem reply_of_invalidates (owns : r.Owns owner guard) (h : a.Invalidates owner guard) :
    (r.act t a).1 = .did (t.isValid guard) := by
  rcases h with rfl | ⟨name, rfl, rfl⟩
  · rfl
  · simp only [act, invalidate, (owns name).mpr rfl]

/-! ### The log -/

/-- An entry makes a guard for one owner at most. -/
theorem Makes.owner_eq (h : Makes owner guard e log) (h' : Makes owner' guard' e log) :
    owner = owner' := by
  obtain ⟨-, makes⟩ := h
  obtain ⟨-, makes'⟩ := h'
  cases owner with
  | some name =>
    cases owner' with
    | some name' =>
      cases makes.1.symm.trans makes'.1
      rfl
    | none =>
      obtain ⟨name', created⟩ := makes'
      cases makes.1.symm.trans created
  | none =>
    obtain ⟨name, created⟩ := makes
    cases owner' with
    | some name' => cases created.symm.trans makes'.1
    | none => rfl

theorem mem_requested : name ∈ log.requested ↔ ∃ e ∈ log, e.1 = .request name := by
  have requested : ∀ a : Action, a.requested? = some name ↔ a = .request name := by
    intro a
    cases a <;> simp [Action.requested?]
  simp only [Log.requested, List.mem_filterMap, requested]

theorem not_made_nil : ¬ Log.Made [] owner guard since := by
  rintro ⟨e, before, same, -⟩
  exact absurd same.symm (by simp)

theorem exact_empty (t : GuardTable) : Exact t [] .empty t where
  requests := fun _ _ mem => absurd mem List.not_mem_nil
  one := fun _ _ _ _ _ made => absurd made not_made_nil
  different := fun _ _ _ _ _ made => absurd made not_made_nil
  new := fun _ _ _ made => absurd made not_made_nil
  isValid := fun _ _ _ made => absurd made not_made_nil
  did := fun _ _ _ made => absurd made not_made_nil
  unknown := fun _ _ _ _ same => absurd same.symm (by simp)
  registered := fun _ _ => ⟨nofun, fun ⟨_, made⟩ => absurd made not_made_nil⟩
  size := rfl
  grows := Nat.le_refl _
  others := fun _ _ => by simp

namespace Exact

variable (sound : Exact t₀ log r t)

include sound

/-- A guard that was made for a name is the one that the registry has under it. -/
theorem owns (made : log.Made owner guard since) : r.Owns owner guard := by
  intro name
  rw [sound.registered]
  constructor
  · rintro ⟨since', made'⟩
    exact (sound.different _ _ _ _ _ made made').1
  · rintro rfl
    exact ⟨since, made⟩

theorem owns_of_lt (old : guard.index < t₀.guards.length) : r.Owns none guard := by
  refine fun name => ⟨fun known => ?_, nofun⟩
  obtain ⟨since, made⟩ := (sound.registered name guard).mp known
  exact absurd (sound.new _ _ _ made).1 (Nat.not_le_of_lt old)

theorem get?_eq_none : r.get? name = none ↔ ∀ e ∈ log, e.1 ≠ .request name := by
  constructor
  · rintro unknown ⟨a, reply⟩ mem rfl
    obtain ⟨guard, since, made, -⟩ := sound.requests name reply mem
    cases unknown.symm.trans ((sound.registered name guard).mpr ⟨since, made⟩)
  · intro unrequested
    cases known : r.get? name with
    | none => rfl
    | some guard =>
      obtain ⟨since, e, before, rfl, -, request, -⟩ := (sound.registered name guard).mp known
      exact absurd request (unrequested e (List.mem_append_right _ List.mem_cons_self))

/-- The first request of a name makes a guard for it. -/
theorem makes_some : Makes (some name) guard (a, (r.act t a).1) log ↔
    a = .request name ∧ r.get? name = none ∧ (t.create name).1 = guard := by
  rw [sound.get?_eq_none]
  constructor
  · rintro ⟨reply, rfl, first⟩
    rw [reply_request, sound.get?_eq_none.mpr first] at reply
    exact ⟨rfl, first, Reply.guard.inj reply⟩
  · rintro ⟨rfl, first, rfl⟩
    refine ⟨?_, rfl, first⟩
    rw [reply_request, sound.get?_eq_none.mpr first, Option.getD_none]

/-- A guard that an action makes is a new one. -/
theorem makes (makes : Makes owner guard (a, (r.act t a).1) log) :
    ∃ name, guard = (t.create name).1 ∧ (r.act t a).2.2 = (t.create name).2 := by
  cases owner with
  | none =>
    obtain ⟨reply, name, rfl⟩ := makes
    cases reply
    exact ⟨name, rfl, rfl⟩
  | some name =>
    obtain ⟨rfl, unknown, rfl⟩ := sound.makes_some.mp makes
    refine ⟨name, rfl, ?_⟩
    simp only [act, getOrCreate, unknown]

theorem not_made_of_makes (makes : Makes owner guard (a, (r.act t a).1) log) :
    ¬ log.Made owner' guard since := by
  intro made
  obtain ⟨name, rfl, -⟩ := sound.makes makes
  exact Nat.lt_irrefl _ (sound.new _ _ _ made).2

theorem requests_step (a : Action) (name : String) (reply : Reply)
    (mem : (.request name, reply) ∈ (a, (r.act t a).1) :: log) : ∃ guard since,
    Log.Made ((a, (r.act t a).1) :: log) (some name) guard since ∧ reply = .guard guard := by
  rcases List.mem_cons.mp mem with new | old
  · obtain ⟨rfl, rfl⟩ := Prod.mk.inj new
    cases known : r.get? name with
    | some guard =>
      obtain ⟨since, made⟩ := (sound.registered name guard).mp known
      refine ⟨guard, _, made_cons.mpr (.inr ⟨since, rfl, made⟩), ?_⟩
      rw [reply_request, known, Option.getD_some]
    | none =>
      refine ⟨(t.create name).1, [], made_cons.mpr (.inl ⟨rfl, ?_⟩), ?_⟩
      · exact sound.makes_some.mpr ⟨rfl, known, rfl⟩
      · rw [reply_request, known, Option.getD_none]
  · obtain ⟨guard, since, made, rfl⟩ := sound.requests name reply old
    exact ⟨guard, _, made_cons.mpr (.inr ⟨since, rfl, made⟩), rfl⟩

theorem one_step (a : Action) {since' : Log}
    (made : Log.Made ((a, (r.act t a).1) :: log) (some name) guard since)
    (made' : Log.Made ((a, (r.act t a).1) :: log) (some name) guard' since') : guard = guard' := by
  -- once a guard was made for the name, the registry has it, and no request makes another one
  have first : ∀ {guard guard' since}, Makes (some name) guard (a, (r.act t a).1) log →
      ¬ log.Made (some name) guard' since := by
    rintro guard guard' since makes made
    obtain ⟨-, unknown, -⟩ := sound.makes_some.mp makes
    cases unknown.symm.trans ((sound.registered name guard').mpr ⟨since, made⟩)
  rcases made_cons.mp made with ⟨-, new⟩ | ⟨later, -, old⟩ <;>
    rcases made_cons.mp made' with ⟨-, new'⟩ | ⟨later', -, old'⟩
  · exact Reply.guard.inj (new.1.symm.trans new'.1)
  · exact absurd old' (first new)
  · exact absurd old (first new')
  · exact sound.one _ _ _ _ _ old old'

theorem different_step (a : Action) {since' : Log}
    (made : Log.Made ((a, (r.act t a).1) :: log) owner guard since)
    (made' : Log.Made ((a, (r.act t a).1) :: log) owner' guard since') :
    owner = owner' ∧ since = since' := by
  rcases made_cons.mp made with ⟨rfl, new⟩ | ⟨later, rfl, old⟩ <;>
    rcases made_cons.mp made' with ⟨rfl, new'⟩ | ⟨later', rfl, old'⟩
  · exact ⟨new.owner_eq new', rfl⟩
  · exact absurd old' (sound.not_made_of_makes new)
  · exact absurd old (sound.not_made_of_makes new')
  · obtain ⟨rfl, rfl⟩ := sound.different _ _ _ _ _ old old'
    exact ⟨rfl, rfl⟩

theorem new_step (a : Action) (made : Log.Made ((a, (r.act t a).1) :: log) owner guard since) :
    t₀.guards.length ≤ guard.index ∧ guard.index < (r.act t a).2.2.guards.length := by
  rcases made_cons.mp made with ⟨-, new⟩ | ⟨later, -, old⟩
  · obtain ⟨name, rfl, same⟩ := sound.makes new
    rw [same, GuardTable.length_create, GuardTable.index_create]
    exact ⟨sound.grows, Nat.lt_succ_self _⟩
  · obtain ⟨le, lt⟩ := sound.new _ _ _ old
    exact ⟨le, Nat.lt_of_lt_of_le lt (length_act_le r t a)⟩

theorem isValid_step (a : Action) (made : Log.Made ((a, (r.act t a).1) :: log) owner guard since) :
    (r.act t a).2.2.isValid guard ↔ ∀ e ∈ since, ¬ e.1.Invalidates owner guard := by
  rcases made_cons.mp made with ⟨rfl, new⟩ | ⟨later, rfl, old⟩
  · obtain ⟨name, rfl, same⟩ := sound.makes new
    rw [same]
    exact ⟨fun _ _ mem => absurd mem List.not_mem_nil, fun _ => t.isValid_create_self name⟩
  · rw [isValid_act (sound.owns old) (sound.new _ _ _ old).2, sound.isValid _ _ _ old,
      List.forall_mem_cons, and_comm]

theorem did_step (a : Action) (made : Log.Made ((a, (r.act t a).1) :: log) owner guard since)
    (later earlier : Log) (split : since = later ++ e :: earlier)
    (invalidates : e.1.Invalidates owner guard) : ∃ did : Bool, e.2 = .did did ∧
      (did ↔ ∀ e' ∈ earlier, ¬ e'.1.Invalidates owner guard) := by
  rcases made_cons.mp made with ⟨rfl, -⟩ | ⟨since', rfl, old⟩
  · exact absurd split.symm (by simp)
  · rcases List.cons_eq_append_iff.mp split with ⟨rfl, rest⟩ | ⟨later', rfl, rest⟩
    · cases rest
      exact ⟨_, reply_of_invalidates (sound.owns old) invalidates, sound.isValid _ _ _ old⟩
    · exact sound.did _ _ _ old later' e earlier rest invalidates

theorem unknown_step (a : Action) (later : Log) (name : String) (reply : Reply) (before : Log)
    (split : (a, (r.act t a).1) :: log = later ++ (.invalidateNamed name, reply) :: before)
    (unrequested : ∀ e ∈ before, e.1 ≠ .request name) : reply = .did false := by
  rcases List.cons_eq_append_iff.mp split with ⟨rfl, rest⟩ | ⟨later', rfl, rest⟩
  · cases rest
    simp only [act, invalidate, sound.get?_eq_none.mpr unrequested]
  · exact sound.unknown later' name reply before rest unrequested

theorem registered_step (a : Action) (name : String) (guard : GuardRef) :
    (r.act t a).2.1.get? name = some guard ↔
      ∃ since, Log.Made ((a, (r.act t a).1) :: log) (some name) guard since := by
  rw [get?_act, sound.registered, ← sound.makes_some]
  constructor
  · rintro (⟨since, old⟩ | new)
    · exact ⟨_, made_cons.mpr (.inr ⟨since, rfl, old⟩)⟩
    · exact ⟨[], made_cons.mpr (.inl ⟨rfl, new⟩)⟩
  · rintro ⟨since, made⟩
    rcases made_cons.mp made with ⟨-, new⟩ | ⟨later, -, old⟩
    · exact .inr new
    · exact .inl ⟨later, old⟩

theorem size_step (a : Action) : (r.act t a).2.1.size =
    (Log.requested ((a, (r.act t a).1) :: log)).dedup.length := by
  cases a with
  | request name =>
    have more : Log.requested ((.request name, (r.act t (.request name)).1) :: log) =
        name :: log.requested := rfl
    have known_iff : name ∈ log.requested ↔ r.get? name ≠ none := by
      rw [Ne, sound.get?_eq_none, mem_requested]
      simp
    cases known : r.get? name with
    | some guard =>
      rw [more, List.dedup_cons_of_mem (known_iff.mpr (by simp [known])), ← sound.size]
      simp only [act, getOrCreate, known]
    | none =>
      rw [more, List.dedup_cons_of_notMem fun mem => known_iff.mp mem known, List.length_cons,
        ← sound.size]
      simp only [act, getOrCreate, known]
      exact List.length_append
  | create | invalidateNamed | invalidateGuard => exact sound.size

theorem step (a : Action) :
    Exact t₀ ((a, (r.act t a).1) :: log) (r.act t a).2.1 (r.act t a).2.2 where
  requests := sound.requests_step a
  one := fun _ _ _ _ _ => sound.one_step a
  different := fun _ _ _ _ _ => sound.different_step a
  new := fun _ _ _ => sound.new_step a
  isValid := fun _ _ _ => sound.isValid_step a
  did := fun _ _ _ made later _ earlier => sound.did_step a made later earlier
  unknown := sound.unknown_step a
  registered := sound.registered_step a
  size := sound.size_step a
  grows := Nat.le_trans sound.grows (length_act_le r t a)
  others := fun guard old => by
    have there := Nat.lt_of_lt_of_le old sound.grows
    have direct : a.Invalidates none guard ↔ a = .invalidateGuard guard := by
      simp [Action.Invalidates]
    rw [isValid_act (sound.owns_of_lt old) there, sound.others guard old, direct,
      List.forall_mem_cons, and_assoc]
    exact and_congr_right fun _ => and_comm

end Exact

/-- There is one guard for each name that is requested. Every guard is valid until the first thing
that invalidates it, which is the only one that is told so; a guard that the registry did not make
has nothing to do with it. -/
theorem one_guard_per_name (t : GuardTable) (as : List Action) :
    Exact t (run t as).1 (run t as).2.1 (run t as).2.2 :=
  List.foldlRecOn (motive := fun (w : Log × GuardRegistry × GuardTable) => Exact t w.1 w.2.1 w.2.2)
    as _ (exact_empty t) fun _ sound a _ => sound.step a

end GuardRegistry
end Scriptorium
