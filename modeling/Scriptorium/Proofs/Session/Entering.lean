import Mathlib.Data.List.Induction
import Mathlib.Data.List.Nodup
import Scriptorium.Proofs.Session.Scopes

/-! Scopes that are entered and left. Leaving a scope makes current what was current when it was
entered, in whatever order scopes are left. So the scope that was entered last, of those not left
yet, is the current one as long as scopes are left in the reverse order. If one is left too early,
it takes the place of a later one, and a scope that was left long ago can become current again:
`Session.left_in_any_order` tells exactly when the innermost scope is current at all times. -/

namespace Scriptorium

namespace Session

/-! ### Stays -/

/-- A scope that was entered and not left. -/
structure Stay where
  slot : String
  scope : Scope
  /-- What was innermost before. -/
  beneath : Option Scope

/-- The scope that was entered last, or the one that was current before all. -/
def innermost (base : Option Scope) : List Stay → Option Scope
  | [] => base
  | e :: _ => some e.scope

/-- The deed gives up what a slot holds. -/
def Deed.Vacates (slot : String) (deed : Deed) : Prop :=
  deed = .exit slot ∨ ∃ scope, deed = .enter scope slot

/-- The stays after a deed, the last one first. -/
def staysAfter (base : Option Scope) (stays : List Stay) : Deed → List Stay
  | .enter scope slot =>
    ⟨slot, scope, innermost base stays⟩ :: stays.filter fun e => e.slot ≠ slot
  | .exit slot => stays.filter fun e => e.slot ≠ slot
  | .openContext .. | .compile .. | .createScope .. | .bind _ | .act .. => stays

def staysOf (base : Option Scope) (deeds : List Deed) : List Stay :=
  deeds.foldl (staysAfter base) []

/-- The session after some deeds. -/
def after (s : Session) (deeds : List Deed) : Session := deeds.foldl (fun s d => (s.perform d).2) s

/-- At all times, the innermost scope is the current one. -/
def Lawful (s : Session) (deeds : List Deed) : Prop :=
  ∀ done, done <+: deeds → (s.after done).current = innermost s.current (staysOf s.current done)

/-- Each deed is such that something holds of it and of the stays before. -/
def OnEach (base : Option Scope) (p : List Stay → Deed → Prop) (deeds : List Deed) : Prop :=
  ∀ done deed, done ++ [deed] <+: deeds → p (staysOf base done) deed

/-- Whatever the deed ends, what was beneath it is innermost then. -/
def Reveals (base : Option Scope) (stays : List Stay) (deed : Deed) : Prop :=
  ∀ e ∈ stays, deed.Vacates e.slot → e.beneath = innermost base (staysAfter base stays deed)

/-- The deed ends the last stay, or none. -/
def InOrder (stays : List Stay) (deed : Deed) : Prop :=
  ∀ e ∈ stays, deed.Vacates e.slot → deed = .exit e.slot ∧ stays.head? = some e

/-- The scopes that deeds enter. -/
def scopesEntered (deeds : List Deed) : List Scope :=
  deeds.filterMap fun
    | .enter scope _ => some scope
    | _ => none

/-- What comes of entering and leaving scopes in any order. -/
structure LeftInAnyOrder (s : Session) (deeds : List Deed) : Prop where
  /-- Leaving a scope makes current again what was current before it was entered. -/
  restores : ∀ done scope slot between, (∀ deed ∈ between, ¬ deed.Vacates slot) →
    done ++ .enter scope slot :: (between ++ [.exit slot]) <+: deeds →
    (s.after (done ++ .enter scope slot :: (between ++ [.exit slot]))).current =
      (s.after done).current
  lawful_iff : Lawful s deeds ↔ OnEach s.current (Reveals s.current) deeds
  lawful_of_inOrder : OnEach s.current InOrder deeds → Lawful s deeds
  /-- There is no other way if all scopes are different. -/
  inOrder_of_lawful : (scopesEntered deeds).Nodup → (∀ scope ∈ scopesEntered deeds,
    s.current ≠ some scope) → Lawful s deeds → OnEach s.current InOrder deeds

variable {s : Session} {deeds : List Deed} {deed : Deed} {base : Option Scope} {stays : List Stay}
  {slot : String} {scope : Scope} {p : List Stay → Deed → Prop}

theorem staysOf_concat (base : Option Scope) (deeds : List Deed) (deed : Deed) :
    staysOf base (deeds ++ [deed]) = staysAfter base (staysOf base deeds) deed :=
  List.foldl_concat ..

theorem after_concat (s : Session) (deeds : List Deed) (deed : Deed) :
    s.after (deeds ++ [deed]) = ((s.after deeds).perform deed).2 :=
  List.foldl_concat ..

theorem after_append (s : Session) (deeds deeds' : List Deed) :
    s.after (deeds ++ deeds') = (s.after deeds).after deeds' :=
  List.foldl_append

theorem lawful_concat : Lawful s (deeds ++ [deed]) ↔ Lawful s deeds ∧
    (s.after (deeds ++ [deed])).current =
      innermost s.current (staysOf s.current (deeds ++ [deed])) := by
  simp only [Lawful, List.prefix_concat_iff]
  constructor
  · exact fun h => ⟨fun done before => h done (.inr before), h _ (.inl rfl)⟩
  · rintro ⟨before, last⟩ done (rfl | le)
    · exact last
    · exact before done le

theorem onEach_concat : OnEach base p (deeds ++ [deed]) ↔
    OnEach base p deeds ∧ p (staysOf base deeds) deed := by
  simp only [OnEach, List.prefix_concat_iff]
  constructor
  · exact fun h => ⟨fun done deed before => h done deed (.inr before), h _ _ (.inl rfl)⟩
  · rintro ⟨before, last⟩ done deed' (same | le)
    · obtain ⟨rfl, ends⟩ := List.append_inj' same rfl
      cases List.singleton_inj.mp ends
      exact last
    · exact before done deed' le

/-! ### One deed -/

theorem current_exit (s : Session) (slot : String) :
    (s.exit slot).current = ((s.entered.get? slot).map (·.previous)).getD s.current := by
  rw [exit]
  cases s.entered.get? slot with
  | none => rfl
  | some e =>
    obtain ⟨previous⟩ := e
    cases previous <;> rfl

theorem entered_bind (s : Session) (scope : Option Scope) : (s.bind scope).entered = s.entered := by
  cases scope <;> rfl

theorem entered_exit (s : Session) (slot other : String) : (s.exit slot).entered.get? other =
    if other = slot then none else s.entered.get? other := by
  cases held : s.entered.get? slot with
  | none =>
    have same : s.exit slot = s := by simp only [exit, held]
    rw [same]
    split
    · next own => rw [own, held]
    · rfl
  | some e =>
    simp only [exit, held, entered_bind]
    exact Slots.get?_drop ..

theorem current_enter (s : Session) (scope : Scope) (slot : String) :
    (s.enter scope slot).current =
      ((s.entered.get? slot).map (·.previous)).getD (some scope) :=
  current_exit (s.bind (some scope)) slot

theorem entered_enter (s : Session) (scope : Scope) (slot other : String) :
    (s.enter scope slot).entered.get? other =
      if other = slot then some ⟨s.current⟩ else s.entered.get? other := by
  rw [enter, Slots.get?_put, entered_exit]
  split <;> rfl

theorem vacates_enter (other : String) :
    (Deed.enter scope slot).Vacates other ↔ other = slot := by
  simp [Deed.Vacates, eq_comm]

theorem vacates_exit (other : String) : (Deed.exit slot).Vacates other ↔ other = slot := by
  simp [Deed.Vacates, eq_comm]

/-- A slot holds one stay at most. -/
theorem nodup_staysAfter (distinct : (stays.map (·.slot)).Nodup) (base : Option Scope)
    (deed : Deed) : ((staysAfter base stays deed).map (·.slot)).Nodup := by
  have fewer : ∀ slot, ((stays.filter fun e => e.slot ≠ slot).map (·.slot)).Nodup :=
    fun slot => distinct.sublist (List.filter_sublist.map _)
  cases deed with
  | enter scope slot =>
    refine List.nodup_cons.mpr ⟨fun mem => ?_, fewer slot⟩
    obtain ⟨e, mem, same⟩ := List.mem_map.mp mem
    exact absurd same (of_decide_eq_true (List.mem_filter.mp mem).2)
  | exit slot => exact fewer slot
  | openContext | compile | createScope | bind | act => exact distinct

theorem nodup_staysOf (base : Option Scope) (deeds : List Deed) :
    ((staysOf base deeds).map (·.slot)).Nodup := by
  induction deeds using List.reverseRecOn with
  | nil => exact List.nodup_nil
  | append_singleton deeds deed ih =>
    rw [staysOf_concat]
    exact nodup_staysAfter ih base deed

/-- What is held in the slots are the stays. -/
structure Tracks (stays : List Stay) (s : Session) : Prop where
  distinct : (stays.map (·.slot)).Nodup
  entered : ∀ slot, s.entered.get? slot =
    (stays.find? (·.slot = slot)).map fun e => ⟨e.beneath⟩

theorem find?_filter_ne (stays : List Stay) (slot other : String) :
    (stays.filter fun e => e.slot ≠ slot).find? (·.slot = other) =
      if other = slot then none else stays.find? (·.slot = other) := by
  rw [List.find?_filter]
  split
  · next same =>
    rw [List.find?_eq_none]
    intro e _ both
    simp [same] at both
  · next differ =>
    congr 1
    funext e
    by_cases own : e.slot = other
    · simp [own, differ]
    · simp [own]

theorem Tracks.find?_eq_some (tracks : Tracks stays s) {e : Stay} :
    stays.find? (·.slot = slot) = some e ↔ e ∈ stays ∧ e.slot = slot := by
  constructor
  · intro found
    exact ⟨List.mem_of_find?_eq_some found, of_decide_eq_true (List.find?_some found :)⟩
  · rintro ⟨mem, rfl⟩
    cases found : stays.find? (·.slot = e.slot) with
    | none => exact absurd (decide_eq_true rfl) (List.find?_eq_none.mp found e mem)
    | some e' =>
      have same : e'.slot = e.slot := of_decide_eq_true (List.find?_some found :)
      rw [List.inj_on_of_nodup_map tracks.distinct (List.mem_of_find?_eq_some found) mem same]

/-- A deed that has to do with one slot reveals what is beneath the stay there, if there is one. -/
theorem Tracks.reveals_iff (tracks : Tracks stays s)
    (vacates : ∀ other, deed.Vacates other ↔ other = slot) : Reveals base stays deed ↔
      ∀ e, stays.find? (·.slot = slot) = some e →
        e.beneath = innermost base (staysAfter base stays deed) := by
  constructor
  · intro reveals e found
    obtain ⟨mem, rfl⟩ := tracks.find?_eq_some.mp found
    exact reveals e mem ((vacates _).mpr rfl)
  · intro reveals e mem vacated
    exact reveals e (tracks.find?_eq_some.mpr ⟨mem, (vacates _).mp vacated⟩)

theorem Tracks.step (tracks : Tracks stays s) (current : s.current = innermost base stays)
    (free : ∀ scope, deed ≠ .bind scope) :
    Tracks (staysAfter base stays deed) (s.perform deed).2 := by
  refine ⟨nodup_staysAfter tracks.distinct base deed, fun other => ?_⟩
  cases deed with
  | enter scope slot =>
    refine (entered_enter s scope slot other).trans ?_
    rw [staysAfter, List.find?_cons, find?_filter_ne, tracks.entered, current]
    by_cases same : other = slot
    · simp [same]
    · simp [same, Ne.symm same]
  | exit slot =>
    refine (entered_exit s slot other).trans ?_
    rw [staysAfter, find?_filter_ne, tracks.entered]
    split <;> rfl
  | bind scope => exact absurd rfl (free scope)
  | openContext | compile | createScope | act =>
    rw [(perform_aside rfl s).2]
    exact tracks.entered other

/-- The innermost scope becomes the current one exactly if the deed reveals it. -/
theorem Tracks.current_perform (tracks : Tracks stays s)
    (current : s.current = innermost base stays) (free : ∀ scope, deed ≠ .bind scope) :
    (s.perform deed).2.current = innermost base (staysAfter base stays deed) ↔
      Reveals base stays deed := by
  cases deed with
  | enter scope slot =>
    rw [tracks.reveals_iff vacates_enter]
    refine Eq.congr_left (current_enter s scope slot) |>.trans ?_
    rw [tracks.entered]
    cases stays.find? (·.slot = slot) with
    | none => simp [staysAfter, innermost]
    | some e => simp
  | exit slot =>
    rw [tracks.reveals_iff vacates_exit]
    refine Eq.congr_left (current_exit s slot) |>.trans ?_
    rw [tracks.entered]
    cases found : stays.find? (·.slot = slot) with
    | none =>
      have kept : staysAfter base stays (.exit slot) = stays := by
        refine List.filter_eq_self.mpr fun e mem => ?_
        simpa using List.find?_eq_none.mp found e mem
      simp [kept, current]
    | some e => simp
  | bind scope => exact absurd rfl (free scope)
  | openContext | compile | createScope | act =>
    rw [(perform_aside rfl s).1]
    exact iff_of_true current fun e mem vacated => by simp [Deed.Vacates] at vacated

/-! ### All deeds -/

section

variable (unused : ∀ slot, s.entered.get? slot = none)

include unused

theorem tracks_of_lawful (lawful : Lawful s deeds) (free : ∀ scope, .bind scope ∉ deeds) :
    Tracks (staysOf s.current deeds) (s.after deeds) := by
  induction deeds using List.reverseRecOn with
  | nil => exact ⟨List.nodup_nil, unused⟩
  | append_singleton deeds deed ih =>
    have before := (lawful_concat.mp lawful).1
    -- entering a scope keeps what is current, which is the innermost scope only by the law so far
    have tracks := ih before fun scope mem => free scope (List.mem_append_left _ mem)
    rw [staysOf_concat, after_concat]
    refine tracks.step (before deeds List.prefix_rfl) fun scope same => ?_
    exact free scope (same ▸ List.mem_append_right _ List.mem_cons_self)

theorem lawful_iff (free : ∀ scope, .bind scope ∉ deeds) :
    Lawful s deeds ↔ OnEach s.current (Reveals s.current) deeds := by
  induction deeds using List.reverseRecOn with
  | nil =>
    refine iff_of_true (fun done le => ?_) fun done deed le => ?_
    · rw [List.prefix_nil.mp le]
      rfl
    · exact absurd (List.prefix_nil.mp le) (by simp)
  | append_singleton deeds deed ih =>
    have earlier : ∀ scope, .bind scope ∉ deeds :=
      fun scope mem => free scope (List.mem_append_left _ mem)
    rw [lawful_concat, onEach_concat, ← ih earlier, staysOf_concat, after_concat]
    refine and_congr_right fun lawful => ?_
    refine (tracks_of_lawful unused lawful earlier).current_perform
      (lawful deeds List.prefix_rfl) fun scope same => ?_
    exact free scope (same ▸ List.mem_append_right _ List.mem_cons_self)

end

/-! ### Scopes that are left in the reverse order -/

/-- Each stay is on top of the next one. -/
def Nested (base : Option Scope) : List Stay → Prop
  | [] => True
  | e :: rest => e.beneath = innermost base rest ∧ Nested base rest

theorem filter_slot_eq_self (unheld : ∀ e ∈ stays, e.slot ≠ slot) :
    (stays.filter fun e => e.slot ≠ slot) = stays :=
  List.filter_eq_self.mpr fun e mem => decide_eq_true (unheld e mem)

/-- What a deed in order does to nested stays. -/
theorem Nested.step (nested : Nested base stays) (distinct : (stays.map (·.slot)).Nodup)
    (inOrder : InOrder stays deed) :
    Nested base (staysAfter base stays deed) ∧ Reveals base stays deed := by
  cases deed with
  | enter scope slot =>
    have unheld : ∀ e ∈ stays, e.slot ≠ slot := by
      rintro e mem rfl
      cases (inOrder e mem ((vacates_enter _).mpr rfl)).1
    refine ⟨?_, fun e mem vacated => absurd ((vacates_enter _).mp vacated) (unheld e mem)⟩
    rw [staysAfter, filter_slot_eq_self unheld]
    exact ⟨rfl, nested⟩
  | exit slot =>
    by_cases held : ∃ e ∈ stays, e.slot = slot
    · obtain ⟨e, mem, rfl⟩ := held
      have head := (inOrder e mem ((vacates_exit _).mpr rfl)).2
      obtain ⟨rest, rfl⟩ := List.head?_eq_some_iff.mp head
      have unheld : ∀ e' ∈ rest, e'.slot ≠ e.slot := fun e' mem' same =>
        (List.nodup_cons.mp distinct).1 (List.mem_map.mpr ⟨e', mem', same⟩)
      have left : staysAfter base (e :: rest) (.exit e.slot) = rest := by
        rw [staysAfter, List.filter_cons_of_neg (by simp), filter_slot_eq_self unheld]
      rw [Reveals, left]
      refine ⟨nested.2, fun e' mem' vacated => ?_⟩
      rcases List.mem_cons.mp mem' with rfl | mem'
      · exact nested.1
      · exact absurd ((vacates_exit _).mp vacated) (unheld e' mem')
    · have unheld : ∀ e ∈ stays, e.slot ≠ slot := fun e mem same => held ⟨e, mem, same⟩
      refine ⟨?_, fun e mem vacated => absurd ((vacates_exit _).mp vacated) (unheld e mem)⟩
      rw [staysAfter, filter_slot_eq_self unheld]
      exact nested
  | openContext | compile | createScope | bind | act =>
    exact ⟨nested, fun e mem vacated => by simp [Deed.Vacates] at vacated⟩

theorem nested_of_inOrder (inOrder : OnEach base InOrder deeds) :
    Nested base (staysOf base deeds) ∧ OnEach base (Reveals base) deeds := by
  induction deeds using List.reverseRecOn with
  | nil => exact ⟨trivial, fun done deed le => absurd (List.prefix_nil.mp le) (by simp)⟩
  | append_singleton deeds deed ih =>
    obtain ⟨earlier, last⟩ := onEach_concat.mp inOrder
    obtain ⟨nested, reveals⟩ := ih earlier
    obtain ⟨nested, revealed⟩ := nested.step (nodup_staysOf base deeds) last
    exact ⟨staysOf_concat base deeds deed ▸ nested, onEach_concat.mpr ⟨reveals, revealed⟩⟩

/-! ### Scopes that are all different -/

/-- Nothing has a scope beneath it that was entered later. -/
structure Layered (base : Option Scope) (deeds : List Deed) (stays : List Stay) : Prop where
  beneath : ∀ e ∈ stays, e.beneath = base ∨ ∃ scope ∈ scopesEntered deeds, e.beneath = some scope
  scopes : ∀ e ∈ stays, e.scope ∈ scopesEntered deeds
  later : stays.Pairwise fun e e' => e'.beneath ≠ some e.scope

theorem scopesEntered_append (deeds deeds' : List Deed) :
    scopesEntered (deeds ++ deeds') = scopesEntered deeds ++ scopesEntered deeds' :=
  List.filterMap_append

/-- A scope that is entered for the first time is beneath nothing. -/
theorem Layered.beneath_ne (layered : Layered base deeds stays)
    (distinct : (scopesEntered (deeds ++ [.enter scope slot])).Nodup)
    (other : base ≠ some scope) : ∀ e ∈ stays, e.beneath ≠ some scope := by
  intro e mem same
  rcases layered.beneath e mem with bottom | ⟨scope', entered, above⟩
  · exact other (bottom.symm.trans same)
  · cases same.symm.trans above
    rw [scopesEntered_append] at distinct
    exact (List.nodup_append.mp distinct).2.2 scope entered scope List.mem_cons_self rfl

theorem Layered.innermost (layered : Layered base deeds stays) : innermost base stays = base ∨
    ∃ scope ∈ scopesEntered deeds, Session.innermost base stays = some scope := by
  cases stays with
  | nil => exact .inl rfl
  | cons e rest => exact .inr ⟨e.scope, layered.scopes e List.mem_cons_self, rfl⟩

theorem Layered.step (layered : Layered base deeds stays) {deed : Deed}
    (distinct : (scopesEntered (deeds ++ [deed])).Nodup)
    (other : ∀ scope ∈ scopesEntered (deeds ++ [deed]), base ≠ some scope) :
    Layered base (deeds ++ [deed]) (staysAfter base stays deed) := by
  have more : ∀ scope ∈ scopesEntered deeds, scope ∈ scopesEntered (deeds ++ [deed]) :=
    fun scope mem => scopesEntered_append deeds [deed] ▸ List.mem_append_left _ mem
  have fewer : ∀ stays', stays'.Sublist stays → Layered base (deeds ++ [deed]) stays' := by
    intro stays' le
    refine ⟨fun e mem => ?_, fun e mem => more _ (layered.scopes e (le.subset mem)),
      layered.later.sublist le⟩
    rcases layered.beneath e (le.subset mem) with bottom | ⟨scope, entered, above⟩
    · exact .inl bottom
    · exact .inr ⟨scope, more scope entered, above⟩
  cases deed with
  | enter scope slot =>
    have entered : scope ∈ scopesEntered (deeds ++ [.enter scope slot]) :=
      scopesEntered_append deeds _ ▸ List.mem_append_right _ List.mem_cons_self
    have kept := fewer (stays.filter fun e => e.slot ≠ slot) List.filter_sublist
    refine ⟨List.forall_mem_cons.mpr ⟨?_, kept.beneath⟩,
      List.forall_mem_cons.mpr ⟨entered, kept.scopes⟩,
      List.pairwise_cons.mpr ⟨fun e mem => ?_, kept.later⟩⟩
    · rcases layered.innermost with bottom | ⟨scope', entered', above⟩
      · exact .inl bottom
      · exact .inr ⟨scope', more scope' entered', above⟩
    · exact layered.beneath_ne distinct (other scope entered) e (List.mem_filter.mp mem).1
  | exit slot => exact fewer (stays.filter fun e => e.slot ≠ slot) List.filter_sublist
  | openContext | compile | createScope | bind | act => exact fewer _ (List.Sublist.refl _)

theorem layered_staysOf (distinct : (scopesEntered deeds).Nodup)
    (other : ∀ scope ∈ scopesEntered deeds, base ≠ some scope) :
    Layered base deeds (staysOf base deeds) := by
  induction deeds using List.reverseRecOn with
  | nil => exact ⟨fun _ mem => absurd mem List.not_mem_nil,
      fun _ mem => absurd mem List.not_mem_nil, .nil⟩
  | append_singleton deeds deed ih =>
    have split := scopesEntered_append deeds [deed]
    rw [staysOf_concat]
    refine (ih ?_ fun scope mem => ?_).step distinct other
    · exact (List.nodup_append.mp (split ▸ distinct)).1
    · exact other scope (split ▸ List.mem_append_left _ mem)

/-- A deed that reveals what was beneath is in order. -/
theorem Layered.inOrder (layered : Layered base deeds stays)
    (slots : (stays.map (·.slot)).Nodup) {deed : Deed}
    (distinct : (scopesEntered (deeds ++ [deed])).Nodup)
    (other : ∀ scope ∈ scopesEntered (deeds ++ [deed]), base ≠ some scope)
    (reveals : Reveals base stays deed) : InOrder stays deed := by
  intro e mem vacated
  have revealed := reveals e mem vacated
  rcases vacated with rfl | ⟨scope, rfl⟩
  · refine ⟨rfl, ?_⟩
    cases stays with
    | nil => cases mem
    | cons first rest =>
      rcases List.mem_cons.mp mem with rfl | mem
      · rfl
      · have apart : first.slot ≠ e.slot := fun same =>
          (List.nodup_cons.mp slots).1 (List.mem_map.mpr ⟨e, mem, same.symm⟩)
        -- below the first stay nothing can have its scope beneath it
        have revealed : e.beneath = some first.scope := by
          rwa [staysAfter, List.filter_cons_of_pos (by simpa using apart)] at revealed
        exact absurd revealed ((List.pairwise_cons.mp layered.later).1 e mem)
  · refine absurd revealed (layered.beneath_ne distinct (other scope ?_) e mem)
    exact scopesEntered_append deeds _ ▸ List.mem_append_right _ List.mem_cons_self

theorem inOrder_of_reveals (distinct : (scopesEntered deeds).Nodup)
    (other : ∀ scope ∈ scopesEntered deeds, base ≠ some scope)
    (reveals : OnEach base (Reveals base) deeds) : OnEach base InOrder deeds := by
  intro done deed le
  have fewer : (scopesEntered (done ++ [deed])).Sublist (scopesEntered deeds) :=
    le.sublist.filterMap _
  have distinct' := distinct.sublist fewer
  have other' : ∀ scope ∈ scopesEntered (done ++ [deed]), base ≠ some scope :=
    fun scope mem => other scope (fewer.subset mem)
  have fewest : (scopesEntered done).Sublist (scopesEntered (done ++ [deed])) :=
    (List.sublist_append_left done [deed]).filterMap _
  have layered := layered_staysOf (distinct'.sublist fewest) fun scope mem =>
    other' scope (fewest.subset mem)
  exact layered.inOrder (nodup_staysOf base done) distinct' other' (reveals done deed le)

/-! ### What was current before -/

/-- A slot that is not given up holds the same. -/
theorem entered_perform (kept : ¬ deed.Vacates slot) (s : Session) :
    (s.perform deed).2.entered.get? slot = s.entered.get? slot := by
  cases deed with
  | enter scope other =>
    exact (entered_enter s scope other slot).trans
      (if_neg fun same => kept ((vacates_enter slot).mpr same))
  | exit other =>
    exact (entered_exit s other slot).trans
      (if_neg fun same => kept ((vacates_exit slot).mpr same))
  | bind scope => exact congrArg (·.get? slot) (entered_bind s scope)
  | openContext | compile | createScope | act => rw [(perform_aside rfl s).2]

theorem entered_after (kept : ∀ deed ∈ deeds, ¬ deed.Vacates slot) (s : Session) :
    (s.after deeds).entered.get? slot = s.entered.get? slot := by
  induction deeds generalizing s with
  | nil => rfl
  | cons deed deeds ih =>
    obtain ⟨first, rest⟩ := List.forall_mem_cons.mp kept
    exact (ih rest _).trans (entered_perform first s)

/-- Leaving a scope makes current again what was current before it was entered. -/
theorem current_after_exit {between : List Deed} (kept : ∀ deed ∈ between, ¬ deed.Vacates slot)
    (s : Session) (scope : Scope) :
    (s.after (.enter scope slot :: (between ++ [.exit slot]))).current = s.current := by
  have held : ((s.enter scope slot).after between).entered.get? slot = some ⟨s.current⟩ :=
    (entered_after kept _).trans ((entered_enter s scope slot slot).trans (if_pos rfl))
  have split : s.after (.enter scope slot :: (between ++ [.exit slot])) =
      ((s.enter scope slot).after between).exit slot := after_concat (s.enter scope slot) between _
  rw [split, current_exit, held]
  rfl

/-- Whatever scopes are entered and left: leaving one makes current again what was current before.
That keeps the innermost scope current if scopes are left in the reverse order, and not otherwise
unless some of them are the same. -/
theorem left_in_any_order (unused : ∀ slot, s.entered.get? slot = none)
    (free : ∀ scope, .bind scope ∉ deeds) : LeftInAnyOrder s deeds where
  restores := fun done scope slot between kept _ => by
    rw [after_append]
    exact current_after_exit kept _ scope
  lawful_iff := lawful_iff unused free
  lawful_of_inOrder := fun inOrder => (lawful_iff unused free).mpr (nested_of_inOrder inOrder).2
  inOrder_of_lawful := fun distinct other lawful =>
    inOrder_of_reveals distinct other ((lawful_iff unused free).mp lawful)

/-- Of two scopes that were entered, the first one is left first: then neither is current, and after
the second one is left, the first one is. -/
theorem left_in_any_order_overlapping : ∃ s : Session, ∃ a b : Scope,
    let deeds := [Deed.enter a "x", .enter b "y", .exit "x", .exit "y"]
    (∀ slot, s.entered.get? slot = none) ∧ (∀ scope, .bind scope ∉ deeds) ∧
      LeftInAnyOrder s deeds ∧ ¬ Lawful s deeds ∧
      (s.after (deeds.take 3)).current = none ∧ (s.after deeds).current = some a := by
  let opened := ((Session.new .empty).perform
    (.openContext "c" {} "1" (.ofHost (.new false)) none)).2
  let s := ((opened.perform (.createScope 0 "a")).2.perform (.createScope 0 "b")).2
  let deeds := [Deed.enter ⟨0, ⟨0⟩⟩ "x", .enter ⟨0, ⟨1⟩⟩ "y", .exit "x", .exit "y"]
  have unused : ∀ slot, s.entered.get? slot = none := fun _ => rfl
  have free : ∀ scope, .bind scope ∉ deeds := by simp [deeds]
  have early : (s.after (deeds.take 3)).current = none := by decide +kernel
  refine ⟨s, ⟨0, ⟨0⟩⟩, ⟨0, ⟨1⟩⟩, unused, free, left_in_any_order unused free, fun lawful => ?_,
    early, by decide +kernel⟩
  cases early.symm.trans (lawful (deeds.take 3) (List.take_prefix 3 deeds))

end Session
end Scriptorium
