import Scriptorium.Install.Anchors
import Scriptorium.Install.Installer

/-! The anchors of a target and the cache of those in use. A target numbers its anchors upwards and
forgets none, so that no number is given out twice (`Target.Issues`); installers define units
against anchors but make none (`Installer.install_sameAnchors`). A cache that has one anchor for
each origin, all known to the target, stays such a cache with every request
(`AnchorCache.Fits.getOrCreate`). -/

namespace Scriptorium

/-- All anchors have numbers that were given out. -/
def Host.AnchorsNumbered (h : Host) : Prop := ∀ e ∈ h.anchors, e.1.number < h.nextNumber

namespace Target

variable {t t' w : Target} {origin : String} {id : AnchorId}

/-! ### The anchors of a target -/

/-- Anchors were only added, with numbers that had not been given out before. -/
structure Issues (t t' : Target) : Prop where
  next : t.host.nextNumber ≤ t'.host.nextNumber
  anchors : ∃ new, t'.host.anchors = t.host.anchors ++ new ∧
    ∀ e ∈ new, t.host.nextNumber ≤ e.1.number ∧ e.1.number < t'.host.nextNumber

theorem Issues.refl (t : Target) : t.Issues t :=
  ⟨Nat.le_refl _, [], (List.append_nil _).symm, fun _ mem => absurd mem List.not_mem_nil⟩

theorem Issues.trans (h : t.Issues w) (h' : w.Issues t') : t.Issues t' := by
  obtain ⟨new, anchors, issued⟩ := h.anchors
  obtain ⟨new', anchors', issued'⟩ := h'.anchors
  refine ⟨Nat.le_trans h.next h'.next, new ++ new', ?_, fun e mem => ?_⟩
  · rw [anchors', anchors, List.append_assoc]
  · rcases List.mem_append.mp mem with mem | mem
    · exact ⟨(issued e mem).1, Nat.lt_of_lt_of_le (issued e mem).2 h'.next⟩
    · exact ⟨Nat.le_trans h.next (issued' e mem).1, (issued' e mem).2⟩

theorem Issues.numbered (h : t.Issues t') (numbered : t.host.AnchorsNumbered) :
    t'.host.AnchorsNumbered := by
  obtain ⟨new, anchors, issued⟩ := h.anchors
  intro e mem
  rw [anchors] at mem
  rcases List.mem_append.mp mem with mem | mem
  · exact Nat.lt_of_lt_of_le (numbered e mem) h.next
  · exact (issued e mem).2

/-- What is known of an anchor stays known. -/
theorem Issues.lookup (h : t.Issues t') (known : t.host.anchors.lookup id = some origin) :
    t'.host.anchors.lookup id = some origin := by
  obtain ⟨new, anchors, -⟩ := h.anchors
  rw [anchors, List.lookup_append, known, Option.some_or]

theorem Issues.anchors_grow (h : t.Issues t') : t.host.anchors <+: t'.host.anchors := by
  obtain ⟨new, anchors, -⟩ := h.anchors
  exact ⟨new, anchors.symm⟩

/-- The calls in order are the same ones, and so are the anchors. -/
structure SameAnchors (t t' : Target) : Prop where
  failing : t'.failing = t.failing
  advertises : t'.advertisesIsolation = t.advertisesIsolation
  isolation : t'.host.isolation = t.host.isolation
  next : t.host.nextNumber ≤ t'.host.nextNumber
  anchors : t'.host.anchors = t.host.anchors

theorem SameAnchors.refl (t : Target) : t.SameAnchors t := ⟨rfl, rfl, rfl, Nat.le_refl _, rfl⟩

theorem SameAnchors.trans (h : t.SameAnchors w) (h' : w.SameAnchors t') : t.SameAnchors t' :=
  ⟨h'.failing.trans h.failing, h'.advertises.trans h.advertises, h'.isolation.trans h.isolation,
    Nat.le_trans h.next h'.next, h'.anchors.trans h.anchors⟩

theorem SameAnchors.issues (h : t.SameAnchors t') : t.Issues t' :=
  ⟨h.next, [], by rw [h.anchors, List.append_nil], fun _ mem => absurd mem List.not_mem_nil⟩

/-- A call that is passed on changes the host only. -/
theorem sameAnchors_of_pass {α : Type} {call : HostCall} {result : Except InstallError (α × Host)}
    {a : α} (passed : t.pass call result = .ok (a, t'))
    (kept : ∀ h, result = .ok (a, h) → h.isolation = t.host.isolation ∧
      t.host.nextNumber ≤ h.nextNumber ∧ h.anchors = t.host.anchors) : t.SameAnchors t' := by
  rw [pass] at passed
  split at passed
  · cases passed
  · cases result with
    | error e => cases passed
    | ok x =>
      cases passed
      obtain ⟨isolation, next, anchors⟩ := kept _ rfl
      exact ⟨rfl, rfl, isolation, next, anchors⟩

theorem createLoader_sameAnchors {loader : LoaderId} (h : t.createLoader = .ok (loader, t')) :
    t.SameAnchors t' := by
  refine sameAnchors_of_pass h fun host made => ?_
  cases made
  exact ⟨rfl, Nat.le_succ _, rfl⟩

theorem defineNamed_sameAnchors {loader : LoaderId} {name : String} {code : Bytes}
    {entry : EntryPoint} (h : t.defineNamed loader name code = .ok (entry, t')) :
    t.SameAnchors t' := by
  refine sameAnchors_of_pass h fun host made => ?_
  simp only [Host.defineNamed] at made
  split at made
  · cases made
  · split at made
    · cases made
    · split at made
      · cases made
      · cases made
        exact ⟨rfl, Nat.le_succ _, rfl⟩

theorem defineIsolated_sameAnchors {anchor : AnchorId} {code : Bytes} {entry : EntryPoint}
    (h : t.defineIsolated anchor code = .ok (entry, t')) : t.SameAnchors t' := by
  refine sameAnchors_of_pass h fun host made => ?_
  simp only [Host.defineIsolated] at made
  split at made
  · cases made
  · split at made
    · cases made
    · split at made
      · cases made
      · cases made
        exact ⟨rfl, Nat.le_succ _, rfl⟩

/-- A new anchor gets the next number. -/
structure Creates (t : Target) (origin : String) (id : AnchorId) (t' : Target) : Prop where
  failing : t'.failing = t.failing
  advertises : t'.advertisesIsolation = t.advertisesIsolation
  isolation : t'.host.isolation = t.host.isolation
  number : id.number = t.host.nextNumber
  next : t'.host.nextNumber = t.host.nextNumber + 1
  anchors : t'.host.anchors = t.host.anchors ++ [(id, origin)]

theorem createAnchor_creates (h : t.createAnchor origin = .ok (id, t')) :
    t.Creates origin id t' := by
  simp only [createAnchor, pass, Host.createAnchor] at h
  split at h
  · cases h
  · split at h
    · cases h
    · cases h
      exact ⟨rfl, rfl, rfl, rfl, rfl, rfl⟩

theorem Creates.issues (h : t.Creates origin id t') : t.Issues t' := by
  refine ⟨h.next ▸ Nat.le_succ _, _, h.anchors, fun e mem => ?_⟩
  cases List.mem_singleton.mp mem
  rw [h.number, h.next]
  exact ⟨Nat.le_refl _, Nat.lt_succ_self _⟩

/-- The number of a new anchor is above those of all others. -/
theorem Creates.lt (h : t.Creates origin id t') (numbered : t.host.AnchorsNumbered) :
    ∀ e ∈ t.host.anchors, e.1.number < id.number :=
  fun e mem => h.number ▸ numbered e mem

/-- The target knows what it made an anchor for. -/
theorem Creates.lookup (h : t.Creates origin id t') (numbered : t.host.AnchorsNumbered) :
    t'.host.anchors.lookup id = some origin := by
  have unknown : t.host.anchors.lookup id = none := by
    refine List.lookup_eq_none_iff.mpr fun e mem => bne_iff_ne.mpr ?_
    rintro rfl
    exact absurd (h.lt numbered e mem) (Nat.lt_irrefl _)
  rw [h.anchors, List.lookup_append, unknown, Option.none_or, List.lookup_cons_self]

end Target

/-! ### Installers -/

namespace NamedInstaller

variable {i i' : NamedInstaller} {t t' : Target}

theorem new_sameAnchors {limits : ReuseLimits} (h : NamedInstaller.new t limits = .ok (i, t')) :
    t.SameAnchors t' := by
  rw [NamedInstaller.new] at h
  cases made : t.createLoader with
  | error e => rw [made] at h; cases h
  | ok x =>
    rw [made] at h
    cases h
    exact Target.createLoader_sameAnchors made

theorem define_sameAnchors (i : NamedInstaller) (t : Target) (script : Nat) (u : CodeUnit) :
    t.SameAnchors (i.define t script u).target := by
  simp only [define]
  split
  · exact .refl t
  · next called =>
    split <;> exact Target.defineNamed_sameAnchors called

theorem defineSubs_sameAnchors (i : NamedInstaller) (t : Target) (script : Nat)
    (subs : List (UInt32 × SubUnit)) : t.SameAnchors (i.defineSubs t script subs).target := by
  induction subs generalizing i t with
  | nil => exact .refl t
  | cons e rest ih =>
    obtain ⟨id, sub⟩ := e
    have first := i.define_sameAnchors t script sub.unit
    rw [defineSubs]
    split
    · next defined => rw [defined] at first; exact first
    · next defined => rw [defined] at first; exact first.trans (ih _ _)

theorem install_sameAnchors (i : NamedInstaller) (t : Target) (script : Nat) (b : Bundle) :
    t.SameAnchors (i.install t script b).target := by
  have first := i.define_sameAnchors t script b.main
  rw [install]
  split
  · next defined => rw [defined] at first; exact first
  · next defined => rw [defined] at first; exact first.trans (defineSubs_sameAnchors _ _ _ _)

end NamedInstaller

theorem Installer.install_sameAnchors (i : Installer) (t : Target) (script : Nat)
    (verifier : Option Verifier) (b : Bundle) :
    t.SameAnchors (i.install t script verifier b).target := by
  simp only [install]
  split
  · exact .refl t
  · split
    · exact NamedInstaller.install_sameAnchors _ _ _ _
    · split
      · exact .refl t
      · next installs =>
        simp only [Anchor.install] at installs
        split at installs
        · cases installs
        · split at installs
          · cases installs
          · next defined =>
            cases installs
            exact Target.defineIsolated_sameAnchors defined

/-! ### The cache -/

namespace AnchorCache

variable {cache cache' : AnchorCache} {live : Anchor → Bool} {t t' : Target} {origin : String}
  {a : Anchor}

/-- How an anchor is got: a live one is in the cache, or there is none and it is made. All others
that are alive stay in the cache. -/
inductive Gets (cache : AnchorCache) (live : Anchor → Bool) (t : Target) (a : Anchor) (t' : Target)
    (cache' : AnchorCache) : Prop
  | kept : a ∈ cache.anchors → live a → t' = t → cache' = cache.purge live →
      Gets cache live t a t' cache'
  | made : (∀ x ∈ cache.anchors, live x → x.origin ≠ a.origin) → t.Creates a.origin a.id t' →
      cache' = ⟨(cache.purge live).anchors ++ [a]⟩ → Gets cache live t a t' cache'

theorem mem_purge {x : Anchor} :
    x ∈ (cache.purge live).anchors ↔ x ∈ cache.anchors ∧ live x = true :=
  List.mem_filter

theorem getOrCreate_gets (got : cache.getOrCreate live t origin = (.ok (a, t'), cache')) :
    a.origin = origin ∧ cache.Gets live t a t' cache' := by
  simp only [getOrCreate] at got
  split at got
  · next found =>
    cases got
    rw [find?] at found
    obtain ⟨mem, alive⟩ := mem_purge.mp (List.mem_of_find?_eq_some found)
    exact ⟨of_decide_eq_true (List.find?_some found :), .kept mem alive rfl rfl⟩
  · next missing =>
    rw [find?] at missing
    split at got
    · cases got
    · next created =>
      cases got
      refine ⟨rfl, .made (fun x mem alive same => ?_) (Target.createAnchor_creates created) rfl⟩
      exact absurd (decide_eq_true same)
        (List.find?_eq_none.mp missing x (mem_purge.mpr ⟨mem, alive⟩))

/-- There is one anchor for each origin, and the target knows what it was made for. -/
structure Fits (cache : AnchorCache) (t : Target) : Prop where
  unique : ∀ a ∈ cache.anchors, ∀ b ∈ cache.anchors, a.origin = b.origin → a = b
  known : ∀ a ∈ cache.anchors, t.host.anchors.lookup a.id = some a.origin

theorem Fits.empty (t : Target) : AnchorCache.empty.Fits t :=
  ⟨fun _ mem => absurd mem List.not_mem_nil, fun _ mem => absurd mem List.not_mem_nil⟩

theorem Fits.purge (fits : cache.Fits t) (live : Anchor → Bool) : (cache.purge live).Fits t :=
  ⟨fun a mem b mem' => fits.unique a (mem_purge.mp mem).1 b (mem_purge.mp mem').1,
    fun a mem => fits.known a (mem_purge.mp mem).1⟩

theorem Fits.issues (fits : cache.Fits t) (issues : t.Issues t') : cache.Fits t' :=
  ⟨fits.unique, fun a mem => issues.lookup (fits.known a mem)⟩

/-- Anchors for different origins have different ids. -/
theorem Fits.id_ne (fits : cache.Fits t) {b : Anchor} (mem : a ∈ cache.anchors)
    (mem' : b ∈ cache.anchors) (differ : a.origin ≠ b.origin) : a.id ≠ b.id := by
  intro same
  have known := fits.known a mem
  rw [same, fits.known b mem'] at known
  exact differ (Option.some.inj known).symm

theorem Gets.issues (gets : cache.Gets live t a t' cache') : t.Issues t' := by
  cases gets with
  | kept _ _ same => exact same ▸ .refl t
  | made _ creates => exact creates.issues

/-- The anchor is in the cache, and so are those that are alive. -/
theorem Gets.mem (gets : cache.Gets live t a t' cache') :
    a ∈ cache'.anchors ∧ ∀ x ∈ cache.anchors, live x → x ∈ cache'.anchors := by
  cases gets with
  | kept mem alive _ same =>
    subst same
    exact ⟨mem_purge.mpr ⟨mem, alive⟩, fun x mem alive => mem_purge.mpr ⟨mem, alive⟩⟩
  | made _ _ same =>
    subst same
    exact ⟨List.mem_append_right _ List.mem_cons_self,
      fun x mem alive => List.mem_append_left _ (mem_purge.mpr ⟨mem, alive⟩)⟩

theorem Fits.gets (fits : cache.Fits t) (numbered : t.host.AnchorsNumbered)
    (gets : cache.Gets live t a t' cache') : cache'.Fits t' := by
  cases gets with
  | kept _ _ same same' =>
    subst same same'
    exact fits.purge live
  | made missing creates same =>
    subst same
    have before := (fits.purge live).issues creates.issues
    -- No anchor that is left is one of the new one's origin.
    have other : ∀ x ∈ (cache.purge live).anchors, x.origin ≠ a.origin := fun x mem =>
      missing x (mem_purge.mp mem).1 (mem_purge.mp mem).2
    refine ⟨fun x mem y mem' same => ?_, fun x mem => ?_⟩
    · rcases List.mem_append.mp mem with mem | mem <;>
        rcases List.mem_append.mp mem' with mem' | mem'
      · exact before.unique x mem y mem' same
      · cases List.mem_singleton.mp mem'
        exact absurd same (other x mem)
      · cases List.mem_singleton.mp mem
        exact absurd same.symm (other y mem')
      · exact (List.mem_singleton.mp mem).trans (List.mem_singleton.mp mem').symm
    · rcases List.mem_append.mp mem with mem | mem
      · exact before.known x mem
      · cases List.mem_singleton.mp mem
        exact creates.lookup numbered

end AnchorCache
end Scriptorium
