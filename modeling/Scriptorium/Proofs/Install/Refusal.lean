import Scriptorium.Proofs.Except
import Scriptorium.Proofs.Install.Anchors
import Scriptorium.Proofs.Install.Installer

/-! How installations end. In a host with all calls in order the bundle alone decides whether it
is refused, and with which error: by name it is that of the first unit without code or with the name
of an earlier one (`NamedInstaller.obstacle?`), whatever names earlier scripts left in the loader;
in isolation it is the lack of code. What an installer has counted matters only if it has no room
for the units before the first obstacle; then the installation by name is broken off
(`NamedInstaller.Ends`). What an installation leaves of the target is a target of the same kind that
still knows all its anchors (`Target.Advances`). -/

namespace Scriptorium

/-- The units can be defined one after another in a loader that has none of their names. -/
structure Bundle.Definable (b : Bundle) : Prop where
  code : ∀ u ∈ b.units, u.code ≠ []
  distinct : (b.units.map (·.name)).Nodup

/-! ### What targets keep -/

/-- The calls in order are the same ones, and no anchor was lost. -/
structure Target.Advances (t t' : Target) : Prop where
  failing : t'.failing = t.failing
  advertises : t'.advertisesIsolation = t.advertisesIsolation
  isolation : t'.host.isolation = t.host.isolation
  anchors : ∀ id, (t.host.anchors.lookup id).isSome → (t'.host.anchors.lookup id).isSome

namespace Target

variable {t t' w : Target}

theorem Advances.refl (t : Target) : t.Advances t := ⟨rfl, rfl, rfl, fun _ known => known⟩

theorem Advances.trans (h : t.Advances w) (h' : w.Advances t') : t.Advances t' :=
  ⟨h'.failing.trans h.failing, h'.advertises.trans h.advertises, h'.isolation.trans h.isolation,
    fun id known => h'.anchors id (h.anchors id known)⟩

theorem SameAnchors.advances (h : t.SameAnchors t') : t.Advances t' :=
  ⟨h.failing, h.advertises, h.isolation, fun _ known => h.anchors ▸ known⟩

theorem createAnchor_advances {origin : String} {id : AnchorId}
    (h : t.createAnchor origin = .ok (id, t')) :
    t.Advances t' ∧ (t'.host.anchors.lookup id).isSome := by
  have creates := createAnchor_creates h
  refine ⟨⟨creates.failing, creates.advertises, creates.isolation, fun other known => ?_⟩, ?_⟩
  · rw [creates.anchors, List.lookup_append, Option.isSome_or, known, Bool.true_or]
  · rw [creates.anchors, List.lookup_append, Option.isSome_or, List.lookup_cons_self,
      Option.isSome_some, Bool.or_true]

end Target

namespace NamedInstaller

variable {i i' : NamedInstaller} {t t' : Target} {script : Nat} {names before : List String}
  {loader : LoaderId} {u : CodeUnit} {us : List CodeUnit} {subs : List (UInt32 × SubUnit)}
  {b : Bundle} {e : InstallError} {α β : Type}

/-! ### The first obstacle -/

/-- What is in the way of defining units one after another in a loader, where the script has the
units `before` already: the first unit that has no code or the name of an earlier one. -/
def obstacle? (loader : LoaderId) (script : Nat) :
    (before : List String) → List CodeUnit → Option InstallError
  | _, [] => none
  | before, u :: us =>
    if u.code = [] then some (.rejected (qualified u.name script) "empty code")
    else if u.name ∈ before then some (.duplicateUnit loader (qualified u.name script))
    else obstacle? loader script (u.name :: before) us

/-- The units before the first obstacle. -/
def unobstructed : (before : List String) → List CodeUnit → List CodeUnit
  | _, [] => []
  | before, u :: us =>
    if u.code = [] ∨ u.name ∈ before then [] else u :: unobstructed (u.name :: before) us

/-- Nothing is in the way of units that have code and names of their own. -/
theorem obstacle?_eq_none : obstacle? loader script before us = none ↔
    (∀ u ∈ us, u.code ≠ [] ∧ u.name ∉ before) ∧ (us.map (·.name)).Nodup := by
  induction us generalizing before with
  | nil => simp [obstacle?]
  | cons u us ih =>
    rw [obstacle?, List.map_cons, List.nodup_cons, List.forall_mem_cons]
    by_cases empty : u.code = []
    · simp [empty]
    · by_cases taken : u.name ∈ before
      · simp [empty, taken]
      · rw [if_neg empty, if_neg taken, ih]
        simp only [List.mem_cons, List.mem_map, not_or, not_exists, not_and]
        grind

theorem definable_iff (loader : LoaderId) (script : Nat) :
    b.Definable ↔ obstacle? loader script [] b.units = none := by
  rw [obstacle?_eq_none]
  constructor
  · rintro ⟨code, distinct⟩
    exact ⟨fun u mem => ⟨code u mem, List.not_mem_nil⟩, distinct⟩
  · rintro ⟨each, distinct⟩
    exact ⟨fun u mem => (each u mem).1, distinct⟩

/-- Of the units of the script, exactly those with these names are in the loader. -/
def HasDefined (i : NamedInstaller) (t : Target) (script : Nat) (before : List String) : Prop :=
  ∃ names, t.host.names? i.loader = some names ∧
    ∀ name, qualified name script ∈ names ↔ name ∈ before

/-- Where the names of all earlier scripts may be, no unit of the next one is. -/
theorem Serves.hasDefined (h : i.Serves t script) : i.HasDefined t script [] := by
  obtain ⟨names, known, earlier⟩ := h
  refine ⟨names, known, fun name => ⟨fun mem => ?_, fun mem => absurd mem List.not_mem_nil⟩⟩
  obtain ⟨name', before, same, lt⟩ := earlier _ mem
  obtain ⟨-, rfl⟩ := qualified_injective same
  exact absurd lt (Nat.lt_irrefl _)

theorem HasDefined.fill (h : i.HasDefined t script before) (fills : Fills script [u] i t i' t') :
    i'.HasDefined t' script (u.name :: before) := by
  obtain ⟨names, known, own⟩ := h
  refine ⟨_, fills.names?_eq known, fun name => ?_⟩
  have qualifies : qualified name script = qualified u.name script ↔ name = u.name :=
    ⟨fun same => (qualified_injective same).1, fun same => same ▸ rfl⟩
  rw [List.mem_append, own, namesOf, List.map_singleton, List.mem_singleton, qualifies,
    List.mem_cons, or_comm]

/-- What the target has against a unit is the obstacle, and without one the others follow. -/
theorem HasDefined.obstacle?_cons (h : i.HasDefined t script before) (inOrder : t.failing = [])
    (u : CodeUnit) (us : List CodeUnit) :
    match t.defineNamed i.loader (qualified u.name script) u.code with
    | .error e =>
      obstacle? i.loader script before (u :: us) = some e ∧ unobstructed before (u :: us) = []
    | .ok _ =>
      obstacle? i.loader script before (u :: us) =
          obstacle? i.loader script (u.name :: before) us ∧
        unobstructed before (u :: us) = u :: unobstructed (u.name :: before) us := by
  obtain ⟨names, known, own⟩ := h
  simp only [Target.defineNamed, Target.pass, inOrder, if_neg List.not_mem_nil, Host.defineNamed,
    known, own, List.isEmpty_iff, obstacle?, unobstructed]
  by_cases empty : u.code = []
  · simp [empty, Except.map]
  · by_cases taken : u.name ∈ before
    · simp [empty, taken, Except.map]
    · simp [empty, taken, Except.map]

/-! ### The end of an installation -/

/-- How the definition of units ends where the script has the units `before` already. It is broken
off if the counts have no room for the units before the first obstacle, and otherwise refused for
the obstacle if there is one. -/
structure Ends (i : NamedInstaller) (script : Nat) (before : List String) (us : List CodeUnit)
    (result : Except Setback α) : Prop where
  broken : ∀ fault, result = .error (.broken fault) ↔
    ¬ i.RoomFor (unobstructed before us) ∧ fault = .addOverflow
  refused : ∀ e, result = .error (.refused e) ↔
    i.RoomFor (unobstructed before us) ∧ obstacle? i.loader script before us = some e

/-- Nothing is in the way of units that could all be defined. -/
theorem Ends.definable {result : Except Setback α} (h : i.Ends script [] b.units result)
    (ok : result.isOk) : b.Definable := by
  obtain ⟨a, rfl⟩ := exists_of_isOk ok
  refine (definable_iff i.loader script).mpr ?_
  by_cases room : i.RoomFor (unobstructed [] b.units)
  · cases obstacle : obstacle? i.loader script [] b.units with
    | none => rfl
    | some e => cases (h.refused e).mpr ⟨room, obstacle⟩
  · cases (h.broken .addOverflow).mpr ⟨room, rfl⟩

/-- A unit with which the definition ends has no room in the counts, or is the first obstacle. -/
theorem Defining.ends {s : Setback} (h : Defining i t script u ⟨.error s, i', t'⟩)
    (before_ : i.HasDefined t script before) (inOrder : t.failing = []) (us : List CodeUnit) :
    i.Ends script before (u :: us) (.error s : Except Setback α) := by
  have first := before_.obstacle?_cons inOrder u us
  cases h with
  | refused refused =>
    rw [refused] at first
    obtain ⟨obstacle, nothing⟩ := first
    refine ⟨fun fault => ?_, fun e' => ?_⟩
    · simp [nothing, RoomFor.nil]
    · simp [nothing, RoomFor.nil, obstacle]
  | uncounted defined full =>
    rw [defined] at first
    obtain ⟨-, unobstructed_⟩ := first
    have full' : ¬ i.RoomFor (unobstructed before (u :: us)) := by
      rw [unobstructed_]
      exact fun room => full (room.of_first (List.prefix_append [u] _))
    refine ⟨fun fault => ?_, fun e' => ?_⟩
    · simp [full', eq_comm]
    · simp [full']

/-- A unit that was defined and counted leaves the end to the units behind it. -/
theorem Ends.cons {result : Except Setback α} (h : i'.Ends script (u.name :: before) us result)
    {handle : Handle} (defining : Defining i t script u ⟨.ok handle, i', t'⟩)
    (before_ : i.HasDefined t script before) (inOrder : t.failing = []) (f : α → β) :
    i.Ends script before (u :: us) (result.map f) := by
  have first := before_.obstacle?_cons inOrder u us
  cases defining with
  | counted defined _ fills tallies =>
    rw [defined] at first
    obtain ⟨obstacle, unobstructed_⟩ := first
    have room : i.RoomFor (unobstructed before (u :: us)) ↔
        i'.RoomFor (unobstructed (u.name :: before) us) := by
      rw [unobstructed_]
      exact tallies.roomFor.symm
    refine ⟨fun fault => ?_, fun e => ?_⟩
    · rw [map_eq_error, h.broken, room]
    · rw [map_eq_error, h.refused, room, obstacle, fills.loader]

theorem HasDefined.defineSubs_ends (h : i.HasDefined t script before) (inOrder : t.failing = []) :
    i.Ends script before (subs.map (·.2.unit)) (i.defineSubs t script subs).result := by
  induction subs generalizing i t before with
  | nil =>
    refine ⟨fun fault => ?_, fun e => ?_⟩
    · simp [defineSubs, unobstructed, RoomFor.nil]
    · simp [defineSubs, obstacle?]
  | cons x rest ih =>
    obtain ⟨id, sub⟩ := x
    have defining := i.defining_define t script sub.unit
    rw [List.map_cons, defineSubs]
    split
    · next ended =>
      rw [ended] at defining
      exact defining.ends h inOrder _
    · next handle i' t' defined =>
      rw [defined] at defining
      have fills := defining.fills
      exact (ih (h.fill fills) (fills.failing.trans inOrder)).cons defining h inOrder _

/-- In a loader that serves the script, the bundle and the counts decide how its installation
ends. -/
theorem Serves.install_ends (h : i.Serves t script) (inOrder : t.failing = []) :
    i.Ends script [] b.units (i.install t script b).result := by
  have none_ := h.hasDefined
  have defining := i.defining_define t script b.main
  rw [Bundle.units, install]
  split
  · next ended =>
    rw [ended] at defining
    exact defining.ends none_ inOrder _
  · next handle i' t' defined =>
    rw [defined] at defining
    have fills := defining.fills
    have subs : i'.Ends script _ _ (i'.defineSubs t' script b.subs.entries).result :=
      (none_.fill fills).defineSubs_ends (fills.failing.trans inOrder)
    exact subs.cons defining none_ inOrder _

end NamedInstaller

/-! ### Anchors -/

namespace AnchorCache

variable {cache cache' : AnchorCache} {live : Anchor → Bool} {t t' : Target} {origin : String}
  {a : Anchor}

/-- A host with isolation has an anchor for every origin. -/
theorem exists_getOrCreate (cache : AnchorCache) (live : Anchor → Bool) (origin : String)
    (passes : .createAnchor ∉ t.failing) (isolation : t.host.isolation = true) :
    ∃ a t' cache', cache.getOrCreate live t origin = (.ok (a, t'), cache') := by
  simp only [getOrCreate]
  split
  · exact ⟨_, _, _, rfl⟩
  · simp only [Target.createAnchor, Target.pass, if_neg passes, Host.createAnchor, isolation]
    exact ⟨_, _, _, rfl⟩

/-- A host without isolation has none but those that were cached. -/
theorem getOrCreate_refused (live : Anchor → Bool) (origin : String)
    (isolation : t.host.isolation = false) :
    ∃ e, empty.getOrCreate live t origin = (.error e, empty) := by
  have nothing : empty.find? live origin = none := rfl
  have refused : ∃ e, t.createAnchor origin = .error e := by
    simp only [Target.createAnchor, Target.pass, Host.createAnchor, isolation]
    split <;> exact ⟨_, rfl⟩
  obtain ⟨e, refused⟩ := refused
  simp only [getOrCreate, nothing, refused]
  exact ⟨e, rfl⟩

/-- A request that is refused leaves no other anchors in the cache than there were. -/
theorem mem_of_getOrCreate_error {e : InstallError} {x : Anchor}
    (h : cache.getOrCreate live t origin = (.error e, cache')) (mem : x ∈ cache'.anchors) :
    x ∈ cache.anchors := by
  simp only [getOrCreate] at h
  split at h
  · cases h
  · split at h
    · cases h
      exact (List.mem_filter.mp mem).1
    · cases h

/-- What a request for an anchor does to the target: nothing, or it makes the anchor. -/
structure Obtains (cache : AnchorCache) (t : Target) (a : Anchor) (t' : Target)
    (cache' : AnchorCache) : Prop where
  target : t.Advances t'
  loaders : t.SameLoaders t'
  isolatedUnits : t'.host.isolatedUnits = t.host.isolatedUnits
  cached : a ∈ cache'.anchors
  known : (∀ x ∈ cache.anchors, (t.host.anchors.lookup x.id).isSome) →
    ∀ x ∈ cache'.anchors, (t'.host.anchors.lookup x.id).isSome

theorem getOrCreate_obtains (h : cache.getOrCreate live t origin = (.ok (a, t'), cache')) :
    cache.Obtains t a t' cache' := by
  simp only [getOrCreate] at h
  split at h
  · next found =>
    cases h
    refine ⟨.refl t, .refl t, rfl, List.mem_of_find?_eq_some found, fun known x mem => ?_⟩
    exact known x (List.mem_filter.mp mem).1
  · split at h
    · cases h
    · next id t₁ created =>
      cases h
      obtain ⟨advances, new⟩ := Target.createAnchor_advances created
      refine ⟨advances, Target.sameLoaders_createAnchor created, ?_, ?_, fun known x mem => ?_⟩
      · simp only [Target.createAnchor, Target.pass, Host.createAnchor] at created
        split at created
        · cases created
        · split at created
          · cases created
          · cases created
            rfl
      · exact List.mem_append_right _ List.mem_cons_self
      · rcases List.mem_append.mp mem with old | same
        · exact advances.anchors _ (known x (List.mem_filter.mp old).1)
        · rw [List.mem_singleton.mp same]
          exact new

end AnchorCache

/-! ### Either kind of installer -/

/-- Against an anchor that the host knows, a single unit can be defined if it has code. -/
theorem Anchor.install_eq_error {a : Anchor} {t : Target} {b : Bundle} {e : InstallError}
    (inOrder : t.failing = []) (isolation : t.host.isolation = true)
    (known : (t.host.anchors.lookup a.id).isSome) (single : b.isLinked = false) :
    a.install t b = .error e ↔ b.main.code = [] ∧ e = .rejected Host.anonymous "empty code" := by
  have found : (t.host.anchors.lookup a.id).isNone = false := by
    rw [← Option.not_isSome, known]
    rfl
  have passes : t.defineIsolated a.id b.main.code =
      (t.host.defineIsolated a.id b.main.code).map fun (x, host) => (x, { t with host }) := by
    rw [Target.defineIsolated, Target.pass, inOrder, if_neg List.not_mem_nil]
  simp only [install, single, passes, Host.defineIsolated, isolation, found, List.isEmpty_iff]
  by_cases empty : b.main.code = []
  · simp [empty, Except.map, eq_comm]
  · simp [empty, Except.map]

namespace Installer

variable {i : Installer} {n : NamedInstaller} {a : Anchor} {t : Target} {script : Nat}
  {verifier : Option Verifier} {b : Bundle} {e : InstallError}

/-- A bundle to which the verifier objects is not touched. -/
theorem install_rejected (i : Installer) (t : Target) (script : Nat)
    (rejected : verifier.bind b.malformed? = some e) :
    i.install t script verifier b = ⟨.error (.refused e), i, t⟩ := by
  simp only [install, rejected]

theorem install_named_result (accepted : verifier.bind b.malformed? = none) :
    (install (.named n) t script verifier b).result = (n.install t script b).result := by
  simp only [install, accepted]

theorem install_isolated_eq_refused (accepted : verifier.bind b.malformed? = none) :
    (install (.isolated a) t script verifier b).result = .error (.refused e) ↔
      a.install t b = .error e := by
  simp only [install, accepted]
  cases a.install t b <;> simp

/-- Nothing is counted in isolation. -/
theorem install_isolated_unbroken (a : Anchor) (t : Target) (script : Nat)
    (verifier : Option Verifier) (b : Bundle) (fault : Fault) :
    (install (.isolated a) t script verifier b).result ≠ .error (.broken fault) := by
  intro broken
  simp only [install] at broken
  split at broken
  · cases broken
  · split at broken <;> cases broken

/-- An installation is broken off only by a bundle for which the counts have no room. -/
theorem install_named_eq_broken {fault : Fault}
    (broken : (install (.named n) t script verifier b).result = .error (.broken fault)) :
    fault = .addOverflow ∧ ¬ n.RoomFor b.units := by
  simp only [install] at broken
  split at broken
  · cases broken
  · exact (n.install_reaches t script b).broken fault broken

theorem isVerification_of_malformed (rejected : verifier.bind b.malformed? = some e) :
    e.isVerification = true := by
  obtain ⟨v, -, found⟩ := Option.bind_eq_some_iff.mp rejected
  obtain ⟨u, -, complaint⟩ := List.exists_of_findSome?_eq_some found
  obtain ⟨reason, -, rfl⟩ := Option.map_eq_some_iff.mp complaint
  rfl

end Installer
end Scriptorium
