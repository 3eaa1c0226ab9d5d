import Scriptorium.Install.Installer

/-! What installations put into loaders. However far an installation by name comes, it defines the
first units of its bundle in one loader and leaves all other loaders alone
(`NamedInstaller.Fills`). As long as it has room in its counts the installer counts each unit that
it defines (`NamedInstaller.Tallies`); the first one for which it has none is defined and breaks the
installation off. A verifier that objects does so before anything is defined. -/

namespace Scriptorium

/-- Octets of code in units. -/
def codeSize : List CodeUnit → Nat
  | [] => 0
  | u :: us => u.code.length + codeSize us

theorem codeSize_append (us us' : List CodeUnit) :
    codeSize (us ++ us') = codeSize us + codeSize us' := by
  induction us with
  | nil => exact (Nat.zero_add _).symm
  | cons u us ih => rw [List.cons_append, codeSize, codeSize, ih, Nat.add_assoc]

/-- Every loader has a number that was given out. -/
def Host.Numbered (h : Host) : Prop :=
  ∀ loader names, h.names? loader = some names → loader.number < h.nextNumber

/-- All units that the handles stand for are in one loader. -/
def Installed.LivesIn (i : Installed) (loader : LoaderId) : Prop :=
  i.entry.owner = .loader loader ∧ ∀ e ∈ i.subs.entries, e.2.handle.owner = .loader loader

def InstallError.isVerification : InstallError → Bool
  | .verification _ _ => true
  | _ => false

/-- A verifier objected, so that nothing was defined. -/
def Setback.isVerification : Setback → Bool
  | .refused e => e.isVerification
  | .broken _ => false

theorem Target.defineNamed_error {t : Target} {loader : LoaderId} {name : String} {code : Bytes}
    {e : InstallError} (h : t.defineNamed loader name code = .error e) :
    e.isVerification = false := by
  simp only [defineNamed, pass] at h
  split at h
  · cases h; rfl
  · simp only [Host.defineNamed] at h
    split at h
    · cases h; rfl
    · split at h
      · cases h; rfl
      · split at h
        · cases h; rfl
        · cases h

namespace NamedInstaller

variable {i i' j : NamedInstaller} {t t' w : Target} {script : Nat} {us us' : List CodeUnit}
  {u : CodeUnit} {subs : List (UInt32 × SubUnit)}

/-- The names that units of a script have in a loader. -/
def namesOf (script : Nat) (us : List CodeUnit) : List String :=
  us.map fun u => qualified u.name script

/-- Exactly these units were defined. -/
structure Fills (script : Nat) (us : List CodeUnit) (i : NamedInstaller) (t : Target)
    (i' : NamedInstaller) (t' : Target) : Prop where
  loader : i'.loader = i.loader
  limits : i'.limits = i.limits
  failing : t'.failing = t.failing
  next : t.host.nextNumber ≤ t'.host.nextNumber
  names : ∀ other, t'.host.names? other = if other = i.loader then
    (t.host.names? other).map (· ++ namesOf script us) else t.host.names? other

theorem Fills.nil (script : Nat) (i : NamedInstaller) (t : Target) : Fills script [] i t i t := by
  refine ⟨rfl, rfl, rfl, Nat.le_refl _, fun other => ?_⟩
  split
  · simp [namesOf]
  · rfl

theorem Fills.append (h : Fills script us i t j w) (h' : Fills script us' j w i' t') :
    Fills script (us ++ us') i t i' t' := by
  refine ⟨h'.loader.trans h.loader, h'.limits.trans h.limits, h'.failing.trans h.failing,
    Nat.le_trans h.next h'.next, fun other => ?_⟩
  rw [h'.names, h.names, h.loader]
  split
  · rw [Option.map_map, namesOf, namesOf, namesOf, List.map_append]
    congr 1
    funext names
    exact List.append_assoc ..
  · rfl

theorem Fills.numbered (h : Fills script us i t i' t') (numbered : t.host.Numbered) :
    t'.host.Numbered := by
  intro other names known
  rw [h.names] at known
  refine Nat.lt_of_lt_of_le ?_ h.next
  split at known
  · obtain ⟨before, known, -⟩ := Option.map_eq_some_iff.mp known
    exact numbered other before known
  · exact numbered other names known

/-! ### Counts -/

/-- The counts of the installer have room for these units. -/
structure RoomFor (i : NamedInstaller) (us : List CodeUnit) : Prop where
  uses : i.uses.toNat + us.length < UInt32.size
  bytes : i.bytes.toNat + codeSize us < UInt64.size

/-- The installer counted exactly these units. -/
structure Tallies (us : List CodeUnit) (i i' : NamedInstaller) : Prop where
  uses : i'.uses.toNat = i.uses.toNat + us.length
  bytes : i'.bytes.toNat = i.bytes.toNat + codeSize us

theorem RoomFor.nil (i : NamedInstaller) : i.RoomFor [] := ⟨i.uses.toNat_lt, i.bytes.toNat_lt⟩

theorem Tallies.nil (i : NamedInstaller) : Tallies [] i i := ⟨rfl, rfl⟩

theorem Tallies.append (h : Tallies us i j) (h' : Tallies us' j i') : Tallies (us ++ us') i i' := by
  refine ⟨?_, ?_⟩
  · rw [h'.uses, h.uses, List.length_append, Nat.add_assoc]
  · rw [h'.bytes, h.bytes, codeSize_append, Nat.add_assoc]

/-- Once units are counted there is room for those that there was room for behind them. -/
theorem Tallies.roomFor (h : Tallies us i j) : j.RoomFor us' ↔ i.RoomFor (us ++ us') := by
  constructor <;> rintro ⟨uses, bytes⟩ <;> refine ⟨?_, ?_⟩
  · rwa [List.length_append, ← Nat.add_assoc, ← h.uses]
  · rwa [codeSize_append, ← Nat.add_assoc, ← h.bytes]
  · rwa [h.uses, Nat.add_assoc, ← List.length_append]
  · rwa [h.bytes, Nat.add_assoc, ← codeSize_append]

/-- Where there is room for units there is room for the first ones of them. -/
theorem RoomFor.of_first (h : i.RoomFor us') (first : us <+: us') : i.RoomFor us := by
  obtain ⟨rest, rfl⟩ := first
  obtain ⟨uses, bytes⟩ := h
  rw [List.length_append] at uses
  rw [codeSize_append] at bytes
  exact ⟨by omega, by omega⟩

/-- A unit is counted exactly if there is room for it. -/
theorem count_cases (i : NamedInstaller) (u : CodeUnit) :
    (¬ i.RoomFor [u] ∧ ∃ i', i.count u = (.error .addOverflow, i') ∧ i'.loader = i.loader ∧
      i'.limits = i.limits) ∨
    (i.RoomFor [u] ∧ ∃ i', i.count u = (.ok (), i') ∧ i'.loader = i.loader ∧
      i'.limits = i.limits ∧ Tallies [u] i i') := by
  by_cases uses : i.uses.toNat + 1 < UInt32.size
  · by_cases bytes : i.bytes.toNat + u.code.length < UInt64.size
    · refine .inr ⟨⟨uses, bytes⟩, _, (if_pos uses).trans (if_pos bytes), rfl, rfl, ?_, ?_⟩
      · exact (UInt32.toNat_add i.uses 1).trans (Nat.mod_eq_of_lt uses)
      · have size : (UInt64.ofNat u.code.length).toNat = u.code.length :=
          UInt64.toNat_ofNat_of_lt (Nat.lt_of_le_of_lt (Nat.le_add_left ..) bytes)
        refine (UInt64.toNat_add i.bytes _).trans ?_
        rw [size]
        exact Nat.mod_eq_of_lt bytes
    · exact .inl ⟨fun room => bytes room.bytes, _, (if_pos uses).trans (if_neg bytes), rfl, rfl⟩
  · exact .inl ⟨fun room => uses room.uses, _, if_neg uses, rfl, rfl⟩

/-- The last number of units that can be counted; the next unit is not. -/
example (loader : LoaderId) (limits : ReuseLimits) :
    let i : NamedInstaller := ⟨loader, 4294967295, 0, limits⟩
    i.count ⟨"f", [1]⟩ = (.error .addOverflow, i) := rfl

/-! ### One unit -/

/-- How the definition of a unit goes: the target refuses it, or it is defined; then the installer
counts it, or is broken off if it has no room for that. -/
inductive Defining (i : NamedInstaller) (t : Target) (script : Nat) (u : CodeUnit) :
    Progress Handle → Prop
  | refused {e : InstallError} :
      t.defineNamed i.loader (qualified u.name script) u.code = .error e →
      Defining i t script u ⟨.error (.refused e), i, t⟩
  | uncounted {entry : EntryPoint} {i' : NamedInstaller} {t' : Target} :
      t.defineNamed i.loader (qualified u.name script) u.code = .ok (entry, t') →
      ¬ i.RoomFor [u] → Fills script [u] i t i' t' →
      Defining i t script u ⟨.error (.broken .addOverflow), i', t'⟩
  | counted {entry : EntryPoint} {i' : NamedInstaller} {t' : Target} :
      t.defineNamed i.loader (qualified u.name script) u.code = .ok (entry, t') →
      i.RoomFor [u] → Fills script [u] i t i' t' → Tallies [u] i i' →
      Defining i t script u
        ⟨.ok ⟨qualified u.name script, entry, u.digest, .loader i.loader⟩, i', t'⟩

theorem Defining.fills {handle : Handle} (h : Defining i t script u ⟨.ok handle, i', t'⟩) :
    Fills script [u] i t i' t' := by
  cases h
  assumption

/-- A unit that the target takes is one that its host takes. -/
theorem defineNamed_eq_ok {entry : EntryPoint}
    (h : t.defineNamed i.loader (qualified u.name script) u.code = .ok (entry, t')) :
    t'.failing = t.failing ∧
      t.host.defineNamed i.loader (qualified u.name script) u.code = .ok (entry, t'.host) := by
  simp only [Target.defineNamed, Target.pass] at h
  split at h
  · cases h
  · cases defined : t.host.defineNamed i.loader (qualified u.name script) u.code with
    | error e => rw [defined] at h; cases h
    | ok x => rw [defined] at h; cases h; exact ⟨rfl, rfl⟩

theorem fills_of_defineNamed {entry : EntryPoint}
    (h : t.defineNamed i.loader (qualified u.name script) u.code = .ok (entry, t'))
    (loader : i'.loader = i.loader) (limits : i'.limits = i.limits) :
    Fills script [u] i t i' t' := by
  obtain ⟨failing, defined⟩ := defineNamed_eq_ok h
  obtain ⟨-, -, next, names⟩ := Host.defineNamed_eq_ok defined
  exact ⟨loader, limits, failing, Nat.le_of_lt (next ▸ Nat.lt_succ_self _), names⟩

theorem defining_define (i : NamedInstaller) (t : Target) (script : Nat) (u : CodeUnit) :
    Defining i t script u (i.define t script u) := by
  rw [define]
  split
  · next refused => exact .refused refused
  · next defined =>
    rcases i.count_cases u with ⟨full, i', counts, loader, limits⟩ |
      ⟨room, i', counts, loader, limits, tallies⟩
    · rw [counts]
      exact .uncounted defined full (fills_of_defineNamed defined loader limits)
    · rw [counts]
      dsimp only
      rw [loader]
      exact .counted defined room (fills_of_defineNamed defined loader limits) tallies

/-! ### All units of a bundle -/

/-- How far the definition of some units came: all of them were defined and counted, or those up to
the one at which it ended. -/
structure Reaches {α : Type} (script : Nat) (us : List CodeUnit) (i : NamedInstaller) (t : Target)
    (p : Progress α) (Complete : α → Prop) : Prop where
  fills : ∃ defined, defined <+: us ∧ Fills script defined i t p.installer p.target ∧
    (p.result.isOk → defined = us)
  counted : p.result.isOk → Tallies us i p.installer
  complete : ∀ a, p.result = .ok a → Complete a
  unverified : ∀ s, p.result = .error s → s.isVerification = false
  broken : ∀ fault, p.result = .error (.broken fault) → fault = .addOverflow ∧ ¬ i.RoomFor us

variable {α β : Type} {p : Progress α} {Complete : α → Prop} {Complete' : β → Prop}

/-- The first unit is as far as it came. -/
theorem Defining.reaches_error {s : Setback} (us : List CodeUnit)
    (h : Defining i t script u ⟨.error s, i', t'⟩) :
    Reaches script (u :: us) i t ⟨.error s, i', t'⟩ Complete := by
  have failed : ∀ {s : Setback}, ¬ (.error s : Except Setback α).isOk := nofun
  cases h with
  | refused refused =>
    refine ⟨⟨[], List.nil_prefix, Fills.nil script i t, fun ok => absurd ok failed⟩,
      fun ok => absurd ok failed, nofun, fun s same => ?_, nofun⟩
    cases same
    exact Target.defineNamed_error refused
  | uncounted _ full fills =>
    refine ⟨⟨[u], List.prefix_append [u] us, fills, fun ok => absurd ok failed⟩,
      fun ok => absurd ok failed, nofun, fun s same => ?_, fun fault same => ?_⟩
    · cases same
      rfl
    · cases same
      exact ⟨rfl, fun room => full (room.of_first (List.prefix_append [u] us))⟩

theorem Reaches.cons (h : Reaches script us i' t' p Complete) (fills : Fills script [u] i t i' t')
    (tallies : Tallies [u] i i') : Reaches script (u :: us) i t p Complete := by
  obtain ⟨defined, before, rest, all⟩ := h.fills
  refine ⟨⟨u :: defined, List.cons_prefix_cons.mpr ⟨rfl, before⟩, fills.append rest,
    fun ok => congrArg _ (all ok)⟩, fun ok => tallies.append (h.counted ok), h.complete,
    h.unverified, fun fault same => ?_⟩
  obtain ⟨overflow, full⟩ := h.broken fault same
  exact ⟨overflow, fun room => full (tallies.roomFor.mpr room)⟩

theorem Reaches.map (h : Reaches script us i t p Complete) (f : α → β)
    (maps : ∀ a, Complete a → Complete' (f a)) :
    Reaches script us i t ⟨p.result.map f, p.installer, p.target⟩ Complete' := by
  obtain ⟨result, installer, target⟩ := p
  cases result with
  | error s =>
    refine ⟨h.fills, h.counted, by simp [Except.map], fun s' same => ?_, fun fault same => ?_⟩
    · cases same
      exact h.unverified s rfl
    · cases same
      exact h.broken fault rfl
  | ok a =>
    refine ⟨h.fills, h.counted, fun b same => ?_, by simp [Except.map], by simp [Except.map]⟩
    cases same
    exact maps a (h.complete a rfl)

theorem defineSubs_reaches (i : NamedInstaller) (t : Target) (script : Nat)
    (subs : List (UInt32 × SubUnit)) :
    Reaches script (subs.map (·.2.unit)) i t (i.defineSubs t script subs)
      fun es => ∀ e ∈ es, e.2.handle.owner = .loader i.loader := by
  induction subs generalizing i t with
  | nil =>
    refine ⟨⟨[], List.prefix_rfl, Fills.nil script i t, fun _ => rfl⟩, fun _ => .nil i,
      fun es done => ?_, nofun, nofun⟩
    cases done
    exact fun _ mem => absurd mem List.not_mem_nil
  | cons e rest ih =>
    obtain ⟨id, sub⟩ := e
    have defining := i.defining_define t script sub.unit
    rw [defineSubs]
    split
    · next ended =>
      rw [ended] at defining
      exact defining.reaches_error _
    · next handle i' t' defined =>
      rw [defined] at defining
      cases defining with | counted _ _ fills tallies => ?_
      refine ((ih i' t').cons fills tallies).map _ fun es owners => ?_
      rw [fills.loader] at owners
      exact List.forall_mem_cons.mpr ⟨rfl, owners⟩

theorem install_reaches (i : NamedInstaller) (t : Target) (script : Nat) (b : Bundle) :
    Reaches script b.units i t (i.install t script b) (·.LivesIn i.loader) := by
  have defining := i.defining_define t script b.main
  rw [install]
  split
  · next ended =>
    rw [ended] at defining
    exact defining.reaches_error _
  · next entry i' t' defined =>
    rw [defined] at defining
    cases defining with | counted _ _ fills tallies => ?_
    have subs := (defineSubs_reaches i' t' script b.subs.entries).cons fills tallies
    refine subs.map _ fun es owners => ?_
    rw [fills.loader] at owners
    exact ⟨rfl, fun e mem => owners e (IdMap.mem_of_mem_ofList mem)⟩

end NamedInstaller

/-! ### Either kind of installer -/

/-- No name was added to any loader, and no loader to the target. -/
structure Target.SameLoaders (t t' : Target) : Prop where
  failing : t'.failing = t.failing
  next : t.host.nextNumber ≤ t'.host.nextNumber
  names : ∀ loader, t'.host.names? loader = t.host.names? loader

namespace Target

variable {t t' : Target}

theorem SameLoaders.refl (t : Target) : t.SameLoaders t := ⟨rfl, Nat.le_refl _, fun _ => rfl⟩

theorem SameLoaders.trans {w : Target} (h : t.SameLoaders w) (h' : w.SameLoaders t') :
    t.SameLoaders t' :=
  ⟨h'.failing.trans h.failing, Nat.le_trans h.next h'.next,
    fun loader => (h'.names loader).trans (h.names loader)⟩

theorem SameLoaders.numbered (h : t.SameLoaders t') (numbered : t.host.Numbered) :
    t'.host.Numbered := fun loader names known =>
  Nat.lt_of_lt_of_le (numbered loader names (h.names loader ▸ known)) h.next

theorem SameLoaders.unitsIn (h : t.SameLoaders t') (loader : LoaderId) :
    t'.host.unitsIn loader = t.host.unitsIn loader := by
  rw [Host.unitsIn, Host.unitsIn, h.names]

theorem sameLoaders_createAnchor {origin : String} {id : AnchorId}
    (h : t.createAnchor origin = .ok (id, t')) : t.SameLoaders t' := by
  simp only [createAnchor, pass, Host.createAnchor] at h
  split at h
  · cases h
  · split at h
    · cases h
    · cases h
      exact ⟨rfl, Nat.le_succ _, fun _ => rfl⟩

theorem sameLoaders_defineIsolated {anchor : AnchorId} {code : Bytes} {entry : EntryPoint}
    (h : t.defineIsolated anchor code = .ok (entry, t')) : t.SameLoaders t' := by
  simp only [defineIsolated, pass, Host.defineIsolated] at h
  split at h
  · cases h
  · split at h
    · cases h
    · split at h
      · cases h
      · split at h
        · cases h
        · cases h
          exact ⟨rfl, Nat.le_succ _, fun _ => rfl⟩

end Target

namespace Installer

/-- What an installation by name did: it defined the first units of its bundle, all of them if it
succeeded, and none if the verifier objected; in either case the installer counted them. -/
structure Progress.Defines (script : Nat) (b : Bundle) (i : NamedInstaller) (t : Target)
    (p : Progress) (i' : NamedInstaller) (defined : List CodeUnit) : Prop where
  installer : p.installer = .named i'
  first : defined <+: b.units
  fills : NamedInstaller.Fills script defined i t i' p.target
  complete : p.result.isOk → defined = b.units
  handles : ∀ installed, p.result = .ok installed → installed.LivesIn i.loader
  unverified : ∀ s, p.result = .error s → s.isVerification → defined = []
  counted : (∀ s, p.result = .error s → s.isVerification) → NamedInstaller.Tallies defined i i'

theorem install_defines (i : NamedInstaller) (t : Target) (script : Nat)
    (verifier : Option Verifier) (b : Bundle) : ∃ i' defined,
      Progress.Defines script b i t (install (.named i) t script verifier b) i' defined := by
  simp only [install]
  split
  · exact ⟨i, [], rfl, List.nil_prefix, .nil script i t, by simp [Except.isOk, Except.toBool],
      by simp, fun _ _ _ => rfl, fun _ => .nil i⟩
  · obtain ⟨⟨defined, first, fills, complete⟩, counted, handles, refused, -⟩ :=
      i.install_reaches t script b
    refine ⟨_, defined, rfl, first, fills, complete, handles, fun s failed unverified => ?_,
      fun keeps => ?_⟩
    · rw [refused s failed] at unverified
      cases unverified
    · dsimp only at keeps
      cases result : (i.install t script b).result with
      | error s => cases (refused s result).symm.trans (keeps s result)
      | ok installed =>
        rw [result] at counted complete
        rw [complete rfl]
        exact counted rfl

theorem sameLoaders_install (a : Anchor) (t : Target) (script : Nat) (verifier : Option Verifier)
    (b : Bundle) : t.SameLoaders (install (.isolated a) t script verifier b).target ∧
      (install (.isolated a) t script verifier b).installer = .isolated a := by
  simp only [install]
  split
  · exact ⟨.refl t, rfl⟩
  · split
    · exact ⟨.refl t, rfl⟩
    · next installed t' installs =>
      refine ⟨?_, rfl⟩
      simp only [Anchor.install] at installs
      split at installs
      · cases installs
      · split at installs
        · cases installs
        · next defined =>
          cases installs
          exact Target.sameLoaders_defineIsolated defined

end Installer
end Scriptorium
