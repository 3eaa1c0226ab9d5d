import Scriptorium.Proofs.Install.Filling

/-! What comes of installing a bundle by name. The handles that a successful installation gives out
agree with the units one by one (`Installed.Holds`). A loader serves a script if it has names of
earlier scripts only (`NamedInstaller.Serves`): whatever an installation defines there, it serves
the next script. -/

namespace Scriptorium

theorem IdMap.entries_ofList {α : Type} {es : List (UInt32 × α)} (h : es.Pairwise (·.1 < ·.1)) :
    (ofList es).entries = es :=
  congrArg entries (ofList_entries ⟨es, h⟩)

/-- The handles stand for the units of the bundle. -/
structure Installed.Holds (i : Installed) (b : Bundle) : Prop where
  entry : i.entry.digest = b.main.digest
  subs : i.subs.entries.map (fun e => (e.1, e.2.handle.digest, e.2.callable)) =
    b.subs.entries.map fun e => (e.1, e.2.unit.digest, e.2.callable)

/-- No unit is isolated. -/
def Installed.ByName (i : Installed) : Prop :=
  i.entry.isIsolated = false ∧ ∀ e ∈ i.subs.entries, e.2.handle.isIsolated = false

/-! ### Names in a loader -/

private theorem eq_of_append_cons {c : Char} {as as' ds ds' : List Char} (h : c ∉ ds) (h' : c ∉ ds')
    (same : as ++ c :: ds = as' ++ c :: ds') : as = as' ∧ ds = ds' := by
  rcases List.append_eq_append_iff.mp same with ⟨xs, rfl, rest⟩ | ⟨xs, rfl, rest⟩
  · cases xs with
    | nil => exact ⟨(List.append_nil as).symm, (List.cons.inj rest).2⟩
    | cons x xs =>
      obtain ⟨-, rfl⟩ := List.cons.inj rest
      exact absurd (List.mem_append_right xs List.mem_cons_self) h
  · cases xs with
    | nil => exact ⟨List.append_nil as', (List.cons.inj rest).2.symm⟩
    | cons x xs =>
      obtain ⟨-, rfl⟩ := List.cons.inj rest
      exact absurd (List.mem_append_right xs List.mem_cons_self) h'

/-- The name of a unit in a loader tells both the unit's own name and the script. -/
theorem NamedInstaller.qualified_injective {name name' : String} {script script' : Nat}
    (h : qualified name script = qualified name' script') : name = name' ∧ script = script' := by
  have digits : ∀ n : Nat, '$' ∉ (toString n).toList := by
    intro n mem
    have digit := Nat.isDigit_of_mem_toDigits (by decide) (by decide) (Nat.toList_repr ▸ mem)
    exact absurd digit (by decide)
  have chars : ∀ (name : String) (script : Nat), (qualified name script).toList =
      name.toList ++ '$' :: (toString script).toList := by
    intro name script
    simp only [qualified, String.toList_append, List.append_assoc]
    rfl
  have same := congrArg String.toList h
  rw [chars, chars] at same
  obtain ⟨names, numbers⟩ := eq_of_append_cons (digits _) (digits _) same
  refine ⟨String.toList_inj.mp names, ?_⟩
  have values := congrArg (Nat.ofDigitChars 10 · 0) (numbers :)
  simpa [Nat.ofDigitChars_ten_toDigits] using values

namespace NamedInstaller

variable {i i' : NamedInstaller} {t t' : Target} {script : Nat} {names : List String}
  {subs : List (UInt32 × SubUnit)}

/-! ### All units of a bundle -/

theorem defineSubs_eq_ok {es : List (UInt32 × InstalledSub)}
    (h : (i.defineSubs t script subs).result = .ok es) :
    es.map (fun e => (e.1, e.2.handle.digest, e.2.callable)) =
        subs.map (fun e => (e.1, e.2.unit.digest, e.2.callable)) ∧
      ∀ e ∈ es, e.2.handle.isIsolated = false := by
  induction subs generalizing i t es with
  | nil => cases h; exact ⟨rfl, fun _ mem => absurd mem List.not_mem_nil⟩
  | cons e rest ih =>
    obtain ⟨id, sub⟩ := e
    simp only [defineSubs] at h
    split at h
    · cases h
    · next handle i' t' defined =>
      have defining := i.defining_define t script sub.unit
      rw [defined] at defining
      cases defining
      cases result : (i'.defineSubs t' script rest).result with
      | error e => rw [result] at h; cases h
      | ok es' =>
        rw [result] at h
        cases h
        obtain ⟨same, byName⟩ := ih result
        refine ⟨?_, List.forall_mem_cons.mpr ⟨rfl, byName⟩⟩
        rw [List.map_cons, List.map_cons, same]

theorem install_eq_ok {b : Bundle} {installed : Installed}
    (h : (i.install t script b).result = .ok installed) : installed.Holds b ∧ installed.ByName := by
  simp only [install] at h
  split at h
  · cases h
  · next entry i' t' defined =>
    have defining := i.defining_define t script b.main
    rw [defined] at defining
    cases defining
    cases result : (i'.defineSubs t' script b.subs.entries).result with
    | error e => rw [result] at h; cases h
    | ok es =>
      rw [result] at h
      cases h
      obtain ⟨same, byName⟩ := defineSubs_eq_ok result
      -- The handles come in the order of the nested units, whose ids ascend.
      have ids : es.map (·.1) = b.subs.entries.map (·.1) := by
        have firsts := congrArg (List.map (·.1)) same
        rwa [List.map_map, List.map_map] at firsts
      have ascending : es.Pairwise (·.1 < ·.1) := by
        have pairwise := List.pairwise_map.mpr b.subs.ascending
        rw [← ids] at pairwise
        exact List.pairwise_map.mp pairwise
      have entries := IdMap.entries_ofList ascending
      exact ⟨⟨rfl, by rw [entries, same]⟩, rfl, by rwa [entries]⟩

/-! ### Loaders from one script to the next -/

/-- The loader has names of earlier scripts only. -/
def Serves (i : NamedInstaller) (t : Target) (next : Nat) : Prop :=
  ∃ names, t.host.names? i.loader = some names ∧
    ∀ x ∈ names, ∃ name script, x = qualified name script ∧ script < next

/-- The names in the loader once units were defined in it. -/
theorem Fills.names?_eq {defined : List CodeUnit} (fills : Fills script defined i t i' t')
    (known : t.host.names? i.loader = some names) :
    t'.host.names? i'.loader = some (names ++ namesOf script defined) := by
  rw [fills.loader, fills.names, if_pos rfl, known]
  rfl

theorem Serves.fill {defined : List CodeUnit} (h : i.Serves t script)
    (fills : Fills script defined i t i' t') : i'.Serves t' (script + 1) := by
  obtain ⟨names, known, earlier⟩ := h
  refine ⟨names ++ namesOf script defined, fills.names?_eq known, fun x mem => ?_⟩
  rcases List.mem_append.mp mem with mem | mem
  · obtain ⟨name, before, rfl, lt⟩ := earlier x mem
    exact ⟨name, before, rfl, Nat.lt_succ_of_lt lt⟩
  · obtain ⟨u, -, rfl⟩ := List.mem_map.mp mem
    exact ⟨u.name, script, rfl, Nat.lt_succ_self script⟩

/-- A new installer gets a loader that there was not before. It has no names, and all others have
theirs still. -/
theorem new_opens (inOrder : t.failing = []) (numbered : t.host.Numbered) (limits : ReuseLimits) :
    let loader : LoaderId := ⟨t.host.nextNumber⟩
    ∃ t', NamedInstaller.new t limits = .ok (⟨loader, 0, 0, limits⟩, t') ∧
      t'.failing = [] ∧ t'.host.Numbered ∧ t.host.names? loader = none ∧
      ∀ other, t'.host.names? other = if other = loader then some [] else t.host.names? other := by
  intro loader
  have unused : t.host.names? loader = none := by
    cases known : t.host.names? loader with
    | none => rfl
    | some names => exact absurd (numbered _ _ known) (Nat.lt_irrefl _)
  have opened := Host.names?_createLoader unused
  refine ⟨{ t with host := t.host.createLoader.2 }, ?_, inOrder, fun other names known => ?_,
    unused, opened⟩
  · rw [NamedInstaller.new, Target.createLoader, Target.pass, inOrder, if_neg List.not_mem_nil]
    rfl
  · rw [opened] at known
    split at known
    · next same => rw [same]; exact Nat.lt_succ_self _
    · exact Nat.lt_succ_of_lt (numbered other names known)

/-- A new installer has a loader of its own, with no names. -/
theorem new_eq_ok (inOrder : t.failing = []) (numbered : t.host.Numbered) (limits : ReuseLimits) :
    ∃ i t', NamedInstaller.new t limits = .ok (i, t') ∧ i.limits = limits ∧ t'.failing = [] ∧
      t'.host.Numbered ∧ ∀ next, i.Serves t' next := by
  obtain ⟨t', made, inOrder', numbered', -, names⟩ := new_opens inOrder numbered limits
  exact ⟨_, t', made, rfl, inOrder', numbered',
    fun next => ⟨[], by rw [names, if_pos rfl], fun _ mem => absurd mem List.not_mem_nil⟩⟩

end NamedInstaller

/-! ### Either kind of installer -/

theorem Anchor.install_eq_ok {a : Anchor} {t t' : Target} {b : Bundle} {installed : Installed}
    (h : a.install t b = .ok (installed, t')) : installed.Holds b := by
  rw [install] at h
  split at h
  · cases h
  · next single =>
    split at h
    · cases h
    · cases h
      refine ⟨rfl, ?_⟩
      have none_ : b.subs.entries = [] := by
        simpa [Bundle.isLinked, IdMap.isEmpty] using single
      rw [none_]
      rfl

theorem Installer.install_eq_ok {i : Installer} {t : Target} {script : Nat}
    {verifier : Option Verifier} {b : Bundle} {installed : Installed}
    (h : (i.install t script verifier b).result = .ok installed) : installed.Holds b := by
  simp only [install] at h
  split at h
  · cases h
  · split at h
    · exact (NamedInstaller.install_eq_ok h).1
    · split at h
      · cases h
      · next single =>
        cases h
        exact Anchor.install_eq_ok single

end Scriptorium
