import Scriptorium.Proofs.Context.Attempt

/-! Rotation of loaders. The last loader is used again unless it was given up or is worn out. Then
it holds the units of earlier attempts that succeeded and nothing else, and a loader that is no
longer the last one is never used again (`Context.Rotates`). What carries the proof is that the kept
installer, if there is one, is that of the last attempt and counts what its loader holds
(`Context.Rotating`). -/

namespace Scriptorium

namespace Attempt

/-- The attempts that succeeded in a loader, the first one first. -/
def filling (loader : LoaderId) : List Attempt → List Attempt
  | [] => []
  | a :: older => filling loader older ++ if a.loader = loader ∧ a.succeeded then [a] else []

def unitsIn (loader : LoaderId) (as : List Attempt) : List CodeUnit :=
  (filling loader as).flatMap (·.bundle.units)

def namesIn (loader : LoaderId) (as : List Attempt) : List String :=
  (filling loader as).flatMap fun a => NamedInstaller.namesOf a.script a.bundle.units

/-- Whether units wear a loader out. -/
def isWorn (limits : ReuseLimits) (us : List CodeUnit) : Bool :=
  limits.maxUses ≤ us.length || limits.maxBytes ≤ codeSize us

/-- Whether the last attempt kept its loader but left it worn out. -/
def leavesWorn (limits : ReuseLimits) : List Attempt → Bool
  | [] => false
  | a :: older => a.keeps && isWorn limits (unitsIn a.loader (a :: older))

/-- The number of attempts that replaced a loader which was kept but worn out. -/
def rotations (limits : ReuseLimits) : List Attempt → Nat
  | [] => 0
  | _ :: older => rotations limits older + if leavesWorn limits older then 1 else 0

/-- The loader was once given up, or replaced by another one. -/
inductive Retired (loader : LoaderId) : List Attempt → Prop
  | discarded {a : Attempt} {older} : a.loader = loader → a.keeps = false →
      Retired loader (a :: older)
  | replaced {a b : Attempt} {older} : a.loader ≠ loader → b ∈ older → b.loader = loader →
      Retired loader (a :: older)
  | before {a : Attempt} {older} : Retired loader older → Retired loader (a :: older)

variable {a : Attempt} {as older : List Attempt} {loader : LoaderId}

theorem Retired.mem (h : Retired loader as) : ∃ a ∈ as, a.loader = loader := by
  induction h with
  | discarded same => exact ⟨_, List.mem_cons_self, same⟩
  | replaced _ mem same => exact ⟨_, List.mem_cons_of_mem _ mem, same⟩
  | before _ ih =>
    obtain ⟨a, mem, same⟩ := ih
    exact ⟨a, List.mem_cons_of_mem _ mem, same⟩

theorem filling_eq_nil (h : ∀ a ∈ as, a.loader ≠ loader) : filling loader as = [] := by
  induction as with
  | nil => rfl
  | cons a older ih =>
    obtain ⟨ne, others⟩ := List.forall_mem_cons.mp h
    rw [filling, ih others, if_neg fun both => ne both.1]
    rfl

theorem filling_cons (h : a.succeeded) :
    filling a.loader (a :: older) = filling a.loader older ++ [a] := by
  rw [filling, if_pos ⟨rfl, h⟩]

theorem filling_cons_of_failed (h : a.succeeded = false) :
    filling loader (a :: older) = filling loader older := by
  rw [filling, if_neg fun both => by simp [h] at both, List.append_nil]

end Attempt

open Attempt

theorem Config.positive_of_valid {config : Config} (valid : config.invalid? = none) :
    0 < config.installer.maxUses ∧ 0 < config.installer.maxBytes := by
  simp only [Config.invalid?] at valid
  split at valid
  · cases valid
  · split at valid
    · cases valid
    · exact ⟨by omega, by omega⟩

/-- What an installer counted is what the attempts put into its loader. -/
structure NamedInstaller.Counts (i : NamedInstaller) (t : Target) (as : List Attempt) : Prop where
  uses : i.uses.toNat = (unitsIn i.loader as).length
  bytes : i.bytes.toNat = codeSize (unitsIn i.loader as)
  names : t.host.names? i.loader = some (namesIn i.loader as)

namespace NamedInstaller

variable {i i' : NamedInstaller} {t : Target} {a : Attempt} {as : List Attempt}
  {defined : List CodeUnit}

theorem Counts.isExhausted_eq (h : i.Counts t as) :
    i.isExhausted = isWorn i.limits (unitsIn i.loader as) := by
  rw [isExhausted, isWorn, h.uses, h.bytes]

/-- An installer with a loader that no attempt has used has nothing to count. -/
theorem counts_new (uses : i.uses = 0) (bytes : i.bytes = 0)
    (names : t.host.names? i.loader = some []) (unused : ∀ a ∈ as, a.loader ≠ i.loader) :
    i.Counts t as := by
  have nothing := filling_eq_nil unused
  refine ⟨?_, ?_, ?_⟩
  · rw [uses, unitsIn, nothing]; rfl
  · rw [bytes, unitsIn, nothing]; rfl
  · rw [names, namesIn, nothing]; rfl

/-- An attempt that keeps its loader is counted: it succeeded, or it defined nothing. -/
theorem Counts.attempted (h : a.installer.Counts a.start as)
    (defines : a.progress.Defines a.script a.bundle a.installer a.start i' defined)
    (keeps : a.keeps) : i'.Counts a.progress.target (a :: as) := by
  have fills := defines.fills
  have tallies : Tallies defined a.installer i' := defines.counted fun s failed => by
    rwa [Attempt.keeps, failed] at keeps
  have names := (fills.names a.loader).trans (if_pos rfl)
  rw [Attempt.loader, h.names, Option.map_some] at names
  have filled :
      filling a.loader (a :: as) = filling a.loader as ++ [a] ∧ defined = a.bundle.units ∨
        filling a.loader (a :: as) = filling a.loader as ∧ defined = [] := by
    cases result : a.progress.result with
    | ok installed =>
      have succeeded : a.succeeded := by rw [Attempt.succeeded, result]; rfl
      exact .inl ⟨filling_cons succeeded, defines.complete succeeded⟩
    | error e =>
      have failed : a.succeeded = false := by rw [Attempt.succeeded, result]; rfl
      rw [Attempt.keeps, result] at keeps
      exact .inr ⟨filling_cons_of_failed failed, defines.unverified e result keeps⟩
  have units : unitsIn a.loader (a :: as) = unitsIn a.loader as ++ defined := by
    rcases filled with ⟨filled, rfl⟩ | ⟨filled, rfl⟩ <;> simp [unitsIn, filled]
  have names' : namesIn a.loader (a :: as) = namesIn a.loader as ++ namesOf a.script defined := by
    rcases filled with ⟨filled, rfl⟩ | ⟨filled, rfl⟩ <;> simp [namesIn, namesOf, filled]
  refine ⟨?_, ?_, ?_⟩
  · rw [fills.loader, tallies.uses, h.uses, ← List.length_append]
    exact congrArg List.length units.symm
  · rw [fills.loader, tallies.bytes, h.bytes, ← codeSize_append]
    exact congrArg codeSize units.symm
  · rw [fills.loader, names]
    exact congrArg some names'.symm

end NamedInstaller

namespace Context

variable {c c' d : Context} {as : List Attempt} {a : Attempt} {i : NamedInstaller}
  {log : List Event}

/-! ### The kept installer -/

/-- The kept installer is the one of the last attempt and knows what is in its loader. -/
structure Current (c : Context) (as : List Attempt) (i : NamedInstaller) : Prop where
  limits : i.limits = c.config.installer.limits
  counts : i.Counts c.target as
  unretired : ¬ Retired i.loader as
  last : ∃ a older, as = a :: older ∧ a.loader = i.loader ∧ a.keeps

/-- What attempts leave behind in a context. -/
structure Rotating (c : Context) (as : List Attempt) : Prop where
  local_ : c.target.Local
  known : ∀ a ∈ as, ∃ names, c.target.host.names? a.loader = some names
  rotations : c.stats.rotations = rotations c.config.installer.limits as
  current : ∀ i, c.named = some i → c.Current as i
  kept : ∀ a older, as = a :: older → a.keeps → ∃ i, c.named = some i

/-- Others may use the target as long as they leave the loaders of attempts alone. -/
theorem Rotating.of_eq (h : c.Rotating as) (config : c'.config = c.config)
    (named : c'.named = c.named) (rotations : c'.stats.rotations = c.stats.rotations)
    (local_ : c'.target.Local)
    (names : ∀ a ∈ as, c'.target.host.names? a.loader = c.target.host.names? a.loader) :
    c'.Rotating as := by
  refine ⟨local_, fun a mem => ?_, ?_, fun i same => ?_, fun a older same keeps => ?_⟩
  · rw [names a mem]
    exact h.known a mem
  · rw [rotations, config, h.rotations]
  · obtain ⟨limits, counts, unretired, a, older, rfl, loader, keeps⟩ := h.current i (named ▸ same)
    refine ⟨config ▸ limits, ⟨counts.uses, counts.bytes, ?_⟩, unretired, a, older, rfl, loader,
      keeps⟩
    rw [← loader, names a List.mem_cons_self, loader]
    exact counts.names
  · rw [named]
    exact h.kept a older same keeps

theorem Rotating.sameLoaders (h : c.Rotating as) (same : c.SameLoaders c') : c'.Rotating as :=
  h.of_eq same.config same.named same.rotations (same.local_ h.local_)
    fun a _ => same.target.names a.loader

/-- Whether the kept installer is worn out is told by the last attempt. -/
theorem Rotating.worn_eq (h : c.Rotating as) :
    c.named.any (·.isExhausted) = leavesWorn c.config.installer.limits as := by
  cases named : c.named with
  | some i =>
    obtain ⟨limits, counts, -, a, older, rfl, loader, keeps⟩ := h.current i named
    rw [Option.any_some, counts.isExhausted_eq, leavesWorn, keeps, limits, loader, Bool.true_and]
  | none =>
    cases as with
    | nil => rfl
    | cons a older =>
      cases keeps : a.keeps with
      | true =>
        obtain ⟨i, same⟩ := h.kept a older rfl keeps
        cases named.symm.trans same
      | false => rw [leavesWorn, keeps]; rfl

/-! ### Attempts -/

/-- A loader that was taken is current: it is not retired, and its content is known. -/
theorem Rotating.takes (h : c.Rotating as) (takes : c.Takes i d) :
    i.limits = c.config.installer.limits ∧ i.Counts d.target as ∧ ¬ Retired i.loader as := by
  rcases takes.origin with ⟨reused, names⟩ | ⟨-, unknown, names, uses, bytes, limits⟩
  · obtain ⟨limits, counts, unretired, -⟩ := h.current i (Option.filter_eq_some_iff.mp reused).1
    exact ⟨limits, ⟨counts.uses, counts.bytes, names.trans counts.names⟩, unretired⟩
  · have unused : ∀ a ∈ as, a.loader ≠ i.loader := by
      intro a mem same
      obtain ⟨names, known⟩ := h.known a mem
      rw [same, unknown] at known
      cases known
    refine ⟨limits, NamedInstaller.counts_new uses bytes names unused, fun retired => ?_⟩
    obtain ⟨a, mem, same⟩ := retired.mem
    exact unused a mem same

/-- What becomes of loaders in an attempt. -/
theorem Rotating.names (h : c.Rotating as) (makes : c.Makes a d) :
    ∃ defined, defined <+: a.bundle.units ∧ (a.succeeded → defined = a.bundle.units) ∧
      a.progress.target.host.names? a.loader =
        some (namesIn a.loader as ++ NamedInstaller.namesOf a.script defined) ∧
      ∀ other, other ≠ a.loader →
        a.progress.target.host.names? other = c.target.host.names? other := by
  obtain ⟨-, counts, -⟩ := h.takes makes.takes
  obtain ⟨i', defined, defines⟩ := makes.defines
  have names := defines.fills.names
  rw [makes.start] at names
  refine ⟨defined, defines.first, defines.complete, ?_, fun other ne => ?_⟩
  · refine (names a.loader).trans ((if_pos rfl).trans ?_)
    rw [Attempt.loader, counts.names]
    rfl
  · exact (names other).trans ((if_neg ne).trans (makes.takes.elsewhere other ne))

/-- An attempt is the last one once it is settled. -/
theorem Rotating.attempted (h : c.Rotating as) (makes : c.Makes a d) :
    (d.settle a.progress a.bundle).Rotating (a :: as) := by
  have takes := makes.takes
  obtain ⟨limits, counts, unretired⟩ := h.takes takes
  rw [← makes.start] at counts
  obtain ⟨i', defined, defines⟩ := makes.defines
  obtain ⟨config, target, rotated, named⟩ := settle_named (c := d) defines.installer a.bundle
  obtain ⟨_, -, -, own, elsewhere⟩ := h.names makes
  have loader : i'.loader = a.loader := defines.fills.loader
  -- The installer is put back exactly if the attempt keeps its loader.
  have settled : (d.settle a.progress a.bundle).named = if a.keeps then some i' else none := by
    rw [named, takes.named, Attempt.keeps]
    cases a.progress.result with
    | ok installed => rfl
    | error e => rfl
  refine ⟨target ▸ makes.local_, List.forall_mem_cons.mpr ⟨?_, fun x mem => ?_⟩, ?_,
    fun j same => ?_, fun x older same keeps => ?_⟩
  · rw [target]
    exact ⟨_, own⟩
  · rw [target]
    by_cases same : x.loader = a.loader
    · rw [same]
      exact ⟨_, own⟩
    · rw [elsewhere x.loader same]
      exact h.known x mem
  · rw [rotated, takes.rotations, h.rotations, h.worn_eq, config, takes.config, Attempt.rotations]
  · rw [settled] at same
    split at same
    · next keeps =>
      cases same
      refine ⟨?_, ?_, fun retired => ?_, a, as, rfl, loader.symm, keeps⟩
      · rw [defines.fills.limits, limits, config, takes.config]
      · rw [target]
        exact counts.attempted defines keeps
      · rw [loader] at retired
        cases retired with
        | discarded _ gone => rw [keeps] at gone; cases gone
        | replaced ne => exact ne rfl
        | before retired => exact unretired retired
    · cases same
  · cases same
    exact ⟨i', by rw [settled, if_pos keeps]⟩

/-! ### Runs -/

/-- Others who share the target leave the loaders of all attempts alone. -/
def Spares (log : List Event) (before after : Target) : Prop :=
  after.Local ∧
    ∀ a ∈ attempts log, after.host.names? a.loader = before.host.names? a.loader

theorem attempts_compiled (log : List Event) (c : Context) (call : Call) :
    attempts (.compiled c call :: log) = (c.attempt? call).toList ++ attempts log := by
  rw [attempts, List.filterMap_cons, Event.attempt?]
  cases c.attempt? call <;> rfl

theorem Rotating.answer (h : c.Rotating as) (call : Call) :
    (c.answer call).context.Rotating ((c.attempt? call).toList ++ as) := by
  rcases answer_cases h.local_ call with ⟨none_, same⟩ | ⟨a, d, made, makes, after, -⟩
  · rw [none_]
    exact h.sameLoaders same
  · rw [made]
    exact (h.attempted makes).sameLoaders after

theorem History.rotating (h : History Spares log c) : c.Rotating (attempts log) := by
  induction h with
  | new spares made =>
    have isNew := (new_eq_ok made).1
    refine ⟨?_, fun a mem => absurd mem List.not_mem_nil, ?_, fun i same => ?_,
      fun a older same => absurd same.symm (List.cons_ne_nil a older)⟩
    · rw [isNew.target]
      exact spares.1
    · rw [isNew.stats]
      rfl
    · cases isNew.named.symm.trans same
  | @compiled log c call _ ih =>
    rw [attempts_compiled]
    exact ih.answer call
  | cleared _ ih => exact ih.sameLoaders (sameLoaders_of_eq rfl rfl rfl rfl)
  | aside _ ih => exact ih.sameLoaders (sameLoaders_of_eq rfl rfl rfl rfl)
  | shared _ spares ih => exact ih.of_eq rfl rfl rfl spares.1 spares.2

/-- How an attempt goes about its loader, after the attempts before it. -/
structure Rotates (c : Context) (older : List Attempt) (a : Attempt) (r : Compiled) : Prop where
  /-- The compile ends the way its attempt does. -/
  concludes : Concludes a.progress.result r.outcome
  /-- Just before the first definition the loader holds what earlier attempts put there. -/
  holds : a.start.host.names? a.loader = some (namesIn a.loader older)
  uses : (unitsIn a.loader older).length < c.config.installer.maxUses
  bytes : codeSize (unitsIn a.loader older) < c.config.installer.maxBytes
  /-- What is defined are the first units of the bundle. -/
  defines : ∃ defined, defined <+: a.bundle.units ∧ (a.succeeded → defined = a.bundle.units) ∧
    r.context.target.host.names? a.loader =
      some (namesIn a.loader older ++ NamedInstaller.namesOf a.script defined)
  elsewhere : ∀ other, other ≠ a.loader →
    r.context.target.host.names? other = c.target.host.names? other
  handles : ∀ installed, a.progress.result = .ok installed → installed.LivesIn a.loader
  /-- The loader of the attempt before is used again exactly if it was kept and is not worn out. -/
  again : c.config.compile.loaderPerCompile = false → ∀ last rest, older = last :: rest →
    (a.loader = last.loader ↔
      last.keeps ∧ isWorn c.config.installer.limits (unitsIn last.loader older) = false)
  /-- Any other loader is a new one. -/
  fresh : (∀ last rest, older = last :: rest → a.loader ≠ last.loader) →
    c.target.host.names? a.loader = none
  perCompile : c.config.compile.loaderPerCompile →
    c.target.host.names? a.loader = none ∧ ∀ b ∈ older, b.loader ≠ a.loader
  unretired : ¬ Retired a.loader older

theorem reusable?_eq_some : c.reusable? = some i ↔
    c.named = some i ∧ i.isExhausted = false ∧ c.config.compile.loaderPerCompile = false := by
  rw [reusable?, Option.filter_eq_some_iff, Bool.and_eq_true, Bool.not_eq_true',
    Bool.not_eq_true']

/-- An installer that was taken is not worn out. -/
theorem Takes.unworn (takes : c.Takes i d) (valid : c.config.invalid? = none) :
    i.isExhausted = false := by
  obtain ⟨positiveUses, positiveBytes⟩ := Config.positive_of_valid valid
  rcases takes.origin with ⟨reused, -⟩ | ⟨-, -, -, uses, bytes, limits⟩
  · exact (reusable?_eq_some.mp reused).2.1
  · rw [NamedInstaller.isExhausted, uses, bytes, limits]
    simp [InstallSettings.limits, Nat.ne_of_gt positiveUses, Nat.ne_of_gt positiveBytes]

/-- The last loader is taken again, or else one that was not there before. -/
theorem Rotating.origin (h : c.Rotating as) (takes : c.Takes i d) :
    (∃ last rest, as = last :: rest ∧ i.loader = last.loader ∧ last.keeps ∧
      c.config.compile.loaderPerCompile = false) ∨
    (c.reusable? = none ∧ c.target.host.names? i.loader = none ∧
      ∀ b ∈ as, b.loader ≠ i.loader) := by
  rcases takes.origin with ⟨reused, -⟩ | ⟨none_, unknown, -⟩
  · obtain ⟨named, -, shared⟩ := reusable?_eq_some.mp reused
    obtain ⟨-, -, -, last, rest, rfl, loader, keeps⟩ := h.current i named
    exact .inl ⟨last, rest, rfl, loader.symm, keeps, shared⟩
  · refine .inr ⟨none_, unknown, fun b mem same => ?_⟩
    obtain ⟨names, known⟩ := h.known b mem
    rw [same, unknown] at known
    cases known

theorem Rotating.again (h : c.Rotating as) (takes : c.Takes i d)
    (valid : c.config.invalid? = none) (shared : c.config.compile.loaderPerCompile = false)
    {last : Attempt} {rest : List Attempt} (same : as = last :: rest) :
    i.loader = last.loader ↔
      last.keeps ∧ isWorn c.config.installer.limits (unitsIn last.loader as) = false := by
  obtain ⟨limits, counts, -⟩ := h.takes takes
  have unworn := takes.unworn valid
  rw [counts.isExhausted_eq, limits] at unworn
  subst same
  rcases h.origin takes with ⟨_, _, same, loader, keeps, -⟩ | ⟨none_, -, unused⟩
  · cases same
    rw [loader] at unworn ⊢
    exact ⟨fun _ => ⟨keeps, unworn⟩, fun _ => rfl⟩
  · refine ⟨fun loader => absurd loader.symm (unused last List.mem_cons_self),
      fun ⟨keeps, worn⟩ => ?_⟩
    -- A loader that was kept and is not worn out would have been taken.
    obtain ⟨j, named⟩ := h.kept last rest rfl keeps
    obtain ⟨limits', counts', -, _, _, same, loader, -⟩ := h.current j named
    cases same
    rw [loader, ← limits', ← counts'.isExhausted_eq] at worn
    cases none_.symm.trans (reusable?_eq_some.mpr ⟨named, worn, shared⟩)

/-- An attempt goes about its loader as it should. -/
theorem Rotating.rotates_of_makes (h : c.Rotating as) (valid : c.config.invalid? = none)
    (makes : c.Makes a d) {r : Compiled}
    (after : (d.settle a.progress a.bundle).SameLoaders r.context)
    (concludes : Concludes a.progress.result r.outcome) : c.Rotates as a r := by
  have takes := makes.takes
  obtain ⟨limits, counts, unretired⟩ := h.takes takes
  obtain ⟨i', _, defines⟩ := makes.defines
  obtain ⟨-, target, -⟩ := settle_named (c := d) defines.installer a.bundle
  obtain ⟨defined, first, complete, own, elsewhere⟩ := h.names makes
  have names := after.target.names
  rw [target] at names
  have unworn := takes.unworn valid
  rw [counts.isExhausted_eq, limits, isWorn, Bool.or_eq_false_iff, decide_eq_false_iff_not,
    decide_eq_false_iff_not, Nat.not_le, Nat.not_le] at unworn
  have origin := h.origin takes
  exact {
    concludes
    holds := makes.start ▸ counts.names
    uses := unworn.1
    bytes := unworn.2
    defines := ⟨defined, first, complete, (names a.loader).trans own⟩
    elsewhere := fun other ne => (names other).trans (elsewhere other ne)
    handles := defines.handles
    again := fun shared _ _ same => h.again takes valid shared same
    fresh := fun others => by
      rcases origin with ⟨last, rest, same, loader, -⟩ | ⟨-, unknown, -⟩
      · exact absurd loader (others last rest same)
      · exact unknown
    perCompile := fun own => by
      rcases origin with ⟨_, _, -, -, -, shared⟩ | ⟨-, fresh⟩
      · cases own.symm.trans shared
      · exact fresh
    unretired }

/-- Loaders are rotated in every run: what the attempts so far say of the next one and of the count
of rotations. A compile that makes no attempt leaves all loaders alone. -/
theorem History.rotates (h : History Spares log c) (valid : c.config.invalid? = none)
    (call : Call) :
    c.stats.rotations = rotations c.config.installer.limits (attempts log) ∧
      (c.attempt? call = none → ∀ loader,
        (c.answer call).context.target.host.names? loader = c.target.host.names? loader) ∧
      ∀ a, c.attempt? call = some a → c.Rotates (attempts log) a (c.answer call) := by
  have rotating := h.rotating
  refine ⟨rotating.rotations, ?_⟩
  rcases answer_cases rotating.local_ call with
    ⟨none_, same⟩ | ⟨a, d, made, makes, after, concludes⟩
  · exact ⟨fun _ loader => same.target.names loader, fun a made => by cases none_.symm.trans made⟩
  · refine ⟨fun none_ => absurd (none_.symm.trans made) nofun, fun a' made' => ?_⟩
    cases made.symm.trans made'
    exact rotating.rotates_of_makes valid makes after concludes

/-- With loaders that take a single unit, the third attempt comes after one rotation. -/
theorem History.rotates_single :
    let generator : Generator := fun _ _ => ⟨[], some ⟨⟨"main", [1]⟩, ∅, []⟩⟩
    let call := fun name : String => (⟨generator, [], .empty, .empty, .ofString name "x"⟩ : Call)
    ∃ (c : Context) (log : List Event) (a : Attempt), History Spares log c ∧
      c.config.invalid? = none ∧ (attempts log).length = 2 ∧
      rotations c.config.installer.limits (attempts log) = 1 ∧
      c.attempt? (call "c") = some a ∧ c.Rotates (attempts log) a (c.answer (call "c")) := by
  intro generator call
  let config : Config := { installer := { maxUses := 1 } }
  let second := fun x : Context × FileTree => (x.1.answer (call "a")).context
  let third := fun x : Context × FileTree => ((second x).answer (call "b")).context
  let log := fun x : Context × FileTree =>
    [Event.compiled (second x) (call "b"), .compiled x.1 (call "a")]
  have checks : (Context.new config "1" (.ofHost (.new false)) none .empty).toOption.any fun x =>
      (attempts (log x)).length == 2 && ((third x).attempt? (call "c")).isSome &&
        (third x).stats.rotations == 1 := by
    decide +kernel
  obtain ⟨x, made, checks⟩ := (Option.any_eq_true _ _).mp checks
  simp only [Bool.and_eq_true, beq_iff_eq] at checks
  obtain ⟨⟨two, attempted⟩, one⟩ := checks
  obtain ⟨a, attempt⟩ := Option.isSome_iff_exists.mp attempted
  have new := eq_ok_of_toOption made
  have spares : Spares [] (.ofHost (.new false)) (.ofHost (.new false)) :=
    ⟨Target.local_ofHost_new false, fun _ mem => absurd mem List.not_mem_nil⟩
  have history : History Spares (log x) (third x) :=
    .compiled (call "b") (.compiled (call "a") (.new spares new))
  have setup := (answer_setup x.1 (call "a")).trans (answer_setup (second x) (call "b"))
  have config_ : (third x).config = config := setup.config.trans (new_eq_ok new).1.setup.1
  have valid : (third x).config.invalid? = none := by
    rw [config_]
    decide
  obtain ⟨counted, -, rotates⟩ := history.rotates valid (call "c")
  exact ⟨third x, log x, a, history, valid, two, counted.symm.trans one, attempt,
    rotates a attempt⟩

end Context
end Scriptorium
