import Mathlib.Data.List.Nodup
import Scriptorium.Install.Target

/-! The books of a host. Whatever is asked of a host, with ids that it gave out or not, its tables
are what its answers say: a loader has one unit for each definition there that succeeded, all with
names of their own, no number is handed out twice, and a request succeeds exactly if the log of all
earlier answers has what it needs (`Host.serveAll_booked`). All that a request can do to a host is
told once (`Host.Serves`); a host that refuses stays as it is. -/

namespace Scriptorium

namespace Host

/-! ### Requests -/

/-- What can be asked of a host. The ids may be ones that it never gave out. -/
inductive Request where
  | createLoader
  | createAnchor (origin : String)
  | defineNamed (loader : LoaderId) (name : String) (code : Bytes)
  | defineIsolated (anchor : AnchorId) (code : Bytes)

inductive Answer where
  | loader (id : LoaderId)
  | anchor (id : AnchorId)
  | entry (entry : EntryPoint)
  | refused (e : InstallError)

/-- The number of what is handed out. -/
def Answer.number? : Answer → Option Nat
  | .loader id => some id.number
  | .anchor id => some id.number
  | .entry e => some e.number
  | .refused _ => none

/-- What was asked and what was answered, the last request first. -/
abbrev Log := List (Request × Answer)

/-- Hands out what a call made. If it failed, the host is left as it was. -/
def conclude {α : Type} (h : Host) (made : α → Answer) :
    Except InstallError (α × Host) → Answer × Host
  | .ok (a, h') => (made a, h')
  | .error e => (.refused e, h)

def serve (h : Host) : Request → Answer × Host
  | .createLoader => (.loader h.createLoader.1, h.createLoader.2)
  | .createAnchor origin => h.conclude .anchor (h.createAnchor origin)
  | .defineNamed loader name code => h.conclude .entry (h.defineNamed loader name code)
  | .defineIsolated anchor code => h.conclude .entry (h.defineIsolated anchor code)

/-- Serves one request after another with a new host. -/
def serveAll (isolation : Bool) (rs : List Request) : Log × Host :=
  rs.foldl (fun (log, h) r => ((r, (h.serve r).1) :: log, (h.serve r).2)) ([], .new isolation)

/-! ### What a log says -/

/-- All numbers that were handed out. -/
def Log.numbers (log : Log) : List Nat := log.filterMap (·.2.number?)

/-- The loader and the name of the unit that was defined. -/
def definition? : Request × Answer → Option (LoaderId × String)
  | (.defineNamed loader name _, .entry _) => some (loader, name)
  | _ => none

/-- The definitions by name that succeeded. -/
def Log.definitions (log : Log) : List (LoaderId × String) := log.filterMap definition?

/-- A unit was defined against an anchor. -/
def isIsolation : Request × Answer → Bool
  | (.defineIsolated _ _, .entry _) => true
  | _ => false

/-- The log has what a request needs: its loader or anchor was made, there is code, and the name is
new in the loader. -/
def Log.Allows (isolation : Bool) (log : Log) : Request → Prop
  | .createLoader => True
  | .createAnchor _ => isolation = true
  | .defineNamed loader name code =>
    (.createLoader, .loader loader) ∈ log ∧ code ≠ [] ∧ (loader, name) ∉ log.definitions
  | .defineIsolated anchor code =>
    (∃ origin, (.createAnchor origin, .anchor anchor) ∈ log) ∧ code ≠ []

/-- What a log says about its host, and about all that may be asked next. -/
structure Booked (isolation : Bool) (log : Log) (h : Host) : Prop where
  distinct : log.numbers.Nodup
  /-- Only what is handed out uses up a number. -/
  next : h.nextNumber = log.numbers.length + 1
  unitsIn : ∀ loader, h.unitsIn loader = log.definitions.countP (·.1 = loader)
  once : log.definitions.Nodup
  isolatedUnits : h.isolatedUnits = log.countP isIsolation
  succeeds : ∀ r, (h.serve r).1.number?.isSome ↔ log.Allows isolation r
  refused : ∀ r, (h.serve r).1.number? = none → (h.serve r).2 = h

variable {isolation : Bool} {log : Log} {h h' : Host} {r : Request} {a : Answer}

/-! ### One request -/

/-- What a request needs, as far as the tables tell. -/
def Admits (h : Host) : Request → Prop
  | .createLoader => True
  | .createAnchor _ => h.isolation = true
  | .defineNamed loader name code =>
    code ≠ [] ∧ ∃ names, h.names? loader = some names ∧ name ∉ names
  | .defineIsolated anchor code =>
    h.isolation = true ∧ (h.anchors.lookup anchor).isSome ∧ code ≠ []

/-- How a request is served. -/
inductive Serves (h : Host) : Request → Answer → Host → Prop
  | loader : Serves h .createLoader (.loader ⟨h.nextNumber⟩) h.createLoader.2
  | anchor {origin : String} : h.isolation = true → Serves h (.createAnchor origin)
      (.anchor ⟨h.nextNumber⟩) { h with nextNumber := h.nextNumber + 1
                                        anchors := h.anchors ++ [(⟨h.nextNumber⟩, origin)] }
  | named {loader name code names} {h' : Host} : code ≠ [] → h.names? loader = some names →
      name ∉ names → h'.isolation = h.isolation → h'.nextNumber = h.nextNumber + 1 →
      h'.anchors = h.anchors → h'.isolatedUnits = h.isolatedUnits →
      (∀ other, h'.names? other =
        if other = loader then (h.names? other).map (· ++ [name]) else h.names? other) →
      Serves h (.defineNamed loader name code) (.entry ⟨h.nextNumber⟩) h'
  | isolated {anchor code} : h.isolation = true → (h.anchors.lookup anchor).isSome → code ≠ [] →
      Serves h (.defineIsolated anchor code) (.entry ⟨h.nextNumber⟩)
        { h with nextNumber := h.nextNumber + 1, isolatedUnits := h.isolatedUnits + 1 }
  | refused {r e} : ¬ h.Admits r → Serves h r (.refused e) h

theorem serve_defineNamed (h : Host) (loader : LoaderId) (name : String) (code : Bytes) :
    let served := h.serve (.defineNamed loader name code)
    h.Serves (.defineNamed loader name code) served.1 served.2 := by
  simp only [serve]
  cases defined : h.defineNamed loader name code with
  | ok x =>
    obtain ⟨entry, h'⟩ := x
    obtain ⟨nonempty, ⟨names, known, fresh⟩, next, others⟩ := defineNamed_eq_ok defined
    rw [defineNamed, if_neg (by simpa using nonempty), known] at defined
    simp only [if_neg fresh] at defined
    cases defined
    exact .named nonempty known fresh rfl next rfl rfl others
  | error e =>
    refine .refused ?_
    rintro ⟨nonempty, names, known, fresh⟩
    obtain ⟨entry, h', made⟩ := exists_defineNamed nonempty known fresh
    cases defined.symm.trans made

theorem serve_defineIsolated (h : Host) (anchor : AnchorId) (code : Bytes) :
    let served := h.serve (.defineIsolated anchor code)
    h.Serves (.defineIsolated anchor code) served.1 served.2 := by
  simp only [serve, defineIsolated]
  split
  · next unavailable =>
    refine .refused fun admits => ?_
    rw [admits.1] at unavailable
    cases unavailable
  · next available =>
    split
    · next unknown =>
      refine .refused fun ⟨_, known, _⟩ => ?_
      rw [Option.isNone_iff_eq_none.mp unknown] at known
      cases known
    · next known =>
      split
      · next empty => exact .refused fun admits => admits.2.2 (List.isEmpty_iff.mp empty)
      · next nonempty =>
        exact .isolated (by simpa using available)
          (by simpa [Option.isSome_iff_ne_none] using known) (by simpa using nonempty)

theorem serve_serves (h : Host) (r : Request) : h.Serves r (h.serve r).1 (h.serve r).2 := by
  cases r with
  | createLoader => exact .loader
  | createAnchor origin =>
    simp only [serve, createAnchor]
    split
    · next unavailable =>
      refine .refused fun admits => ?_
      rw [show h.isolation = true from admits] at unavailable
      cases unavailable
    · next available => exact .anchor (by simpa using available)
  | defineNamed loader name code => exact serve_defineNamed h loader name code
  | defineIsolated anchor code => exact serve_defineIsolated h anchor code

theorem Serves.isSome_number? (serves : h.Serves r a h') : a.number?.isSome ↔ h.Admits r := by
  cases serves with
  | loader => exact ⟨fun _ => trivial, fun _ => rfl⟩
  | anchor available => exact ⟨fun _ => available, fun _ => rfl⟩
  | named nonempty known fresh => exact ⟨fun _ => ⟨nonempty, _, known, fresh⟩, fun _ => rfl⟩
  | isolated available known nonempty =>
    exact ⟨fun _ => ⟨available, known, nonempty⟩, fun _ => rfl⟩
  | refused barred => exact ⟨nofun, fun admits => absurd admits barred⟩

/-- What is handed out has the next number. -/
theorem Serves.number (serves : h.Serves r a h') :
    (a.number? = none ∧ h' = h) ∨
      (a.number? = some h.nextNumber ∧ h'.nextNumber = h.nextNumber + 1) := by
  cases serves with
  | loader | anchor | isolated => exact .inr ⟨rfl, rfl⟩
  | named _ _ _ _ next => exact .inr ⟨rfl, next⟩
  | refused => exact .inl ⟨rfl, rfl⟩

/-! ### The tables after each request -/

/-- Numbers are given out upwards, and no more than are handed out. -/
structure KeepsNumbers (log : Log) (h : Host) : Prop where
  descending : log.numbers.Pairwise (· > ·)
  below : ∀ n ∈ log.numbers, n < h.nextNumber
  next : h.nextNumber = log.numbers.length + 1

/-- The names of a loader that the log has definitions of, the first one first. -/
def Log.namesIn (loader : LoaderId) (log : Log) : List String :=
  ((log.definitions.filter (·.1 = loader)).map (·.2)).reverse

/-- The loaders are the ones that were made, with the units that were defined there. -/
structure KeepsLoaders (log : Log) (h : Host) : Prop where
  names : ∀ loader names, h.names? loader = some names ↔
    (.createLoader, .loader loader) ∈ log ∧ names = log.namesIn loader
  housed : ∀ d ∈ log.definitions, (.createLoader, .loader d.1) ∈ log
  once : log.definitions.Nodup

/-- The anchors are the ones that were made. -/
structure KeepsAnchors (isolation : Bool) (log : Log) (h : Host) : Prop where
  kind : h.isolation = isolation
  known : ∀ anchor, (h.anchors.lookup anchor).isSome ↔
    ∃ origin, (.createAnchor origin, .anchor anchor) ∈ log
  available : ∀ origin anchor, (.createAnchor origin, .anchor anchor) ∈ log → isolation = true

theorem mem_namesIn {loader : LoaderId} {name : String} :
    name ∈ log.namesIn loader ↔ (loader, name) ∈ log.definitions := by
  simp [Log.namesIn]

theorem namesIn_named {loader : LoaderId} {name : String} {code : Bytes} {entry : EntryPoint}
    (other : LoaderId) : Log.namesIn other ((.defineNamed loader name code, .entry entry) :: log) =
      if other = loader then log.namesIn other ++ [name] else log.namesIn other := by
  have more : Log.definitions ((.defineNamed loader name code, .entry entry) :: log) =
      (loader, name) :: log.definitions := rfl
  rw [Log.namesIn, more]
  by_cases same : other = loader
  · simp [same, Log.namesIn]
  · simp [same, Ne.symm same, Log.namesIn]

/-- Nothing that was handed out has the next number. -/
theorem KeepsNumbers.not_mem (keeps : KeepsNumbers log h) {r : Request} {a : Answer}
    (number : a.number? = some h.nextNumber) : (r, a) ∉ log := by
  intro mem
  exact Nat.lt_irrefl _ (keeps.below _ (List.mem_filterMap.mpr ⟨_, mem, number⟩))

theorem KeepsNumbers.step (keeps : KeepsNumbers log h) (serves : h.Serves r a h') :
    KeepsNumbers ((r, a) :: log) h' := by
  rcases serves.number with ⟨none_, rfl⟩ | ⟨number, next⟩
  · have same : Log.numbers ((r, a) :: log) = log.numbers := List.filterMap_cons_none none_
    exact ⟨same ▸ keeps.descending, same ▸ keeps.below, same ▸ keeps.next⟩
  · have more : Log.numbers ((r, a) :: log) = h.nextNumber :: log.numbers :=
      List.filterMap_cons_some number
    refine ⟨?_, ?_, ?_⟩
    · rw [more]
      exact List.pairwise_cons.mpr ⟨keeps.below, keeps.descending⟩
    · rw [more, next]
      exact List.forall_mem_cons.mpr
        ⟨Nat.lt_succ_self _, fun n mem => Nat.lt_succ_of_lt (keeps.below n mem)⟩
    · rw [more, next, List.length_cons, keeps.next]

/-- A request that makes neither a loader nor a unit in one. -/
theorem KeepsLoaders.aside (keeps : KeepsLoaders log h) {e : Request × Answer}
    (same : ∀ loader, h'.names? loader = h.names? loader) (noUnit : definition? e = none)
    (noLoader : ∀ loader, (.createLoader, .loader loader) ≠ e) : KeepsLoaders (e :: log) h' := by
  have definitions : Log.definitions (e :: log) = log.definitions :=
    List.filterMap_cons_none noUnit
  refine ⟨fun loader names => ?_, fun d mem => ?_, definitions ▸ keeps.once⟩
  · rw [same, keeps.names, List.mem_cons, or_iff_right (noLoader loader), Log.namesIn,
      Log.namesIn, definitions]
  · exact List.mem_cons_of_mem _ (keeps.housed d (definitions ▸ mem))

theorem KeepsLoaders.createLoader (keeps : KeepsLoaders log h) (numbers : KeepsNumbers log h) :
    KeepsLoaders ((.createLoader, .loader ⟨h.nextNumber⟩) :: log) h.createLoader.2 := by
  have new : (.createLoader, .loader ⟨h.nextNumber⟩) ∉ log := numbers.not_mem rfl
  have unused : h.names? ⟨h.nextNumber⟩ = none := by
    cases known : h.names? ⟨h.nextNumber⟩ with
    | none => rfl
    | some names => exact absurd ((keeps.names _ names).mp known).1 new
  -- a definition in this loader would have needed that it was there
  have empty : log.namesIn ⟨h.nextNumber⟩ = [] := by
    refine List.eq_nil_iff_forall_not_mem.mpr fun name mem => ?_
    exact new (keeps.housed _ (mem_namesIn.mp mem))
  refine ⟨fun loader names => ?_, fun d mem => List.mem_cons_of_mem _ (keeps.housed d mem),
    keeps.once⟩
  rw [names?_createLoader unused, List.mem_cons]
  by_cases same : loader = ⟨h.nextNumber⟩
  · subst same
    rw [if_pos rfl, Option.some_inj, eq_comm, ← empty]
    exact (and_iff_right (.inl rfl)).symm
  · have other : (Request.createLoader, Answer.loader loader) ≠ (.createLoader, .loader _) :=
      fun equal => same (Answer.loader.inj (Prod.mk.inj equal).2)
    rw [if_neg same, keeps.names, or_iff_right other]
    exact Iff.rfl

theorem KeepsLoaders.defineNamed (keeps : KeepsLoaders log h) {loader : LoaderId} {name : String}
    {code : Bytes} {entry : EntryPoint} {names : List String}
    (known : h.names? loader = some names) (fresh : name ∉ names)
    (others : ∀ other, h'.names? other =
      if other = loader then (h.names? other).map (· ++ [name]) else h.names? other) :
    KeepsLoaders ((.defineNamed loader name code, .entry entry) :: log) h' := by
  obtain ⟨made, rfl⟩ := (keeps.names loader names).mp known
  refine ⟨fun other names => ?_, ?_, ?_⟩
  · rw [others, namesIn_named, List.mem_cons, or_iff_right nofun]
    by_cases same : other = loader
    · subst same
      rw [if_pos rfl, if_pos rfl, known, Option.map_some, Option.some_inj, eq_comm]
      exact (and_iff_right made).symm
    · rw [if_neg same, if_neg same]
      exact keeps.names other names
  · refine List.forall_mem_cons.mpr ⟨List.mem_cons_of_mem _ made, fun d mem => ?_⟩
    exact List.mem_cons_of_mem _ (keeps.housed d mem)
  · exact List.nodup_cons.mpr ⟨fun defined => fresh (mem_namesIn.mpr defined), keeps.once⟩

theorem KeepsLoaders.step (keeps : KeepsLoaders log h) (numbers : KeepsNumbers log h)
    (serves : h.Serves r a h') : KeepsLoaders ((r, a) :: log) h' := by
  cases serves with
  | loader => exact keeps.createLoader numbers
  | named _ known fresh _ _ _ _ others => exact keeps.defineNamed known fresh others
  | anchor | isolated => exact keeps.aside (fun _ => rfl) rfl nofun
  | @refused r e => exact keeps.aside (fun _ => rfl) (by cases r <;> rfl) nofun

/-- A request that makes no anchor. -/
theorem KeepsAnchors.aside (keeps : KeepsAnchors isolation log h) {e : Request × Answer}
    (kind : h'.isolation = h.isolation) (anchors : h'.anchors = h.anchors)
    (noAnchor : ∀ origin anchor, (.createAnchor origin, .anchor anchor) ≠ e) :
    KeepsAnchors isolation (e :: log) h' := by
  have mem_iff : ∀ origin anchor, (.createAnchor origin, .anchor anchor) ∈ e :: log ↔
      (.createAnchor origin, .anchor anchor) ∈ log := fun origin anchor => by
    rw [List.mem_cons, or_iff_right (noAnchor origin anchor)]
  refine ⟨kind.trans keeps.kind, fun anchor => ?_, fun origin anchor mem => ?_⟩
  · simp only [anchors, mem_iff]
    exact keeps.known anchor
  · exact keeps.available origin anchor ((mem_iff origin anchor).mp mem)

theorem KeepsAnchors.createAnchor (keeps : KeepsAnchors isolation log h) {origin : String}
    {anchor : AnchorId} (available : h.isolation = true) (kind : h'.isolation = h.isolation)
    (anchors : h'.anchors = h.anchors ++ [(anchor, origin)]) :
    KeepsAnchors isolation ((.createAnchor origin, .anchor anchor) :: log) h' := by
  refine ⟨kind.trans keeps.kind, fun other => ?_, fun _ _ _ => keeps.kind.symm.trans available⟩
  rw [anchors, List.lookup_append, Option.isSome_or, Bool.or_eq_true, keeps.known]
  constructor
  · rintro (⟨origin', mem⟩ | new)
    · exact ⟨origin', List.mem_cons_of_mem _ mem⟩
    · have same : other = anchor := by simpa using new
      exact ⟨origin, same ▸ List.mem_cons_self⟩
  · rintro ⟨origin', mem⟩
    rcases List.mem_cons.mp mem with new | mem
    · cases new
      exact .inr (by simp)
    · exact .inl ⟨origin', mem⟩

theorem KeepsAnchors.step (keeps : KeepsAnchors isolation log h) (serves : h.Serves r a h') :
    KeepsAnchors isolation ((r, a) :: log) h' := by
  cases serves with
  | anchor available => exact keeps.createAnchor available rfl rfl
  | named _ _ _ kind _ anchors => exact keeps.aside kind anchors nofun
  | loader | isolated | refused => exact keeps.aside rfl rfl nofun

theorem Serves.isolatedUnits (serves : h.Serves r a h') :
    h'.isolatedUnits = h.isolatedUnits + if isIsolation (r, a) then 1 else 0 := by
  cases serves with
  | named _ _ _ _ _ _ same => exact same
  | loader | anchor | isolated => rfl
  | @refused r e => cases r <;> rfl

/-! ### All requests -/

/-- The tables are what the log says. -/
structure Books (isolation : Bool) (log : Log) (h : Host) : Prop where
  numbers : KeepsNumbers log h
  loaders : KeepsLoaders log h
  anchors : KeepsAnchors isolation log h
  isolatedUnits : h.isolatedUnits = log.countP isIsolation

theorem books_new (isolation : Bool) : Books isolation [] (.new isolation) where
  numbers := ⟨.nil, fun _ mem => absurd mem List.not_mem_nil, rfl⟩
  loaders := ⟨fun _ _ => ⟨nofun, fun known => absurd known.1 List.not_mem_nil⟩,
    fun _ mem => absurd mem List.not_mem_nil, .nil⟩
  anchors := ⟨rfl, fun _ => ⟨nofun, fun ⟨_, mem⟩ => absurd mem List.not_mem_nil⟩,
    fun _ _ mem => absurd mem List.not_mem_nil⟩
  isolatedUnits := rfl

theorem Books.step (books : Books isolation log h) (serves : h.Serves r a h') :
    Books isolation ((r, a) :: log) h' where
  numbers := books.numbers.step serves
  loaders := books.loaders.step books.numbers serves
  anchors := books.anchors.step serves
  isolatedUnits := by rw [serves.isolatedUnits, books.isolatedUnits, List.countP_cons]

/-- The tables admit what the log allows. -/
theorem Books.admits_iff (books : Books isolation log h) (r : Request) :
    h.Admits r ↔ log.Allows isolation r := by
  cases r with
  | createLoader => exact Iff.rfl
  | createAnchor origin => rw [Admits, Log.Allows, books.anchors.kind]
  | defineNamed loader name code =>
    constructor
    · rintro ⟨nonempty, names, known, fresh⟩
      obtain ⟨made, rfl⟩ := (books.loaders.names loader names).mp known
      exact ⟨made, nonempty, fun defined => fresh (mem_namesIn.mpr defined)⟩
    · rintro ⟨made, nonempty, fresh⟩
      exact ⟨nonempty, _, (books.loaders.names loader _).mpr ⟨made, rfl⟩,
        fun defined => fresh (mem_namesIn.mp defined)⟩
  | defineIsolated anchor code =>
    constructor
    · rintro ⟨-, known, nonempty⟩
      exact ⟨(books.anchors.known anchor).mp known, nonempty⟩
    · rintro ⟨⟨origin, made⟩, nonempty⟩
      exact ⟨books.anchors.kind.trans (books.anchors.available origin anchor made),
        (books.anchors.known anchor).mpr ⟨origin, made⟩, nonempty⟩

theorem KeepsLoaders.unitsIn (keeps : KeepsLoaders log h) (loader : LoaderId) :
    h.unitsIn loader = log.definitions.countP (·.1 = loader) := by
  rw [Host.unitsIn]
  cases known : h.names? loader with
  | some names =>
    obtain ⟨-, rfl⟩ := (keeps.names loader names).mp known
    rw [Option.getD_some, Log.namesIn, List.length_reverse, List.length_map,
      List.countP_eq_length_filter]
  | none =>
    refine (List.countP_eq_zero.mpr fun d mem same => ?_).symm
    have there := (keeps.names d.1 _).mpr ⟨keeps.housed d mem, rfl⟩
    rw [of_decide_eq_true same, known] at there
    cases there

theorem Books.booked (books : Books isolation log h) : Booked isolation log h where
  distinct := books.numbers.descending.imp Nat.ne_of_gt
  next := books.numbers.next
  unitsIn := books.loaders.unitsIn
  once := books.loaders.once
  isolatedUnits := books.isolatedUnits
  succeeds := fun r => (serve_serves h r).isSome_number?.trans (books.admits_iff r)
  refused := fun r none_ => by
    rcases (serve_serves h r).number with ⟨-, same⟩ | ⟨number, -⟩
    · exact same
    · cases none_.symm.trans number

theorem serveAll_books (isolation : Bool) (rs : List Request) :
    Books isolation (serveAll isolation rs).1 (serveAll isolation rs).2 :=
  List.foldlRecOn (motive := fun (w : Log × Host) => Books isolation w.1 w.2) rs _
    (books_new isolation) fun (_, h) books r _ => books.step (serve_serves h r)

/-- Whatever is asked of a host, its tables are what its answers say. -/
theorem serveAll_booked (isolation : Bool) (rs : List Request) :
    Booked isolation (serveAll isolation rs).1 (serveAll isolation rs).2 :=
  (serveAll_books isolation rs).booked

/-- Refusals take no numbers, and a name is not defined twice. -/
example : (serveAll false [.createAnchor "a", .createLoader, .defineNamed ⟨1⟩ "m" [0],
    .defineNamed ⟨1⟩ "m" [0], .createLoader]).1.map (·.2.number?) =
      [some 3, none, some 2, some 1, none] := by decide

end Host
end Scriptorium
