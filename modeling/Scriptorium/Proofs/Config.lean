import Mathlib.Data.List.Induction
import Scriptorium.Config.Reader

/-! What a document says of a configuration. As long as every setting that is given is of the right
type and range, the configuration has what is given and the defaults for the rest, whatever else
stands in the document. -/

namespace Scriptorium
namespace Config

/-! ### What is given -/

/-- The value of a key: the last one if there are several. -/
def valueOf (key : String) (t : Toml.Table) : Option Toml.Value := t.reverse.lookup key

def natural? (bound : Nat) : Toml.Value → Option Nat
  | .int n => if 0 ≤ n ∧ n < bound then some n.toNat else none
  | _ => none

def size? : Toml.Value → Option Nat := natural? UInt64.size

def count? : Toml.Value → Option Nat := natural? UInt32.size

def flag? : Toml.Value → Option Bool
  | .bool b => some b
  | _ => none

def path? : Toml.Value → Option String
  | .str s => some s
  | _ => none

def modeNamed? : String → Option IsolationMode
  | "auto" => some .auto
  | "always" => some .always
  | "never" => some .never
  | _ => none

/-- A mode is given by its name, which may also be the key of a table that says nothing more. -/
def mode? : Toml.Value → Option IsolationMode
  | .str name | .table [(name, .table [])] | .table [(name, .array [])]
  | .table [(name, .tables [])] => modeNamed? name
  | _ => none

def entries? : Toml.Value → Option Toml.Table
  | .table entries => some entries
  | _ => none

/-- What a table gives for a key. -/
def given (read : Toml.Value → Option α) (key : String) (entries : Toml.Table) : Option α :=
  (valueOf key entries).bind read

def cacheGiven (entries : Toml.Table) : CacheSettings where
  memoryCapacity := (given size? "memory_capacity" entries).getD 50
  persistent := (given flag? "persistent" entries).getD false
  directory := (given path? "directory" entries).getD ".kiln-cache"
  minPersistSize := (given size? "min_persist_size" entries).getD 1000

def compileGiven (entries : Toml.Table) : CompileSettings where
  lazy := (given flag? "lazy" entries).getD true
  optimisticTypes := (given flag? "optimistic_types" entries).getD false
  strict := (given flag? "strict" entries).getD false
  verifyCode := (given flag? "verify_code" entries).getD false
  loaderPerCompile := (given flag? "loader_per_compile" entries).getD false

def installGiven (entries : Toml.Table) : InstallSettings where
  isolation := (given mode? "isolation" entries).getD .auto
  isolationThreshold := (given size? "isolation_threshold" entries).getD 512
  maxUses := (given count? "max_uses" entries).getD 10
  maxBytes := (given size? "max_bytes" entries).getD 200000

/-- Each setting as it is given, or else its default. -/
def effective (t : Toml.Table) : Config where
  cache := cacheGiven ((given entries? "cache" t).getD [])
  compile := compileGiven ((given entries? "compile" t).getD [])
  installer := installGiven ((given entries? "installer" t).getD [])

/-! ### What fits -/

/-- Whatever stands for a key can be read. -/
def Takes (read : Toml.Value → Option α) (key : String) (entries : Toml.Table) : Prop :=
  ∀ v, (key, v) ∈ entries → ∃ a, read v = some a

structure CacheFits (entries : Toml.Table) : Prop where
  memoryCapacity : Takes size? "memory_capacity" entries
  persistent : Takes flag? "persistent" entries
  directory : Takes path? "directory" entries
  minPersistSize : Takes size? "min_persist_size" entries

structure CompileFits (entries : Toml.Table) : Prop where
  lazy : Takes flag? "lazy" entries
  optimisticTypes : Takes flag? "optimistic_types" entries
  strict : Takes flag? "strict" entries
  verifyCode : Takes flag? "verify_code" entries
  loaderPerCompile : Takes flag? "loader_per_compile" entries

structure InstallFits (entries : Toml.Table) : Prop where
  isolation : Takes mode? "isolation" entries
  isolationThreshold : Takes size? "isolation_threshold" entries
  maxUses : Takes count? "max_uses" entries
  maxBytes : Takes size? "max_bytes" entries

/-- What stands for a section is a table with entries that fit. -/
def SectionFits (fits : Toml.Table → Prop) (name : String) (t : Toml.Table) : Prop :=
  ∀ v, (name, v) ∈ t → ∃ entries, v = .table entries ∧ fits entries

/-- All settings that are given are of the right type and range. Other keys may have any value. -/
structure Fits (t : Toml.Table) : Prop where
  cache : SectionFits CacheFits "cache" t
  compile : SectionFits CompileFits "compile" t
  installer : SectionFits InstallFits "installer" t

/-- What comes of a configuration: the first thing that is wrong with it, or itself. -/
def verdict (c : Config) : Except Failure Config :=
  if c.installer.maxUses = 0 then .error (.invalid .maxUsesZero)
  else if c.installer.maxBytes = 0 then .error (.invalid .maxBytesZero)
  else if c.cache.persistent = true ∧ c.cache.directory = "" then
    .error (.invalid .directoryMissing)
  else .ok c

variable {σ α : Type} {key name : String} {v : Toml.Value} {entries : Toml.Table}

@[simp] theorem valueOf_concat (key name : String) (t : Toml.Table) (v : Toml.Value) :
    valueOf key (t ++ [(name, v)]) = if key = name then some v else valueOf key t := by
  rw [valueOf, List.reverse_append, List.reverse_singleton, List.singleton_append,
    List.lookup_cons]
  by_cases same : key = name
  · rw [if_pos same, beq_iff_eq.mpr same]
  · rw [if_neg same, beq_eq_false_iff_ne.mpr same]
    rfl

@[simp] theorem given_concat (read : Toml.Value → Option α) (key name : String)
    (t : Toml.Table) (v : Toml.Value) :
    given read key (t ++ [(name, v)]) = if key = name then read v else given read key t := by
  rw [given, valueOf_concat]
  split <;> rfl

/-! ### Reading one setting -/

theorem natural_eq_ok {bound n : Nat} (expected : String) (read : natural? bound v = some n) :
    natural bound expected v = .ok n := by
  cases v with
  | int i =>
    obtain ⟨inRange, same⟩ := Option.ite_none_right_eq_some.mp read
    cases same
    exact if_pos inRange
  | str | float | bool | datetime | array | tables | table => cases read

theorem size_eq_ok {n : Nat} (read : size? v = some n) : size v = .ok n := natural_eq_ok _ read

theorem count_eq_ok {n : Nat} (read : count? v = some n) :
    natural UInt32.size "u32" v = .ok n := natural_eq_ok _ read

theorem flag_eq_ok {b : Bool} (read : flag? v = some b) : flag v = .ok b := by
  cases v with
  | bool b => cases read; rfl
  | str | int | float | datetime | array | tables | table => cases read

theorem path_eq_ok {s : String} (read : path? v = some s) : path v = .ok s := by
  cases v with
  | str s => cases read; rfl
  | int | float | bool | datetime | array | tables | table => cases read

theorem modeNamed_eq_ok {m : IsolationMode} (read : modeNamed? name = some m) :
    modeNamed name = .ok m := by
  unfold modeNamed? at read
  split at read <;> cases read <;> rfl

theorem mode_eq_ok {m : IsolationMode} (read : mode? v = some m) : mode v = .ok m := by
  unfold mode? at read
  split at read
  · exact modeNamed_eq_ok read
  · exact congrArg (· >>= fun m => .ok m) (modeNamed_eq_ok read)
  · exact congrArg (· >>= fun m => .ok m) (modeNamed_eq_ok read)
  · exact congrArg (· >>= fun m => .ok m) (modeNamed_eq_ok read)
  · cases read

/-! ### Reading a table -/

/-- An entry for the setting leads from what the entries before give to what they give with it. -/
def Keeps (whole : Toml.Table → σ) (entries : Toml.Table) (setting : Setting σ) : Prop :=
  ∀ v, (setting.key, v) ∈ entries → ∀ before,
    setting.set (whole before) v = .ok (whole (before ++ [(setting.key, v)]))

theorem Takes.keeps {read? : Toml.Value → Option α} {read : Toml.Value → Except SchemaError α}
    {put : σ → α → σ} {whole : Toml.Table → σ} (takes : Takes read? key entries)
    (reads : ∀ {v a}, read? v = some a → read v = .ok a)
    (puts : ∀ {v a} before, read? v = some a →
      put (whole before) a = whole (before ++ [(key, v)])) :
    Keeps whole entries (setting key read put) := by
  intro v mem before
  obtain ⟨a, given⟩ := takes v mem
  exact (congrArg (Except.map (put (whole before))) (reads given)).trans
    (congrArg Except.ok (puts before given))

theorem overlay_concat (name : String) (settings : List (Setting σ)) (s : σ)
    (before : Toml.Table) (key : String) (v : Toml.Value) :
    overlay name settings s (.table (before ++ [(key, v)])) =
      (overlay name settings s (.table before)).bind fun s =>
        match settings.find? (·.key == key) with
        | some setting => setting.set s v
        | none => .ok s := by
  simp only [overlay, List.foldlM_append, List.foldlM_cons, List.foldlM_nil, bind_pure]
  rfl

/-- If each setting keeps to what is given, and no other key changes that, it is what comes of
reading a table. -/
theorem overlay_table {settings : List (Setting σ)} (whole : Toml.Table → σ) {s : σ}
    (start : whole [] = s) (known : ∀ setting ∈ settings, Keeps whole entries setting)
    (unknown : ∀ key, (∀ setting ∈ settings, setting.key ≠ key) → ∀ v before,
      whole (before ++ [(key, v)]) = whole before) (name : String) :
    overlay name settings s (.table entries) = .ok (whole entries) := by
  induction entries using List.reverseRecOn with
  | nil => exact congrArg Except.ok start.symm
  | append_singleton before e ih =>
    obtain ⟨key, v⟩ := e
    have earlier := ih fun setting mem v given => known setting mem v (List.mem_append_left _ given)
    -- the last entry has the final say
    rw [overlay_concat, earlier, Except.bind]
    cases found : settings.find? (·.key == key) with
    | none =>
      refine congrArg Except.ok (unknown key (fun setting mem same => ?_) v before).symm
      exact List.find?_eq_none.mp found setting mem (beq_iff_eq.mpr same)
    | some setting =>
      have mem := List.mem_of_find?_eq_some found
      obtain rfl : setting.key = key := beq_iff_eq.mp (List.find?_some found :)
      exact known setting mem v (List.mem_append_right _ List.mem_cons_self) before

theorem overlay_cache (fits : CacheFits entries) :
    overlay "CacheConfig" cacheSettings {} (.table entries) = .ok (cacheGiven entries) := by
  refine overlay_table cacheGiven rfl ?_ (fun key other v before => ?_) "CacheConfig"
  · simp only [cacheSettings, List.forall_mem_cons]
    exact ⟨fits.memoryCapacity.keeps size_eq_ok fun before given => by simp [cacheGiven, given],
      fits.persistent.keeps flag_eq_ok fun before given => by simp [cacheGiven, given],
      fits.directory.keeps path_eq_ok fun before given => by simp [cacheGiven, given],
      fits.minPersistSize.keeps size_eq_ok fun before given => by simp [cacheGiven, given],
      by simp⟩
  · simp only [cacheSettings, setting, List.forall_mem_cons] at other
    simp [cacheGiven, other]

theorem overlay_compile (fits : CompileFits entries) :
    overlay "CompileConfig" compileSettings {} (.table entries) = .ok (compileGiven entries) := by
  refine overlay_table compileGiven rfl ?_ (fun key other v before => ?_) "CompileConfig"
  · simp only [compileSettings, List.forall_mem_cons]
    exact ⟨fits.lazy.keeps flag_eq_ok fun before given => by simp [compileGiven, given],
      fits.optimisticTypes.keeps flag_eq_ok fun before given => by simp [compileGiven, given],
      fits.strict.keeps flag_eq_ok fun before given => by simp [compileGiven, given],
      fits.verifyCode.keeps flag_eq_ok fun before given => by simp [compileGiven, given],
      fits.loaderPerCompile.keeps flag_eq_ok fun before given => by simp [compileGiven, given],
      by simp⟩
  · simp only [compileSettings, setting, List.forall_mem_cons] at other
    simp [compileGiven, other]

theorem overlay_install (fits : InstallFits entries) :
    overlay "InstallerConfig" installSettings {} (.table entries) = .ok (installGiven entries) := by
  refine overlay_table installGiven rfl ?_ (fun key other v before => ?_) "InstallerConfig"
  · simp only [installSettings, List.forall_mem_cons]
    exact ⟨fits.isolation.keeps mode_eq_ok fun before given => by simp [installGiven, given],
      fits.isolationThreshold.keeps size_eq_ok fun before given => by simp [installGiven, given],
      fits.maxUses.keeps count_eq_ok fun before given => by simp [installGiven, given],
      fits.maxBytes.keeps size_eq_ok fun before given => by simp [installGiven, given],
      by simp⟩
  · simp only [installSettings, setting, List.forall_mem_cons] at other
    simp [installGiven, other]

theorem SectionFits.keeps {fits : Toml.Table → Prop} {read : Toml.Value → Except SchemaError α}
    {put : σ → α → σ} {whole : Toml.Table → σ} {part : Toml.Table → α} {t : Toml.Table}
    (sectionFits : SectionFits fits name t)
    (reads : ∀ {entries}, fits entries → read (.table entries) = .ok (part entries))
    (puts : ∀ before entries,
      put (whole before) (part entries) = whole (before ++ [(name, .table entries)])) :
    Keeps whole t (setting name read put) := by
  intro v mem before
  obtain ⟨entries, rfl, fit⟩ := sectionFits v mem
  exact (congrArg (Except.map (put (whole before))) (reads fit)).trans
    (congrArg Except.ok (puts before entries))

theorem ofTable_eq_ok {t : Toml.Table} (fits : Fits t) : ofTable t = .ok (effective t) := by
  refine overlay_table effective rfl ?_ (fun key other v before => ?_) "RuntimeConfig"
  · simp only [sections, List.forall_mem_cons]
    exact ⟨fits.cache.keeps overlay_cache fun before entries => by simp [effective, entries?],
      fits.compile.keeps overlay_compile fun before entries => by simp [effective, entries?],
      fits.installer.keeps overlay_install fun before entries => by simp [effective, entries?],
      by simp⟩
  · simp only [sections, setting, List.forall_mem_cons] at other
    simp [effective, other]

/-- What is loaded from any document is usable. -/
theorem invalid?_of_loadText {text : String} {c : Config} (loaded : loadText text = .ok c) :
    c.invalid? = none := by
  unfold loadText load at loaded
  split at loaded
  · cases loaded
  · split at loaded
    · cases loaded
    · split at loaded
      · cases loaded
      · next usable => exact Except.ok.inj loaded ▸ usable

/-- A document whose settings fit is never refused for its form. What comes of it depends on nothing
but the settings that it gives and the defaults of the others. -/
theorem load_of_fits {t : Toml.Table} (fits : Fits t) : load t = verdict (effective t) ∧
    ∀ text, Toml.parse? text = some t → loadText text = verdict (effective t) := by
  have loaded : load t = verdict (effective t) := by
    rw [load, ofTable_eq_ok fits]
    simp only [verdict, invalid?]
    split_ifs <;> rfl
  refine ⟨loaded, fun text parsed => ?_⟩
  rw [loadText, parsed]
  exact loaded

/-- A section may be given in part and have keys that name no setting. -/
theorem load_of_fits_partial :
    let t : Toml.Table := [("cache", .table [("persistent", .bool true), ("folder", .str "x")])]
    Fits t ∧ load t = verdict (effective t) ∧
      verdict (effective t) = .ok { cache := { persistent := true } } := by
  intro t
  have fits : CacheFits [("persistent", .bool true), ("folder", .str "x")] := by
    refine ⟨?_, ?_, ?_, ?_⟩ <;> simp [Takes, flag?]
  have fits : Fits t := by
    refine ⟨?_, ?_, ?_⟩ <;> simp [t, SectionFits, fits]
  exact ⟨fits, (load_of_fits fits).1, rfl⟩

example : (loadText "[cache]\npersistent = true\nfolder = \"x\"\n").toOption =
    some { cache := { persistent := true } } := by decide +kernel

end Config
end Scriptorium
