import Scriptorium.Diagnostic
import Scriptorium.Json.Text
import Scriptorium.Record

/-! The JSON forms of the library's data. A structure is an object of its fields in order; it may
also be given as the array of their values. Every field is given once, and members that name no
field are passed over. An alternative without content is its name, one with content an object of
one member. -/

namespace Scriptorium.Json

/-- How values of a type are written as JSON and read from it. -/
structure Form (α : Type) where
  write : α → Value
  read : Value → Option α

namespace Form

def view (f : Form α) (into : α → Option β) (from_ : β → α) : Form β where
  write b := f.write (from_ b)
  read v := (f.read v).bind into

/-- A natural number below a bound. -/
def natural (bound : Nat) : Form Nat where
  write n := .number (.ofNat n)
  read
    | .number n => n.natural?.filter (· < bound)
    | _ => none

def word8 : Form UInt8 := (natural UInt8.size).view (fun n => some (UInt8.ofNat n)) (·.toNat)
def word16 : Form UInt16 := (natural UInt16.size).view (fun n => some (UInt16.ofNat n)) (·.toNat)
def word32 : Form UInt32 := (natural UInt32.size).view (fun n => some (UInt32.ofNat n)) (·.toNat)
def word64 : Form UInt64 := (natural UInt64.size).view (fun n => some (UInt64.ofNat n)) (·.toNat)

def flag : Form Bool where
  write := .bool
  read
    | .bool b => some b
    | _ => none

/-- Numbers of any form. What is not finite is written as nothing. -/
def double : Form Double where
  write x := if x.isNaN || x.isInfinite then .null else .number (.ofDouble x)
  read
    | .number n => n.double?
    | _ => none

def text : Form String where
  write s := .string (escape s)
  read
    | .string raw => unescape? raw
    | _ => none

def list (f : Form α) : Form (List α) where
  write as := .array (as.map f.write)
  read
    | .array vs => vs.mapM f.read
    | _ => none

/-- The values of the named fields, in their order, whichever way a structure is given. -/
def fieldValues (names : List String) : Value → Option (List Value)
  | .array vs => if vs.length = names.length then some vs else none
  | .object members => do
    let named ← members.mapM fun (k, v) => do some (← unescape? k, v)
    names.mapM fun name =>
      match named.filter (·.1 == name) with
      | [(_, v)] => some v
      | _ => none
  | _ => none

def fields (names : List String) (values : List Value) : Value :=
  .object ((names.map escape).zip values)

/-- A structure of two fields. -/
def two (m n : String) (f : Form α) (g : Form β) : Form (α × β) where
  write x := fields [m, n] [f.write x.1, g.write x.2]
  read v := do
    match ← fieldValues [m, n] v with
    | [a, b] => some (← f.read a, ← g.read b)
    | _ => none

/-- A structure of three fields. -/
def three (l m n : String) (f : Form α) (g : Form β) (h : Form γ) : Form (α × β × γ) where
  write x := fields [l, m, n] [f.write x.1, g.write x.2.1, h.write x.2.2]
  read v := do
    match ← fieldValues [l, m, n] v with
    | [a, b, c] => some (← f.read a, ← g.read b, ← h.read c)
    | _ => none

/-- Which alternative is meant, and its content. -/
def alternative? : Value → Option (String × Option Value)
  | .string raw => (unescape? raw).map fun name => (name, none)
  | .object [(k, v)] => (unescape? k).map fun name => (name, some v)
  | _ => none

/-- Alternatives without content. The content may be given as nothing. -/
def choice (names : List (String × α)) (nameOf : α → String) : Form α where
  write a := .string (escape (nameOf a))
  read v := do
    match ← alternative? v with
    | (name, none) | (name, some .null) => names.lookup name
    | _ => none

end Form

/-! The forms of each type. -/

def digest : Form Digest :=
  (Form.list Form.word8).view Digest.fromBytes? (·.toBytes)

def severity : Form Severity :=
  let name : Severity → String
    | .note => "Note"
    | .warning => "Warning"
    | .error => "Error"
  .choice ([Severity.note, .warning, .error].map fun s => (name s, s)) name

def category : Form Category :=
  let name : Category → String
    | .syntactic => "Syntax"
    | .early => "Early"
    | .warning => "Warning"
  .choice ([Category.syntactic, .early, .warning].map fun c => (name c, c)) name

def profile : Form Profile :=
  let name : Profile → String
    | .standard => "Standard"
    | .optimistic => "Optimistic"
  .choice ([Profile.standard, .optimistic].map fun p => (name p, p)) name

def diagnosticCode : Form DiagnosticCode :=
  (Form.two "category" "number" category .word16).view (fun (c, n) => some ⟨c, n⟩)
    fun c => (c.category, c.number)

def span : Form Span :=
  (Form.two "start" "end" .word32 .word32).view (fun (a, b) => some ⟨a, b⟩)
    fun s => (s.start, s.stop)

def diagnostic : Form Diagnostic where
  write d := Form.fields ["severity", "code", "message", "source_name", "span", "notes"]
    [severity.write d.severity, diagnosticCode.write d.code, Form.text.write d.message,
      Form.text.write d.sourceName, span.write d.span, (Form.list .text).write d.notes]
  read v := do
    match ← Form.fieldValues ["severity", "code", "message", "source_name", "span", "notes"] v with
    | [s, c, m, n, p, ns] =>
      some ⟨← severity.read s, ← diagnosticCode.read c, ← Form.text.read m, ← Form.text.read n,
        ← span.read p, ← (Form.list .text).read ns⟩
    | _ => none

def fingerprint : Form Fingerprint :=
  (Form.three "identity" "length" "strict" digest (.natural UInt64.size) .flag).view
    (fun (identity, length, strict) => some ⟨⟨identity, strict⟩, length⟩)
    fun f => (f.identity, f.length, f.strict)

def constant : Form Constant where
  write
    | .undefined => .string (escape "Undefined")
    | .null => .string (escape "Null")
    | .bool b => Form.fields ["Bool"] [Form.flag.write b]
    | .number x => Form.fields ["Number"] [Form.double.write x]
    | .str s => Form.fields ["Str"] [Form.text.write s]
  read v := do
    match ← Form.alternative? v with
    | ("Undefined", none) | ("Undefined", some .null) => some .undefined
    | ("Null", none) | ("Null", some .null) => some .null
    | ("Bool", some v) => (Form.flag.read v).map .bool
    | ("Number", some v) => (Form.double.read v).map .number
    | ("Str", some v) => (Form.text.read v).map .str
    | _ => none

def codeUnit : Form CodeUnit :=
  (Form.two "name" "bytes" .text (.list .word8)).view (fun (n, c) => some ⟨n, c⟩)
    fun u => (u.name, u.code)

def callable : Form Callable :=
  (Form.three "function_name" "arity" "flags" .text .word32 .word32).view
    (fun (n, a, f) => some ⟨n, a, f⟩) fun c => (c.functionName, c.arity, c.flags)

def subUnit : Form SubUnit :=
  (Form.two "unit" "initializer" codeUnit callable).view (fun (u, c) => some ⟨u, c⟩)
    fun s => (s.unit, s.callable)

/-- An id as the name of a member is written in digits and nothing else. -/
private def memberId? (raw : List Char) : Option UInt32 := do
  let n ← (← Number.ofChars? raw).natural?
  if n < UInt32.size then some (UInt32.ofNat n) else none

/-- A map is an object; a member that comes twice is the one that came last. -/
def subUnits : Form (IdMap SubUnit) where
  write m := .object (m.entries.map fun (id, s) =>
    ((toString id.toNat).toList, subUnit.write s))
  read
    | .object members => do
      let entries ← members.mapM fun (k, v) => do some (← memberId? k, ← subUnit.read v)
      some (.ofList entries)
    | _ => none

def bundle : Form Bundle :=
  (Form.three "main" "sub_units" "constants" codeUnit subUnits (.list constant)).view
    (fun (m, s, c) => some ⟨m, s, c⟩) fun b => (b.main, b.subs, b.constants)

def record : Form Record :=
  (Form.three "cache_key" "units" "compilation_id" .text bundle .word64).view
    (fun (k, b, id) => some ⟨k, b, id⟩) fun r => (r.key, r.bundle, r.compilationId)

namespace Form

/-- The text in which a form writes what it reads from a text. -/
def normalized? (f : Form α) (s : String) : Option String := do
  let a ← f.read (← parse? s)
  some (f.write a).text

end Form
end Scriptorium.Json
