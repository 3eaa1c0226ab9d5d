import Scriptorium.Span

/-! Diagnostics: what a generator has to say about a source, with a severity, a code, a place and
footnotes. The name of the source is kept in the diagnostic, which outlives the compile. -/

namespace Scriptorium

inductive Severity where
  | note
  | warning
  | error
deriving DecidableEq, Inhabited

namespace Severity

def rank : Severity → Nat
  | .note => 0
  | .warning => 1
  | .error => 2

def isError (s : Severity) : Bool := s == .error

instance : Max Severity := ⟨fun a b => if b.rank < a.rank then a else b⟩

instance : Ord Severity := ⟨fun a b => compare a.rank b.rank⟩

def name : Severity → String
  | .note => "note"
  | .warning => "warning"
  | .error => "error"

end Severity

/-- What a diagnostic is about; it decides the letter of the code. -/
inductive Category where
  | syntactic
  | early
  | warning
deriving DecidableEq, Inhabited

def Category.letter : Category → String
  | .syntactic => "S"
  | .early => "E"
  | .warning => "W"

structure DiagnosticCode where
  category : Category
  number : UInt16
deriving DecidableEq, Inhabited

/-- The letter of the category and at least three digits. -/
def DiagnosticCode.display (c : DiagnosticCode) : String :=
  let digits := toString c.number.toNat
  c.category.letter ++ String.ofList (List.replicate (3 - digits.length) '0') ++ digits

structure Diagnostic where
  severity : Severity
  code : DiagnosticCode
  message : String
  sourceName : String
  span : Span
  notes : List String
deriving DecidableEq, Inhabited

namespace Diagnostic

def isError (d : Diagnostic) : Bool := d.severity.isError

/-- The place is given by name and offset; without an offset by name alone, if there is a name. -/
def place (d : Diagnostic) : String :=
  if !d.span.isDummy then s!" ({d.sourceName}:{d.span.start.toNat})"
  else if d.sourceName != "" then s!" ({d.sourceName})"
  else ""

def display (d : Diagnostic) : String :=
  s!"{d.severity.name}[{d.code.display}]: {d.message}{d.place}"

end Diagnostic
end Scriptorium
