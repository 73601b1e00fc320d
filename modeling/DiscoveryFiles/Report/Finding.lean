/-!
# Findings

A check finds errors, which break a requirement, and warnings, which go against a recommendation.
Both are kept in the order in which they were found.
-/

namespace DiscoveryFiles

/-- A message about a file, and the line that it is about, counted from one. -/
structure Issue where
  /-- The message. -/
  message : String
  /-- The line, if the message is about one. -/
  line : Option Nat
  deriving DecidableEq, Repr

/-- An issue whose line was given as an integer; lines below one are refused. -/
def Issue.of? (message : String) : Option Int → Option Issue
  | none => some ⟨message, none⟩
  | some line => if line < 1 then none else some ⟨message, some line.toNat⟩

/-- What a check found. -/
structure Findings where
  /-- The broken requirements. -/
  errors : List Issue
  /-- The disregarded recommendations. -/
  warnings : List Issue
  deriving DecidableEq, Repr

namespace Findings

/-- Nothing found. -/
def none : Findings := ⟨[], []⟩

/-- One error. -/
def error (message : String) : Findings := ⟨[⟨message, .none⟩], []⟩

/-- One error in a line. -/
def errorAt (line : Nat) (message : String) : Findings := ⟨[⟨message, some line⟩], []⟩

/-- One warning. -/
def warning (message : String) : Findings := ⟨[], [⟨message, .none⟩]⟩

/-- Findings of one check and then of another. -/
def append (first second : Findings) : Findings :=
  ⟨first.errors ++ second.errors, first.warnings ++ second.warnings⟩

instance : Append Findings := ⟨append⟩

/-- Findings of a sequence of checks. -/
def all (findings : List Findings) : Findings :=
  findings.foldr append none

/-- The findings that arise if a requirement is not met. -/
def require (met : Bool) (findings : Findings) : Findings :=
  if met then none else findings

@[simp]
theorem errors_append (first second : Findings) :
    (first ++ second).errors = first.errors ++ second.errors := rfl

@[simp]
theorem warnings_append (first second : Findings) :
    (first ++ second).warnings = first.warnings ++ second.warnings := rfl

end Findings
end DiscoveryFiles
