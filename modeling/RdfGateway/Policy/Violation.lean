import RdfGateway.NTriples.Printer

/-!
# Violations

A statement that may not be written violates the policy in one of three ways. The violations found
in a request are listed in the order in which they were found; a part of a request that has been
gone through carries the list of its own.

* `all_value`, `all_report`: going through a list keeps its order in both components.
-/

namespace RdfGateway

/-- Why a statement may not be written. -/
inductive Offence where
  /-- The predicate belongs to the server. -/
  | managedProperty
  /-- The statement asserts a type that belongs to the server. -/
  | managedType
  /-- The statement asserts a type that is waived under relaxed enforcement. -/
  | relaxableType
  deriving DecidableEq, Inhabited

/-- The name of the offence in reports. -/
def Offence.name : Offence → String
  | .managedProperty => "ManagedPropertyViolation"
  | .managedType => "ManagedTypeViolation"
  | .relaxableType => "RelaxableManagedPropertyViolation"

/-- Relaxed enforcement waives the offence. -/
def Offence.isRelaxable : Offence → Bool
  | .relaxableType => true
  | _ => false

/-- A statement that may not be written, as the client sent it. -/
structure Violation where
  offence : Offence
  statement : Triple
  deriving DecidableEq, Inhabited

/-- What is wrong with the statement. -/
def Violation.message (violation : Violation) : String :=
  let subject := violation.statement.subject.text
  let predicate := violation.statement.predicate.text
  let object := violation.statement.object.text
  match violation.offence with
  | .managedProperty =>
    "Could not persist triple containing predicate " ++ predicate ++ " to " ++ subject ++
      ": the predicate is server managed"
  | .managedType =>
    "The server managed type " ++ object ++ " cannot be asserted on " ++ subject
  | .relaxableType =>
    "The server managed type " ++ object ++ " may only be asserted on " ++ subject ++
      " when server managed properties are relaxed"

/-- The violation in one line. -/
def Violation.text (violation : Violation) : String :=
  violation.offence.name ++ ": " ++ violation.message

/-- The violations of a request in the order in which they were found. -/
abbrev Report := List Violation

/-- The number of violations of one kind. -/
def Report.countOf (report : Report) (offence : Offence) : Nat :=
  report.countP (·.offence = offence)

/-- The report in one line. -/
def Report.summary (report : Report) : String :=
  toString report.length ++ " constraint violation(s) in request body"

/-! ## Parts of a request that have been gone through -/

/-- A part of a request with the violations found in it. -/
structure Judged (α : Type) where
  value : α
  report : Report
  deriving DecidableEq

namespace Judged

variable {α β : Type}

/-- A part without violations. -/
def clean (value : α) : Judged α := ⟨value, []⟩

/-- The part put into its place. -/
def map (f : α → β) (part : Judged α) : Judged β := ⟨f part.value, part.report⟩

/-- The parts of a list together. -/
def all (parts : List (Judged α)) : Judged (List α) :=
  ⟨parts.map value, parts.flatMap report⟩

theorem all_value (parts : List (Judged α)) : (all parts).value = parts.map value := rfl

theorem all_report (parts : List (Judged α)) : (all parts).report = parts.flatMap report := rfl

end Judged

end RdfGateway
