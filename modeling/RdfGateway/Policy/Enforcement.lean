import RdfGateway.Policy.Violation
import RdfGateway.Text.Blank
import RdfGateway.Text.Quoted

/-!
# Enforcement

How strictly the policy is applied. Relaxed enforcement waives the relaxable offence; lenient
enforcement drops managed statements from graphs, and is strict for updates, where nothing can be
dropped.
-/

namespace RdfGateway

/-- How strictly the policy is applied. -/
inductive Enforcement where
  /-- Every violation is refused. -/
  | strict
  /-- Managed statements are dropped from graphs. -/
  | lenient
  /-- The relaxable offence is waived. -/
  | relaxed
  deriving DecidableEq, Inhabited

namespace Enforcement

/-- The offence is waived. -/
def waives (mode : Enforcement) (offence : Offence) : Bool :=
  mode == .relaxed && offence.isRelaxable

/-- Managed statements are dropped from graphs. -/
def dropsManaged (mode : Enforcement) : Bool := mode == .lenient

/-- The enforcement of an update: nothing is dropped from it. -/
def forUpdate : Enforcement → Enforcement
  | .lenient => .strict
  | mode => mode

/-- The name in configurations. -/
def name : Enforcement → String
  | .strict => "strict"
  | .lenient => "lenient"
  | .relaxed => "relaxed"

/-- The enforcement with exactly this name. -/
def ofName? : String → Option Enforcement
  | "strict" => some .strict
  | "lenient" => some .lenient
  | "relaxed" => some .relaxed
  | _ => none

/-- The enforcement with this name, in any case and with white space around it. -/
def ofText? (text : String) : Option Enforcement :=
  ofName? (.ofList ((Text.trim text).toList.map Char.toLower))

/-- What is said of a text that names no enforcement. -/
def unknownMessage (text : String) : String :=
  "unknown server-managed properties mode " ++ Text.quoted text ++
    " (expected strict, lenient or relaxed)"

theorem ofName?_name (mode : Enforcement) : ofName? mode.name = some mode := by
  cases mode <;> rfl

end Enforcement

end RdfGateway
