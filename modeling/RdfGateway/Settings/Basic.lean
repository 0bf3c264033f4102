import RdfGateway.Gateway.Basic
import RdfGateway.Text.Utf8

/-!
# Settings

What an operator of a gateway may set: the two identifier domains, the mode of enforcement, a policy
in the place of the built-in one, and how the log is written. Every setting has a value of its own
where none is given.
-/

namespace RdfGateway

/-- The texts that the two identifier domains are made from. -/
structure IdentifierSettings where
  externalBase : String := "http://localhost:8080/rest/"
  internalPrefix : String := Domains.defaultRoot
  deriving DecidableEq, Inhabited

/-- How strictly which policy is applied. -/
structure PolicySettings where
  mode : Enforcement := .strict
  /-- The policy in the place of the built-in one. -/
  table : Option Policy := none
  deriving DecidableEq, Inhabited

/-- The form of the log. -/
inductive LogFormat where
  /-- Lines for people. -/
  | pretty
  /-- An object on every line. -/
  | json
  deriving DecidableEq, Inhabited

/-- The name of a form in settings. -/
def LogFormat.name : LogFormat → String
  | .pretty => "pretty"
  | .json => "json"

/-- The form with a name. -/
def LogFormat.ofName? : String → Option LogFormat
  | "pretty" => some .pretty
  | "json" => some .json
  | _ => none

/-- What is logged, and how. -/
structure LogSettings where
  level : String := "info"
  format : LogFormat := .pretty
  deriving DecidableEq, Inhabited

/-- The settings of a gateway. -/
structure Settings where
  identifiers : IdentifierSettings := {}
  policy : PolicySettings := {}
  logger : LogSettings := {}
  deriving DecidableEq, Inhabited

/-- Why a file cannot be read. -/
inductive ReadFailure where
  /-- There is no file of this name. -/
  | absent
  /-- The name is that of a directory. -/
  | directory
  /-- The name goes through a file as if it were a directory. -/
  | throughFile
  /-- The bytes of the file are no text. -/
  | notText
  /-- The system says why. -/
  | other (reason : String)
  deriving DecidableEq, Inhabited

/-- What is said of a file that cannot be read. -/
def ReadFailure.message : ReadFailure → String
  | .absent => "No such file or directory (os error 2)"
  | .directory => "Is a directory (os error 21)"
  | .throughFile => "Not a directory (os error 20)"
  | .notText => "stream did not contain valid UTF-8"
  | .other reason => reason

/-- The text of a file. -/
def fileText (content : Except ReadFailure ByteArray) : Except ReadFailure String := do
  match String.fromUTF8? (← content) with
  | some text => return text
  | none => throw .notText

/-- Why there are no settings to work with. -/
inductive SettingsError where
  /-- The file of settings cannot be read. -/
  | unreadable (path : String) (failure : ReadFailure)
  /-- The text is no document of settings. -/
  | malformed
  /-- The texts that are set make no identifier domains. -/
  | identifiers (fault : Fault)
  deriving DecidableEq, Inhabited

/-- What is said before the cause of a text that is no document of settings. -/
def SettingsError.invalid : String := "invalid configuration: "

/-- What lies behind an error. -/
def SettingsError.cause : SettingsError → String
  | .unreadable _ failure => failure.message
  | .malformed => "the text is no document of settings"
  | .identifiers fault => fault.message

/-- What is said of an error. -/
def SettingsError.message : SettingsError → String
  | .unreadable path failure => "failed to read " ++ path ++ ": " ++ failure.message
  | .malformed => invalid ++ SettingsError.malformed.cause
  | .identifiers fault => "invalid [identifiers] section: " ++ fault.message

namespace Settings

/-- The policy in force. -/
def policyInForce (settings : Settings) : Policy := settings.policy.table.getD .builtin

/-- The identifier domains. -/
def domains (settings : Settings) : Except SettingsError Domains :=
  (Domains.ofTexts settings.identifiers.externalBase settings.identifiers.internalPrefix).mapError
    .identifiers

/-- The gateway that is set, with the mode of one request where that gives one. -/
def gateway (settings : Settings) (mode : Option Enforcement) : Except SettingsError Gateway := do
  return ⟨settings.policyInForce, ← settings.domains, mode.getD settings.policy.mode⟩

end Settings

end RdfGateway
