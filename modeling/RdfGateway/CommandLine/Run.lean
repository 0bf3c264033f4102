import RdfGateway.Body.Reader
import RdfGateway.CommandLine.Arguments
import RdfGateway.Gateway.Update
import RdfGateway.NTriples.Printer
import RdfGateway.Settings.Reader
import RdfGateway.Sparql.Printer
import RdfGateway.Wire.Update

/-!
# Runs

A run reads its settings, then its body, and writes the answer. The first thing that fails ends
it. Files come in as a function from names to contents, so that a run is a function of its
arguments.
-/

namespace RdfGateway.CommandLine

/-- What a run leaves: its exit code and what it wrote. -/
structure Outcome where
  exitCode : Nat
  output : String
  errors : String
  deriving DecidableEq, Inhabited

/-- The contents of the files by name. -/
abbrev Files := String → Except ReadFailure ByteArray

/-- Why a run failed. -/
inductive Failure where
  | settings (error : SettingsError)
  /-- The file that the command works on cannot be read. -/
  | unreadable (file : String) (failure : ReadFailure)
  | body (error : BodyError)
  | fault (fault : Fault)
  | refusal (refusal : Refusal)
  deriving DecidableEq, Inhabited

/-- An error and what lies behind it. Every line of what lies behind it is indented. -/
def errorText (message : String) (cause : Option String) : String :=
  let behind := cause.elim "" fun cause =>
    "\nCaused by:\n    " ++ .ofList (cause.toList.flatMap fun c =>
      if c = '\n' then "\n    ".toList else [c]) ++ "\n"
  "Error: " ++ message ++ "\n" ++ behind

/-- A violation in a list of violations. -/
def violationText (violation : Violation) : String :=
  "  [" ++ violation.offence.name ++ "] " ++ violation.statement.text ++ "\n" ++
    "        " ++ violation.message ++ "\n"

/-- The list of the violations of a body. -/
def reportText (report : Report) : String :=
  "Constraint violations\n" ++ "=====================\n" ++
    String.join (report.map violationText) ++
    "\n" ++ toString report.length ++ " violation(s)\n"

/-- What is written of a failure. -/
def Failure.text : Failure → String
  | .settings error => errorText error.message (some error.cause)
  | .unreadable file failure => errorText ("reading " ++ file) (some failure.message)
  | .body error => errorText error.message none
  | .fault cause => errorText cause.message none
  | .refusal (.fault cause) => errorText cause.message none
  | .refusal (.violations report) => reportText report

/-- The bytes of the file that a command works on. -/
def fileBytes (files : Files) (file : String) : Except Failure ByteArray :=
  (files file).mapError (.unreadable file)

/-- The graph of a body. -/
def BodyFile.graph (files : Files) (body : BodyFile) : Except Failure Graph := do
  (readBody (← fileBytes files body.file) body.contentType body.resource).mapError .body

/-- The request of a file. -/
def requestOf (files : Files) (file : String) : Except Failure Request := do
  let text ← (fileText (files file)).mapError (.unreadable file)
  (Request.ofText text).mapError .body

/-- What a command writes. -/
def Command.output (files : Files) (gateway : Gateway) : Command → Except Failure String
  | .graph body => do
    let graph ← (gateway.internalizeGraph (← body.graph files)).mapError .refusal
    return graph.toNTriples
  | .external body => do
    return (gateway.domains.externalizeGraph (← body.graph files)).toNTriples
  | .update file => do
    let request ← (gateway.internalizeRequest (← requestOf files file)).mapError .refusal
    return request.text ++ "\n"
  | .toInternal iri => do
    return (← (gateway.domains.internalize iri).mapError .fault) ++ "\n"
  | .toExternal id => return gateway.domains.outward id ++ "\n"

/-- The settings of a run. -/
def Invocation.settings (files : Files) (invocation : Invocation) :
    Except SettingsError Settings :=
  match invocation.config with
  | some path => Settings.ofFile path (files path)
  | none => .ok {}

/-- What a run writes. -/
def Invocation.output (files : Files) (invocation : Invocation) : Except Failure String := do
  let settings ← (invocation.settings files).mapError .settings
  let gateway ← (settings.gateway invocation.mode).mapError .settings
  invocation.command.output files gateway

/-- The outcome of a run. -/
def run (files : Files) (arguments : List String) : Outcome :=
  match Invocation.ofArguments? arguments with
  | none => ⟨2, "", usage⟩
  | some invocation =>
    match invocation.output files with
    | .ok output => ⟨0, output, ""⟩
    | .error failure => ⟨1, "", failure.text⟩

/-- The file that a command reads. -/
def Command.file? : Command → Option String
  | .graph body | .external body => some body.file
  | .update file => some file
  | .toInternal _ | .toExternal _ => none

/-- The files that a run reads. -/
def filesOf (arguments : List String) : List String :=
  match Invocation.ofArguments? arguments with
  | some invocation => invocation.config.toList ++ invocation.command.file?.toList
  | none => []

end RdfGateway.CommandLine
