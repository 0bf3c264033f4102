import RdfGateway.Policy.Enforcement
import RdfGateway.Text.Lead

/-!
# Arguments

The arguments of a run name a file of settings, a mode, and a command with what it works on. Options
of the run stand before the command, options of a command anywhere behind it. Two dashes alone end
the options. Each option has a value, which follows it or is written behind an equals sign.
-/

namespace RdfGateway.CommandLine

open RdfGateway.Text

/-- A body that a command works on. -/
structure BodyFile where
  file : String
  contentType : String
  /-- The IRI that relative IRIs are resolved against. -/
  resource : Option String
  deriving DecidableEq, Inhabited

/-- What a run does. -/
inductive Command where
  /-- A body of a client is made internal. -/
  | graph (body : BodyFile)
  /-- A body of the store is made external. -/
  | external (body : BodyFile)
  /-- An update of a client is made internal. -/
  | update (file : String)
  /-- An IRI is made an identifier. -/
  | toInternal (iri : String)
  /-- An identifier is made an IRI. -/
  | toExternal (id : String)
  deriving DecidableEq, Inhabited

/-- The arguments of a run. -/
structure Invocation where
  /-- The file of settings. -/
  config : Option String
  mode : Option Enforcement
  command : Command
  deriving DecidableEq, Inhabited

/-! ## Options and operands -/

/-- What an argument is before the options have ended. -/
inductive Word where
  /-- Two dashes alone. -/
  | endOfOptions
  /-- A name behind two dashes, with the value that is written behind an equals sign. -/
  | option (name : String) (value : Option String)
  /-- Something else behind a dash, which means nothing. -/
  | unknown
  /-- Any other argument. A dash alone is one. -/
  | operand
  deriving DecidableEq

/-- What an argument is. -/
def Word.of (argument : String) : Word :=
  match argument.toList with
  | ['-', '-'] => .endOfOptions
  | '-' :: '-' :: text =>
    let name := text.takeWhile (· != '=')
    .option (.ofList name) <|
      match text.drop name.length with
      | [] => none
      | _ :: value => some (.ofList value)
  | '-' :: _ :: _ => .unknown
  | _ => .operand

/-- Arguments as options with their values, and operands. -/
structure Parted where
  options : List (String × String)
  operands : List String
  deriving DecidableEq

/-- One more option in front. -/
def Parted.withOption (parted : Parted) (name value : String) : Parted :=
  { parted with options := (name, value) :: parted.options }

/-- The options of a command with these names, and its operands. -/
def part? (names : List String) : List String → Option Parted
  | [] => some ⟨[], []⟩
  | argument :: rest =>
    match Word.of argument with
    | .endOfOptions => some ⟨[], rest⟩
    | .option name (some value) =>
      if names.contains name then (part? names rest).map (·.withOption name value) else none
    | .option name none =>
      match rest with
      | [] => none
      | value :: rest =>
        if names.contains name && Word.of value = .operand then
          (part? names rest).map (·.withOption name value)
        else none
    | .unknown => none
    | .operand =>
      (part? names rest).map fun parted =>
        { parted with operands := argument :: parted.operands }

/-- The options with these names before a command, and the arguments from the command on. -/
def leading? (names : List String) : List String → Option Parted
  | [] => some ⟨[], []⟩
  | argument :: rest =>
    match Word.of argument with
    | .option name (some value) =>
      if names.contains name then (leading? names rest).map (·.withOption name value) else none
    | .option name none =>
      match rest with
      | [] => none
      | value :: rest =>
        if names.contains name && Word.of value = .operand then
          (leading? names rest).map (·.withOption name value)
        else none
    | .operand => some ⟨[], argument :: rest⟩
    | _ => none

/-- The value of an option. It may be given once. -/
def Parted.option? (parted : Parted) (name : String) : Option (Option String) :=
  match parted.options.filter (·.1 = name) with
  | [] => some none
  | [(_, value)] => some (some value)
  | _ => none

/-- The only operand. -/
def Parted.operand? (parted : Parted) : Option String :=
  match parted.operands with
  | [operand] => some operand
  | _ => none

/-- A text as the name of a file, which is not empty. -/
def fileName? (text : String) : Option String := if text.isEmpty then none else some text

/-! ## Commands -/

/-- The body of a command, with the content type that it has where none is given. -/
def BodyFile.ofArguments? (contentType : String) (arguments : List String) : Option BodyFile := do
  let parted ← part? ["content-type", "resource"] arguments
  return {
    file := ← fileName? (← parted.operand?)
    contentType := (← parted.option? "content-type").getD contentType
    resource := ← parted.option? "resource" }

/-- The command of the arguments from its name on. -/
def Command.ofArguments? : List String → Option Command
  | "graph" :: rest => .graph <$> BodyFile.ofArguments? "text/turtle" rest
  | "external" :: rest => .external <$> BodyFile.ofArguments? "application/n-triples" rest
  | "update" :: rest => do return .update (← fileName? (← (← part? [] rest).operand?))
  | "id" :: "to-internal" :: rest => do return .toInternal (← (← part? [] rest).operand?)
  | "id" :: "to-external" :: rest => do return .toExternal (← (← part? [] rest).operand?)
  | _ => none

/-- A run with these arguments. -/
def Invocation.ofArguments? (arguments : List String) : Option Invocation := do
  let parted ← leading? ["config", "mode"] arguments
  let config ←
    match ← parted.option? "config" with
    | some file => some <$> fileName? file
    | none => some none
  let mode ←
    match ← parted.option? "mode" with
    | some text => some <$> Enforcement.ofText? text
    | none => some none
  return ⟨config, mode, ← Command.ofArguments? parted.operands⟩

/-- How a run is written. -/
def usage : String :=
  "Usage: [--config FILE] [--mode strict|lenient|relaxed] COMMAND\n\n" ++
    "  graph FILE [--content-type TYPE] [--resource IRI]\n" ++
    "  external FILE [--content-type TYPE] [--resource IRI]\n" ++
    "  update FILE\n" ++
    "  id to-internal IRI\n" ++
    "  id to-external ID\n"

end RdfGateway.CommandLine
