import RdfGateway.Settings.Basic
import RdfGateway.Toml.Reader
import RdfGateway.Wire.Policy

/-!
# Reading settings

Settings are written as a TOML document with a table for each section. A section may be a list of
its settings in order too; what such a list has beyond them is passed over. A choice is its name,
or a table with the name as its only key and nothing in it. A key without a meaning is refused
wherever it stands.
-/

namespace RdfGateway

namespace Toml

/-- The settings of a section by name: those of a table that has no others, or those of a list in
order. -/
def settings? (names : List String) : Toml → Option (List (Option Toml))
  | .table _ entries =>
    if entries.all fun entry => names.contains entry.1 then some (names.map (Table.get? entries))
    else none
  | .list items => some ((List.range names.length).map (items[·]?))
  | .tables earlier last =>
    some ((List.range names.length).map fun i =>
      (earlier ++ [last])[i]?.map (.table .header ·))
  | _ => none

/-- The text of a value. -/
def asText? : Toml → Option String
  | .string text => some text
  | _ => none

/-- The texts of a list. -/
def asTexts? : Toml → Option (List String)
  | .list items => items.mapM asText?
  | _ => none

/-- There is nothing in a list or a table. -/
def isVoid : Toml → Bool
  | .list items => items.isEmpty
  | .table _ entries => entries.isEmpty
  | _ => false

/-- The name that a choice is given by. -/
def choice? : Toml → Option String
  | .string name => some name
  | .table _ [(name, content)] => if content.isVoid then some name else none
  | _ => none

/-- The value of a setting, or the one that it has where it is not given. -/
def orDefault {α : Type} (value? : Toml → Option α) (default : α) : Option Toml → Option α
  | some toml => value? toml
  | none => some default

end Toml

open Toml

/-- The identifier settings of a section. -/
def IdentifierSettings.ofToml? (toml : Toml) : Option IdentifierSettings := do
  match ← settings? ["external_base", "internal_prefix"] toml with
  | [base, root] =>
    return {
      externalBase := ← orDefault asText? ({} : IdentifierSettings).externalBase base
      internalPrefix := ← orDefault asText? ({} : IdentifierSettings).internalPrefix root }
  | _ => none

/-- The policy of a section. -/
def Policy.ofToml? (toml : Toml) : Option Policy := do
  let lists ← settings? listNames toml
  Policy.ofLists? (← lists.mapM (orDefault (fun list => some <$> asTexts? list) none))

/-- The policy settings of a section. -/
def PolicySettings.ofToml? (toml : Toml) : Option PolicySettings := do
  match ← settings? ["mode", "table"] toml with
  | [mode, policy] =>
    return {
      mode := ← orDefault (fun name => (choice? name).bind Enforcement.ofName?) .strict mode
      table := ← orDefault (fun policy => some <$> Policy.ofToml? policy) none policy }
  | _ => none

/-- The log settings of a section. -/
def LogSettings.ofToml? (toml : Toml) : Option LogSettings := do
  match ← settings? ["level", "format"] toml with
  | [level, format] =>
    return {
      level := ← orDefault asText? ({} : LogSettings).level level
      format := ← orDefault (fun name => (choice? name).bind LogFormat.ofName?) .pretty format }
  | _ => none

namespace Settings

/-- The settings of a document. -/
def ofToml? (toml : Toml) : Option Settings := do
  match ← settings? ["identifiers", "policy", "logger"] toml with
  | [identifiers, policy, logger] =>
    return {
      identifiers := ← orDefault IdentifierSettings.ofToml? {} identifiers
      policy := ← orDefault PolicySettings.ofToml? {} policy
      logger := ← orDefault LogSettings.ofToml? {} logger }
  | _ => none

/-- The settings that a text holds. -/
def ofText (text : String) : Except SettingsError Settings :=
  match (Toml.parse? text).bind ofToml? with
  | some settings => .ok settings
  | none => .error .malformed

/-- The settings that a file holds. -/
def ofFile (path : String) (content : Except ReadFailure ByteArray) :
    Except SettingsError Settings := do
  ofText (← (fileText content).mapError (.unreadable path ·))

end Settings

end RdfGateway
