import RdfGateway.Body.MediaType
import RdfGateway.Json.Reader
import RdfGateway.Sparql.Update
import RdfGateway.Wire.Statement

/-!
# Update requests in JSON

An update request arrives as a JSON text that holds its tree. Absent options and empty lists of the
prologue and of the data set are not written; a template that is present and empty is.
-/

namespace RdfGateway

open Wire

/-! ## Writing -/

/-- A member, unless its list is empty. -/
def Wire.unlessEmpty {α : Type} (name : String) (item : α → Json) (items : List α) :
    List (String × Json) :=
  if items.isEmpty then [] else [(name, .array (items.map item))]

/-- A member, unless it is absent. -/
def Wire.ifPresent {α : Type} (name : String) (value : α → Json) (option : Option α) :
    List (String × Json) :=
  (option.map fun given => (name, value given)).toList

/-- The quads of an operation. -/
def Wire.quads (quads : List Quad) : Json := .array (quads.map Quad.toJson)

mutual

/-- A pattern by its kind and its body. -/
def Pattern.toJson : Pattern → Json
  | .group children => tagged "element" "group" "body" (.array (Pattern.listToJson children))
  | .block triples =>
    tagged "element" "basic_block" "body" (.array (triples.map Triple.toJson))
  | .optional body => tagged "element" "optional" "body" body.toJson
  | .graph name body =>
    tagged "element" "graph" "body" (.fields [("name", name.toJson), ("pattern", body.toJson)])
  | .filter expression => tagged "element" "filter" "body" (.text expression)

/-- The patterns of a group. -/
def Pattern.listToJson : List Pattern → List Json
  | [] => []
  | child :: rest => child.toJson :: Pattern.listToJson rest

end

/-- A modification without the clauses it lacks. -/
def Modify.toJson (modify : Modify) : Json :=
  .fields (ifPresent "with_graph" .text modify.withGraph ++
    unlessEmpty "using" .text modify.usingGraphs ++
    unlessEmpty "using_named" .text modify.usingNamed ++
    ifPresent "delete" quads modify.delete ++ ifPresent "insert" quads modify.insert ++
    [("where_pattern", modify.pattern.toJson)])

/-- An operation by its kind and its body. -/
def Operation.toJson : Operation → Json
  | .insertData data => tagged "operation" "insert_data" "body" (quads data)
  | .deleteData data => tagged "operation" "delete_data" "body" (quads data)
  | .deleteWhere data => tagged "operation" "delete_where" "body" (quads data)
  | .modify change => tagged "operation" "modify" "body" change.toJson

/-- A prefix declaration. -/
def PrefixDecl.toJson (decl : PrefixDecl) : Json :=
  .fields [("label", .text decl.label), ("iri", .text decl.iri)]

/-- A request without the parts of the prologue it lacks. -/
def Request.toJson (request : Request) : Json :=
  .fields (ifPresent "base" .text request.base ++
    unlessEmpty "prefixes" PrefixDecl.toJson request.prefixes ++
    [("operations", .array (request.operations.map Operation.toJson))])

/-! ## Reading -/

/-- The quads that a list stands for. -/
def Wire.quads? : Nat → Json → Option (List Quad) := list? Quad.ofJson?

mutual

/-- The pattern that a value stands for. -/
def Pattern.ofJson? : Nat → Json → Option Pattern
  | 0, _ => none
  | depth + 1, json => do
    match ← tagged? "element" "body" depth json with
    | ("group", some body) => .group <$> Pattern.listOfJson? depth body
    | ("basic_block", some body) => .block <$> list? Triple.ofJson? depth body
    | ("optional", some body) => .optional <$> Pattern.ofJson? depth body
    | ("graph", some body) => Pattern.graphOfJson? depth body
    | ("filter", some body) => .filter <$> body.asText?
    | _ => none

/-- The patterns that a list stands for. -/
def Pattern.listOfJson? : Nat → Json → Option (List Pattern)
  | depth + 1, .array items => items.mapM (Pattern.ofJson? depth)
  | _, _ => none

/-- The pattern of a graph whose name and body an object holds. -/
def Pattern.graphOfJson? : Nat → Json → Option Pattern
  | 0, _ => none
  | depth + 1, json => do
    match ← objectParts? ["name", "pattern"] json with
    | [some name, some body] =>
      return .graph (← Term.ofJson? depth name) (← Pattern.ofJson? depth body)
    | _ => none

end

/-- The modification that a value stands for. -/
def Modify.ofJson? : Nat → Json → Option Modify
  | 0, _ => none
  | depth + 1, json => do
    match ← parts? ["with_graph", "using", "using_named", "delete", "insert", "where_pattern"] json
      with
    | [withGraph, usingGraphs, usingNamed, delete, insert, some pattern] =>
      return {
        withGraph := ← withDefault? (nullable? Json.asText?) none withGraph
        usingGraphs := ← withDefault? (texts? depth) [] usingGraphs
        usingNamed := ← withDefault? (texts? depth) [] usingNamed
        delete := ← withDefault? (nullable? (quads? depth)) none delete
        insert := ← withDefault? (nullable? (quads? depth)) none insert
        pattern := ← Pattern.ofJson? depth pattern }
    | _ => none

/-- The operation that a value stands for. -/
def Operation.ofJson? : Nat → Json → Option Operation
  | 0, _ => none
  | depth + 1, json => do
    match ← tagged? "operation" "body" depth json with
    | ("insert_data", some body) => .insertData <$> quads? depth body
    | ("delete_data", some body) => .deleteData <$> quads? depth body
    | ("delete_where", some body) => .deleteWhere <$> quads? depth body
    | ("modify", some body) => .modify <$> Modify.ofJson? depth body
    | _ => none

/-- The prefix declaration that a value stands for. -/
def PrefixDecl.ofJson? : Nat → Json → Option PrefixDecl
  | 0, _ => none
  | _ + 1, json => do
    match ← parts? ["label", "iri"] json with
    | [some label, some iri] => return ⟨← label.asText?, ← iri.asText?⟩
    | _ => none

/-- The request that a value stands for. -/
def Request.ofJson? : Nat → Json → Option Request
  | 0, _ => none
  | depth + 1, json => do
    match ← parts? ["base", "prefixes", "operations"] json with
    | [base, prefixes, some operations] =>
      return {
        base := ← withDefault? (nullable? Json.asText?) none base
        prefixes := ← withDefault? (list? PrefixDecl.ofJson? depth) [] prefixes
        operations := ← list? Operation.ofJson? depth operations }
    | _ => none

/-- The request that a JSON text holds. -/
def Request.parse? (text : String) : Option Request := do
  Request.ofJson? maxDepth (← Json.parse? text)

/-- The request that a body holds. -/
def Request.ofText (text : String) : Except BodyError Request :=
  match Request.parse? text with
  | some request => .ok request
  | none => .error .malformed

end RdfGateway
