import RdfGateway.Rdf.Graph
import RdfGateway.Wire.Shape

/-!
# Statements in JSON

Terms, statements, quads and graphs as JSON values, and back.
-/

namespace RdfGateway

open Wire

/-! ## Writing -/

/-- A literal without the parts it lacks. -/
def Literal.toJson (literal : Literal) : Json :=
  .fields (("lexical", .text literal.lexical) ::
    ((literal.datatype.map fun iri => ("datatype", .text iri)).toList ++
      (literal.language.map fun tag => ("language", .text tag)).toList))

/-- A tag and a content. -/
def Wire.tagged (tagName tag contentName : String) (content : Json) : Json :=
  .fields [(tagName, .text tag), (contentName, content)]

/-- A term by its kind and its value. -/
def Term.toJson : Term → Json
  | .iri text => tagged "type" "iri" "value" (.text text)
  | .blank label => tagged "type" "blank_node" "value" (.text label)
  | .literal content => tagged "type" "literal" "value" content.toJson
  | .variable name => tagged "type" "variable" "value" (.text name)

/-- The members of a statement. -/
def Triple.members (triple : Triple) : List (String × Json) :=
  [("subject", triple.subject.toJson), ("predicate", triple.predicate.toJson),
    ("object", triple.object.toJson)]

/-- A statement by its three terms. -/
def Triple.toJson (triple : Triple) : Json := .fields triple.members

/-- A graph name by its kind and its value. -/
def GraphName.toJson : GraphName → Json
  | .default => .fields [("type", .text "default")]
  | .named name => tagged "type" "named" "value" name.toJson

/-- A quad: the graph name beside the terms of the statement. -/
def Quad.toJson (quad : Quad) : Json :=
  .fields (("graph", quad.graph.toJson) :: quad.triple.members)

/-- A graph as the list of its statements. -/
def Graph.toJson (graph : Graph) : Json := .array (graph.triples.map Triple.toJson)

/-! ## Reading -/

/-- The literal that a value stands for. -/
def Literal.ofJson? : Nat → Json → Option Literal
  | 0, _ => none
  | _ + 1, json => do
    match ← parts? ["lexical", "datatype", "language"] json with
    | [some lexical, datatype, language] =>
      return {
        lexical := ← lexical.asText?
        datatype := ← withDefault? (nullable? Json.asText?) none datatype
        language := ← withDefault? (nullable? Json.asText?) none language }
    | _ => none

/-- The term that a value stands for. -/
def Term.ofJson? : Nat → Json → Option Term
  | 0, _ => none
  | depth + 1, json => do
    match ← tagged? "type" "value" depth json with
    | ("iri", some value) => .iri <$> value.asText?
    | ("blank_node", some value) => .blank <$> value.asText?
    | ("literal", some value) => .literal <$> Literal.ofJson? depth value
    | ("variable", some value) => .variable <$> value.asText?
    | _ => none

/-- The statement whose terms are given. -/
def Triple.ofParts? (depth : Nat) : List (Option Json) → Option Triple
  | [some subject, some predicate, some object] => do
    return {
      subject := ← Term.ofJson? depth subject
      predicate := ← Term.ofJson? depth predicate
      object := ← Term.ofJson? depth object }
  | _ => none

/-- The statement that a value stands for. -/
def Triple.ofJson? : Nat → Json → Option Triple
  | 0, _ => none
  | depth + 1, json => do Triple.ofParts? depth (← parts? ["subject", "predicate", "object"] json)

/-- The graph name that a value stands for. -/
def GraphName.ofJson? : Nat → Json → Option GraphName
  | 0, _ => none
  | depth + 1, json => do
    match ← tagged? "type" "value" depth json with
    | ("default", none) | ("default", some .null) => some .default
    | ("named", some value) => .named <$> Term.ofJson? depth value
    | _ => none

/-- The quad that an object stands for. Everything but its graph name is gone through whole before
the statement is looked for in it. -/
def Quad.ofJson? : Nat → Json → Option Quad
  | depth + 1, .object members => do
    let members ← keyed? members
    let graph ← withDefault? (GraphName.ofJson? depth) .default (← member? members "graph")
    let others := members.filter (·.1 ≠ "graph")
    if !others.all (·.2.isReadable depth) then none
    else
      let parts ← ["subject", "predicate", "object"].mapM (member? others)
      return { triple := ← Triple.ofParts? depth parts, graph }
  | _, _ => none

/-- The graph that a list of statements stands for. -/
def Graph.ofJson? (depth : Nat) (json : Json) : Option Graph :=
  .ofList <$> list? Triple.ofJson? depth json

end RdfGateway
