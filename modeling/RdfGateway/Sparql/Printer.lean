import RdfGateway.NTriples.Printer
import RdfGateway.Sparql.Update

/-!
# The text of an update

A request is written as SPARQL Update text: the prologue one declaration a line, then the
operations with a semicolon between them, statements one a line. IRIs are always written in full,
so the prologue has no effect on what follows it.
-/

namespace RdfGateway

/-- A statement with its dot, inside its graph when it has one. -/
def Quad.text (quad : Quad) : String :=
  match quad.graph with
  | .default => quad.triple.text ++ " ."
  | .named name => "GRAPH " ++ name.text ++ " \x7b " ++ quad.triple.text ++ " . \x7d"

/-- The statements of an operation in braces, one a line. -/
def quadsText (quads : List Quad) : String :=
  "\x7b\n" ++ String.join (quads.map fun quad => "  " ++ quad.text ++ "\n") ++ "\x7d"

namespace Pattern

/-- The pattern has braces of its own. -/
def isGroup : Pattern → Bool
  | .group _ => true
  | _ => false

/-- A text in braces, unless it has them already. -/
def inBraces (braced : Bool) (text : String) : String :=
  if braced then text else "\x7b " ++ text ++ " \x7d"

mutual

/-- The text of a pattern. -/
def text : Pattern → String
  | .group children => "\x7b" ++ childrenText children ++ " \x7d"
  | .block triples => " ".intercalate (triples.map fun triple => triple.text ++ " .")
  | .optional body => "OPTIONAL " ++ inBraces body.isGroup body.text
  | .graph name body => "GRAPH " ++ name.text ++ " " ++ inBraces body.isGroup body.text
  | .filter expression => "FILTER(" ++ expression ++ ")"

/-- The texts of patterns, each after a space. -/
def childrenText : List Pattern → String
  | [] => ""
  | child :: rest => " " ++ child.text ++ childrenText rest

end

end Pattern

/-- A keyword and an IRI on a line of their own. -/
def clause (keyword iri : String) : String := keyword ++ " <" ++ iri ++ ">\n"

/-- A template on lines of its own, nothing when it is absent. -/
def templateText (keyword : String) : Option (List Quad) → String
  | some quads => keyword ++ " " ++ quadsText quads ++ "\n"
  | none => ""

/-- The text of a modification. -/
def Modify.text (modify : Modify) : String :=
  (modify.withGraph.elim "" (clause "WITH")) ++
    templateText "DELETE" modify.delete ++ templateText "INSERT" modify.insert ++
    String.join (modify.usingGraphs.map (clause "USING")) ++
    String.join (modify.usingNamed.map (clause "USING NAMED")) ++
    "WHERE " ++ Pattern.inBraces modify.pattern.isGroup modify.pattern.text

/-- The text of an operation. -/
def Operation.text (operation : Operation) : String :=
  match operation with
  | .insertData quads | .deleteData quads | .deleteWhere quads =>
    operation.keyword ++ " " ++ quadsText quads
  | .modify change => change.text

/-- A prefix declaration on a line of its own. -/
def PrefixDecl.text (decl : PrefixDecl) : String := clause ("PREFIX " ++ decl.label ++ ":") decl.iri

/-- The text of a request. -/
def Request.text (request : Request) : String :=
  request.base.elim "" (clause "BASE") ++ String.join (request.prefixes.map PrefixDecl.text) ++
    " ;\n".intercalate (request.operations.map Operation.text)

end RdfGateway
