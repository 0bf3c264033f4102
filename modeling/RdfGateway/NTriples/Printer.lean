import RdfGateway.Rdf.Graph

/-!
# N-Triples and the text of terms

The text of a term is its N-Triples form, which is also its form in an update; a variable has a
question mark. A graph is written one statement a line, in the order of the graph.
-/

namespace RdfGateway

/-- A character as it stands in a string. -/
def NTriples.escapeChar : Char → List Char
  | '\\' => ['\\', '\\']
  | '"' => ['\\', '"']
  | '\n' => ['\\', 'n']
  | '\r' => ['\\', 'r']
  | '\t' => ['\\', 't']
  | c => [c]

/-- The text of a literal as it stands between quotes. -/
def NTriples.escape (text : String) : String := .ofList (text.toList.flatMap NTriples.escapeChar)

/-- The literal in quotes with its language tag or its datatype. A language tag goes before a
datatype. -/
def Literal.text (literal : Literal) : String :=
  "\"" ++ NTriples.escape literal.lexical ++ "\"" ++
    match literal.language, literal.datatype with
    | some language, _ => "@" ++ language
    | none, some datatype => "^^<" ++ datatype ++ ">"
    | none, none => ""

/-- The text of a term. -/
def Term.text : Term → String
  | .iri text => "<" ++ text ++ ">"
  | .blank label => "_:" ++ label
  | .literal content => content.text
  | .variable name => "?" ++ name

/-- The three terms of a statement. -/
def Triple.text (triple : Triple) : String :=
  triple.subject.text ++ " " ++ triple.predicate.text ++ " " ++ triple.object.text

/-- A statement as a line of N-Triples. -/
def Triple.line (triple : Triple) : String := triple.text ++ " .\n"

/-- The graph in N-Triples. -/
def Graph.toNTriples (graph : Graph) : String := String.join (graph.triples.map Triple.line)

end RdfGateway
