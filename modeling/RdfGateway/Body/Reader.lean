import RdfGateway.Iri.Absolute
import RdfGateway.NTriples.Reader
import RdfGateway.Rdf.Graph
import RdfGateway.Text.Utf8
import RdfGateway.Turtle.Reader

/-!
# Reading bodies

A body is read by the reader of its media type. Turtle resolves relative IRIs against the IRI of
the resource that the body is sent to; N-Triples has no relative IRIs, so there the resource does
not count.
-/

namespace RdfGateway

/-- The IRI that relative IRIs of a body are resolved against. -/
def bodyBase? : Option String → Except BodyError (Option Iri.Reference)
  | none => .ok none
  | some text =>
    if Iri.isAbsolute text then .ok (some (.ofText text.toList)) else .error (.invalidBase text)

/-- The statements of a body in the order in which they are stated. -/
def readStatements (bytes : ByteArray) (mediaType : MediaType) (resource : Option String) :
    Except BodyError (List Statement) := do
  let document := Text.characters bytes
  match mediaType with
  | .turtle => Turtle.statementsOf (← bodyBase? resource) document
  | .nTriples => NTriples.statements document

/-- The graph of a body. -/
def readGraph (bytes : ByteArray) (mediaType : MediaType) (resource : Option String) :
    Except BodyError Graph := do
  return .ofList ((← readStatements bytes mediaType resource).map Statement.toTriple)

/-- The graph of a body with its content type. -/
def readBody (bytes : ByteArray) (contentType : String) (resource : Option String) :
    Except BodyError Graph := do
  readGraph bytes (← MediaType.ofContentType contentType) resource

end RdfGateway
