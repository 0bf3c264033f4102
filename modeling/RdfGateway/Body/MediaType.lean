import RdfGateway.Text.Blank

/-!
# Media types

The media type of a body says which reader it is for. Parameters after a semicolon, the case of
letters and white space around the type do not count.
-/

namespace RdfGateway

/-- Why a body is no graph or no update. -/
inductive BodyError where
  /-- There is no reader for the media type. -/
  | unsupportedMediaType (essence : String)
  /-- The IRI that relative IRIs are resolved against is no absolute IRI. -/
  | invalidBase (text : String)
  /-- A statement has another statement in the place of a term. -/
  | quotedStatement
  /-- The body does not follow the grammar of its media type. -/
  | malformed
  deriving DecidableEq, Inhabited

/-- What is said before the cause of a body that cannot be read. -/
def BodyError.notParsable : String := "RDF was not parsable: "

/-- What is said of a body. -/
def BodyError.message : BodyError → String
  | .unsupportedMediaType essence => "media type " ++ essence ++ " is not a valid RDF format"
  | .invalidBase text => notParsable ++ "invalid base IRI " ++ text
  | .quotedStatement => notParsable ++ "unsupported term kind Triple in request body"
  | .malformed => notParsable ++ "the body does not follow its grammar"

/-- The formats of bodies. -/
inductive MediaType where
  | turtle
  | nTriples
  deriving DecidableEq, Inhabited

namespace MediaType

/-- The name of the format. -/
def name : MediaType → String
  | .turtle => "text/turtle"
  | .nTriples => "application/n-triples"

/-- The type itself: what stands before the parameters, in lower case. -/
def essence (contentType : String) : String :=
  let type := Text.trim (.ofList (contentType.toList.takeWhile (· != ';')))
  .ofList (type.toList.map Char.toLower)

/-- The format of a content type. -/
def ofContentType (contentType : String) : Except BodyError MediaType :=
  match essence contentType with
  | "text/turtle" | "application/x-turtle" => .ok .turtle
  | "application/n-triples" | "text/plain" => .ok .nTriples
  | other => .error (.unsupportedMediaType other)

end MediaType

end RdfGateway
