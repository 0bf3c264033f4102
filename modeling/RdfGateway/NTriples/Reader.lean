import RdfGateway.Body.MediaType
import RdfGateway.Turtle.Token
import RdfGateway.Text.Cut

/-!
# Reading N-Triples

A document is a sequence of lines, and a line holds one statement or none. Spaces and tabs may
stand between the terms; after the dot, the line may go on with a comment. A carriage return at
the start of a line or after the dot ends the line's meaning.

A statement may have another statement in double angle brackets in the place of its subject or its
object. Such a line is read to its end and then refused.
-/

namespace RdfGateway

namespace NTriples

/-- A space or a tab. -/
def isBlank (c : Option Char) : Bool := c == some ' ' || c == some '\t'

/-- The document after spaces and tabs. -/
def skip (document : Document) : Document := document.dropWhile isBlank

/-- The document after a character. -/
def expect (char : Char) : Document → Option Document
  | some c :: rest => if c = char then some rest else none
  | _ => none

/-- An absolute IRI in angle brackets. -/
def iri (document : Document) : Option (String × Document) := do
  let (text, rest) ← Token.iriText (← expect '<' document)
  if Iri.isAbsoluteReference text then some (.ofList text, rest) else none

/-- An IRI or a blank node. -/
def resource : Document → Option (Resource × Document)
  | some '_' :: some ':' :: rest => do
    let (label, rest) ← Token.blankLabel rest
    return (.blank label, rest)
  | document => do
    let (text, rest) ← iri document
    return (.iri text, rest)

/-- What may follow the text of a literal: a language tag, a datatype, or nothing. -/
def literalOf (lexical : String) (document : Document) : Option (Node × Document) :=
  match skip document with
  | some '@' :: rest => do
    let (tag, rest) ← Token.languageTag rest
    return (.tagged lexical tag, rest)
  | some '^' :: rest => do
    let (datatype, rest) ← iri (skip (← expect '^' rest))
    return (.typed lexical datatype, rest)
  | rest => some (.plain lexical, rest)

/-- An IRI, a blank node or a literal. -/
def node : Document → Option (Node × Document)
  | some '"' :: rest => do
    let (text, rest) ← Token.stringText (.short '"') rest
    literalOf (.ofList text) rest
  | document => do
    let (found, rest) ← resource document
    return (.resource found, rest)

/-- The greatest depth of statements within statements. -/
def maxDepth : Nat := 128

mutual

/-- A term read by `plain`, or a statement in double angle brackets. -/
def place {α : Type} (plain : Document → Option (α × Document)) :
    Nat → Document → Option (Place α × Document)
  | depth, some '<' :: some '<' :: rest => do return (.quoted, ← quotedStatement depth rest)
  | _, document => do
    let (term, rest) ← plain document
    return (.term term, rest)
termination_by depth => (depth, 1)

/-- A statement between double angle brackets, the first of which have been read. -/
def quotedStatement : Nat → Document → Option Document
  | 0, _ => none
  | depth + 1, document => do
    let (_, rest) ← place resource depth (skip document)
    let (_, rest) ← iri (skip rest)
    let (_, rest) ← place node depth (skip rest)
    expect '>' (← expect '>' (skip rest))
termination_by depth => (depth, 0)

end

/-- Nothing that has a meaning follows on the line. -/
def isLineEnd (document : Document) : Bool :=
  match skip document with
  | [] => true
  | c :: _ => c == some '#' || c == some '\r'

/-- The subject, the predicate and the object of a line. -/
def terms (document : Document) : Option (Place Resource × String × Place Node) := do
  let (subject, rest) ← place resource maxDepth document
  let (predicate, rest) ← iri (skip rest)
  let (object, rest) ← place node maxDepth (skip rest)
  if isLineEnd (← expect '.' (skip rest)) then some (subject, predicate, object) else none

/-- The statement of a line, if it has one. -/
def line (document : Document) : Except BodyError (Option Statement) :=
  if isLineEnd document then .ok none
  else
    match terms (skip document) with
    | none => .error .malformed
    | some (.term subject, predicate, .term object) => .ok (some ⟨subject, predicate, object⟩)
    | some _ => .error .quotedStatement

/-- The statements of a document in order. -/
def statements (document : Document) : Except BodyError (List Statement) := do
  return (← (Text.pieces (some '\n') document).mapM line).filterMap id

end NTriples

end RdfGateway
