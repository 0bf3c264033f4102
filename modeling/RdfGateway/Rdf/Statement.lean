import RdfGateway.Policy.Vocabulary
import RdfGateway.Rdf.Term

/-!
# Statements of documents

What a document may state: a resource is the subject, an IRI the predicate, and a resource or a
literal the object. There are no variables, a literal has a datatype or a language tag but never
both, and the datatype of plain text is not kept.

* `toTriple_shape`: the statement keeps this form as a triple.
-/

namespace RdfGateway

/-- What a statement of a document is about. -/
inductive Resource where
  | iri (text : String)
  | blank (label : String)
  deriving DecidableEq, Inhabited

/-- What a statement of a document says of its subject. -/
inductive Node where
  | resource (resource : Resource)
  | plain (lexical : String)
  | tagged (lexical language : String)
  | typed (lexical datatype : String)
  deriving DecidableEq, Inhabited

/-- A statement of a document. -/
structure Statement where
  subject : Resource
  predicate : String
  object : Node
  deriving DecidableEq, Inhabited

/-- A term of a statement that is read, or another statement in its place. -/
inductive Place (α : Type) where
  | term (term : α)
  | quoted
  deriving DecidableEq, Inhabited

/-- What a reader states: a statement, or one with other statements in the place of its terms. -/
structure Emission where
  subject : Place Resource
  predicate : String
  object : Place Node
  deriving DecidableEq, Inhabited

/-- The statement, when no other statement stands in the place of a term. -/
def Emission.statement? : Emission → Option Statement
  | ⟨.term subject, predicate, .term object⟩ => some ⟨subject, predicate, object⟩
  | _ => none

/-- The resource as a term. -/
def Resource.toTerm : Resource → Term
  | .iri text => .iri text
  | .blank label => .blank label

/-- The literal with a datatype, plain when the datatype is that of plain text. -/
def typedLiteral (lexical datatype : String) : Literal :=
  if datatype = Vocabulary.xsdString then .plain lexical else .typed lexical datatype

/-- The node as a term. -/
def Node.toTerm : Node → Term
  | .resource node => node.toTerm
  | .plain lexical => .literal (.plain lexical)
  | .tagged lexical language => .literal (.tagged lexical language)
  | .typed lexical datatype => .literal (typedLiteral lexical datatype)

/-- The statement as a triple. -/
def Statement.toTriple (statement : Statement) : Triple where
  subject := statement.subject.toTerm
  predicate := .iri statement.predicate
  object := statement.object.toTerm

/-! ## The form of the triples -/

/-- The term is an IRI or a blank node. -/
def Term.isResource : Term → Bool
  | .iri _ | .blank _ => true
  | _ => false

/-- The literal has a datatype or a language tag, not both, and not the datatype of plain text. -/
def Literal.isOrdinary (literal : Literal) : Bool :=
  (literal.datatype.isNone || literal.language.isNone) &&
    literal.datatype != some Vocabulary.xsdString

/-- The term may be the object of a statement of a document. -/
def Term.isNode : Term → Bool
  | .literal content => content.isOrdinary
  | term => term.isResource

/-- The triple has the form of a statement of a document. -/
def Triple.isPlain (triple : Triple) : Bool :=
  triple.subject.isResource && triple.predicate.isIri && triple.object.isNode

theorem Resource.toTerm_isResource (resource : Resource) : resource.toTerm.isResource = true := by
  cases resource <;> rfl

theorem typedLiteral_isOrdinary (lexical datatype : String) :
    (typedLiteral lexical datatype).isOrdinary = true := by
  by_cases h : datatype = Vocabulary.xsdString
  · simp [typedLiteral, h, Literal.isOrdinary, Literal.plain]
  · simp [typedLiteral, h, Literal.isOrdinary, Literal.typed]

theorem Node.toTerm_isNode (node : Node) : node.toTerm.isNode = true := by
  cases node with
  | resource resource => cases resource <;> rfl
  | plain lexical => simp [toTerm, Term.isNode, Literal.isOrdinary, Literal.plain]
  | tagged lexical language => simp [toTerm, Term.isNode, Literal.isOrdinary, Literal.tagged]
  | typed lexical datatype => exact typedLiteral_isOrdinary lexical datatype

theorem Statement.toTriple_shape (statement : Statement) : statement.toTriple.isPlain = true := by
  simp [Triple.isPlain, toTriple, Resource.toTerm_isResource, Node.toTerm_isNode, Term.isIri,
    Term.asIri]

end RdfGateway
