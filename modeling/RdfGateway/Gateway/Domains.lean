import RdfGateway.Gateway.Fault
import RdfGateway.Rdf.Graph

/-!
# The two identifier domains

Clients name a resource by an IRI below an external base, the store by an identifier at or below an
internal root. The base ends in a slash and the root does not; the path below them is the same, and
base and root stand for each other. What lies outside its domain is left as it is.
-/

namespace RdfGateway

open RdfGateway.Text

/-- The domain of the clients and the domain of the store. -/
structure Domains where
  /-- What the IRIs of the external domain begin with; it ends in a slash. -/
  externalBase : String
  /-- The identifier at the top of the internal domain; it does not end in a slash. -/
  internalRoot : String
  deriving DecidableEq, Inhabited

namespace Domains

/-- The internal root of a repository that configures none. -/
def defaultRoot : String := "info:fedora"

/-- A text with a slash at its end. -/
def withSlash (text : String) : String :=
  if text.toList.getLast? = some '/' then text else text ++ "/"

/-- A text without slashes at its end. -/
def withoutSlashes (text : String) : String :=
  .ofList (text.toList.reverse.dropWhile (· == '/')).reverse

/-- The domains with this base and this root. The base is checked as it is given, the root without
the slashes at its end. -/
def ofTexts (base root : String) : Except Fault Domains := do
  Fault.check (iriFault? base)
  Fault.check (iriFault? (withoutSlashes root))
  return ⟨withSlash base, withoutSlashes root⟩

/-- The IRI lies in the external domain. -/
def isExternal (domains : Domains) (iri : String) : Bool := beginsWith iri domains.externalBase

/-- The identifier is the internal root or lies below it. -/
def isInternal (domains : Domains) (id : String) : Bool :=
  match rest? domains.internalRoot.toList id.toList with
  | some [] => true
  | some (c :: _) => c == '/'
  | none => false

/-- The identifier of an IRI of the external domain. -/
def inward (domains : Domains) (iri : String) : String :=
  match rest? domains.externalBase.toList iri.toList with
  | some [] => domains.internalRoot
  | some path => .ofList (domains.internalRoot.toList ++ '/' :: path)
  | none => iri

/-- The IRI of an identifier of the internal domain. -/
def outward (domains : Domains) (id : String) : String :=
  match rest? domains.internalRoot.toList id.toList with
  | some [] => domains.externalBase
  | some ('/' :: path) => .ofList (domains.externalBase.toList ++ path)
  | _ => id

/-- The identifier of an absolute IRI. -/
def internalize (domains : Domains) (iri : String) : Except Fault String := do
  Fault.check (iriFault? iri)
  return domains.inward iri

/-- A term with its IRI made internal. -/
def internalizeTerm (domains : Domains) : Term → Except Fault Term
  | .iri text => .iri <$> domains.internalize text
  | term => .ok term

/-- A statement with its subject and its object made internal. -/
def internalizeTriple (domains : Domains) (triple : Triple) : Except Fault Triple := do
  return { triple with
    subject := ← domains.internalizeTerm triple.subject
    object := ← domains.internalizeTerm triple.object }

/-- A term with its IRI made external. -/
def externalizeTerm (domains : Domains) : Term → Term
  | .iri id => .iri (domains.outward id)
  | term => term

/-- A statement with its subject and its object made external. -/
def externalizeTriple (domains : Domains) (triple : Triple) : Triple :=
  { triple with
    subject := domains.externalizeTerm triple.subject
    object := domains.externalizeTerm triple.object }

/-- A graph of the store as clients see it. -/
def externalizeGraph (domains : Domains) (graph : Graph) : Graph :=
  .ofList (graph.triples.map domains.externalizeTriple)

end Domains

end RdfGateway
