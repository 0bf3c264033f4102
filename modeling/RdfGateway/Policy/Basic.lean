import RdfGateway.Policy.IriSet
import RdfGateway.Policy.Violation
import RdfGateway.Policy.Vocabulary
import RdfGateway.Text.Lead

/-!
# The policy

The policy says which predicates and types belong to the server. Of two rules the first that fits
decides: a managed predicate, then a type that is asserted. A relaxable type is no restricted
type, whatever else the policy says of it.
-/

namespace RdfGateway

/-- What clients may not write. -/
structure Policy where
  /-- Namespaces of which every term belongs to the server. -/
  managedNamespaces : IriSet
  /-- Predicates that clients may never write. -/
  managedPredicates : IriSet
  /-- Types that clients may never assert. -/
  restrictedTypes : IriSet
  /-- Types that clients may assert under relaxed enforcement only. -/
  relaxableTypes : IriSet
  /-- Predicates that assert a type. -/
  typePredicates : IriSet
  deriving DecidableEq, Inhabited

namespace Policy

/-- The policy that manages nothing. -/
def empty : Policy where
  managedNamespaces := ∅
  managedPredicates := ∅
  restrictedTypes := ∅
  relaxableTypes := ∅
  typePredicates := .ofList [Vocabulary.rdfType]

/-- The policy of the repository, made from its namespaces. -/
def builtin : Policy :=
  let namespaces := Vocabulary.namespaces
  { managedNamespaces := .ofList ((namespaces.filter (·.managed)).map (·.iri))
    managedPredicates := .ofList (namespaces.flatMap (·.managedPredicates))
    restrictedTypes := .ofList (namespaces.flatMap (·.restrictedTypes))
    relaxableTypes := .ofList (namespaces.flatMap (·.relaxableTypes))
    typePredicates := empty.typePredicates }

/-- The IRI lies in a managed namespace. -/
def inManagedNamespace (policy : Policy) (iri : String) : Bool :=
  policy.managedNamespaces.toList.any (Text.beginsWith iri)

/-- The predicate belongs to the server. -/
def isManagedPredicate (policy : Policy) (iri : String) : Bool :=
  iri ∈ policy.managedPredicates || policy.inManagedNamespace iri

/-- The type is waived under relaxed enforcement. -/
def isRelaxableType (policy : Policy) (iri : String) : Bool := iri ∈ policy.relaxableTypes

/-- The type may never be asserted. -/
def isRestrictedType (policy : Policy) (iri : String) : Bool :=
  !policy.isRelaxableType iri && (iri ∈ policy.restrictedTypes || policy.inManagedNamespace iri)

/-- The predicate asserts a type. -/
def isTypePredicate (policy : Policy) (iri : String) : Bool := iri ∈ policy.typePredicates

/-- The offence of asserting a type. -/
def typeOffence? (policy : Policy) (iri : String) : Option Offence :=
  if policy.isRestrictedType iri then some .managedType
  else if policy.isRelaxableType iri then some .relaxableType
  else none

/-- The offence of writing a statement. A variable in the place of an IRI is no offence. -/
def offence? (policy : Policy) (triple : Triple) : Option Offence :=
  match triple.predicate.asIri with
  | none => none
  | some predicate =>
    if policy.isManagedPredicate predicate then some .managedProperty
    else if policy.isTypePredicate predicate then triple.object.asIri.bind policy.typeOffence?
    else none

/-- The violation of writing a statement. -/
def violation? (policy : Policy) (triple : Triple) : Option Violation :=
  (policy.offence? triple).map fun offence => ⟨offence, triple⟩

/-- The statement concerns a managed predicate or type in any way. -/
def touchesManaged (policy : Policy) (triple : Triple) : Bool :=
  (policy.offence? triple).isSome ||
    match triple.predicate.asIri, triple.object.asIri with
    | some predicate, some type =>
      policy.isTypePredicate predicate && policy.inManagedNamespace type
    | _, _ => false

end Policy

end RdfGateway
