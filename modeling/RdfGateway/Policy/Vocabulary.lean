/-!
# Vocabularies

The namespaces that the repository reads or protects, and the terms of each that only the server
may write. A namespace may be managed as a whole, or term by term.
-/

namespace RdfGateway.Vocabulary

/-- A namespace and the terms of it that clients may not write. -/
structure Namespace where
  /-- The conventional prefix. -/
  label : String
  /-- The IRI that every term of the namespace begins with. -/
  iri : String
  /-- A name for people. -/
  title : String
  /-- Every term of the namespace belongs to the server. -/
  managed : Bool
  /-- Predicates that clients may never write. -/
  managedPredicates : List String
  /-- Types that clients may never assert. -/
  restrictedTypes : List String
  /-- Types that clients may assert under relaxed enforcement only. -/
  relaxableTypes : List String
  deriving DecidableEq

/-- The RDF namespace. -/
def rdfIri : String := "http://www.w3.org/1999/02/22-rdf-syntax-ns#"

/-- The predicate of type assertions. -/
def rdfType : String := "http://www.w3.org/1999/02/22-rdf-syntax-ns#type"

/-- The first item of a list node. -/
def rdfFirst : String := "http://www.w3.org/1999/02/22-rdf-syntax-ns#first"

/-- The list that follows a list node. -/
def rdfRest : String := "http://www.w3.org/1999/02/22-rdf-syntax-ns#rest"

/-- The empty list. -/
def rdfNil : String := "http://www.w3.org/1999/02/22-rdf-syntax-ns#nil"

/-- The datatype of plain text. -/
def xsdString : String := "http://www.w3.org/2001/XMLSchema#string"

/-- The datatype of whole numbers. -/
def xsdInteger : String := "http://www.w3.org/2001/XMLSchema#integer"

/-- The datatype of decimal fractions. -/
def xsdDecimal : String := "http://www.w3.org/2001/XMLSchema#decimal"

/-- The datatype of numbers with an exponent. -/
def xsdDouble : String := "http://www.w3.org/2001/XMLSchema#double"

/-- The datatype of truth values. -/
def xsdBoolean : String := "http://www.w3.org/2001/XMLSchema#boolean"

/-- The RDF namespace, of which the server manages nothing. -/
def rdf : Namespace where
  label := "rdf"
  iri := rdfIri
  title := "RDF syntax"
  managed := false
  managedPredicates := []
  restrictedTypes := []
  relaxableTypes := []

/-- The repository's own namespace, managed as a whole. -/
def repository : Namespace where
  label := "fedora"
  iri := "http://fedora.info/definitions/v4/repository#"
  title := "Fedora Repository"
  managed := true
  managedPredicates :=
    ["http://fedora.info/definitions/v4/repository#created",
      "http://fedora.info/definitions/v4/repository#createdBy",
      "http://fedora.info/definitions/v4/repository#lastModified",
      "http://fedora.info/definitions/v4/repository#lastModifiedBy",
      "http://fedora.info/definitions/v4/repository#hasParent",
      "http://fedora.info/definitions/v4/repository#hasFixityService",
      "http://fedora.info/definitions/v4/repository#writable"]
  restrictedTypes :=
    ["http://fedora.info/definitions/v4/repository#Resource",
      "http://fedora.info/definitions/v4/repository#Container",
      "http://fedora.info/definitions/v4/repository#Binary",
      "http://fedora.info/definitions/v4/repository#NonRdfSourceDescription",
      "http://fedora.info/definitions/v4/repository#Pairtree",
      "http://fedora.info/definitions/v4/repository#Tombstone"]
  relaxableTypes := []

/-- Containment and the interaction models of linked data platforms. -/
def ldp : Namespace where
  label := "ldp"
  iri := "http://www.w3.org/ns/ldp#"
  title := "Linked Data Platform"
  managed := false
  managedPredicates := ["http://www.w3.org/ns/ldp#contains"]
  restrictedTypes := ["http://www.w3.org/ns/ldp#NonRDFSource"]
  relaxableTypes :=
    ["http://www.w3.org/ns/ldp#Resource",
      "http://www.w3.org/ns/ldp#RDFSource",
      "http://www.w3.org/ns/ldp#Container",
      "http://www.w3.org/ns/ldp#BasicContainer",
      "http://www.w3.org/ns/ldp#DirectContainer",
      "http://www.w3.org/ns/ldp#IndirectContainer"]

/-- Versions of a resource, managed as a whole. -/
def memento : Namespace where
  label := "memento"
  iri := "http://mementoweb.org/ns#"
  title := "Memento"
  managed := true
  managedPredicates := ["http://mementoweb.org/ns#mementoDatetime"]
  restrictedTypes :=
    ["http://mementoweb.org/ns#Memento",
      "http://mementoweb.org/ns#TimeMap",
      "http://mementoweb.org/ns#TimeGate",
      "http://mementoweb.org/ns#OriginalResource"]
  relaxableTypes := []

/-- Fixity of binary content. -/
def premis : Namespace where
  label := "premis"
  iri := "http://www.loc.gov/premis/rdf/v1#"
  title := "PREMIS preservation metadata"
  managed := false
  managedPredicates :=
    ["http://www.loc.gov/premis/rdf/v1#hasSize",
      "http://www.loc.gov/premis/rdf/v1#hasMessageDigest"]
  restrictedTypes := []
  relaxableTypes := []

/-- The namespaces that the built-in policy is made from. -/
def namespaces : List Namespace := [rdf, repository, ldp, memento, premis]

end RdfGateway.Vocabulary
