import RdfGateway.Proofs.GraphOutcome
import RdfGateway.Proofs.Readings
import RdfGateway.Proofs.TermPositions

/-!
# Bodies are plain RDF

A body that is read is a graph of plain RDF (`Triple.IsPlainRdf`): the statements of the reader,
without repetition and in the order in which they were stated. The graph stays plain on the way
inwards, whatever the gateway, and on the way outwards. `readBody_plain` says this together with what
a body is refused for.

Proof. The form of a triple is a matter of the kinds of its terms and of the datatypes and language
tags of its literals (`Triple.isPlainRdf_iff`). Statements have this form by their type, and neither
mapping touches it.
-/

namespace RdfGateway

open Text

/-! ## The form of plain RDF -/

/-- The triple is one of plain RDF, and its literals are written in one way only. -/
structure Triple.IsPlainRdf (triple : Triple) : Prop where
  /-- The subject is an IRI or a blank node. -/
  subject : triple.subject.isResource = true
  predicate : triple.predicate.isIri = true
  /-- The object is an IRI, a blank node or a literal. -/
  object : triple.object.isResource = true ∨ triple.object.isLiteral = true
  ground : ∀ term ∈ triple.terms, term.isVariable = false
  /-- No literal has both a datatype and a language tag. -/
  single : ∀ literal, .literal literal ∈ triple.terms →
    literal.datatype = none ∨ literal.language = none
  /-- The datatype of plain text is not written. -/
  datatype : ∀ literal, .literal literal ∈ triple.terms →
    literal.datatype ≠ some Vocabulary.xsdString

theorem Literal.isOrdinary_iff {literal : Literal} : literal.isOrdinary = true ↔
    (literal.datatype = none ∨ literal.language = none) ∧
      literal.datatype ≠ some Vocabulary.xsdString := by
  rw [isOrdinary, Bool.and_eq_true, Bool.or_eq_true, Option.isNone_iff_eq_none,
    Option.isNone_iff_eq_none, bne_iff_ne]

/-- The kind of a term that may stand as an object, and the form of the literal that it may be. -/
theorem Term.isNode_iff {term : Term} : term.isNode = true ↔
    (term.isResource = true ∨ term.isLiteral = true) ∧
      ∀ literal, term = .literal literal → literal.isOrdinary = true := by
  cases term with
  | iri | blank => simp [isNode, isResource]
  | literal content => simp [isNode, isResource, isLiteral]
  | «variable» => simp [isNode, isResource, isLiteral]

theorem Term.isNode_of_isResource {term : Term} (h : term.isResource = true) :
    term.isNode = true := by
  cases term with
  | iri | blank => rfl
  | literal | «variable» => cases h

theorem Term.isNode_of_isIri {term : Term} (h : term.isIri = true) : term.isNode = true := by
  cases term with
  | iri => rfl
  | blank | literal | «variable» => cases h

theorem Term.isVariable_of_isNode {term : Term} (h : term.isNode = true) :
    term.isVariable = false := by
  cases term with
  | iri | blank | literal => rfl
  | «variable» => cases h

namespace Triple

variable {triple : Triple}

theorem isPlain_iff : triple.isPlain = true ↔ triple.subject.isResource = true ∧
    triple.predicate.isIri = true ∧ triple.object.isNode = true := by
  rw [isPlain, Bool.and_eq_true, Bool.and_eq_true, and_assoc]

/-- Every term of a plain triple may stand as an object. -/
theorem isNode_of_isPlain (h : triple.isPlain = true) : ∀ term ∈ triple.terms,
    term.isNode = true := by
  obtain ⟨hsubject, hpredicate, hobject⟩ := isPlain_iff.mp h
  simp only [terms, List.forall_mem_cons, List.not_mem_nil, false_implies, implies_true, and_true]
  exact ⟨Term.isNode_of_isResource hsubject, Term.isNode_of_isIri hpredicate, hobject⟩

theorem isPlainRdf_iff : triple.IsPlainRdf ↔ triple.isPlain = true := by
  constructor
  · intro h
    refine isPlain_iff.mpr ⟨h.subject, h.predicate, Term.isNode_iff.mpr ⟨h.object, ?_⟩⟩
    intro literal hliteral
    have hmem : Term.literal literal ∈ triple.terms := by simp [terms, hliteral]
    exact Literal.isOrdinary_iff.mpr ⟨h.single literal hmem, h.datatype literal hmem⟩
  · intro h
    obtain ⟨hsubject, hpredicate, hobject⟩ := isPlain_iff.mp h
    have hnode := isNode_of_isPlain h
    have hordinary {literal : Literal} (hmem : .literal literal ∈ triple.terms) :=
      Literal.isOrdinary_iff.mp ((Term.isNode_iff.mp (hnode _ hmem)).2 literal rfl)
    exact {
      subject := hsubject
      predicate := hpredicate
      object := (Term.isNode_iff.mp hobject).1
      ground := fun term hmem => Term.isVariable_of_isNode (hnode term hmem)
      single := fun _ hmem => (hordinary hmem).1
      datatype := fun _ hmem => (hordinary hmem).2 }

end Triple

/-- All triples are of plain RDF. -/
def Graph.IsPlainRdf (graph : Graph) : Prop := ∀ triple ∈ graph.triples, triple.IsPlainRdf

theorem Graph.isPlainRdf_ofList {triples : List Triple}
    (h : ∀ triple ∈ triples, triple.IsPlainRdf) : (Graph.ofList triples).IsPlainRdf :=
  fun triple ht => h triple (Graph.mem_ofList.mp ht)

/-! ## The two mappings -/

section

variable {domains : Domains} {triple : Triple} {graph image : Graph}

theorem Domains.isPlain_inwardTriple (triple : Triple) :
    (domains.inwardTriple triple).isPlain = triple.isPlain := by
  have hsubject : (domains.inwardTerm triple.subject).isResource = triple.subject.isResource :=
    Domains.apply_inwardTerm Term.isResource (fun _ _ => rfl) triple.subject
  have hobject : (domains.inwardTerm triple.object).isNode = triple.object.isNode :=
    Domains.apply_inwardTerm Term.isNode (fun _ _ => rfl) triple.object
  simp only [Triple.isPlain, Domains.inwardTriple, hsubject, hobject]

theorem Domains.apply_externalizeTerm (p : Term → Bool)
    (hp : ∀ iri other, p (.iri iri) = p (.iri other)) (term : Term) :
    p (domains.externalizeTerm term) = p term := by
  cases term with
  | iri text => exact hp _ _
  | blank | literal | «variable» => rfl

theorem Domains.isPlain_externalizeTriple (triple : Triple) :
    (domains.externalizeTriple triple).isPlain = triple.isPlain := by
  have hsubject : (domains.externalizeTerm triple.subject).isResource = triple.subject.isResource :=
    Domains.apply_externalizeTerm Term.isResource (fun _ _ => rfl) triple.subject
  have hobject : (domains.externalizeTerm triple.object).isNode = triple.object.isNode :=
    Domains.apply_externalizeTerm Term.isNode (fun _ _ => rfl) triple.object
  simp only [Triple.isPlain, Domains.externalizeTriple, hsubject, hobject]

theorem Gateway.considered_subset (gateway : Gateway) (graph : Graph) :
    gateway.considered graph ⊆ graph.triples := by
  rw [considered]
  split
  · exact List.filter_sublist.subset
  · exact List.Subset.refl _

/-- **Plain graphs stay plain on the way inwards**, whatever the policy, the domains and the mode. -/
theorem Gateway.isPlainRdf_internalizeGraph {gateway : Gateway} (h : graph.IsPlainRdf)
    (himage : gateway.internalizeGraph graph = .ok image) : image.IsPlainRdf := by
  obtain ⟨-, -, rfl⟩ := internalizeGraph_eq_ok_iff.mp himage
  refine Graph.isPlainRdf_ofList (List.forall_mem_map.mpr fun triple ht => ?_)
  rw [Triple.isPlainRdf_iff, Domains.isPlain_inwardTriple, ← Triple.isPlainRdf_iff]
  exact h triple (gateway.considered_subset graph ht)

/-- **Plain graphs stay plain on the way outwards.** -/
theorem Domains.isPlainRdf_externalizeGraph (h : graph.IsPlainRdf) :
    (domains.externalizeGraph graph).IsPlainRdf := by
  refine Graph.isPlainRdf_ofList (List.forall_mem_map.mpr fun triple ht => ?_)
  rw [Triple.isPlainRdf_iff, Domains.isPlain_externalizeTriple, ← Triple.isPlainRdf_iff]
  exact h triple ht

end

/-! ## Bodies -/

/-- **A body that is read is plain RDF and stays so**, and it is refused for what fails first: once
the first items of a Turtle document have stated a statement in the place of a term, whatever
follows them. -/
theorem readBody_plain :
    (∀ bytes contentType resource graph, readBody bytes contentType resource = .ok graph →
      graph.IsPlainRdf ∧
        ∃ (mediaType : MediaType) (statements : List Statement),
          MediaType.ofContentType contentType = .ok mediaType ∧
          bodyReading bytes mediaType resource =
            .ok ⟨statements.map Statement.emission, true⟩ ∧
          graph.triples = (statements.map Statement.toTriple).eraseDups) ∧
    (∀ graph : Graph, graph.IsPlainRdf →
      (∀ (gateway : Gateway) image, gateway.internalizeGraph graph = .ok image →
        image.IsPlainRdf) ∧
      ∀ domains : Domains, (domains.externalizeGraph graph).IsPlainRdf) ∧
    (∀ bytes contentType mediaType resource reading,
      MediaType.ofContentType contentType = .ok mediaType →
      bodyReading bytes mediaType resource = .ok reading →
      ((∃ emission ∈ reading.stated, emission.statement? = none) →
        readBody bytes contentType resource = .error .quotedStatement) ∧
      ((∀ emission ∈ reading.stated, emission.statement? ≠ none) →
        (reading.complete = false →
          readBody bytes contentType resource = .error .malformed) ∧
        (reading.complete = true → ∃ graph, readBody bytes contentType resource = .ok graph))) ∧
    (∀ bytes contentType resource base count, MediaType.ofContentType contentType = .ok .turtle →
      bodyBase? resource = .ok base → count ≤ (characters bytes).length + 1 →
      (∃ emission ∈ (Turtle.after base (characters bytes) count).stated,
        emission.statement? = none) →
      readBody bytes contentType resource = .error .quotedStatement) := by
  refine ⟨fun bytes contentType resource graph h => ?_, fun graph h => ?_,
    fun bytes contentType mediaType resource reading hmedia hreading => ?_,
    fun bytes contentType resource base count => readBody_of_quoted_after⟩
  · obtain ⟨mediaType, statements, hmedia, hreading, rfl⟩ := readBody_eq_ok_iff.mp h
    refine ⟨Graph.isPlainRdf_ofList (List.forall_mem_map.mpr fun statement _ => ?_), mediaType,
      statements, hmedia, hreading, Graph.triples_ofList _⟩
    exact Triple.isPlainRdf_iff.mpr statement.toTriple_shape
  · exact ⟨fun gateway image => Gateway.isPlainRdf_internalizeGraph h,
      fun domains => Domains.isPlainRdf_externalizeGraph h⟩
  · rw [readBody_of_reading hmedia hreading]
    refine ⟨fun hquoted => ?_, fun hstated => ⟨fun hcomplete => ?_, fun hcomplete => ?_⟩⟩
    · rw [Reading.statements_of_quoted hquoted]
      rfl
    · rw [Reading.statements_of_incomplete hstated hcomplete]
      rfl
    · obtain ⟨found, hfound⟩ := exists_statements hstated
      rw [Reading.statements_eq_ok_iff.mpr ⟨hcomplete, hfound⟩]
      exact ⟨_, rfl⟩

/-- A body with a node in brackets, a collection in it, and a statement that is stated twice. -/
def nestedBody : String :=
  "@prefix e: <http://ext/> . <1> e:p [ e:q ( 1 \"x\"@EN ) ] , <2> , <2> ."

/-- The statements of the body, first occurrences only. -/
def nestedGraph : Graph where
  triples :=
    [⟨.blank "riog00000002", .iri Vocabulary.rdfFirst,
        .literal (.typed "1" "http://www.w3.org/2001/XMLSchema#integer")⟩,
      ⟨.blank "riog00000002", .iri Vocabulary.rdfRest, .blank "riog00000003"⟩,
      ⟨.blank "riog00000003", .iri Vocabulary.rdfFirst, .literal (.tagged "x" "en")⟩,
      ⟨.blank "riog00000003", .iri Vocabulary.rdfRest, .iri Vocabulary.rdfNil⟩,
      ⟨.blank "riog00000001", .iri "http://ext/q", .blank "riog00000002"⟩,
      ⟨.iri "http://ext/1", .iri "http://ext/p", .blank "riog00000001"⟩,
      ⟨.iri "http://ext/1", .iri "http://ext/p", .iri "http://ext/2"⟩]
  nodup := by decide +kernel

/-- A body with a statement in the place of an object, and malformed after it. -/
def quotedBody : String := "<1> <p> << <1> <p> <2> >> . <1> <p> oops"

set_option maxRecDepth 10000 in
theorem readBody_nestedBody :
    readBody nestedBody.toByteArray "text/turtle" (some "http://ext/") = .ok nestedGraph ∧
      nestedGraph.IsPlainRdf ∧
      (∃ image, (Gateway.smallGateway .relaxed).internalizeGraph nestedGraph = .ok image ∧
        image.IsPlainRdf) ∧
      readBody quotedBody.toByteArray "text/turtle" (some "http://ext/") =
        .error .quotedStatement := by
  have hmedia : MediaType.ofContentType "text/turtle" = .ok .turtle := by decide +kernel
  have hbase : bodyBase? (some "http://ext/") = .ok (some (.ofText "http://ext/".toList)) := by
    rw [bodyBase?, if_pos (by decide +kernel)]
  have hreading : bodyReading nestedBody.toByteArray .turtle (some "http://ext/") =
      .ok (Turtle.reading (some (.ofText "http://ext/".toList)) (nestedBody.toList.map some)) := by
    rw [bodyReading, hbase, characters_toByteArray]
    rfl
  obtain ⟨hplain, hstays, hfails, hquoted⟩ := readBody_plain
  obtain ⟨-, hends⟩ := hfails _ _ _ _ _ hmedia hreading
  obtain ⟨graph, hgraph⟩ := (hends (by decide +kernel)).2 (by decide +kernel)
  have htriples : (((fun found => Graph.ofList (found.map Statement.toTriple)) <$>
      (Turtle.reading (some (.ofText "http://ext/".toList))
        (nestedBody.toList.map some)).statements).toOption.map Graph.triples) =
      some nestedGraph.triples := by decide +kernel
  rw [← readBody_of_reading hmedia hreading, hgraph] at htriples
  obtain rfl : graph = nestedGraph := Graph.ext (Option.some.inj htriples)
  have himage := Gateway.internalizeGraph_eq_ok_iff.mpr
    ⟨by decide +kernel, by decide +kernel, Eq.refl (Graph.ofList
      (((Gateway.smallGateway .relaxed).considered nestedGraph).map
        (Gateway.smallGateway .relaxed).domains.inwardTriple))⟩
  obtain ⟨hrdf, -⟩ := hplain _ _ _ _ hgraph
  refine ⟨hgraph, hrdf, ⟨_, himage, (hstays _ hrdf).1 _ _ himage⟩,
    hquoted _ _ _ _ 1 hmedia hbase (by omega) ?_⟩
  rw [characters_toByteArray]
  decide +kernel

end RdfGateway
