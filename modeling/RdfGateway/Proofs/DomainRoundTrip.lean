import Mathlib.Data.List.Nodup
import RdfGateway.Proofs.GraphOutcome

/-!
# Into the store and back

A graph whose subjects and objects name nothing of the internal domain, unless the external domain
holds it too (`Graph.IsClientGraph`), comes back from the store as it was
(`internalizeGraph_returns`): the mapping outwards undoes the mapping inwards on each of its terms.
So no two of its statements become one, and the store keeps an image of each in the same order.

Proof. An IRI of the external domain is the base and a path, its identifier the root and the same
path, and taking the root off gives the path back (`outward_inward_append`). Any other IRI is moved
by neither mapping. Hence the mapping inwards is injective on the statements of the graph, and the
insertions that build the image drop nothing.
-/

namespace RdfGateway

namespace Domains

variable {domains : Domains}

/-- A term as clients name it: when it is an IRI, it lies in the external domain or outside the
internal one. -/
def isClientTerm (domains : Domains) : Term → Bool
  | .iri text => domains.isExternal text || !domains.isInternal text
  | _ => true

theorem rest?_root (domains : Domains) :
    Text.rest? domains.internalRoot.toList domains.internalRoot.toList = some [] := by
  rw [Text.rest?_eq_some_iff, List.append_nil]

theorem rest?_below (domains : Domains) (path : String) :
    Text.rest? domains.internalRoot.toList (domains.internalRoot ++ "/" ++ path).toList =
      some ('/' :: path.toList) := by
  rw [Text.rest?_eq_some_iff]
  simp [String.toList_append]

theorem outward_root (domains : Domains) :
    domains.outward domains.internalRoot = domains.externalBase := by
  unfold outward
  rw [rest?_root]

theorem outward_below (domains : Domains) (path : String) :
    domains.outward (domains.internalRoot ++ "/" ++ path) = domains.externalBase ++ path := by
  unfold outward
  rw [rest?_below]
  show String.ofList (domains.externalBase.toList ++ path.toList) = domains.externalBase ++ path
  apply String.toList_inj.mp
  rw [String.toList_ofList, String.toList_append]

/-- What lies below the base comes back from below the root. -/
theorem outward_inward_append (domains : Domains) (path : String) :
    domains.outward (domains.inward (domains.externalBase ++ path)) =
      domains.externalBase ++ path := by
  rw [inward_append]
  by_cases hpath : path = ""
  · rw [if_pos hpath, outward_root, hpath, String.append_empty]
  · rw [if_neg hpath, outward_below]

theorem exists_eq_append_of_isExternal {iri : String} (h : domains.isExternal iri = true) :
    ∃ path, iri = domains.externalBase ++ path := by
  obtain ⟨rest, hrest⟩ := Text.beginsWith_iff.mp h
  refine ⟨String.ofList rest, String.toList_inj.mp ?_⟩
  rw [hrest, String.toList_append, String.toList_ofList]

theorem isExternal_iff {iri : String} :
    domains.isExternal iri = true ↔ ∃ path, iri = domains.externalBase ++ path := by
  refine ⟨exists_eq_append_of_isExternal, ?_⟩
  rintro ⟨path, rfl⟩
  exact Text.beginsWith_iff.mpr ⟨path.toList, String.toList_append⟩

theorem inward_of_isExternal_eq_false {iri : String} (h : domains.isExternal iri = false) :
    domains.inward iri = iri :=
  inward_of_not_external fun path he =>
    Bool.eq_false_iff.mp h (isExternal_iff.mpr ⟨path, he⟩)

theorem outward_of_not_internal {id : String} (h : domains.isInternal id = false) :
    domains.outward id = id := by
  unfold isInternal at h
  unfold outward
  cases hrest : Text.rest? domains.internalRoot.toList id.toList with
  | none => rfl
  | some rest =>
    rw [hrest] at h
    cases rest with
    | nil => cases h
    | cons c path =>
      have hslash : c ≠ '/' := by simpa using h
      split
      · rename_i he
        cases he
      · rename_i he
        injection he with he
        injection he with he
        exact absurd he hslash
      · rfl

theorem outward_inward {iri : String}
    (h : domains.isExternal iri = true ∨ domains.isInternal iri = false) :
    domains.outward (domains.inward iri) = iri := by
  by_cases hout : ∃ path, iri = domains.externalBase ++ path
  · obtain ⟨path, rfl⟩ := hout
    exact outward_inward_append domains path
  · have hinternal : domains.isInternal iri = false :=
      h.resolve_left fun hext => hout (exists_eq_append_of_isExternal hext)
    have hstays : domains.inward iri = iri :=
      inward_of_not_external fun path he => hout ⟨path, he⟩
    rw [hstays, outward_of_not_internal hinternal]

theorem externalizeTerm_inwardTerm {term : Term} (h : domains.isClientTerm term = true) :
    domains.externalizeTerm (domains.inwardTerm term) = term := by
  cases term with
  | iri text =>
    have hclient : domains.isExternal text = true ∨ domains.isInternal text = false := by
      simpa [isClientTerm] using h
    exact congrArg Term.iri (outward_inward hclient)
  | blank label => rfl
  | literal content => rfl
  | «variable» name => rfl

theorem externalizeTriple_inwardTriple {triple : Triple}
    (hsubject : domains.isClientTerm triple.subject = true)
    (hobject : domains.isClientTerm triple.object = true) :
    domains.externalizeTriple (domains.inwardTriple triple) = triple := by
  unfold externalizeTriple inwardTriple
  rw [externalizeTerm_inwardTerm hsubject, externalizeTerm_inwardTerm hobject]

end Domains

/-- A graph whose subjects and objects are terms as clients name them. -/
def Graph.IsClientGraph (domains : Domains) (graph : Graph) : Prop :=
  ∀ triple ∈ graph.triples,
    domains.isClientTerm triple.subject = true ∧ domains.isClientTerm triple.object = true

namespace Graph

variable {domains : Domains} {graph : Graph} (h : graph.IsClientGraph domains)
include h

theorem map_externalizeTriple_inwardTriple :
    (graph.triples.map domains.inwardTriple).map domains.externalizeTriple = graph.triples := by
  rw [List.map_map]
  refine (List.map_congr_left fun triple ht => ?_).trans (List.map_id graph.triples)
  obtain ⟨hsubject, hobject⟩ := h triple ht
  exact Domains.externalizeTriple_inwardTriple hsubject hobject

/-- No two statements have the same image. -/
theorem inwardTriple_injOn {triple other : Triple} (ht : triple ∈ graph.triples)
    (ho : other ∈ graph.triples) (he : domains.inwardTriple triple = domains.inwardTriple other) :
    triple = other := by
  obtain ⟨hsubject, hobject⟩ := h triple ht
  obtain ⟨hsubject', hobject'⟩ := h other ho
  rw [← Domains.externalizeTriple_inwardTriple hsubject hobject, he,
    Domains.externalizeTriple_inwardTriple hsubject' hobject']

theorem nodup_map_inwardTriple : (graph.triples.map domains.inwardTriple).Nodup :=
  graph.nodup.map_on fun _ ht _ ho he => inwardTriple_injOn h ht ho he

end Graph

namespace Gateway

/-- **A graph comes back from the store as it was**: its image has an image of each statement in the
same order, no two statements have the same one, and the image seen by clients is the graph. -/
theorem internalizeGraph_returns {gateway : Gateway} {graph image : Graph}
    (hmode : gateway.mode = .strict ∨ gateway.mode = .relaxed)
    (hclient : graph.IsClientGraph gateway.domains)
    (h : gateway.internalizeGraph graph = .ok image) :
    image.size = graph.size ∧
      image.triples = graph.triples.map gateway.domains.inwardTriple ∧
      (∀ triple ∈ graph.triples, ∀ other ∈ graph.triples,
        gateway.domains.inwardTriple triple = gateway.domains.inwardTriple other →
          triple = other) ∧
      gateway.domains.externalizeGraph image = graph := by
  obtain ⟨-, -, rfl⟩ := internalizeGraph_eq_ok_iff.mp h
  rw [considered_eq_triples hmode]
  have himage := Graph.triples_ofList_of_nodup (Graph.nodup_map_inwardTriple hclient)
  refine ⟨?_, himage, fun _ ht _ ho he => Graph.inwardTriple_injOn hclient ht ho he, ?_⟩
  · unfold Graph.size
    rw [himage, List.length_map]
  · unfold Domains.externalizeGraph
    rw [himage, Graph.map_externalizeTriple_inwardTriple hclient]
    exact Graph.ext (Graph.triples_ofList_of_nodup graph.nodup)

/-- A graph with the base itself, an IRI below it, one that has the root at its front but a longer
name, and a blank node and a literal. -/
def returningGraph : Graph := .ofList
  [⟨.iri "http://ext/", .iri "http://ext/p", .iri "http://ext/1"⟩,
    ⟨.blank "b", .iri "info:fedora/p", .iri "info:fedoras/1"⟩,
    ⟨.iri "http://ext/1", .iri "http://ext/p", .literal (.plain "info:fedora/1")⟩]

/-- The graph as the store keeps it. -/
def returningImage : Graph := .ofList
  [⟨.iri "info:fedora", .iri "http://ext/p", .iri "info:fedora/1"⟩,
    ⟨.blank "b", .iri "info:fedora/p", .iri "info:fedoras/1"⟩,
    ⟨.iri "info:fedora/1", .iri "http://ext/p", .literal (.plain "info:fedora/1")⟩]

set_option maxRecDepth 10000 in
theorem returningGraph_returns :
    Domains.ofTexts "http://ext/" "info:fedora" = .ok (smallGateway .strict).domains ∧
      returningGraph.IsClientGraph (smallGateway .strict).domains ∧
      (smallGateway .strict).internalizeGraph returningGraph = .ok returningImage ∧
      (smallGateway .strict).domains.externalizeGraph returningImage = returningGraph := by
  have hclient : returningGraph.IsClientGraph (smallGateway .strict).domains := by
    unfold Graph.IsClientGraph
    decide +kernel
  have himage : (smallGateway .strict).internalizeGraph returningGraph = .ok returningImage := by
    refine internalizeGraph_eq_ok_iff.mpr ⟨?_, ?_, Graph.ext ?_⟩
    all_goals decide +kernel
  obtain ⟨-, -, -, hback⟩ := internalizeGraph_returns (.inl rfl) hclient himage
  exact ⟨by decide +kernel, hclient, himage, hback⟩

end Gateway

end RdfGateway
