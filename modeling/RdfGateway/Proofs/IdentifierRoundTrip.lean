import RdfGateway.Proofs.DomainRoundTrip

/-!
# Identifiers and their IRIs

The two domains correspond to each other, but for one identifier. Every IRI of the external domain
has an identifier of its own in the internal domain and comes back from it as it was
(`internalize_roundTrip`). Every identifier of the internal domain comes back from its IRI, except
the root with a slash behind it (`slashedRoot`): outwards it becomes the base, as the root itself
does, and from there it comes back as the root (`outward_roundTrip`). So a graph of the store keeps
all its statements on its way out unless two of them differ in this slash alone.

Proof. An identifier of the internal domain is the root, or the root, a slash and a path
(`isInternal_iff`), an IRI of the external domain is the base and a path (`isExternal_iff`), and
the mappings exchange what stands before the path. Only an empty path is treated differently: behind
the base it stays, and behind the root it takes its slash with it (`inward_append`), which
`returned` does to an identifier.
-/

namespace RdfGateway

open Text

namespace Domains

variable {domains : Domains} {iri id other : String} {term : Term} {triple : Triple}

/-! ## Members of the internal domain -/

theorem isInternal_root (domains : Domains) : domains.isInternal domains.internalRoot = true := by
  unfold isInternal
  rw [rest?_root]

theorem isInternal_below (domains : Domains) (path : String) :
    domains.isInternal (domains.internalRoot ++ "/" ++ path) = true := by
  unfold isInternal
  rw [rest?_below]
  rfl

/-- An identifier of the internal domain is the root or stands below it. -/
theorem isInternal_iff : domains.isInternal id = true ↔
    id = domains.internalRoot ∨ ∃ path, id = domains.internalRoot ++ "/" ++ path := by
  constructor
  · intro h
    unfold isInternal at h
    split at h
    · rename_i hrest
      left
      apply String.toList_inj.mp
      rw [rest?_eq_some_iff.mp hrest, List.append_nil]
    · rename_i c path hrest
      obtain rfl : c = '/' := beq_iff_eq.mp h
      right
      refine ⟨.ofList path, String.toList_inj.mp ?_⟩
      rw [rest?_eq_some_iff.mp hrest]
      simp [String.toList_append]
    · cases h
  · rintro (rfl | ⟨path, rfl⟩)
    · exact isInternal_root domains
    · exact isInternal_below domains path

/-- What the store keeps of an IRI lies in the internal domain when the IRI lies in one of the
two. -/
theorem isInternal_inward_iff : domains.isInternal (domains.inward iri) = true ↔
    domains.isExternal iri = true ∨ domains.isInternal iri = true := by
  cases hexternal : domains.isExternal iri with
  | true =>
    obtain ⟨path, rfl⟩ := isExternal_iff.mp hexternal
    rw [inward_append]
    split
    · simp [isInternal_root]
    · simp [isInternal_below]
  | false => simp [inward_of_isExternal_eq_false hexternal]

/-! ## From the clients to the store and back -/

theorem internalize_of_isAbsolute (h : Iri.isAbsolute iri = true) :
    domains.internalize iri = .ok (domains.inward iri) := by
  rw [internalize, iriFault?, h]
  rfl

theorem internalize_of_not_isAbsolute (h : Iri.isAbsolute iri = false) :
    domains.internalize iri = .error (.iri iri) := by
  rw [internalize, iriFault?, h]
  rfl

/-- Two IRIs of the external domain do not share an identifier. -/
theorem eq_of_internalize_eq (hiri : domains.isExternal iri = true)
    (hother : domains.isExternal other = true)
    (h : domains.internalize iri = domains.internalize other) : iri = other := by
  cases habsolute : Iri.isAbsolute iri with
  | true =>
    cases habsolute' : Iri.isAbsolute other with
    | true =>
      rw [internalize_of_isAbsolute habsolute, internalize_of_isAbsolute habsolute',
        Except.ok.injEq] at h
      rw [← outward_inward (.inl hiri), h, outward_inward (.inl hother)]
    | false =>
      rw [internalize_of_isAbsolute habsolute, internalize_of_not_isAbsolute habsolute'] at h
      cases h
  | false =>
    cases habsolute' : Iri.isAbsolute other with
    | true =>
      rw [internalize_of_not_isAbsolute habsolute, internalize_of_isAbsolute habsolute'] at h
      cases h
    | false =>
      rw [internalize_of_not_isAbsolute habsolute, internalize_of_not_isAbsolute habsolute'] at h
      cases h
      rfl

/-- **An IRI comes back from its identifier.** A text that is no absolute IRI is a fault, and every
absolute IRI has an identifier. Outside the external domain it is its own; from the external domain
it is mapped into the internal one, comes back from there, and has the same identifier again. No two
IRIs of the external domain have the same one. -/
theorem internalize_roundTrip (domains : Domains) :
    (∀ iri, Iri.isAbsolute iri = false → domains.internalize iri = .error (.iri iri)) ∧
    (∀ iri, Iri.isAbsolute iri = true → ∃ id, domains.internalize iri = .ok id ∧
      (domains.isInternal id = true ↔
        domains.isExternal iri = true ∨ domains.isInternal iri = true) ∧
      (domains.isExternal iri = false → id = iri) ∧
      (domains.isExternal iri = true → domains.isInternal id = true ∧ domains.outward id = iri ∧
        domains.internalize (domains.outward id) = .ok id)) ∧
    (∀ iri other, domains.isExternal iri = true → domains.isExternal other = true →
      domains.internalize iri = domains.internalize other → iri = other) := by
  refine ⟨fun _ => internalize_of_not_isAbsolute, ?_, fun _ _ => eq_of_internalize_eq⟩
  intro iri habsolute
  refine ⟨domains.inward iri, internalize_of_isAbsolute habsolute, isInternal_inward_iff,
    inward_of_isExternal_eq_false, fun hexternal => ?_⟩
  have hback : domains.outward (domains.inward iri) = iri := outward_inward (.inl hexternal)
  refine ⟨isInternal_inward_iff.mpr (.inl hexternal), hback, ?_⟩
  rw [hback]
  exact internalize_of_isAbsolute habsolute

/-- Domains of which the internal one lies inside the external one. -/
def nestedDomains : Domains := ⟨"http://ext/", "http://ext/store"⟩

theorem nestedDomains_roundTrip :
    ofTexts "http://ext" "http://ext/store//" = .ok nestedDomains ∧
      nestedDomains.internalize "no iri" = .error (.iri "no iri") ∧
      nestedDomains.isExternal "http://ext/store/1" = true ∧
      nestedDomains.internalize "http://ext/store/1" = .ok "http://ext/store/store/1" ∧
      nestedDomains.outward "http://ext/store/store/1" = "http://ext/store/1" := by
  obtain ⟨hfault, hidentifier, -⟩ := internalize_roundTrip nestedDomains
  have hexternal : nestedDomains.isExternal "http://ext/store/1" = true := by decide +kernel
  obtain ⟨id, hid, -, -, hback⟩ := hidentifier "http://ext/store/1" (by decide +kernel)
  have hvalue : nestedDomains.internalize "http://ext/store/1" =
      .ok "http://ext/store/store/1" := by decide +kernel
  obtain rfl : id = "http://ext/store/store/1" := Except.ok.inj (hid.symm.trans hvalue)
  exact ⟨by decide +kernel, hfault "no iri" (by decide +kernel), hexternal, hvalue,
    (hback hexternal).2.1⟩

/-! ## From the store to the clients and back -/

/-- The root with a slash behind it. -/
def slashedRoot (domains : Domains) : String := domains.internalRoot ++ "/"

/-- An identifier as it comes back from the clients: the root loses its slash. -/
def returned (domains : Domains) (id : String) : String :=
  if id = domains.slashedRoot then domains.internalRoot else id

theorem root_ne_slashedRoot (domains : Domains) : domains.internalRoot ≠ domains.slashedRoot := by
  intro h
  have hlength := congrArg String.length h
  simp [slashedRoot, String.length_append] at hlength

theorem below_eq_slashedRoot_iff {path : String} :
    domains.internalRoot ++ "/" ++ path = domains.slashedRoot ↔ path = "" := by
  rw [slashedRoot, ← String.toList_inj]
  simp [String.toList_append]

theorem returned_eq_self_iff : domains.returned id = id ↔ id ≠ domains.slashedRoot := by
  unfold returned
  split
  · rename_i h
    subst h
    simp [root_ne_slashedRoot]
  · rename_i h
    simp [h]

theorem inward_outward (h : domains.isInternal id = true) :
    domains.inward (domains.outward id) = domains.returned id := by
  rcases isInternal_iff.mp h with rfl | ⟨path, rfl⟩
  · have hroot := inward_append domains ""
    rw [String.append_empty, if_pos rfl] at hroot
    rw [outward_root, hroot, returned_eq_self_iff.mpr (root_ne_slashedRoot domains)]
  · rw [outward_below, inward_append, returned]
    simp only [below_eq_slashedRoot_iff]

theorem outward_returned (domains : Domains) (id : String) :
    domains.outward (domains.returned id) = domains.outward id := by
  unfold returned
  split
  · rename_i h
    have hslash := outward_below domains ""
    rw [String.append_empty, String.append_empty] at hslash
    rw [h, outward_root, slashedRoot, hslash]
  · rfl

theorem outward_eq_iff (hid : domains.isInternal id = true)
    (hother : domains.isInternal other = true) :
    domains.outward id = domains.outward other ↔ domains.returned id = domains.returned other := by
  constructor
  · intro h
    rw [← inward_outward hid, h, inward_outward hother]
  · intro h
    rw [← outward_returned, h, outward_returned]

/-- A term as the store keeps it: when it is an IRI, it is an identifier of the internal domain. -/
def isStoreTerm (domains : Domains) : Term → Bool
  | .iri id => domains.isInternal id
  | _ => true

/-- A term as it comes back from the clients. -/
def returnedTerm (domains : Domains) : Term → Term
  | .iri id => .iri (domains.returned id)
  | term => term

/-- A statement as it comes back from the clients. -/
def returnedTriple (domains : Domains) (triple : Triple) : Triple :=
  { triple with
    subject := domains.returnedTerm triple.subject
    object := domains.returnedTerm triple.object }

theorem inwardTerm_externalizeTerm (h : domains.isStoreTerm term = true) :
    domains.inwardTerm (domains.externalizeTerm term) = domains.returnedTerm term := by
  cases term with
  | iri id => exact congrArg Term.iri (inward_outward h)
  | blank | literal | «variable» => rfl

theorem externalizeTerm_returnedTerm (term : Term) :
    domains.externalizeTerm (domains.returnedTerm term) = domains.externalizeTerm term := by
  cases term with
  | iri id => exact congrArg Term.iri (outward_returned domains id)
  | blank | literal | «variable» => rfl

end Domains

/-- A graph whose subjects and objects are terms as the store keeps them. -/
def Graph.IsStoreGraph (domains : Domains) (graph : Graph) : Prop :=
  ∀ triple ∈ graph.triples,
    domains.isStoreTerm triple.subject = true ∧ domains.isStoreTerm triple.object = true

namespace Domains

variable {domains : Domains} {triple other : Triple} {graph : Graph}

theorem inwardTriple_externalizeTriple (hsubject : domains.isStoreTerm triple.subject = true)
    (hobject : domains.isStoreTerm triple.object = true) :
    domains.inwardTriple (domains.externalizeTriple triple) = domains.returnedTriple triple := by
  unfold inwardTriple externalizeTriple returnedTriple
  rw [inwardTerm_externalizeTerm hsubject, inwardTerm_externalizeTerm hobject]

theorem externalizeTriple_returnedTriple (triple : Triple) :
    domains.externalizeTriple (domains.returnedTriple triple) = domains.externalizeTriple triple := by
  unfold externalizeTriple returnedTriple
  rw [externalizeTerm_returnedTerm, externalizeTerm_returnedTerm]

/-- A graph of the store keeps its statements on the way out exactly when no two of them come back
as one. -/
theorem triples_externalizeGraph_iff (h : graph.IsStoreGraph domains) :
    (domains.externalizeGraph graph).triples = graph.triples.map domains.externalizeTriple ↔
      ∀ triple ∈ graph.triples, ∀ other ∈ graph.triples,
        domains.returnedTriple triple = domains.returnedTriple other → triple = other := by
  have hnodup : (domains.externalizeGraph graph).triples =
      graph.triples.map domains.externalizeTriple ↔
        (graph.triples.map domains.externalizeTriple).Nodup :=
    ⟨fun he => he ▸ (domains.externalizeGraph graph).nodup, Graph.triples_ofList_of_nodup⟩
  rw [hnodup, List.nodup_map_iff_inj_on graph.nodup]
  refine forall₂_congr fun triple ht => forall₂_congr fun other ho => imp_congr_left ?_
  constructor
  · intro he
    obtain ⟨hsubject, hobject⟩ := h triple ht
    obtain ⟨hsubject', hobject'⟩ := h other ho
    rw [← inwardTriple_externalizeTriple hsubject hobject, he,
      inwardTriple_externalizeTriple hsubject' hobject']
  · intro he
    rw [← externalizeTriple_returnedTriple, he, externalizeTriple_returnedTriple]

/-- **An identifier comes back from its IRI, unless it is the root with a slash**, which comes back
without the slash. So two identifiers share an IRI only when they are the root with and without the
slash, and a graph keeps its statements on the way out exactly when none of them differ in this
alone. -/
theorem outward_roundTrip (domains : Domains) :
    (∀ id, domains.isInternal id = true → Iri.isAbsolute (domains.outward id) = true →
      domains.internalize (domains.outward id) = .ok (domains.returned id) ∧
        (domains.internalize (domains.outward id) = .ok id ↔ id ≠ domains.slashedRoot)) ∧
    (∀ id other, domains.isInternal id = true → domains.isInternal other = true →
      (domains.outward id = domains.outward other ↔
        domains.returned id = domains.returned other)) ∧
    (∀ graph : Graph, graph.IsStoreGraph domains →
      ((domains.externalizeGraph graph).triples = graph.triples.map domains.externalizeTriple ↔
        ∀ triple ∈ graph.triples, ∀ other ∈ graph.triples,
          domains.returnedTriple triple = domains.returnedTriple other → triple = other)) := by
  refine ⟨fun id hinternal habsolute => ?_, fun _ _ => outward_eq_iff,
    fun _ => triples_externalizeGraph_iff⟩
  have hreturned : domains.internalize (domains.outward id) = .ok (domains.returned id) := by
    rw [internalize_of_isAbsolute habsolute, inward_outward hinternal]
  refine ⟨hreturned, ?_⟩
  rw [hreturned, Except.ok.injEq, returned_eq_self_iff]

/-- The default root below one base. -/
def defaultDomains : Domains := ⟨"http://ext/", defaultRoot⟩

/-- A graph that names the root, and an identifier whose path begins with a slash. -/
def rootGraph : Graph := .ofList
  [⟨.iri "info:fedora", .iri "http://ext/p", .iri "info:fedora//1"⟩,
    ⟨.iri "info:fedora//1", .iri "http://ext/p", .literal (.plain "info:fedora/")⟩]

set_option maxRecDepth 10000 in
theorem rootGraph_roundTrip :
    ofTexts "http://ext/" defaultRoot = .ok defaultDomains ∧
      defaultDomains.isInternal "info:fedora//1" = true ∧
      defaultDomains.internalize (defaultDomains.outward "info:fedora//1") =
        .ok "info:fedora//1" ∧
      rootGraph.IsStoreGraph defaultDomains ∧
      (defaultDomains.externalizeGraph rootGraph).triples =
        [⟨.iri "http://ext/", .iri "http://ext/p", .iri "http://ext//1"⟩,
          ⟨.iri "http://ext//1", .iri "http://ext/p", .literal (.plain "info:fedora/")⟩] := by
  obtain ⟨hidentifier, -, hgraph⟩ := outward_roundTrip defaultDomains
  have hinternal : defaultDomains.isInternal "info:fedora//1" = true := by decide +kernel
  have hback := (hidentifier "info:fedora//1" hinternal (by decide +kernel)).2
  have hstore : rootGraph.IsStoreGraph defaultDomains := by
    unfold Graph.IsStoreGraph
    decide +kernel
  refine ⟨by decide +kernel, hinternal, hback.mpr (by decide +kernel), hstore, ?_⟩
  rw [(hgraph rootGraph hstore).mpr (by decide +kernel)]
  decide +kernel

/-- A graph that names the root with and without a slash behind it. -/
def slashedGraph : Graph := .ofList
  [⟨.iri "info:fedora", .iri "http://ext/p", .literal (.plain "A")⟩,
    ⟨.iri "info:fedora/", .iri "http://ext/p", .literal (.plain "A")⟩]

set_option maxRecDepth 10000 in
/-- **The root with a slash does not come back**, and on the way out a graph loses one of two
statements that differ in this slash. -/
theorem slashedRoot_does_not_return :
    ofTexts "http://ext/" defaultRoot = .ok defaultDomains ∧
      defaultDomains.isInternal "info:fedora/" = true ∧
      Iri.isAbsolute (defaultDomains.outward "info:fedora/") = true ∧
      defaultDomains.internalize (defaultDomains.outward "info:fedora/") = .ok "info:fedora" ∧
      defaultDomains.outward "info:fedora/" = defaultDomains.outward "info:fedora" ∧
      slashedGraph.IsStoreGraph defaultDomains ∧
      slashedGraph.size = 2 ∧ (defaultDomains.externalizeGraph slashedGraph).size = 1 := by
  unfold Graph.IsStoreGraph
  decide +kernel

end Domains

end RdfGateway
