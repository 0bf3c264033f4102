import RdfGateway.Proofs.EnforcementModes

/-!
# Restricted types

A policy lists the types that clients may never assert. A statement that asserts a listed type gets
into the store by one way only: relaxed enforcement waives it when the policy lists its type among
the relaxable ones as well and its predicate is not managed (`Policy.Softens`).
`neverAccepts_iff` says so of graphs and of updates: but for this way the statement is dropped
from every graph under lenient enforcement, and whatever else holds it is refused.

Proof. A listed type always offends, and its offence is the waived one exactly in the case above
(`disallows_iff_of_assertsListed`). What is disallowed is in the report of every graph and every
update around it (`isRefused_graph`, `isRefused_request`), and what offends is dropped.
-/

namespace RdfGateway

namespace Policy

variable {policy : Policy} {mode : Enforcement} {triple : Triple}

/-- The statement asserts a type that is listed as a restricted one. -/
def AssertsListed (policy : Policy) (triple : Triple) : Prop :=
  ∃ predicate type, triple.predicate = .iri predicate ∧ triple.object = .iri type ∧
    predicate ∈ policy.typePredicates ∧ type ∈ policy.restrictedTypes

/-- The predicate may be written, and the type is listed as a relaxable one. -/
def Softens (policy : Policy) (triple : Triple) : Prop :=
  ∃ predicate type, triple.predicate = .iri predicate ∧ triple.object = .iri type ∧
    policy.isManagedPredicate predicate = false ∧ type ∈ policy.relaxableTypes

/-- A listed type offends, and the offence is the waived one when the policy softens it. -/
theorem exists_offence_of_assertsListed (h : policy.AssertsListed triple) :
    ∃ offence, policy.offence? triple = some offence ∧
      (offence = .relaxableType ↔ policy.Softens triple) := by
  obtain ⟨predicate, type, hp, ho, hasserts, hlisted⟩ := h
  have hsoftens : policy.Softens triple ↔
      policy.isManagedPredicate predicate = false ∧ type ∈ policy.relaxableTypes := by
    constructor
    · rintro ⟨predicate', type', hp', ho', hsoft⟩
      rw [hp] at hp'
      rw [ho] at ho'
      cases hp'
      cases ho'
      exact hsoft
    · intro hsoft
      exact ⟨predicate, type, hp, ho, hsoft⟩
  cases hmanaged : policy.isManagedPredicate predicate with
  | true =>
    refine ⟨.managedProperty, ?_, ?_⟩
    · simp [offence?, hp, Term.asIri, hmanaged]
    · simp [hsoftens, hmanaged]
  | false =>
    have htype : policy.offence? triple = policy.typeOffence? type := by
      simp [offence?, hp, ho, Term.asIri, hmanaged, isTypePredicate, hasserts]
    by_cases hrelaxable : type ∈ policy.relaxableTypes
    · refine ⟨.relaxableType, ?_, ?_⟩
      · simp [htype, typeOffence?, isRestrictedType, isRelaxableType, hrelaxable]
      · simp [hsoftens, hmanaged, hrelaxable]
    · refine ⟨.managedType, ?_, ?_⟩
      · simp [htype, typeOffence?, isRestrictedType, isRelaxableType, hrelaxable, hlisted]
      · simp [hsoftens, hrelaxable]

theorem disallows_iff_of_assertsListed (h : policy.AssertsListed triple) :
    policy.disallows mode triple = true ↔ ¬ (mode = .relaxed ∧ policy.Softens triple) := by
  obtain ⟨offence, hoffence, hsoftens⟩ := exists_offence_of_assertsListed h
  rw [← Bool.not_eq_false, disallows_eq_false_iff, hoffence, ← hsoftens]
  simp [and_comm]

theorem touchesManaged_of_assertsListed (h : policy.AssertsListed triple) :
    policy.touchesManaged triple = true := by
  obtain ⟨offence, hoffence, -⟩ := exists_offence_of_assertsListed h
  rw [touchesManaged_eq, hoffence]
  rfl

end Policy

namespace Gateway

variable {gateway : Gateway} {graph : Graph} {request : Request} {triple : Triple}

/-- **The statement is refused** with what it stands in: a malformed text is a fault, and without
one the statement is reported. -/
def IsRefused {α : Type} (outcome : Except Refusal α) (texts : List PlacedText)
    (triple : Triple) : Prop :=
  ((∃ text ∈ texts, text.fault? ≠ none) → ∃ fault, outcome = .error (.fault fault)) ∧
    ((∀ text ∈ texts, text.fault? = none) →
      ∃ report, outcome = .error (.violations report) ∧
        triple ∈ report.map Violation.statement)

theorem IsRefused.ne_ok {α : Type} {outcome : Except Refusal α} {texts : List PlacedText}
    (h : IsRefused outcome texts triple) (value : α) : outcome ≠ .ok value := by
  rintro rfl
  by_cases hsound : ∀ text ∈ texts, text.fault? = none
  · obtain ⟨report, hreport, -⟩ := h.2 hsound
    cases hreport
  · push Not at hsound
    obtain ⟨fault, hfault⟩ := h.1 hsound
    cases hfault

theorem isRefused_of_fault {α : Type} {outcome : Except Refusal α} {texts : List PlacedText}
    {text : PlacedText} (hmem : text ∈ texts) (hfault : text.fault? ≠ none)
    (houtcome : ∀ fault, firstFault? texts = some fault → outcome = .error (.fault fault)) :
    IsRefused outcome texts triple := by
  refine ⟨fun hbad => ?_, fun hsound => absurd (hsound text hmem) hfault⟩
  obtain ⟨fault, hfirst⟩ := exists_firstFault?_iff.mpr hbad
  exact ⟨fault, houtcome fault hfirst⟩

/-! ## Graphs and updates around a disallowed statement -/

theorem isRefused_graph (hmode : gateway.mode = .strict ∨ gateway.mode = .relaxed)
    (ht : triple ∈ graph.triples) (hd : gateway.policy.disallows gateway.mode triple = true) :
    IsRefused (gateway.internalizeGraph graph) (graph.triples.flatMap Triple.texts) triple := by
  constructor
  · intro hbad
    obtain ⟨fault, hfault⟩ := exists_firstFault?_iff.mpr hbad
    rw [← considered_eq_triples hmode graph] at hfault
    exact ⟨fault, internalizeGraph_of_fault hfault⟩
  · intro hsound
    rw [List.forall_mem_flatMap] at hsound
    obtain ⟨report, hreport, hstatements, -⟩ := exists_report hmode hsound ⟨triple, ht, hd⟩
    refine ⟨report, hreport, ?_⟩
    rw [hstatements]
    exact List.mem_filter.mpr ⟨ht, hd⟩

theorem isRefused_request (ht : triple ∈ request.statements)
    (hd : gateway.policy.disallows gateway.mode triple = true) :
    IsRefused (gateway.internalizeRequest request) request.texts triple := by
  constructor
  · intro hbad
    obtain ⟨fault, hfault⟩ := exists_firstFault?_iff.mpr hbad
    exact ⟨fault, internalizeRequest_of_fault hfault⟩
  · intro hsound
    have hmem : triple ∈
        (request.statements.filterMap gateway.forUpdate.refused?).map Violation.statement := by
      rw [map_statement_filterMap_refused?]
      exact List.mem_filter.mpr ⟨ht, Policy.disallows_forUpdate.trans hd⟩
    refine ⟨_, (internalizeRequest_eq_violations_iff (firstFault?_eq_none_iff.mpr hsound)).mpr
      ⟨?_, rfl⟩, hmem⟩
    intro hnil
    rw [hnil] at hmem
    cases hmem

/-- Under lenient enforcement a statement that touches the managed terms has no part in the outcome
of a graph. -/
theorem internalizeGraph_filter_ne (hmode : gateway.mode = .lenient)
    (htouches : gateway.policy.touchesManaged triple = true) (graph : Graph) :
    triple ∉ gateway.considered graph ∧
      gateway.internalizeGraph graph = gateway.internalizeGraph (graph.filter (· ≠ triple)) := by
  have hconsidered : ∀ graph, gateway.considered graph =
      graph.triples.filter fun other => !gateway.policy.touchesManaged other := by
    intro graph
    rw [considered, hmode]
    rfl
  constructor
  · rw [hconsidered, List.mem_filter, htouches]
    simp
  · have hsame : gateway.considered (graph.filter (· ≠ triple)) = gateway.considered graph := by
      rw [hconsidered, hconsidered]
      show (graph.triples.filter _).filter _ = _
      rw [List.filter_filter]
      apply List.filter_congr
      intro other _
      by_cases he : other = triple
      · simp [he, htouches]
      · simp [he]
    unfold internalizeGraph
    rw [hsame]

/-! ## A listed type -/

/-- **The statement is never accepted**: every graph with it is refused, or loses it under lenient
enforcement, and every update with it is refused. -/
structure NeverAccepts (gateway : Gateway) (triple : Triple) : Prop where
  graph_refused : gateway.mode = .strict ∨ gateway.mode = .relaxed →
    ∀ graph : Graph, triple ∈ graph.triples →
      IsRefused (gateway.internalizeGraph graph) (graph.triples.flatMap Triple.texts) triple
  graph_dropped : gateway.mode = .lenient → ∀ graph : Graph, triple ∉ gateway.considered graph ∧
    gateway.internalizeGraph graph = gateway.internalizeGraph (graph.filter (· ≠ triple))
  request_refused : ∀ request : Request, triple ∈ request.statements →
    IsRefused (gateway.internalizeRequest request) request.texts triple

theorem neverAccepts_of_disallows (h : gateway.policy.AssertsListed triple)
    (hd : gateway.policy.disallows gateway.mode triple = true) : gateway.NeverAccepts triple where
  graph_refused hmode _ ht := isRefused_graph hmode ht hd
  graph_dropped hmode graph :=
    internalizeGraph_filter_ne hmode (Policy.touchesManaged_of_assertsListed h) graph
  request_refused _ ht := isRefused_request ht hd

/-- A malformed statement is a fault of whatever it stands in. -/
theorem neverAccepts_of_fault (hmode : gateway.mode = .relaxed)
    (hbad : ∃ text ∈ triple.texts, text.fault? ≠ none) : gateway.NeverAccepts triple := by
  obtain ⟨text, htext, hfault⟩ := hbad
  refine ⟨fun hstrict graph ht => ?_, fun hlenient => ?_, fun request ht => ?_⟩
  · refine isRefused_of_fault (List.mem_flatMap_of_mem ht htext) hfault fun fault hfirst => ?_
    rw [← considered_eq_triples hstrict graph] at hfirst
    exact internalizeGraph_of_fault hfirst
  · rw [hmode] at hlenient
    cases hlenient
  · exact isRefused_of_fault (Request.texts_subset ht htext) hfault
      fun fault => internalizeRequest_of_fault

/-- **A listed type stays out, but for one way in.** A statement that asserts a listed type is never
accepted, unless enforcement is relaxed, the policy lists the type among the relaxable ones too,
the predicate is not managed, and the statement is well-formed. -/
theorem neverAccepts_iff (gateway : Gateway) {triple : Triple}
    (h : gateway.policy.AssertsListed triple) :
    gateway.NeverAccepts triple ↔
      ¬ (gateway.mode = .relaxed ∧ gateway.policy.Softens triple ∧
        ∀ text ∈ triple.texts, text.fault? = none) := by
  constructor
  · -- the update that inserts the statement alone shows the way
    rintro hnever ⟨hmode, hsoftens, hsound⟩
    have hd : gateway.policy.disallows gateway.mode triple = false := by
      rw [← Bool.not_eq_true, Policy.disallows_iff_of_assertsListed h, not_not]
      exact ⟨hmode, hsoftens⟩
    exact (hnever.request_refused _ (List.mem_singleton_self _)).ne_ok _
      (internalizeRequest_insertion (firstFault?_eq_none_iff.mpr hsound) hd)
  · intro hway
    by_cases hd : gateway.policy.disallows gateway.mode triple = true
    · exact neverAccepts_of_disallows h hd
    · rw [Policy.disallows_iff_of_assertsListed h, not_not] at hd
      refine neverAccepts_of_fault hd.1 ?_
      by_contra hsound
      push Not at hsound
      exact hway ⟨hd.1, hd.2, hsound⟩

/-- The assertion of the restricted type of the small gateway. -/
def hardStatement : Triple := ⟨.iri "http://ext/1", .iri "info:type", .iri "info:Hard"⟩

/-- The small gateway with its restricted type among the relaxable ones too. -/
def softenedGateway : Gateway where
  policy := { (smallGateway .relaxed).policy with relaxableTypes := .ofList ["info:Hard"] }
  domains := (smallGateway .relaxed).domains
  mode := .relaxed

set_option maxRecDepth 10000 in
theorem hardStatement_neverAccepts :
    (smallGateway .relaxed).policy.AssertsListed hardStatement ∧
      (smallGateway .relaxed).NeverAccepts hardStatement ∧
      softenedGateway.policy.AssertsListed hardStatement ∧
      ¬ softenedGateway.NeverAccepts hardStatement := by
  have hlisted : (smallGateway .relaxed).policy.AssertsListed hardStatement :=
    ⟨_, _, rfl, rfl, by decide +kernel, by decide +kernel⟩
  have hsoftened : softenedGateway.policy.AssertsListed hardStatement :=
    ⟨_, _, rfl, rfl, by decide +kernel, by decide +kernel⟩
  refine ⟨hlisted, (neverAccepts_iff _ hlisted).mpr ?_, hsoftened, ?_⟩
  · rintro ⟨-, ⟨_, _, ⟨⟩, ⟨⟩, -, hrelaxable⟩, -⟩
    revert hrelaxable
    decide +kernel
  · rw [neverAccepts_iff _ hsoftened, not_not]
    exact ⟨rfl, ⟨_, _, rfl, rfl, by decide +kernel, by decide +kernel⟩, by decide +kernel⟩

set_option maxRecDepth 10000 in
/-- **A type that is listed as restricted and as relaxable is accepted under relaxed enforcement**,
in a graph and in an update. -/
theorem softenedGateway_accepts_listed :
    softenedGateway.policy.AssertsListed hardStatement ∧
      (∃ image, softenedGateway.internalizeGraph (.ofList [hardStatement]) = .ok image ∧
        image.triples = [⟨.iri "info:fedora/1", .iri "info:type", .iri "info:Hard"⟩]) ∧
      softenedGateway.internalizeRequest (insertion hardStatement) =
        .ok (insertion ⟨.iri "info:fedora/1", .iri "info:type", .iri "info:Hard"⟩) := by
  refine ⟨⟨_, _, rfl, rfl, by decide +kernel, by decide +kernel⟩, ⟨.ofList
    [⟨.iri "info:fedora/1", .iri "info:type", .iri "info:Hard"⟩], ?_, ?_⟩, by decide +kernel⟩
  · exact internalizeGraph_eq_ok_iff.mpr ⟨by decide +kernel, by decide +kernel, rfl⟩
  · decide +kernel

end Gateway

end RdfGateway
