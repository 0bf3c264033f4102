import RdfGateway.Proofs.Judgement

/-!
# The outcome of an update

An update that is accepted comes out as the same tree with the subjects and objects of its
statements mapped into the internal domain (`internalizeRequest_structure`). A well-formed update
is refused exactly when one of its statements is disallowed, and the report then lists the
disallowed statements in request order, as the client sent them (`internalizeRequest_report`).
-/

namespace RdfGateway.Gateway

variable {gateway : Gateway} {request result : Request}

/-- A gateway with one managed predicate, one restricted type and one relaxable type. -/
def smallGateway (mode : Enforcement) : Gateway where
  policy :=
    { managedNamespaces := ∅
      managedPredicates := .ofList ["info:made"]
      restrictedTypes := .ofList ["info:Hard"]
      relaxableTypes := .ofList ["info:Soft"]
      typePredicates := .ofList ["info:type"] }
  domains := ⟨"http://ext/", "info:fedora"⟩
  mode

/-! ## Structure -/

/-- **An accepted update keeps its structure**: only its statements change, each where it stands,
and of a statement only the IRIs of its subject and its object. -/
theorem internalizeRequest_structure (h : gateway.internalizeRequest request = .ok result) :
    result = request.mapStatements gateway.domains.inwardTriple ∧
      result.statements = request.statements.map gateway.domains.inwardTriple ∧
      ∀ triple ∈ request.statements,
        gateway.domains.internalizeTriple triple = .ok (gateway.domains.inwardTriple triple) := by
  obtain ⟨hsound, -, rfl⟩ := internalizeRequest_eq_ok_iff.mp h
  refine ⟨rfl, request.statements_mapStatements, fun triple ht => ?_⟩
  refine Domains.internalizeTriple_of_sound (firstFault?_eq_none_iff.mpr fun text hx => ?_)
  exact firstFault?_eq_none_iff.mp hsound text (Request.texts_subset ht hx)

/-- An update with an empty delete template, and statements, a filter and names of graphs at
several depths of its pattern. -/
def nestedUpdate : Request where
  base := some "http://ext/"
  prefixes := [⟨"ext", "http://ext/"⟩]
  operations :=
    [.insertData [⟨⟨.iri "http://ext/1", .iri "http://ext/p", .iri "http://ext/"⟩,
        .named (.iri "http://ext/g")⟩],
      .modify
        { withGraph := some "http://ext/g"
          usingGraphs := []
          usingNamed := ["http://ext/n"]
          delete := some []
          insert := none
          pattern := .group
            [.optional (.graph (.iri "http://ext/g")
                (.block [⟨.variable "s", .iri "http://ext/p", .iri "http://ext/2"⟩])),
              .filter "?s = <http://ext/1>",
              .block [⟨.blank "b", .iri "http://ext/p", .literal (.plain "http://ext/3")⟩]] }]

/-- The update as the store carries it out. -/
def nestedUpdateInward : Request where
  base := some "http://ext/"
  prefixes := [⟨"ext", "http://ext/"⟩]
  operations :=
    [.insertData [⟨⟨.iri "info:fedora/1", .iri "http://ext/p", .iri "info:fedora"⟩,
        .named (.iri "http://ext/g")⟩],
      .modify
        { withGraph := some "http://ext/g"
          usingGraphs := []
          usingNamed := ["http://ext/n"]
          delete := some []
          insert := none
          pattern := .group
            [.optional (.graph (.iri "http://ext/g")
                (.block [⟨.variable "s", .iri "http://ext/p", .iri "info:fedora/2"⟩])),
              .filter "?s = <http://ext/1>",
              .block [⟨.blank "b", .iri "http://ext/p", .literal (.plain "http://ext/3")⟩]] }]

set_option maxRecDepth 10000 in
theorem nestedUpdate_structure :
    (smallGateway .strict).internalizeRequest nestedUpdate = .ok nestedUpdateInward ∧
      nestedUpdateInward =
        nestedUpdate.mapStatements (smallGateway .strict).domains.inwardTriple := by
  have h : (smallGateway .strict).internalizeRequest nestedUpdate = .ok nestedUpdateInward := by
    decide +kernel
  exact ⟨h, (internalizeRequest_structure h).1⟩

/-! ## Reports -/

theorem internalizeRequest_eq_violations_iff {report : Report}
    (h : firstFault? request.texts = none) :
    gateway.internalizeRequest request = .error (.violations report) ↔
      report ≠ [] ∧ report = request.statements.filterMap gateway.forUpdate.refused? := by
  rw [internalizeRequest_of_sound h]
  by_cases hreport : request.statements.filterMap gateway.forUpdate.refused? = []
  · rw [if_pos hreport, hreport]
    constructor
    · intro e
      cases e
    · rintro ⟨hne, he⟩
      exact absurd he hne
  · rw [if_neg hreport, Except.error.injEq, Refusal.violations.injEq, eq_comm]
    exact ⟨fun e => ⟨e ▸ hreport, e⟩, And.right⟩

/-- **The report of an update is complete**: a well-formed update is refused for its statements
exactly when one of them is disallowed, the report lists the disallowed statements in request
order as they were sent, each with its own offence, and the domains have no part in it. Without a
disallowed statement the update is accepted. -/
theorem internalizeRequest_report (h : ∀ text ∈ request.texts, text.fault? = none) :
    ((∃ report, gateway.internalizeRequest request = .error (.violations report)) ↔
        ∃ triple ∈ request.statements,
          gateway.policy.disallows gateway.mode.forUpdate triple = true) ∧
      (∀ report, gateway.internalizeRequest request = .error (.violations report) →
        report.map Violation.statement =
            request.statements.filter (gateway.policy.disallows gateway.mode.forUpdate) ∧
          ∀ violation ∈ report,
            gateway.policy.offence? violation.statement = some violation.offence) ∧
      (∀ domains report,
        internalizeRequest { gateway with domains } request = .error (.violations report) ↔
          gateway.internalizeRequest request = .error (.violations report)) ∧
      ((∀ triple ∈ request.statements,
          gateway.policy.disallows gateway.mode.forUpdate triple = false) →
        ∃ result, gateway.internalizeRequest request = .ok result) := by
  have hsound : firstFault? request.texts = none := firstFault?_eq_none_iff.mpr h
  refine ⟨?_, fun report hreport => ?_, fun domains report => ?_, fun hallowed => ?_⟩
  · have hnil : request.statements.filterMap gateway.forUpdate.refused? = [] ↔
        ∀ triple ∈ request.statements,
          gateway.policy.disallows gateway.mode.forUpdate triple = false := by
      rw [List.filterMap_eq_nil_iff]
      exact forall₂_congr fun triple _ => refused?_eq_none_iff
    simp only [internalizeRequest_eq_violations_iff hsound, exists_eq_right]
    rw [Ne, hnil]
    simp
  · obtain ⟨-, rfl⟩ := (internalizeRequest_eq_violations_iff hsound).mp hreport
    refine ⟨map_statement_filterMap_refused? _ _, fun violation hv => ?_⟩
    obtain ⟨triple, -, hr⟩ := List.mem_filterMap.mp hv
    obtain ⟨hstatement, hoffence⟩ := refused?_eq_some hr
    rw [hstatement]
    exact hoffence
  · rw [internalizeRequest_eq_violations_iff hsound, internalizeRequest_eq_violations_iff hsound]
    rfl
  · exact ⟨_, internalizeRequest_eq_ok_iff.mpr
      ⟨hsound, fun triple ht => refused?_eq_none_iff.mpr (hallowed triple ht), rfl⟩⟩

/-- An update whose disallowed statements stand in a template and at two depths of a pattern,
with an allowed one between them. -/
def refusedUpdate : Request where
  base := none
  prefixes := []
  operations :=
    [.deleteWhere [⟨⟨.variable "s", .iri "http://ext/p", .variable "o"⟩, .default⟩],
      .modify
        { withGraph := none
          usingGraphs := []
          usingNamed := []
          delete := some [⟨⟨.variable "s", .iri "info:made", .variable "o"⟩, .default⟩]
          insert := none
          pattern := .group
            [.optional (.block [⟨.variable "s", .iri "info:type", .iri "info:Soft"⟩]),
              .block [⟨.iri "http://ext/1", .iri "info:type", .iri "info:Hard"⟩]] }]

set_option maxRecDepth 10000 in
theorem refusedUpdate_report :
    (∀ text ∈ refusedUpdate.texts, text.fault? = none) ∧
      ∃ report, (smallGateway .lenient).internalizeRequest refusedUpdate =
          .error (.violations report) ∧
        report.map Violation.statement =
          [⟨.variable "s", .iri "info:made", .variable "o"⟩,
            ⟨.variable "s", .iri "info:type", .iri "info:Soft"⟩,
            ⟨.iri "http://ext/1", .iri "info:type", .iri "info:Hard"⟩] := by
  have hsound : ∀ text ∈ refusedUpdate.texts, text.fault? = none := by decide +kernel
  obtain ⟨hiff, hreport, -⟩ := @internalizeRequest_report (smallGateway .lenient) _ hsound
  obtain ⟨report, h⟩ := hiff.mpr
    ⟨⟨.iri "http://ext/1", .iri "info:type", .iri "info:Hard"⟩, by decide +kernel⟩
  refine ⟨hsound, report, h, (hreport report h).1.trans ?_⟩
  decide +kernel

end RdfGateway.Gateway
