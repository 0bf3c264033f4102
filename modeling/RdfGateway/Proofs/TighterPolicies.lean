import RdfGateway.Proofs.GraphOutcome
import RdfGateway.Proofs.StoredStatements

/-!
# Tighter policies

A policy is tighter than another one when it manages all that the other one manages, and the same
types are relaxable (`Policy.IsTighter`). Where nothing is waived, more types may be relaxable too.
`outcome_tighter` compares the answers of two gateways that differ in this alone: what the tighter
one accepts, the other one accepts with the same result, they find the same faults, and the tighter
one reports at least what the other one reports.

Proof. The rules for types are not monotone one by one, because a relaxable type is no restricted
one, and because a managed predicate decides before its object is looked at. A type is forbidden,
however, as soon as one of three conditions holds, unless it is relaxable and waived
(`forbidsType_iff`), and a predicate that no longer asserts types in the tighter policy is managed
there. So whatever is disallowed stays disallowed (`disallows_of_isTighter`), and the closed forms
of the two entry points carry this to graphs and updates.
-/

namespace RdfGateway

namespace Policy

variable {policy tighter : Policy} {mode : Enforcement} {iri type : String} {triple : Triple}

/-- **A tighter policy**: each set has the members that it had, and where relaxable types are
waived there are no more of them. -/
structure IsTighter (mode : Enforcement) (policy tighter : Policy) : Prop where
  managedNamespaces : ∀ iri ∈ policy.managedNamespaces, iri ∈ tighter.managedNamespaces
  managedPredicates : ∀ iri ∈ policy.managedPredicates, iri ∈ tighter.managedPredicates
  restrictedTypes : ∀ iri ∈ policy.restrictedTypes, iri ∈ tighter.restrictedTypes
  typePredicates : ∀ iri ∈ policy.typePredicates, iri ∈ tighter.typePredicates
  relaxableTypes : ∀ iri ∈ policy.relaxableTypes, iri ∈ tighter.relaxableTypes
  relaxableTypes_eq : mode = .relaxed → tighter.relaxableTypes = policy.relaxableTypes

/-- A type is forbidden for any of three reasons, unless it is relaxable and waived. -/
theorem forbidsType_iff :
    policy.forbidsType mode type = true ↔
      (type ∈ policy.relaxableTypes → mode ≠ .relaxed) ∧
        (type ∈ policy.relaxableTypes ∨ type ∈ policy.restrictedTypes ∨
          policy.inManagedNamespace type = true) := by
  by_cases hrelaxable : type ∈ policy.relaxableTypes
  · have hoffence : policy.typeOffence? type = some .relaxableType := by
      simp [typeOffence?, isRestrictedType, isRelaxableType, hrelaxable]
    have hwaives : mode.waives .relaxableType = true ↔ mode = .relaxed := by cases mode <;> decide
    simp [forbidsType, hoffence, hrelaxable, ← hwaives]
  · have hwaives : mode.waives .managedType = false := by cases mode <;> rfl
    by_cases hrestricted :
        type ∈ policy.restrictedTypes ∨ policy.inManagedNamespace type = true
    · have hoffence : policy.typeOffence? type = some .managedType := by
        simp [typeOffence?, isRestrictedType, isRelaxableType, hrelaxable, hrestricted]
      simp [forbidsType, hoffence, hwaives, hrelaxable, hrestricted]
    · have hoffence : policy.typeOffence? type = none := by
        simp only [typeOffence?, isRestrictedType, isRelaxableType, hrelaxable]
        simpa using hrestricted
      simp [forbidsType, hoffence, hrelaxable, hrestricted]

section
variable (h : policy.IsTighter mode tighter)
include h

theorem inManagedNamespace_of_isTighter (hiri : policy.inManagedNamespace iri = true) :
    tighter.inManagedNamespace iri = true := by
  obtain ⟨namespaceIri, hmem, hbegins⟩ := List.any_eq_true.mp hiri
  exact List.any_eq_true.mpr ⟨namespaceIri, h.managedNamespaces namespaceIri hmem, hbegins⟩

theorem isManagedPredicate_of_isTighter (hiri : policy.isManagedPredicate iri = true) :
    tighter.isManagedPredicate iri = true := by
  simp only [isManagedPredicate, Bool.or_eq_true, decide_eq_true_eq] at hiri ⊢
  exact hiri.imp (h.managedPredicates iri) (inManagedNamespace_of_isTighter h)

theorem assertsType_of_isTighter (hiri : policy.assertsType iri = true) :
    tighter.isManagedPredicate iri = true ∨ tighter.assertsType iri = true := by
  simp only [assertsType, isTypePredicate, Bool.and_eq_true, decide_eq_true_eq] at hiri ⊢
  cases tighter.isManagedPredicate iri with
  | true => exact .inl rfl
  | false => exact .inr ⟨rfl, h.typePredicates iri hiri.2⟩

theorem forbidsType_of_isTighter (htype : policy.forbidsType mode type = true) :
    tighter.forbidsType mode type = true := by
  rw [forbidsType_iff] at htype ⊢
  obtain ⟨hwaived, hreason⟩ := htype
  constructor
  · intro hmem hmode
    rw [h.relaxableTypes_eq hmode] at hmem
    exact hwaived hmem hmode
  · exact hreason.imp (h.relaxableTypes type)
      (Or.imp (h.restrictedTypes type) (inManagedNamespace_of_isTighter h))

/-- What a policy disallows, a tighter one disallows. -/
theorem disallows_of_isTighter (htriple : policy.disallows mode triple = true) :
    tighter.disallows mode triple = true := by
  rw [disallows_eq_true_iff] at htriple ⊢
  obtain ⟨predicate, hpredicate, hmanaged | ⟨hasserts, type, hobject, hforbidden⟩⟩ := htriple
  · exact ⟨predicate, hpredicate, .inl (isManagedPredicate_of_isTighter h hmanaged)⟩
  · refine ⟨predicate, hpredicate, (assertsType_of_isTighter h hasserts).imp_right fun ha => ?_⟩
    exact ⟨ha, type, hobject, forbidsType_of_isTighter h hforbidden⟩

end

end Policy

/-- **The answer under a tighter policy**: what is accepted is accepted without the tightening and
with the same result, a fault stays the fault that it is, and what is reported is still reported,
in the same order. -/
structure IsTightening {α : Type} (outcome tightened : Except Refusal α) : Prop where
  accepts : ∀ value, tightened = .ok value → outcome = .ok value
  fault_iff : ∀ fault, tightened = .error (.fault fault) ↔ outcome = .error (.fault fault)
  reports : ∀ report : Report, outcome = .error (.violations report) →
    ∃ more : Report, tightened = .error (.violations more) ∧
      (report.map Violation.statement).Sublist (more.map Violation.statement)

theorem IsTightening.refl {α : Type} (outcome : Except Refusal α) :
    IsTightening outcome outcome where
  accepts _ h := h
  fault_iff _ := Iff.rfl
  reports report h := ⟨report, h, .refl _⟩

namespace Gateway

theorem isTightening_accepted {α : Type} {value : α} {report more : Report}
    (h : (report.map Violation.statement).Sublist (more.map Violation.statement)) :
    IsTightening (Judged.accepted ⟨value, report⟩) (Judged.accepted ⟨value, more⟩) := by
  -- an empty report has nothing above it, so the larger one decides
  have hempty : more = [] → report = [] := by
    rintro rfl
    exact List.map_eq_nil_iff.mp (List.sublist_nil.mp h)
  constructor
  · intro accepted haccepted
    rw [accepted_eq] at haccepted ⊢
    by_cases hmore : more = []
    · rw [if_pos hmore] at haccepted
      rw [if_pos (hempty hmore), haccepted]
    · rw [if_neg hmore] at haccepted
      cases haccepted
  · intro fault
    rw [accepted_eq, accepted_eq]
    split_ifs <;> simp
  · intro sent hsent
    obtain ⟨rfl, hne⟩ := accepted_eq_violations_iff.mp hsent
    exact ⟨more, accepted_eq_violations_iff.mpr ⟨rfl, mt hempty hne⟩, h⟩

/-- The gateway with another policy. -/
def withPolicy (gateway : Gateway) (policy : Policy) : Gateway := { gateway with policy }

variable {gateway : Gateway} {tighter : Policy} {graph : Graph} {request : Request}

section
variable (h : gateway.policy.IsTighter gateway.mode tighter)
include h

/-- Of any statements, those that are reported are still reported. -/
theorem sublist_statements_of_isTighter (triples : List Triple) :
    ((triples.filterMap gateway.refused?).map Violation.statement).Sublist
      ((triples.filterMap (gateway.withPolicy tighter).refused?).map Violation.statement) := by
  rw [map_statement_filterMap_refused?, map_statement_filterMap_refused?]
  exact List.monotone_filter_right triples fun triple => Policy.disallows_of_isTighter h

theorem isTightening_internalizeGraph (hmode : gateway.mode = .strict ∨ gateway.mode = .relaxed) :
    IsTightening (gateway.internalizeGraph graph)
      ((gateway.withPolicy tighter).internalizeGraph graph) := by
  have hmode' : (gateway.withPolicy tighter).mode = .strict ∨
      (gateway.withPolicy tighter).mode = .relaxed := hmode
  cases hfault : firstFault? (graph.triples.flatMap Triple.texts) with
  | some fault =>
    have hleft : gateway.internalizeGraph graph = .error (.fault fault) :=
      internalizeGraph_of_fault (by rw [considered_eq_triples hmode, hfault])
    have hright : (gateway.withPolicy tighter).internalizeGraph graph = .error (.fault fault) :=
      internalizeGraph_of_fault (by rw [considered_eq_triples hmode', hfault])
    rw [hleft, hright]
    exact .refl _
  | none =>
    rw [internalizeGraph_of_wellFormed hmode hfault, internalizeGraph_of_wellFormed hmode' hfault,
      ← accepted_eq, ← accepted_eq]
    exact isTightening_accepted (sublist_statements_of_isTighter h graph.triples)

theorem isTightening_internalizeRequest :
    IsTightening (gateway.internalizeRequest request)
      ((gateway.withPolicy tighter).internalizeRequest request) := by
  cases hfault : firstFault? request.texts with
  | some fault =>
    rw [internalizeRequest_of_fault hfault, internalizeRequest_of_fault hfault]
    exact .refl _
  | none =>
    rw [internalizeRequest_of_sound hfault, internalizeRequest_of_sound hfault, ← accepted_eq,
      ← accepted_eq, refused?_forUpdate, refused?_forUpdate]
    exact isTightening_accepted (sublist_statements_of_isTighter h request.statements)

end

/-- **A tighter policy turns acceptances into refusals and changes no result.** Graphs under strict
and relaxed enforcement, and updates under any, are accepted with the result that they have without
the tightening, or are refused for what was refused before and possibly for more. -/
theorem outcome_tighter (gateway : Gateway)
    (h : gateway.policy.IsTighter gateway.mode tighter) :
    (gateway.mode = .strict ∨ gateway.mode = .relaxed → ∀ graph,
      IsTightening (gateway.internalizeGraph graph)
        ((gateway.withPolicy tighter).internalizeGraph graph)) ∧
    ∀ request, IsTightening (gateway.internalizeRequest request)
      ((gateway.withPolicy tighter).internalizeRequest request) := by
  constructor
  · intro hmode graph
    exact isTightening_internalizeGraph h hmode
  · intro request
    exact isTightening_internalizeRequest h

/-- The policy of the small gateway with a member more in each set but one. Its relaxable type is
among the restricted ones too. -/
def extendedPolicy : Policy where
  managedNamespaces := .ofList ["info:server/"]
  managedPredicates := .ofList ["info:made", "info:seen"]
  restrictedTypes := .ofList ["info:Hard", "info:Soft"]
  relaxableTypes := .ofList ["info:Soft"]
  typePredicates := .ofList ["info:type", "info:kind"]

/-- The assertion of the relaxable type. -/
def softStatement : Triple := ⟨.iri "http://ext/1", .iri "info:type", .iri "info:Soft"⟩

/-- The assertion of the restricted type by a predicate that only the larger policy knows. -/
def kindStatement : Triple := ⟨.iri "http://ext/1", .iri "info:kind", .iri "info:Hard"⟩

set_option maxRecDepth 10000 in
theorem extendedPolicy_tighter :
    (smallGateway .relaxed).policy.IsTighter .relaxed extendedPolicy ∧
      (∃ image,
        ((smallGateway .relaxed).withPolicy extendedPolicy).internalizeGraph
          (.ofList [softStatement]) = .ok image ∧
        (smallGateway .relaxed).internalizeGraph (.ofList [softStatement]) = .ok image) ∧
      (∃ result, (smallGateway .relaxed).internalizeRequest (insertion kindStatement) =
        .ok result) ∧
      ((smallGateway .relaxed).withPolicy extendedPolicy).internalizeRequest
        (insertion kindStatement) = .error (.violations [⟨.managedType, kindStatement⟩]) := by
  have htighter : (smallGateway .relaxed).policy.IsTighter .relaxed extendedPolicy := by
    constructor
    case relaxableTypes_eq => exact fun _ => rfl
    all_goals
      simp only [IriSet.mem_def]
      decide +kernel
  have himage : ((smallGateway .relaxed).withPolicy extendedPolicy).internalizeGraph
      (.ofList [softStatement]) =
        .ok (.ofList [⟨.iri "info:fedora/1", .iri "info:type", .iri "info:Soft"⟩]) :=
    internalizeGraph_eq_ok_iff.mpr ⟨by decide +kernel, by decide +kernel, rfl⟩
  obtain ⟨hgraphs, -⟩ := outcome_tighter (smallGateway .relaxed) htighter
  exact ⟨htighter, ⟨_, himage, (hgraphs (.inr rfl) _).accepts _ himage⟩,
    ⟨_, internalizeRequest_insertion (by decide +kernel) (by decide +kernel)⟩, by decide +kernel⟩

end Gateway

end RdfGateway
