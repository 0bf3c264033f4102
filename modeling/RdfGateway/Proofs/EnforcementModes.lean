import RdfGateway.Proofs.GraphOutcome
import RdfGateway.Proofs.StoredStatements

/-!
# The modes of enforcement side by side

One policy and one pair of domains under the three modes. For graphs (`internalizeGraph_modes`),
lenient enforcement drops what the policy forbids and nothing else, so that it is strict enforcement
on what is left and never reports a violation. For updates (`internalizeRequest_modes`), where
nothing is dropped, it is strict enforcement on the whole. What strict enforcement accepts, the
other two accept with the same result. Relaxed enforcement reports what strict enforcement reports
less the offence that it waives, and accepts if nothing is left (`IsRelaxation`).

Proof. The mode takes part in a judgement only through `refused?`: lenient enforcement refuses the
same statements as strict enforcement, and the refusals of relaxed enforcement are those of strict
enforcement with the hard offences kept (`filterMap_refused?_relaxed`). The closed forms of the two
entry points carry this from one statement to graphs and requests.
-/

namespace RdfGateway

/-- The graph of the statements that satisfy the condition. -/
def Graph.filter (graph : Graph) (p : Triple → Bool) : Graph :=
  { triples := graph.triples.filter p, nodup := graph.nodup.filter p }

/-! ## Hard violations -/

namespace Report

/-- The report has an entry that no mode waives. -/
def HasHard (report : Report) : Prop :=
  ∃ violation ∈ report,
    violation.offence = .managedProperty ∨ violation.offence = .managedType

/-- The report without the entries that relaxed enforcement waives. -/
def hard (report : Report) : Report := report.filter (·.offence ≠ .relaxableType)

theorem hard_ne_nil_iff {report : Report} : report.hard ≠ [] ↔ report.HasHard := by
  unfold hard HasHard
  rw [Ne, List.filter_eq_nil_iff]
  push Not
  apply exists_congr
  intro violation
  apply and_congr_right
  intro _
  cases violation.offence <;> simp

theorem HasHard.ne_nil {report : Report} (h : report.HasHard) : report ≠ [] := by
  obtain ⟨violation, hv, -⟩ := h
  exact List.ne_nil_of_mem hv

end Report

/-- **Relaxed beside strict enforcement**: the relaxed answer is a refusal exactly when the strict
report has a hard entry, and its report is then the strict one without the relaxable entries. -/
structure IsRelaxation {α : Type} (strict relaxed : Except Refusal α) : Prop where
  refuses_iff : (∃ refusal, relaxed = .error refusal) ↔
    ∃ report, strict = .error (.violations report) ∧ report.HasHard
  report_eq : ∀ report : Report, strict = .error (.violations report) → report.HasHard →
    relaxed = .error (.violations report.hard)

namespace Gateway

theorem isRelaxation_accepted {α : Type} {value : α} {report : Report} :
    IsRelaxation (Judged.accepted ⟨value, report⟩) (Judged.accepted ⟨value, report.hard⟩) := by
  constructor
  · rw [exists_accepted_eq_error_iff, Report.hard_ne_nil_iff]
    constructor
    · intro h
      exact ⟨report, accepted_eq_violations_iff.mpr ⟨rfl, h.ne_nil⟩, h⟩
    · rintro ⟨sent, hsent, h⟩
      obtain ⟨rfl, -⟩ := accepted_eq_violations_iff.mp hsent
      exact h
  · intro sent hsent h
    obtain ⟨rfl, -⟩ := accepted_eq_violations_iff.mp hsent
    exact accepted_eq_violations_iff.mpr ⟨rfl, Report.hard_ne_nil_iff.mpr h⟩

variable {gateway : Gateway} {graph image : Graph} {request result : Request} {triple : Triple}

/-- The gateway with another mode of enforcement. -/
def under (gateway : Gateway) (mode : Enforcement) : Gateway := { gateway with mode }

/-! ## One statement -/

theorem refused?_lenient (gateway : Gateway) :
    (gateway.under .lenient).refused? = (gateway.under .strict).refused? := rfl

theorem refused?_strict (gateway : Gateway) (triple : Triple) :
    (gateway.under .strict).refused? triple = gateway.policy.violation? triple := by
  unfold refused?
  -- nothing is waived, so nothing is filtered out
  show (gateway.policy.violation? triple).filter (fun _ => true) = _
  cases gateway.policy.violation? triple <;> rfl

theorem refused?_relaxed (gateway : Gateway) (triple : Triple) :
    (gateway.under .relaxed).refused? triple =
      ((gateway.under .strict).refused? triple).filter (·.offence ≠ .relaxableType) := by
  rw [refused?_strict]
  unfold refused?
  show (gateway.policy.violation? triple).filter _ = _
  cases h : gateway.policy.violation? triple with
  | none => rfl
  | some violation =>
    obtain ⟨offence, statement⟩ := violation
    cases offence <;> rfl

theorem filterMap_refused?_relaxed (gateway : Gateway) (triples : List Triple) :
    triples.filterMap (gateway.under .relaxed).refused? =
      Report.hard (triples.filterMap (gateway.under .strict).refused?) := by
  unfold Report.hard
  rw [List.filter_filterMap]
  exact congrArg (triples.filterMap ·) (funext (refused?_relaxed gateway))

theorem refused?_strict_eq_none_iff :
    (gateway.under .strict).refused? triple = none ↔ gateway.policy.offence? triple = none := by
  rw [refused?_strict, Policy.violation?, Option.map_eq_none_iff]

theorem refused?_relaxed_eq_none (h : (gateway.under .strict).refused? triple = none) :
    (gateway.under .relaxed).refused? triple = none := by
  rw [refused?_relaxed, h]
  rfl

/-! ## Graphs -/

/-- Lenient enforcement keeps the statements that the policy allows. -/
theorem considered_lenient (gateway : Gateway) (graph : Graph) :
    (gateway.under .lenient).considered graph =
      graph.triples.filter fun triple => gateway.policy.offence? triple = none := by
  show graph.triples.filter (fun triple => !gateway.policy.touchesManaged triple) = _
  apply List.filter_congr
  intro triple _
  rw [Policy.touchesManaged_eq]
  cases gateway.policy.offence? triple <;> rfl

/-- Lenient enforcement is strict enforcement on what it keeps. -/
theorem internalizeGraph_lenient (gateway : Gateway) (graph : Graph) :
    (gateway.under .lenient).internalizeGraph graph =
      (gateway.under .strict).internalizeGraph
        (graph.filter fun triple => !gateway.policy.touchesManaged triple) := by
  unfold internalizeGraph
  rw [judgeAll_eq, judgeAll_eq]
  -- the same statements are considered on both sides, and the same ones are refused
  rfl

theorem internalizeGraph_lenient_ne_violations (gateway : Gateway) (graph : Graph)
    (report : Report) :
    (gateway.under .lenient).internalizeGraph graph ≠ .error (.violations report) := by
  rw [internalizeGraph_lenient]
  intro h
  obtain ⟨-, hne, hreport⟩ := (internalizeGraph_eq_violations_iff (.inl rfl)).mp h
  apply hne
  rw [hreport, List.filterMap_eq_nil_iff]
  intro triple ht
  have hkept := (List.mem_filter.mp ht).2
  rw [Policy.touchesManaged_eq, Bool.not_eq_true', Option.isSome_eq_false_iff,
    Option.isNone_iff_eq_none] at hkept
  exact refused?_strict_eq_none_iff.mpr hkept

/-- What strict enforcement accepts, the other modes accept with the same image. -/
theorem internalizeGraph_of_strict
    (h : (gateway.under .strict).internalizeGraph graph = .ok image) :
    (gateway.under .lenient).internalizeGraph graph = .ok image ∧
      (gateway.under .relaxed).internalizeGraph graph = .ok image := by
  obtain ⟨hsound, hrefused, himage⟩ := internalizeGraph_eq_ok_iff.mp h
  constructor
  · have hkept : (gateway.under .lenient).considered graph = graph.triples := by
      rw [considered_lenient, List.filter_eq_self]
      intro triple ht
      exact decide_eq_true (refused?_strict_eq_none_iff.mp (hrefused triple ht))
    apply internalizeGraph_eq_ok_iff.mpr
    rw [hkept]
    exact ⟨hsound, hrefused, himage⟩
  · apply internalizeGraph_eq_ok_iff.mpr
    exact ⟨hsound, fun triple ht => refused?_relaxed_eq_none (hrefused triple ht), himage⟩

theorem isRelaxation_internalizeGraph
    (h : firstFault? (graph.triples.flatMap Triple.texts) = none) :
    IsRelaxation ((gateway.under .strict).internalizeGraph graph)
      ((gateway.under .relaxed).internalizeGraph graph) := by
  rw [internalizeGraph_of_wellFormed (.inl rfl) h, internalizeGraph_of_wellFormed (.inr rfl) h,
    filterMap_refused?_relaxed, ← accepted_eq, ← accepted_eq]
  exact isRelaxation_accepted

/-- **The modes on a graph.** What touches the managed terms is what the policy forbids. Lenient
enforcement drops it and nothing else, never reports a violation, and gives what strict enforcement
gives without the statements that are dropped. A graph that strict enforcement accepts has the same
image in every mode. On a well-formed graph relaxed enforcement reports the hard violations of the
strict report. -/
theorem internalizeGraph_modes (gateway : Gateway) (graph : Graph) :
    (∀ triple, gateway.policy.touchesManaged triple = true ↔
      gateway.policy.offence? triple ≠ none) ∧
    (gateway.under .lenient).considered graph =
      graph.triples.filter (fun triple => gateway.policy.offence? triple = none) ∧
    (∀ report, (gateway.under .lenient).internalizeGraph graph ≠ .error (.violations report)) ∧
    (gateway.under .lenient).internalizeGraph graph =
      (gateway.under .strict).internalizeGraph
        (graph.filter fun triple => !gateway.policy.touchesManaged triple) ∧
    (∀ image, (gateway.under .strict).internalizeGraph graph = .ok image →
      (gateway.under .lenient).internalizeGraph graph = .ok image ∧
        (gateway.under .relaxed).internalizeGraph graph = .ok image) ∧
    ((∀ triple ∈ graph.triples, ∀ text ∈ triple.texts, text.fault? = none) →
      IsRelaxation ((gateway.under .strict).internalizeGraph graph)
        ((gateway.under .relaxed).internalizeGraph graph)) := by
  refine ⟨?_, considered_lenient gateway graph,
    internalizeGraph_lenient_ne_violations gateway graph, internalizeGraph_lenient gateway graph,
    ?_, ?_⟩
  · intro triple
    rw [Policy.touchesManaged_eq, Option.isSome_iff_ne_none]
  · intro image h
    exact internalizeGraph_of_strict h
  · intro hsound
    exact isRelaxation_internalizeGraph (firstFault?_graph hsound)

/-- A graph with an allowed statement and one of each offence. -/
def mixedGraph : Graph := .ofList
  [⟨.iri "http://ext/1", .iri "info:made", .literal (.plain "2020")⟩,
    ⟨.iri "http://ext/1", .iri "info:type", .iri "info:Soft"⟩,
    ⟨.iri "http://ext/1", .iri "http://ext/p", .iri "http://ext/2"⟩,
    ⟨.iri "http://ext/1", .iri "info:type", .iri "info:Hard"⟩]

set_option maxRecDepth 10000 in
theorem mixedGraph_modes :
    (∃ image, (smallGateway .lenient).internalizeGraph mixedGraph = .ok image ∧
      image.triples = [⟨.iri "info:fedora/1", .iri "http://ext/p", .iri "info:fedora/2"⟩]) ∧
      (smallGateway .relaxed).internalizeGraph mixedGraph = .error (.violations
        [⟨.managedProperty, ⟨.iri "http://ext/1", .iri "info:made", .literal (.plain "2020")⟩⟩,
          ⟨.managedType, ⟨.iri "http://ext/1", .iri "info:type", .iri "info:Hard"⟩⟩]) := by
  obtain ⟨-, -, -, hlenient, -, hrelaxed⟩ :=
    internalizeGraph_modes (smallGateway .strict) mixedGraph
  have hsound : ∀ triple ∈ mixedGraph.triples, ∀ text ∈ triple.texts,
      text.fault? = none := by decide +kernel
  constructor
  · refine ⟨_, hlenient.trans (internalizeGraph_eq_ok_iff.mpr ⟨?_, ?_, rfl⟩), ?_⟩
    all_goals decide +kernel
  · have hstrict : (smallGateway .strict).internalizeGraph mixedGraph = .error (.violations _) :=
      (internalizeGraph_eq_violations_iff (.inl rfl)).mpr
        ⟨firstFault?_graph hsound, by decide +kernel, rfl⟩
    refine ((hrelaxed hsound).report_eq _ hstrict (Report.hard_ne_nil_iff.mp ?_)).trans ?_
    · decide +kernel
    · rw [Except.error.injEq, Refusal.violations.injEq]
      decide +kernel

/-! ## Updates -/

theorem admitted_lenient (gateway : Gateway) :
    (gateway.under .lenient).admitted = (gateway.under .strict).admitted := rfl

theorem judgeOperation_lenient (gateway : Gateway) (operation : Operation) :
    (gateway.under .lenient).judgeOperation operation =
      (gateway.under .strict).judgeOperation operation := by
  rw [judgeOperation_eq, judgeOperation_eq, admitted_lenient, refused?_lenient]

theorem judgePattern_lenient (gateway : Gateway) (pattern : Pattern) :
    (gateway.under .lenient).judgePattern pattern =
      (gateway.under .strict).judgePattern pattern := by
  rw [judgePattern_eq, judgePattern_eq, admitted_lenient, refused?_lenient]

/-- Updates are judged under `forUpdate`, which is strict where the gateway is lenient. -/
theorem internalizeRequest_lenient (gateway : Gateway) (request : Request) :
    (gateway.under .lenient).internalizeRequest request =
      (gateway.under .strict).internalizeRequest request := rfl

theorem internalizeRequest_of_strict
    (h : (gateway.under .strict).internalizeRequest request = .ok result) :
    (gateway.under .relaxed).internalizeRequest request = .ok result := by
  obtain ⟨hsound, hrefused, hresult⟩ := internalizeRequest_eq_ok_iff.mp h
  apply internalizeRequest_eq_ok_iff.mpr
  exact ⟨hsound, fun triple ht => refused?_relaxed_eq_none (hrefused triple ht), hresult⟩

theorem isRelaxation_internalizeRequest (h : firstFault? request.texts = none) :
    IsRelaxation ((gateway.under .strict).internalizeRequest request)
      ((gateway.under .relaxed).internalizeRequest request) := by
  have hreport : request.statements.filterMap (gateway.under .relaxed).forUpdate.refused? =
      Report.hard (request.statements.filterMap (gateway.under .strict).forUpdate.refused?) :=
    filterMap_refused?_relaxed gateway request.statements
  rw [internalizeRequest_of_sound h, internalizeRequest_of_sound h, hreport, ← accepted_eq,
    ← accepted_eq]
  exact isRelaxation_accepted

/-- **The modes on an update.** Lenient enforcement is strict enforcement, for requests and also
for an operation or a pattern that is judged by itself. An update that strict enforcement accepts
has the same result under relaxed enforcement. On a well-formed update relaxed enforcement reports
the hard violations of the strict report. -/
theorem internalizeRequest_modes (gateway : Gateway) (request : Request) :
    (gateway.under .lenient).internalizeRequest request =
      (gateway.under .strict).internalizeRequest request ∧
    (∀ operation, (gateway.under .lenient).judgeOperation operation =
      (gateway.under .strict).judgeOperation operation) ∧
    (∀ pattern, (gateway.under .lenient).judgePattern pattern =
      (gateway.under .strict).judgePattern pattern) ∧
    (∀ result, (gateway.under .strict).internalizeRequest request = .ok result →
      (gateway.under .relaxed).internalizeRequest request = .ok result) ∧
    ((∀ text ∈ request.texts, text.fault? = none) →
      IsRelaxation ((gateway.under .strict).internalizeRequest request)
        ((gateway.under .relaxed).internalizeRequest request)) := by
  refine ⟨internalizeRequest_lenient gateway request, judgeOperation_lenient gateway,
    judgePattern_lenient gateway, ?_, ?_⟩
  · intro result h
    exact internalizeRequest_of_strict h
  · intro hsound
    exact isRelaxation_internalizeRequest (firstFault?_eq_none_iff.mpr hsound)

set_option maxRecDepth 10000 in
theorem refusedUpdate_modes :
    (smallGateway .relaxed).internalizeRequest refusedUpdate = .error (.violations
      [⟨.managedProperty, ⟨.variable "s", .iri "info:made", .variable "o"⟩⟩,
        ⟨.managedType, ⟨.iri "http://ext/1", .iri "info:type", .iri "info:Hard"⟩⟩]) := by
  obtain ⟨-, -, -, -, hrelaxed⟩ := internalizeRequest_modes (smallGateway .strict) refusedUpdate
  have hsound : ∀ text ∈ refusedUpdate.texts, text.fault? = none := by decide +kernel
  have hstrict :
      (smallGateway .strict).internalizeRequest refusedUpdate = .error (.violations _) :=
    (internalizeRequest_eq_violations_iff (firstFault?_eq_none_iff.mpr hsound)).mpr
      ⟨by decide +kernel, rfl⟩
  refine ((hrelaxed hsound).report_eq _ hstrict (Report.hard_ne_nil_iff.mp ?_)).trans ?_
  · decide +kernel
  · rw [Except.error.injEq, Refusal.violations.injEq]
    decide +kernel

end Gateway

end RdfGateway
