import Mathlib.Data.List.Basic
import RdfGateway.Gateway.Update
import RdfGateway.Proofs.RequestParts

/-!
# What the gateway answers

Each part of a request is judged by one rule: the first malformed text of the part is its fault;
without one, the part comes back with its statements admitted where they stand, together with the
violations of its statements in their order. `judgeRequest_eq` is that rule for requests, built
from the same rule for each kind of part, and `internalizeRequest_of_sound`,
`internalizeRequest_of_fault` and `internalizeGraph_of_sound` are what the two entry points make
of it.
-/

namespace RdfGateway

/-- The value, once the texts have been found to have the forms of their places. -/
def checked {α : Type} (texts : List PlacedText) (value : α) : Except Fault α := do
  Fault.check (firstFault? texts)
  return value

section
variable {α β : Type} {texts others : List PlacedText}

theorem checked_of_sound {value : α} (h : firstFault? texts = none) :
    checked texts value = .ok value := by
  rw [checked, h]
  rfl

theorem checked_of_fault {value : α} {fault : Fault} (h : firstFault? texts = some fault) :
    checked texts value = .error fault := by
  rw [checked, h]
  rfl

theorem check_firstFault? : Fault.check (firstFault? texts) = checked texts () := by
  cases h : firstFault? texts with
  | none => rw [checked_of_sound h]; rfl
  | some fault => rw [checked_of_fault h]; rfl

theorem map_checked (f : α → β) (value : α) :
    f <$> checked texts value = checked texts (f value) := by
  cases h : firstFault? texts with
  | none => rw [checked_of_sound h, checked_of_sound h]; rfl
  | some fault => rw [checked_of_fault h, checked_of_fault h]; rfl

theorem checked_bind {value : α} {result : β} {next : α → Except Fault β}
    (h : next value = checked others result) :
    checked texts value >>= next = checked (texts ++ others) result := by
  cases ht : firstFault? texts with
  | none =>
    rw [checked_of_sound ht, checked, firstFault?_append, ht, Option.none_or]
    exact h
  | some fault =>
    rw [checked_of_fault ht, checked_of_fault (by rw [firstFault?_append, ht]; rfl)]
    rfl

theorem checked_bind_pure {value : α} (f : α → β) :
    checked texts value >>= (fun x => pure (f x)) = checked texts (f value) :=
  map_checked f value

theorem mapM_checked {f : α → Except Fault β} {t : α → List PlacedText} {value : α → β}
    (h : ∀ x, f x = checked (t x) (value x)) (xs : List α) :
    xs.mapM f = checked (xs.flatMap t) (xs.map value) := by
  induction xs with
  | nil => rfl
  | cons x xs ih =>
    rw [List.mapM_cons, h x, ih, List.flatMap_cons]
    exact checked_bind (checked_bind_pure _)

end

/-! ## The domains on well-formed terms -/

namespace Domains

/-- A term with its IRI mapped into the internal domain. -/
def inwardTerm (domains : Domains) : Term → Term
  | .iri text => .iri (domains.inward text)
  | term => term

/-- A statement with the IRIs of its subject and its object mapped into the internal domain. -/
def inwardTriple (domains : Domains) (triple : Triple) : Triple :=
  { triple with
    subject := domains.inwardTerm triple.subject
    object := domains.inwardTerm triple.object }

theorem internalizeTerm_of_sound {domains : Domains} {term : Term}
    (h : firstFault? term.texts = none) :
    domains.internalizeTerm term = .ok (domains.inwardTerm term) := by
  cases term with
  | iri text =>
    have hiri : iriFault? text = none := by
      simpa [Term.texts, PlacedText.fault?] using h
    rw [internalizeTerm, internalize, hiri]
    rfl
  | blank label | literal content | «variable» name => rfl

theorem internalizeTriple_of_sound {domains : Domains} {triple : Triple}
    (h : firstFault? triple.texts = none) :
    domains.internalizeTriple triple = .ok (domains.inwardTriple triple) := by
  simp only [Triple.texts, firstFault?_append, Option.or_eq_none_iff] at h
  obtain ⟨⟨hsubject, -⟩, hobject⟩ := h
  rw [internalizeTriple, internalizeTerm_of_sound hsubject, internalizeTerm_of_sound hobject]
  rfl

end Domains

/-! ## Verdicts -/

/-- The policy forbids the statement and the mode does not waive the offence. -/
def Policy.disallows (policy : Policy) (mode : Enforcement) (triple : Triple) : Bool :=
  (policy.offence? triple).any fun offence => !mode.waives offence

theorem Policy.disallows_eq_false_iff {policy : Policy} {mode : Enforcement} {triple : Triple} :
    policy.disallows mode triple = false ↔
      policy.offence? triple = none ∨
        (policy.offence? triple = some .relaxableType ∧ mode = .relaxed) := by
  rw [disallows]
  cases policy.offence? triple with
  | none => simp
  | some offence => cases offence <;> cases mode <;> decide

namespace Gateway

theorem refused?_eq_none_iff {gateway : Gateway} {triple : Triple} :
    gateway.refused? triple = none ↔ gateway.policy.disallows gateway.mode triple = false := by
  rw [refused?, Policy.violation?, Policy.disallows]
  cases gateway.policy.offence? triple <;> simp

theorem refused?_eq_some {gateway : Gateway} {triple : Triple} {violation : Violation}
    (h : gateway.refused? triple = some violation) :
    violation.statement = triple ∧
      gateway.policy.offence? triple = some violation.offence := by
  rw [refused?, Policy.violation?, Option.filter_eq_some_iff, Option.map_eq_some_iff] at h
  obtain ⟨⟨offence, ho, rfl⟩, -⟩ := h
  exact ⟨rfl, ho⟩

/-- The statements of a report are the disallowed ones, in their order and multiplicity. -/
theorem map_statement_filterMap_refused? (gateway : Gateway) (triples : List Triple) :
    (triples.filterMap gateway.refused?).map Violation.statement =
      triples.filter (gateway.policy.disallows gateway.mode) := by
  induction triples with
  | nil => rfl
  | cons triple rest ih =>
    cases hr : gateway.refused? triple with
    | none =>
      rw [List.filterMap_cons_none hr, List.filter_cons, refused?_eq_none_iff.mp hr, ih]
      rfl
    | some violation =>
      have hd : gateway.policy.disallows gateway.mode triple = true := by
        rw [← Bool.not_eq_false, ← refused?_eq_none_iff, hr]
        exact Option.some_ne_none _
      rw [List.filterMap_cons_some hr, List.map_cons, (refused?_eq_some hr).1, ih,
        List.filter_cons_of_pos hd]

/-- A statement as it leaves the gateway: a refused one stays as it is. -/
def admitted (gateway : Gateway) (triple : Triple) : Triple :=
  if (gateway.refused? triple).isSome then triple else gateway.domains.inwardTriple triple

theorem admitted_of_not_refused {gateway : Gateway} {triple : Triple}
    (h : gateway.refused? triple = none) :
    gateway.admitted triple = gateway.domains.inwardTriple triple := by
  rw [admitted, h]
  rfl

variable (gateway : Gateway)

/-! ## One rule for every part -/

theorem judge_eq (triple : Triple) :
    gateway.judge triple =
      checked triple.texts ⟨gateway.admitted triple, (gateway.refused? triple).toList⟩ := by
  rw [judge, Triple.fault?_eq, check_firstFault?]
  cases h : firstFault? triple.texts with
  | some fault =>
    rw [checked_of_fault h, checked_of_fault h]
    rfl
  | none =>
    rw [checked_of_sound h, checked_of_sound h]
    cases hr : gateway.refused? triple with
    | some violation =>
      rw [admitted, hr]
      rfl
    | none =>
      rw [admitted_of_not_refused hr, Domains.internalizeTriple_of_sound h]
      rfl

theorem judgeAll_eq (triples : List Triple) :
    gateway.judgeAll triples =
      checked (triples.flatMap Triple.texts)
        ⟨triples.map gateway.admitted, triples.filterMap gateway.refused?⟩ := by
  rw [judgeAll, mapM_checked gateway.judge_eq, map_checked, Judged.all, List.map_map,
    List.flatMap_map, List.filterMap_eq_flatMap_toList]
  rfl

theorem judgeQuad_eq (quad : Quad) :
    gateway.judgeQuad quad =
      checked quad.texts
        ⟨quad.mapStatement gateway.admitted, (gateway.refused? quad.triple).toList⟩ := by
  rw [judgeQuad, GraphName.fault?_eq, check_firstFault?, judge_eq]
  exact checked_bind (checked_bind_pure _)

theorem judgeQuads_eq (quads : List Quad) :
    gateway.judgeQuads quads =
      checked (quads.flatMap Quad.texts)
        ⟨quads.map (Quad.mapStatement gateway.admitted),
          (quads.map Quad.triple).filterMap gateway.refused?⟩ := by
  rw [judgeQuads, mapM_checked gateway.judgeQuad_eq, map_checked, Judged.all, List.map_map,
    List.flatMap_map, List.filterMap_map, List.filterMap_eq_flatMap_toList]
  rfl

theorem judgeTemplate_eq (template : Option (List Quad)) :
    gateway.judgeTemplate template =
      checked (templateTexts template)
        ⟨template.map (·.map (Quad.mapStatement gateway.admitted)),
          (templateStatements template).filterMap gateway.refused?⟩ := by
  cases template with
  | none => rfl
  | some quads =>
    rw [judgeTemplate, judgeQuads_eq]
    exact checked_bind_pure _

mutual

theorem judgePattern_eq :
    (pattern : Pattern) →
      gateway.judgePattern pattern =
        checked pattern.texts
          ⟨pattern.mapStatements gateway.admitted, pattern.statements.filterMap gateway.refused?⟩
  | .group children => by
    rw [judgePattern, judgePatterns_eq children]
    exact checked_bind_pure _
  | .block triples => by
    rw [judgePattern, judgeAll_eq]
    exact checked_bind_pure _
  | .optional body => by
    rw [judgePattern, judgePattern_eq body]
    exact checked_bind_pure _
  | .graph name body => by
    rw [judgePattern, Term.fault?_eq, check_firstFault?, judgePattern_eq body]
    exact checked_bind (checked_bind_pure _)
  | .filter expression => by
    have htext : filterFault? expression = firstFault? [.filter expression] := by
      rw [firstFault?_cons, firstFault?_nil, Option.or_none]
      rfl
    rw [judgePattern, htext, check_firstFault?]
    exact checked_bind_pure _

theorem judgePatterns_eq :
    (patterns : List Pattern) →
      gateway.judgePatterns patterns =
        checked (Pattern.textsAll patterns)
          ⟨Pattern.mapStatementsAll gateway.admitted patterns,
            (Pattern.statementsAll patterns).filterMap gateway.refused?⟩
  | [] => rfl
  | child :: rest => by
    rw [judgePatterns, judgePattern_eq child, judgePatterns_eq rest, Pattern.statementsAll,
      List.filterMap_append]
    exact checked_bind (checked_bind_pure _)

end

theorem judgeModify_eq (modify : Modify) :
    gateway.judgeModify modify =
      checked modify.texts
        ⟨modify.mapStatements gateway.admitted,
          modify.statements.filterMap gateway.refused?⟩ := by
  have htexts : modify.texts =
      (modify.withGraph.toList ++ modify.usingGraphs ++ modify.usingNamed).map .iri ++
        (templateTexts modify.delete ++
          (templateTexts modify.insert ++ modify.pattern.texts)) := by
    rw [Modify.texts, List.append_assoc, List.append_assoc]
  rw [judgeModify, findSome?_iriFault?, check_firstFault?, judgeTemplate_eq, judgeTemplate_eq,
    judgePattern_eq, htexts, Modify.statements, List.filterMap_append, List.filterMap_append]
  exact checked_bind (checked_bind (checked_bind (checked_bind_pure _)))

theorem judgeOperation_eq (operation : Operation) :
    gateway.judgeOperation operation =
      checked operation.texts
        ⟨operation.mapStatements gateway.admitted,
          operation.statements.filterMap gateway.refused?⟩ := by
  cases operation with
  | insertData quads | deleteData quads | deleteWhere quads =>
    rw [judgeOperation, judgeQuads_eq]
    exact checked_bind_pure _
  | modify change =>
    rw [judgeOperation, judgeModify_eq]
    exact checked_bind_pure _

theorem judgeRequest_eq (request : Request) :
    gateway.judgeRequest request =
      checked request.texts
        ⟨request.mapStatements gateway.admitted,
          request.statements.filterMap gateway.refused?⟩ := by
  rw [judgeRequest, prologueFault?_eq, check_firstFault?,
    mapM_checked gateway.judgeOperation_eq, Request.statements, List.filterMap_flatMap]
  refine checked_bind ?_
  rw [checked_bind_pure, Judged.all, List.map_map, List.flatMap_map]
  rfl

/-! ## The two entry points -/

theorem accepted_eq {α : Type} (value : α) (report : Report) :
    Judged.accepted ⟨value, report⟩ =
      if report = [] then .ok value else .error (.violations report) := by
  cases report <;> rfl

theorem accepted_eq_violations_iff {α : Type} {value : α} {report sent : Report} :
    Judged.accepted ⟨value, report⟩ = .error (.violations sent) ↔ report = sent ∧ report ≠ [] := by
  rw [accepted_eq]
  by_cases h : report = []
  · simp [h]
  · simp [h]

theorem exists_accepted_eq_error_iff {α : Type} {value : α} {report : Report} :
    (∃ refusal, Judged.accepted ⟨value, report⟩ = .error refusal) ↔ report ≠ [] := by
  rw [accepted_eq]
  by_cases h : report = []
  · simp [h]
  · simp [h]

variable {gateway} {graph : Graph} {request result : Request}

theorem internalizeRequest_of_fault {fault : Fault} (h : firstFault? request.texts = some fault) :
    gateway.internalizeRequest request = .error (.fault fault) := by
  rw [internalizeRequest, judgeRequest_eq, checked_of_fault h]
  rfl

theorem internalizeRequest_of_sound (h : firstFault? request.texts = none) :
    gateway.internalizeRequest request =
      if request.statements.filterMap gateway.forUpdate.refused? = [] then
        .ok (request.mapStatements gateway.domains.inwardTriple)
      else .error (.violations (request.statements.filterMap gateway.forUpdate.refused?)) := by
  rw [internalizeRequest, judgeRequest_eq, checked_of_sound h]
  refine (accepted_eq _ _).trans ?_
  by_cases hreport : request.statements.filterMap gateway.forUpdate.refused? = []
  · have hadmitted : ∀ triple ∈ request.statements,
        gateway.forUpdate.admitted triple = gateway.domains.inwardTriple triple :=
      fun triple ht => admitted_of_not_refused (List.filterMap_eq_nil_iff.mp hreport triple ht)
    rw [if_pos hreport, if_pos hreport, Request.mapStatements_congr hadmitted]
  · rw [if_neg hreport, if_neg hreport]

theorem internalizeRequest_eq_ok_iff :
    gateway.internalizeRequest request = .ok result ↔
      firstFault? request.texts = none ∧
        (∀ triple ∈ request.statements, gateway.forUpdate.refused? triple = none) ∧
        request.mapStatements gateway.domains.inwardTriple = result := by
  cases h : firstFault? request.texts with
  | some fault => simp [internalizeRequest_of_fault h]
  | none =>
    rw [internalizeRequest_of_sound h, ← List.filterMap_eq_nil_iff]
    by_cases hreport : request.statements.filterMap gateway.forUpdate.refused? = []
    · simp [hreport]
    · simp [hreport]

theorem internalizeGraph_of_sound
    (h : firstFault? ((gateway.considered graph).flatMap Triple.texts) = none) :
    gateway.internalizeGraph graph =
      if (gateway.considered graph).filterMap gateway.refused? = [] then
        .ok (.ofList ((gateway.considered graph).map gateway.domains.inwardTriple))
      else .error (.violations ((gateway.considered graph).filterMap gateway.refused?)) := by
  rw [internalizeGraph, judgeAll_eq, checked_of_sound h]
  by_cases hreport : (gateway.considered graph).filterMap gateway.refused? = []
  · have hadmitted : (gateway.considered graph).map gateway.admitted =
        (gateway.considered graph).map gateway.domains.inwardTriple :=
      List.map_congr_left fun triple ht =>
        admitted_of_not_refused (List.filterMap_eq_nil_iff.mp hreport triple ht)
    rw [if_pos hreport, hadmitted, hreport]
    rfl
  · rw [if_neg hreport]
    simp only [Except.mapError, accepted_eq, if_neg hreport, bind, Except.bind]

theorem internalizeGraph_of_fault {fault : Fault}
    (h : firstFault? ((gateway.considered graph).flatMap Triple.texts) = some fault) :
    gateway.internalizeGraph graph = .error (.fault fault) := by
  rw [internalizeGraph, judgeAll_eq, checked_of_fault h]
  rfl

theorem internalizeGraph_eq_ok_iff {image : Graph} :
    gateway.internalizeGraph graph = .ok image ↔
      firstFault? ((gateway.considered graph).flatMap Triple.texts) = none ∧
        (∀ triple ∈ gateway.considered graph, gateway.refused? triple = none) ∧
        .ofList ((gateway.considered graph).map gateway.domains.inwardTriple) = image := by
  cases h : firstFault? ((gateway.considered graph).flatMap Triple.texts) with
  | some fault => simp [internalizeGraph_of_fault h]
  | none =>
    rw [internalizeGraph_of_sound h, ← List.filterMap_eq_nil_iff]
    by_cases hreport : (gateway.considered graph).filterMap gateway.refused? = []
    · simp [hreport]
    · simp [hreport]

end Gateway

end RdfGateway
