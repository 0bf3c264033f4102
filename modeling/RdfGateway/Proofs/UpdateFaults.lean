import RdfGateway.Proofs.UpdateOutcome

/-!
# The fault of an update

A malformed text decides about an update before anything else does, and alone. The update has a
fault exactly when one of its checked texts is malformed, and the fault is that of the first one in
the order of `Request.texts`: the prologue, then the operations one after the other, in each part
what stands around the statements before the statements (`internalizeRequest_fault`). The policy,
the mode and the domains have no part in it. The domains check each IRI that they map once more,
but they are given well-formed statements only, so the second check never fails.
-/

namespace RdfGateway.Gateway

variable {gateway : Gateway} {triple : Triple} {request : Request} {fault : Fault}

/-- The judgement of a statement ends in the fault of the first check, never in one of the
domains. -/
theorem judge_eq_error_iff : gateway.judge triple = .error fault ↔ triple.fault? = some fault := by
  rw [judge_eq, Triple.fault?_eq]
  cases h : firstFault? triple.texts with
  | none =>
    rw [checked_of_sound h]
    simp
  | some first =>
    rw [checked_of_fault h]
    simp

theorem internalizeRequest_eq_fault_iff :
    gateway.internalizeRequest request = .error (.fault fault) ↔
      firstFault? request.texts = some fault := by
  cases h : firstFault? request.texts with
  | none =>
    rw [internalizeRequest_of_sound h]
    split <;> simp
  | some first =>
    rw [internalizeRequest_of_fault h]
    simp

/-- **The first malformed text decides about an update, and alone.** There is a fault exactly when
a checked text is malformed, it is the fault of the first malformed one, and another gateway, with
any policy, mode and domains, finds the same. After the first check of a statement the domains map
it without a fault. -/
theorem internalizeRequest_fault (gateway : Gateway) (request : Request) :
    ((∃ fault, gateway.internalizeRequest request = .error (.fault fault)) ↔
      ∃ text ∈ request.texts, text.fault? ≠ none) ∧
    (∀ fault, gateway.internalizeRequest request = .error (.fault fault) ↔
      ∃ sound text more, request.texts = sound ++ text :: more ∧
        (∀ earlier ∈ sound, earlier.fault? = none) ∧ text.fault? = some fault) ∧
    (∀ (other : Gateway) (fault : Fault),
      other.internalizeRequest request = .error (.fault fault) ↔
        gateway.internalizeRequest request = .error (.fault fault)) ∧
    (∀ triple, triple.fault? = none →
      gateway.domains.internalizeTriple triple = .ok (gateway.domains.inwardTriple triple)) ∧
    ∀ triple fault, gateway.judge triple = .error fault ↔ triple.fault? = some fault := by
  refine ⟨?_, ?_, ?_, ?_, ?_⟩
  · rw [← exists_firstFault?_iff]
    apply exists_congr
    intro fault
    exact internalizeRequest_eq_fault_iff
  · intro fault
    rw [internalizeRequest_eq_fault_iff, firstFault?_eq_some_iff]
  · intro other fault
    rw [internalizeRequest_eq_fault_iff, internalizeRequest_eq_fault_iff]
  · intro triple h
    rw [Triple.fault?_eq] at h
    exact Domains.internalizeTriple_of_sound h
  · intro triple fault
    exact judge_eq_error_iff

/-- An update with a managed predicate in its first operation, a literal that is malformed twice in
a template, and a filter that leaves its parentheses. -/
def faultyUpdate : Request where
  base := some "http://ext/"
  prefixes := [⟨"ext", "http://ext/"⟩]
  operations :=
    [.insertData [⟨⟨.iri "http://ext/1", .iri "info:made", .blank "b"⟩, .default⟩],
      .modify
        { withGraph := none
          usingGraphs := ["http://ext/g"]
          usingNamed := []
          delete := none
          insert := some [⟨⟨.variable "s", .iri "http://ext/p",
            .literal ⟨"a", some "no iri", some "no tag"⟩⟩, .named (.variable "g")⟩]
          pattern := .graph (.variable "g") (.filter ")") }]

set_option maxRecDepth 10000 in
theorem faultyUpdate_fault :
    (smallGateway .relaxed).internalizeRequest faultyUpdate = .error (.fault (.iri "no iri")) := by
  have htexts : faultyUpdate.texts =
      [.iri "http://ext/", .prefixLabel "ext", .iri "http://ext/", .iri "http://ext/1",
        .iri "info:made", .blankLabel "b", .iri "http://ext/g", .variableName "g",
        .variableName "s", .iri "http://ext/p"] ++
      .iri "no iri" :: [.languageTag "no tag", .variableName "g", .filter ")"] := rfl
  obtain ⟨-, hfirst, -⟩ := internalizeRequest_fault (smallGateway .relaxed) faultyUpdate
  apply (hfirst (.iri "no iri")).mpr
  exact ⟨_, _, _, htexts, by decide +kernel, by decide +kernel⟩

end RdfGateway.Gateway
