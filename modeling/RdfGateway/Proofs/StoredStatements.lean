import RdfGateway.Proofs.Judgement

/-!
# What reaches the store

A statement is judged as the client sent it, and the store keeps it with its subject and its object
made internal. The predicate stays, so the store can only be given what the policy forbids through
an alias: a type that the client may assert and that becomes one that the client may not assert.
`stored_allowed_iff` says that aliases are all there is to it: a gateway keeps the forbidden out of
the store exactly when it has no alias, for graphs as for updates. The built-in policy over the
default root has none (`defaultGateway_stores_allowed`).

Proof. What is forbidden is a managed predicate or a forbidden type (`disallows_eq_true_iff`), and
the mapping leaves all but the type alone (`assertsAlias_inwardTriple`). In the other direction an
alias gets through in a graph and in an update of one statement (`internalizeGraph_typeStatement`,
`internalizeRequest_typeStatement`).
-/

namespace RdfGateway

/-- Strict enforcement, which takes the place of the lenient one in updates, waives as little. -/
theorem Enforcement.waives_forUpdate (mode : Enforcement) (offence : Offence) :
    mode.forUpdate.waives offence = mode.waives offence := by
  cases mode <;> rfl

namespace Policy

variable {policy : Policy} {mode : Enforcement} {triple : Triple}

/-- The policy forbids to assert the type and the mode does not waive the offence. -/
def forbidsType (policy : Policy) (mode : Enforcement) (type : String) : Bool :=
  (policy.typeOffence? type).any fun offence => !mode.waives offence

/-- The predicate asserts types and may be written. -/
def assertsType (policy : Policy) (predicate : String) : Bool :=
  !policy.isManagedPredicate predicate && policy.isTypePredicate predicate

/-- A statement is forbidden for its predicate or for the type that it asserts. -/
theorem disallows_eq_true_iff :
    policy.disallows mode triple = true ↔
      ∃ predicate, triple.predicate = .iri predicate ∧
        (policy.isManagedPredicate predicate = true ∨
          (policy.assertsType predicate = true ∧
            ∃ type, triple.object = .iri type ∧ policy.forbidsType mode type = true)) := by
  obtain ⟨subject, predicate, object⟩ := triple
  cases predicate with
  | iri predicate =>
    cases hm : policy.isManagedPredicate predicate with
    | true =>
      have hwaives : mode.waives .managedProperty = false := by cases mode <;> rfl
      simp [disallows, offence?, Term.asIri, hm, hwaives]
    | false =>
      cases ht : policy.isTypePredicate predicate with
      | false => simp [disallows, offence?, Term.asIri, assertsType, hm, ht]
      | true =>
        cases object <;> simp [disallows, offence?, Term.asIri, assertsType, forbidsType, hm, ht]
  | blank | literal | «variable» => simp [disallows, offence?, Term.asIri]

theorem disallows_forUpdate :
    policy.disallows mode.forUpdate triple = policy.disallows mode triple := by
  simp only [disallows, Enforcement.waives_forUpdate]

/-- What touches the managed terms offends: a type in a managed namespace is a relaxable one or a
restricted one. -/
theorem touchesManaged_eq : policy.touchesManaged triple = (policy.offence? triple).isSome := by
  rw [touchesManaged, Bool.or_eq_left_iff_imp]
  intro h
  split at h
  · rename_i predicate type hp ht
    rw [Bool.and_eq_true] at h
    have hoffends : (policy.typeOffence? type).isSome = true := by
      cases hr : policy.isRelaxableType type <;> simp [typeOffence?, isRestrictedType, h.2, hr]
    by_cases hm : policy.isManagedPredicate predicate = true
    · simp [offence?, hp, hm]
    · simp [offence?, hp, ht, hm, h.1, hoffends]
  · cases h

end Policy

namespace Gateway

/-- Updates and graphs are refused for the same statements. -/
theorem refused?_forUpdate (gateway : Gateway) : gateway.forUpdate.refused? = gateway.refused? := by
  funext triple
  unfold refused? forUpdate
  simp only [Enforcement.waives_forUpdate]

variable {gateway : Gateway} {triple : Triple} {predicate type : String}

/-- **An alias of a forbidden type**: clients may assert the type, and as the store keeps it, it is
one that they may not assert. -/
structure IsAlias (gateway : Gateway) (predicate type : String) : Prop where
  predicate_sound : iriFault? predicate = none
  type_sound : iriFault? type = none
  asserts : gateway.policy.assertsType predicate = true
  admitted : gateway.policy.forbidsType gateway.mode type = false
  forbidden : gateway.policy.forbidsType gateway.mode (gateway.domains.inward type) = true

variable {graph image : Graph} {request result : Request}

/-! ## From the store to an alias -/

/-- The statement asserts an alias, as the store keeps it. -/
def assertsAlias (gateway : Gateway) (triple : Triple) : Prop :=
  ∃ subject predicate type, gateway.IsAlias predicate type ∧
    triple = ⟨subject, .iri predicate, .iri (gateway.domains.inward type)⟩

/-- A well-formed statement that is forbidden only as the store keeps it asserts an alias. -/
theorem assertsAlias_inwardTriple (hsound : firstFault? triple.texts = none)
    (hsent : gateway.policy.disallows gateway.mode triple = false)
    (hkept : gateway.policy.disallows gateway.mode (gateway.domains.inwardTriple triple) = true) :
    gateway.assertsAlias (gateway.domains.inwardTriple triple) := by
  rw [← Bool.not_eq_true, Policy.disallows_eq_true_iff] at hsent
  obtain ⟨predicate, hp, hmanaged | ⟨hasserts, kept, ho, hforbidden⟩⟩ :=
    Policy.disallows_eq_true_iff.mp hkept
  · exact absurd ⟨predicate, hp, .inl hmanaged⟩ hsent
  · obtain ⟨subject, _, object⟩ := triple
    cases hp
    cases object with
    | iri type =>
      cases ho
      have hiri : iriFault? predicate = none ∧ iriFault? type = none := by
        simp only [Triple.texts, Term.texts, firstFault?_append, firstFault?_cons, firstFault?_nil,
          Option.or_eq_none_iff, PlacedText.fault?] at hsound
        exact ⟨hsound.1.2.1, hsound.2.1⟩
      have hadmitted : gateway.policy.forbidsType gateway.mode type = false :=
        Bool.eq_false_iff.mpr fun h => hsent ⟨predicate, rfl, .inr ⟨hasserts, type, rfl, h⟩⟩
      exact ⟨_, predicate, type, ⟨hiri.1, hiri.2, hasserts, hadmitted, hforbidden⟩, rfl⟩
    | blank | literal | «variable» => cases ho

theorem assertsAlias_of_mem_graph (h : gateway.internalizeGraph graph = .ok image)
    (hmem : triple ∈ image.triples)
    (hkept : gateway.policy.disallows gateway.mode triple = true) :
    gateway.assertsAlias triple := by
  obtain ⟨hsound, hrefused, rfl⟩ := internalizeGraph_eq_ok_iff.mp h
  obtain ⟨sent, hs, rfl⟩ := List.mem_map.mp (Graph.mem_ofList.mp hmem)
  refine assertsAlias_inwardTriple ?_ (refused?_eq_none_iff.mp (hrefused sent hs)) hkept
  rw [firstFault?_eq_none_iff] at hsound ⊢
  exact fun text ht => hsound text (List.mem_flatMap_of_mem hs ht)

theorem assertsAlias_of_mem_request (h : gateway.internalizeRequest request = .ok result)
    (hmem : triple ∈ result.statements)
    (hkept : gateway.policy.disallows gateway.mode triple = true) :
    gateway.assertsAlias triple := by
  obtain ⟨hsound, hrefused, rfl⟩ := internalizeRequest_eq_ok_iff.mp h
  rw [Request.statements_mapStatements] at hmem
  obtain ⟨sent, hs, rfl⟩ := List.mem_map.mp hmem
  have hsent : gateway.policy.disallows gateway.mode sent = false :=
    Policy.disallows_forUpdate.symm.trans (refused?_eq_none_iff.mp (hrefused sent hs))
  refine assertsAlias_inwardTriple ?_ hsent hkept
  rw [firstFault?_eq_none_iff] at hsound ⊢
  exact fun text ht => hsound text (Request.texts_subset hs ht)

section
variable (hfree : ∀ predicate type, ¬ gateway.IsAlias predicate type)
include hfree

theorem not_assertsAlias : ¬ gateway.assertsAlias triple :=
  fun ⟨_, predicate, type, halias, _⟩ => hfree predicate type halias

/-- Without an alias, a graph brings nothing forbidden into the store. -/
theorem allowed_of_mem_graph (h : gateway.internalizeGraph graph = .ok image)
    (hmem : triple ∈ image.triples) :
    gateway.policy.disallows gateway.mode triple = false :=
  Bool.eq_false_iff.mpr fun hkept =>
    not_assertsAlias hfree (assertsAlias_of_mem_graph h hmem hkept)

/-- Without an alias, an update brings nothing forbidden into the store. -/
theorem allowed_of_mem_request (h : gateway.internalizeRequest request = .ok result)
    (hmem : triple ∈ result.statements) :
    gateway.policy.disallows gateway.mode triple = false :=
  Bool.eq_false_iff.mpr fun hkept =>
    not_assertsAlias hfree (assertsAlias_of_mem_request h hmem hkept)

end

/-! ## From an alias to the store -/

/-- Nothing that is allowed is dropped from a graph. -/
theorem considered_eq_of_allowed
    (h : ∀ triple ∈ graph.triples, gateway.policy.disallows gateway.mode triple = false) :
    gateway.considered graph = graph.triples := by
  rw [considered]
  cases hmode : gateway.mode with
  | strict | relaxed => rfl
  | lenient =>
    refine List.filter_eq_self.mpr fun triple ht => ?_
    have hallowed := Policy.disallows_eq_false_iff.mp (h triple ht)
    simp only [hmode, reduceCtorEq, and_false, or_false] at hallowed
    rw [Policy.touchesManaged_eq, hallowed]
    rfl

/-- The assertion of a type, of the type itself. -/
def typeStatement (predicate type : String) : Triple := ⟨.iri type, .iri predicate, .iri type⟩

/-- The update that inserts one statement. -/
def insertion (triple : Triple) : Request where
  base := none
  prefixes := []
  operations := [.insertData [⟨triple, .default⟩]]

/-- A well-formed statement that is not disallowed is accepted in an update of its own. -/
theorem internalizeRequest_insertion (hsound : firstFault? triple.texts = none)
    (hd : gateway.policy.disallows gateway.mode triple = false) :
    gateway.internalizeRequest (insertion triple) =
      .ok (insertion (gateway.domains.inwardTriple triple)) := by
  have htexts : (insertion triple).texts = triple.texts := by
    simp [insertion, Request.texts, prologueTexts, Operation.texts, Quad.texts, GraphName.texts]
  refine internalizeRequest_eq_ok_iff.mpr ⟨?_, ?_, rfl⟩
  · rw [htexts]
    exact hsound
  · refine List.forall_mem_singleton.mpr (refused?_eq_none_iff.mpr ?_)
    exact Policy.disallows_forUpdate.trans hd

namespace IsAlias
variable (h : gateway.IsAlias predicate type)
include h

theorem firstFault?_texts : firstFault? (typeStatement predicate type).texts = none := by
  simp [typeStatement, Triple.texts, Term.texts, PlacedText.fault?, h.predicate_sound, h.type_sound]

theorem disallows_sent :
    gateway.policy.disallows gateway.mode (typeStatement predicate type) = false := by
  rw [← Bool.not_eq_true, Policy.disallows_eq_true_iff]
  rintro ⟨_, ⟨⟩, hmanaged | ⟨-, _, ⟨⟩, hforbidden⟩⟩
  · have hasserts := h.asserts
    rw [Policy.assertsType, hmanaged] at hasserts
    cases hasserts
  · rw [h.admitted] at hforbidden
    cases hforbidden

theorem disallows_kept : gateway.policy.disallows gateway.mode
    (gateway.domains.inwardTriple (typeStatement predicate type)) = true :=
  Policy.disallows_eq_true_iff.mpr ⟨predicate, rfl, .inr ⟨h.asserts, _, rfl, h.forbidden⟩⟩

/-- A graph takes an alias into the store. -/
theorem internalizeGraph_typeStatement :
    gateway.internalizeGraph (.ofList [typeStatement predicate type]) =
      .ok (.ofList [gateway.domains.inwardTriple (typeStatement predicate type)]) := by
  have htriples : (Graph.ofList [typeStatement predicate type]).triples =
      [typeStatement predicate type] := Graph.triples_ofList_of_nodup (by simp)
  have hconsidered : gateway.considered (.ofList [typeStatement predicate type]) =
      [typeStatement predicate type] := by
    rw [considered_eq_of_allowed, htriples]
    rw [htriples]
    exact List.forall_mem_singleton.mpr h.disallows_sent
  refine internalizeGraph_eq_ok_iff.mpr ⟨?_, ?_, ?_⟩
  · rw [hconsidered, List.flatMap_singleton]
    exact h.firstFault?_texts
  · rw [hconsidered]
    exact List.forall_mem_singleton.mpr (refused?_eq_none_iff.mpr h.disallows_sent)
  · rw [hconsidered]
    rfl

/-- An update takes an alias into the store. -/
theorem internalizeRequest_typeStatement :
    gateway.internalizeRequest (insertion (typeStatement predicate type)) =
      .ok (insertion (gateway.domains.inwardTriple (typeStatement predicate type))) :=
  internalizeRequest_insertion h.firstFault?_texts h.disallows_sent

end IsAlias

/-! ## What is stored -/

/-- **A gateway keeps the forbidden out of the store exactly when it has no alias**, for graphs as
for updates; and whatever forbidden statement the store receives asserts an alias. -/
theorem stored_allowed_iff (gateway : Gateway) :
    ((∀ graph image, gateway.internalizeGraph graph = .ok image →
        ∀ triple ∈ image.triples, gateway.policy.disallows gateway.mode triple = false) ↔
      ∀ predicate type, ¬ gateway.IsAlias predicate type) ∧
    ((∀ request result, gateway.internalizeRequest request = .ok result →
        ∀ triple ∈ result.statements, gateway.policy.disallows gateway.mode triple = false) ↔
      ∀ predicate type, ¬ gateway.IsAlias predicate type) ∧
    (∀ graph image, gateway.internalizeGraph graph = .ok image → ∀ triple ∈ image.triples,
      gateway.policy.disallows gateway.mode triple = true → gateway.assertsAlias triple) ∧
    (∀ request result, gateway.internalizeRequest request = .ok result →
      ∀ triple ∈ result.statements,
        gateway.policy.disallows gateway.mode triple = true → gateway.assertsAlias triple) := by
  refine ⟨⟨fun hstore predicate type halias => ?_, fun hfree _ _ hok _ hmem =>
      allowed_of_mem_graph hfree hok hmem⟩,
    ⟨fun hstore predicate type halias => ?_, fun hfree _ _ hok _ hmem =>
      allowed_of_mem_request hfree hok hmem⟩,
    fun _ _ hok _ hmem => assertsAlias_of_mem_graph hok hmem,
    fun _ _ hok _ hmem => assertsAlias_of_mem_request hok hmem⟩
  · have hallowed := hstore _ _ halias.internalizeGraph_typeStatement _
      (Graph.mem_ofList.mpr (List.mem_singleton_self _))
    rw [halias.disallows_kept] at hallowed
    cases hallowed
  · have hallowed := hstore _ _ halias.internalizeRequest_typeStatement _
      (List.mem_singleton_self _)
    rw [halias.disallows_kept] at hallowed
    cases hallowed

/-! ## The built-in policy -/

section builtin
open Vocabulary
variable {iri : String}

theorem isManagedPredicate_builtin : Policy.builtin.isManagedPredicate iri =
    (decide (iri ∈ namespaces.flatMap (·.managedPredicates)) ||
      ((namespaces.filter (·.managed)).map (·.iri)).any (Text.beginsWith iri)) := by
  simp only [Policy.builtin, Policy.isManagedPredicate, Policy.inManagedNamespace,
    IriSet.mem_ofList, IriSet.any_toList_ofList]

theorem isRelaxableType_builtin : Policy.builtin.isRelaxableType iri =
    decide (iri ∈ namespaces.flatMap (·.relaxableTypes)) := by
  simp only [Policy.builtin, Policy.isRelaxableType, IriSet.mem_ofList]

theorem isRestrictedType_builtin : Policy.builtin.isRestrictedType iri =
    (!decide (iri ∈ namespaces.flatMap (·.relaxableTypes)) &&
      (decide (iri ∈ namespaces.flatMap (·.restrictedTypes)) ||
        ((namespaces.filter (·.managed)).map (·.iri)).any (Text.beginsWith iri))) := by
  simp only [Policy.builtin, Policy.isRestrictedType, Policy.isRelaxableType,
    Policy.inManagedNamespace, IriSet.mem_ofList, IriSet.any_toList_ofList]

theorem isTypePredicate_builtin : Policy.builtin.isTypePredicate iri = decide (iri = rdfType) := by
  simp only [Policy.builtin, Policy.empty, Policy.isTypePredicate, IriSet.mem_ofList,
    List.mem_singleton]

/-- All IRIs that the built-in policy says anything of as types begin with an `h`. -/
theorem exists_eq_ofList_of_mem_namespaces :
    ∀ other ∈ namespaces.flatMap (·.relaxableTypes) ++ namespaces.flatMap (·.restrictedTypes) ++
      namespaces.map (·.iri), ∃ rest, other = .ofList ('h' :: rest) := by
  -- Decoding the texts would be slow, their first characters suffice.
  simp only [namespaces, rdf, rdfIri, repository, ldp, memento, premis, List.flatMap_cons,
    List.flatMap_nil, List.map_cons, List.map_nil, List.cons_append, List.nil_append,
    List.append_nil, List.forall_mem_cons, List.not_mem_nil, false_implies, implies_true, and_true]
  and_intros
  all_goals exact ⟨_, rfl⟩

theorem typeOffence?_builtin_of_head (h : iri.toList.head? ≠ some 'h') :
    Policy.builtin.typeOffence? iri = none := by
  have hheads := exists_eq_ofList_of_mem_namespaces
  rw [List.forall_mem_append, List.forall_mem_append] at hheads
  obtain ⟨⟨hrelaxable, hrestricted⟩, hnamespaces⟩ := hheads
  have hhead : ¬ ∃ rest, iri = .ofList ('h' :: rest) := by
    rintro ⟨rest, rfl⟩
    exact h (by rw [String.toList_ofList]; rfl)
  have hnotRelaxable : iri ∉ namespaces.flatMap (·.relaxableTypes) :=
    fun hmem => hhead (hrelaxable iri hmem)
  have hnotRestricted : iri ∉ namespaces.flatMap (·.restrictedTypes) :=
    fun hmem => hhead (hrestricted iri hmem)
  have houtside : ((namespaces.filter (·.managed)).map (·.iri)).any (Text.beginsWith iri) =
      false := by
    refine List.any_eq_false.mpr fun other ho => ?_
    obtain ⟨vocabulary, hv, rfl⟩ := List.mem_map.mp ho
    obtain ⟨front, hfront⟩ := hnamespaces _ (List.mem_map_of_mem (List.mem_of_mem_filter hv))
    rw [Text.beginsWith_iff, hfront, String.toList_ofList]
    rintro ⟨rest, he⟩
    rw [he] at h
    exact h rfl
  simp only [Policy.typeOffence?, isRestrictedType_builtin, isRelaxableType_builtin, hnotRelaxable,
    hnotRestricted, houtside]
  rfl

/-- The gateway of a repository that configures no policy and no root. -/
def defaultGateway (base : String) (mode : Enforcement) : Gateway where
  policy := .builtin
  domains := ⟨base, Domains.defaultRoot⟩
  mode

/-- A type that the mapping changes begins as the default root does, and no type that the built-in
policy forbids begins so. -/
theorem not_isAlias_defaultGateway (base : String) (mode : Enforcement) (predicate type : String) :
    ¬ (defaultGateway base mode).IsAlias predicate type := by
  intro h
  have hforbidden := h.forbidden
  rw [← Bool.not_eq_false] at hforbidden
  apply hforbidden
  cases hrest : Text.rest? base.toList type.toList with
  | none =>
    have hsame : (defaultGateway base mode).domains.inward type = type := by
      simp only [Domains.inward, defaultGateway, hrest]
    rw [hsame]
    exact h.admitted
  | some path =>
    have hhead : ((defaultGateway base mode).domains.inward type).toList.head? = some 'i' := by
      cases path <;> simp [Domains.inward, defaultGateway, hrest, Domains.defaultRoot]
    have hnone : (defaultGateway base mode).policy.typeOffence?
        ((defaultGateway base mode).domains.inward type) = none :=
      typeOffence?_builtin_of_head (by rw [hhead]; decide)
    rw [Policy.forbidsType, hnone]
    rfl

/-- **The built-in policy over the default root keeps the forbidden out of the store**, whatever the
external base is. -/
theorem defaultGateway_stores_allowed (base : String) (mode : Enforcement) :
    (∀ graph image, (defaultGateway base mode).internalizeGraph graph = .ok image →
      ∀ triple ∈ image.triples, Policy.disallows (defaultGateway base mode).policy
        (defaultGateway base mode).mode triple = false) ∧
    (∀ request result, (defaultGateway base mode).internalizeRequest request = .ok result →
      ∀ triple ∈ result.statements, Policy.disallows (defaultGateway base mode).policy
        (defaultGateway base mode).mode triple = false) :=
  ⟨fun _ _ hok _ hmem => allowed_of_mem_graph (not_isAlias_defaultGateway base mode) hok hmem,
    fun _ _ hok _ hmem => allowed_of_mem_request (not_isAlias_defaultGateway base mode) hok hmem⟩

end builtin

/-- A gateway whose root is the front of a managed namespace, with nothing but a slash missing. -/
def aliasingGateway : Gateway where
  policy := .builtin
  domains := ⟨"http://ext/", "http://fedora.info/definitions/v4"⟩
  mode := .strict

/-- **A root in front of a managed namespace lets a restricted type into the store**, by a graph and
by an update. -/
theorem aliasingGateway_stores_forbidden :
    Domains.ofTexts "http://ext/" "http://fedora.info/definitions/v4" =
        .ok aliasingGateway.domains ∧
      (∃ image, aliasingGateway.internalizeGraph (.ofList [typeStatement Vocabulary.rdfType
          "http://ext/repository#Binary"]) = .ok image ∧
        ∃ triple ∈ image.triples,
          aliasingGateway.policy.disallows aliasingGateway.mode triple = true) ∧
      (∃ result, aliasingGateway.internalizeRequest (insertion (typeStatement Vocabulary.rdfType
          "http://ext/repository#Binary")) = .ok result ∧
        ∃ triple ∈ result.statements,
          aliasingGateway.policy.disallows aliasingGateway.mode triple = true) := by
  have halias : aliasingGateway.IsAlias Vocabulary.rdfType "http://ext/repository#Binary" := by
    refine ⟨by decide +kernel, by decide +kernel, ?_, ?_, ?_⟩
    all_goals
      simp only [aliasingGateway, Policy.assertsType, Policy.forbidsType, Policy.typeOffence?,
        isManagedPredicate_builtin, isTypePredicate_builtin, isRelaxableType_builtin,
        isRestrictedType_builtin]
      decide +kernel
  refine ⟨by decide +kernel, ⟨_, halias.internalizeGraph_typeStatement, _, ?_,
    halias.disallows_kept⟩, ⟨_, halias.internalizeRequest_typeStatement, _, ?_,
    halias.disallows_kept⟩⟩
  · exact Graph.mem_ofList.mpr (List.mem_singleton_self _)
  · exact List.mem_singleton_self _

end Gateway

end RdfGateway
