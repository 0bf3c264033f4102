import RdfGateway.Proofs.EnforcementModes

/-!
# Graphs and updates under one rule

The statements of a graph can also be sent as an update, in one of the places of an update that hold
statements (`Carrier`): the data of an operation, a template of a modification, or a block at any
depth of its pattern. With nothing else in the update that is malformed or a statement, it has the
outcome of the graph: the same fault, the same report, or the images that the store keeps of the
graph (`internalizeRequest_carried`). Under lenient enforcement the update has the outcome that it
has under strict enforcement.

Proof. Whatever is carried stands between the same texts and between the same statements
(`Carrier.exists_sides`; for a block by induction on the depth). If these are well-formed and there
are none of those, then the first malformed text, the disallowed statements and the images are those
of the list that is carried.
-/

namespace RdfGateway

/-! ## Patterns with an open place -/

namespace Pattern

/-- A pattern in which one place is open. -/
inductive Context where
  | hole
  | group (before : List Pattern) (inner : Context) (after : List Pattern)
  | optional (inner : Context)
  | graph (name : Term) (inner : Context)

/-- The pattern with its open place taken. -/
def Context.fill (pattern : Pattern) : Context → Pattern
  | .hole => pattern
  | .group before inner after => .group (before ++ inner.fill pattern :: after)
  | .optional inner => .optional (inner.fill pattern)
  | .graph name inner => .graph name (inner.fill pattern)

/-- What takes the open place stands between the same texts and statements, whatever it is. -/
theorem Context.exists_sides (context : Context) :
    ∃ before after left right, ∀ pattern,
      (context.fill pattern).texts = before ++ pattern.texts ++ after ∧
        (context.fill pattern).statements = left ++ pattern.statements ++ right := by
  induction context with
  | hole =>
    refine ⟨[], [], [], [], ?_⟩
    intro pattern
    simp [fill]
  | group earlier inner later ih =>
    obtain ⟨before, after, left, right, h⟩ := ih
    refine ⟨textsAll earlier ++ before, after ++ textsAll later,
      statementsAll earlier ++ left, right ++ statementsAll later, ?_⟩
    intro pattern
    simp [fill, texts, statements, textsAll_append, statementsAll_append, textsAll, statementsAll,
      h pattern]
  | optional inner ih => exact ih
  | graph name inner ih =>
    obtain ⟨before, after, left, right, h⟩ := ih
    refine ⟨name.texts ++ before, after, left, right, ?_⟩
    intro pattern
    simp [fill, texts, statements, h pattern]

end Pattern

/-! ## Carriers -/

/-- A statement of the default graph. -/
def Quad.inDefault (triple : Triple) : Quad := ⟨triple, .default⟩

@[simp] theorem Quad.texts_inDefault (triple : Triple) :
    (inDefault triple).texts = triple.texts := rfl

@[simp] theorem Quad.triple_comp_inDefault : Quad.triple ∘ inDefault = id := rfl

/-- A place of an update that holds statements, with what stands around it. -/
inductive Carrier where
  | insertData
  | deleteData
  | deleteWhere
  | deleteTemplate (around : Modify)
  | insertTemplate (around : Modify)
  | block (around : Modify) (context : Pattern.Context)

namespace Carrier

variable {carrier : Carrier} {triples : List Triple}

/-- The operation with the statements in their place. -/
def operation (triples : List Triple) : Carrier → Operation
  | .insertData => .insertData (triples.map .inDefault)
  | .deleteData => .deleteData (triples.map .inDefault)
  | .deleteWhere => .deleteWhere (triples.map .inDefault)
  | .deleteTemplate around => .modify { around with delete := some (triples.map .inDefault) }
  | .insertTemplate around => .modify { around with insert := some (triples.map .inDefault) }
  | .block around context => .modify { around with pattern := context.fill (.block triples) }

/-- The update of this one operation. -/
def request (carrier : Carrier) (triples : List Triple) : Request where
  base := none
  prefixes := []
  operations := [carrier.operation triples]

theorem texts_request : (carrier.request triples).texts = (carrier.operation triples).texts := by
  simp [request, Request.texts, prologueTexts]

theorem statements_request :
    (carrier.request triples).statements = (carrier.operation triples).statements := by
  simp [request, Request.statements]

/-- **Nothing is malformed and nothing is a statement** around the place. -/
structure IsBare (carrier : Carrier) : Prop where
  statements_eq : (carrier.request []).statements = []
  sound : ∀ text ∈ (carrier.request []).texts, text.fault? = none

/-- What is carried stands between the same texts and statements, whatever it is. -/
theorem exists_sides (carrier : Carrier) :
    ∃ before after left right, ∀ triples,
      (carrier.request triples).texts = before ++ triples.flatMap Triple.texts ++ after ∧
        (carrier.request triples).statements = left ++ triples ++ right := by
  simp only [texts_request, statements_request]
  cases carrier with
  | insertData | deleteData | deleteWhere =>
    refine ⟨[], [], [], [], ?_⟩
    intro triples
    simp [operation, Operation.texts, Operation.statements, List.flatMap_map]
  | deleteTemplate around =>
    refine ⟨(around.withGraph.toList ++ around.usingGraphs ++ around.usingNamed).map .iri,
      templateTexts around.insert ++ around.pattern.texts, [],
      templateStatements around.insert ++ around.pattern.statements, ?_⟩
    intro triples
    simp [operation, Operation.texts, Operation.statements, Modify.texts, Modify.statements,
      templateTexts, templateStatements, List.flatMap_map]
  | insertTemplate around =>
    refine ⟨(around.withGraph.toList ++ around.usingGraphs ++ around.usingNamed).map .iri ++
      templateTexts around.delete, around.pattern.texts,
      templateStatements around.delete, around.pattern.statements, ?_⟩
    intro triples
    simp [operation, Operation.texts, Operation.statements, Modify.texts, Modify.statements,
      templateTexts, templateStatements, List.flatMap_map]
  | block around context =>
    obtain ⟨before, after, left, right, h⟩ := context.exists_sides
    refine ⟨(around.withGraph.toList ++ around.usingGraphs ++ around.usingNamed).map .iri ++
      templateTexts around.delete ++ templateTexts around.insert ++ before, after,
      templateStatements around.delete ++ templateStatements around.insert ++ left, right, ?_⟩
    intro triples
    simp [operation, Operation.texts, Operation.statements, Modify.texts, Modify.statements, h,
      Pattern.texts, Pattern.statements]

namespace IsBare

variable (h : carrier.IsBare)
include h

theorem statements_carried (triples : List Triple) :
    (carrier.request triples).statements = triples := by
  obtain ⟨_, _, left, right, hsides⟩ := carrier.exists_sides
  have hnone := (hsides []).2.symm.trans h.statements_eq
  rw [List.append_nil, List.append_eq_nil_iff] at hnone
  rw [(hsides triples).2, hnone.1, hnone.2, List.nil_append, List.append_nil]

/-- The first malformed text of the update is that of the statements. -/
theorem firstFault?_carried (triples : List Triple) :
    firstFault? (carrier.request triples).texts =
      firstFault? (triples.flatMap Triple.texts) := by
  obtain ⟨before, after, _, _, hsides⟩ := carrier.exists_sides
  have hsound := firstFault?_eq_none_iff.mpr h.sound
  rw [(hsides []).1, List.flatMap_nil, List.append_nil, firstFault?_append,
    Option.or_eq_none_iff] at hsound
  rw [(hsides triples).1, firstFault?_append, firstFault?_append, hsound.1, hsound.2,
    Option.none_or, Option.or_none]

end IsBare

end Carrier

/-! ## One outcome -/

namespace Gateway

variable {gateway : Gateway} {graph : Graph} {request : Request}

/-- An update with the statements and the first malformed text of a graph has its outcome. -/
theorem map_internalizeRequest (hmode : gateway.mode = .strict ∨ gateway.mode = .relaxed)
    (hstatements : request.statements = graph.triples)
    (htexts : firstFault? request.texts = firstFault? (graph.triples.flatMap Triple.texts)) :
    (gateway.internalizeRequest request).map (fun result => result.statements.eraseDups) =
      (gateway.internalizeGraph graph).map Graph.triples := by
  cases h : firstFault? (graph.triples.flatMap Triple.texts) with
  | some fault =>
    rw [internalizeRequest_of_fault (htexts.trans h), internalizeGraph_of_fault]
    · rfl
    · rw [considered_eq_triples hmode, h]
  | none =>
    rw [internalizeRequest_of_sound (htexts.trans h), internalizeGraph_of_wellFormed hmode h,
      hstatements, refused?_forUpdate]
    by_cases hreport : graph.triples.filterMap gateway.refused? = []
    · rw [if_pos hreport, if_pos hreport]
      show Except.ok (request.mapStatements _).statements.eraseDups =
        Except.ok (Graph.ofList _).triples
      rw [Request.statements_mapStatements, hstatements, Graph.triples_ofList]
    · rw [if_neg hreport, if_neg hreport]
      rfl

/-- **Graphs and updates are judged by one rule.** An update that carries the statements of a graph
in one of its places has the outcome of the graph: its fault, its report, or a result of which the
statements without repetition are those of its image. Under lenient enforcement the update has the
outcome that it has under strict enforcement. -/
theorem internalizeRequest_carried (gateway : Gateway) (graph : Graph) (carrier : Carrier)
    (hbare : carrier.IsBare) :
    (gateway.mode = .strict ∨ gateway.mode = .relaxed →
      (gateway.internalizeRequest (carrier.request graph.triples)).map
          (fun result => result.statements.eraseDups) =
        (gateway.internalizeGraph graph).map Graph.triples) ∧
    (gateway.under .lenient).internalizeRequest (carrier.request graph.triples) =
      (gateway.under .strict).internalizeRequest (carrier.request graph.triples) := by
  constructor
  · intro hmode
    exact map_internalizeRequest hmode (hbare.statements_carried _) (hbare.firstFault?_carried _)
  · exact internalizeRequest_lenient gateway _

/-- A block below an optional graph pattern, beside a filter and an empty block. -/
def deepCarrier : Carrier :=
  .block ⟨some "http://ext/g", [], [], some [], none, .group []⟩
    (.group [.filter "?s = <http://ext/1>"] (.optional (.graph (.variable "g") .hole)) [.block []])

set_option maxRecDepth 10000 in
theorem deepCarrier_carried :
    deepCarrier.IsBare ∧
      ((smallGateway .relaxed).internalizeRequest (deepCarrier.request faultyGraph.triples)).map
          (fun result => result.statements.eraseDups) = .error (.fault (.iri "no iri")) ∧
      ((smallGateway .relaxed).internalizeRequest (deepCarrier.request refusedGraph.triples)).map
          (fun result => result.statements.eraseDups) = .error (.violations
            [⟨.managedProperty, ⟨.iri "http://ext/1", .iri "info:made", .literal (.plain "2020")⟩⟩,
              ⟨.managedType, ⟨.iri "http://ext/1", .iri "info:type", .iri "info:Hard"⟩⟩]) ∧
      ((smallGateway .relaxed).internalizeRequest (deepCarrier.request collapsingGraph.triples)).map
          (fun result => result.statements.eraseDups) = .ok
            [⟨.iri "info:fedora/1", .iri "http://ext/p", .iri "info:fedora"⟩,
              ⟨.blank "b", .iri "http://ext/p", .literal (.plain "http://ext/1")⟩] := by
  have hbare : deepCarrier.IsBare := ⟨rfl, by decide +kernel⟩
  have hcarried := fun graph =>
    (internalizeRequest_carried (smallGateway .relaxed) graph deepCarrier hbare).1 (.inr rfl)
  refine ⟨hbare, (hcarried _).trans ?_, (hcarried _).trans ?_, (hcarried _).trans ?_⟩
  all_goals decide +kernel

end Gateway

end RdfGateway
