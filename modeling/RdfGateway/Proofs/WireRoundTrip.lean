import RdfGateway.Proofs.WireShapes

/-!
# Requests and graphs are read back from JSON

What is written of a request or of a graph is read as the same request or graph
(`Wire.read_toJson`), as long as it is not nested deeper than the reader goes. A graph never is.

Proof. Each reader undoes its writer (`Request.restores`, `Graph.restores`): an object is read part
by part, a tagged value by its tag, and a part that is not written, because it is absent or an empty
list, is read as the value that its absence stands for (`withDefault?_nullable`,
`withDefault?_list`). A template that is present and empty is written, and so is not taken for an
absent one. What is written has no numbers and every string of it has a text, so its text holds the
same value (`Json.parse?_render`).
-/

namespace RdfGateway

open Wire

/-! ## Statements -/

theorem Literal.restores (literal : Literal) : Restores toJson ofJson? literal := by
  intro limit hlimit
  have hwritten : literal.toJson = .fields (present ["lexical", "datatype", "language"]
      [some (.text literal.lexical), literal.datatype.map .text, literal.language.map .text]) := by
    simp [toJson, present, Function.comp_def]
  rw [hwritten] at hlimit ⊢
  obtain ⟨inner, rfl, hinner⟩ := exists_of_depth_present_le rfl hlimit
  simp only [List.forall_mem_cons] at hinner
  obtain ⟨-, hdatatype, hlanguage, -⟩ := hinner
  have hdatatype :=
    withDefault?_nullable hdatatype (fun _ => nofun) fun text _ => restores_text text
  have hlanguage :=
    withDefault?_nullable hlanguage (fun _ => nofun) fun text _ => restores_text text
  rw [ofJson?, parts?_present (by decide) rfl]
  simp [hdatatype, hlanguage]
  rfl

theorem Term.restores (term : Term) : Restores toJson ofJson? term := by
  intro limit hlimit
  cases term with
  | iri text | blank text | «variable» text =>
    obtain ⟨inner, rfl, -⟩ := exists_of_depth_tagged_le hlimit
    rw [toJson, ofJson?, tagged?_tagged (by decide)]
    rfl
  | literal content =>
    obtain ⟨inner, rfl, hinner⟩ := exists_of_depth_tagged_le hlimit
    rw [toJson, ofJson?, tagged?_tagged (by decide)]
    have hcontent := content.restores inner hinner
    simp [hcontent]

theorem GraphName.restores (graph : GraphName) : Restores toJson ofJson? graph := by
  intro limit hlimit
  cases graph with
  | default =>
    obtain ⟨inner, rfl, -⟩ := Json.exists_of_depth_fields_le hlimit
    rfl
  | named name =>
    obtain ⟨inner, rfl, hinner⟩ := exists_of_depth_tagged_le hlimit
    rw [toJson, ofJson?, tagged?_tagged (by decide)]
    have hname := name.restores inner hinner
    simp [hname]

/-- The terms of a statement as the parts of an object. -/
def Triple.parts (triple : Triple) : List (Option Json) :=
  [some triple.subject.toJson, some triple.predicate.toJson, some triple.object.toJson]

theorem Triple.ofParts?_parts {triple : Triple} {limit : Nat}
    (h : ∀ part ∈ triple.parts, ∀ value ∈ part, value.depth ≤ limit) :
    ofParts? limit triple.parts = some triple := by
  simp only [parts, List.forall_mem_cons, Option.mem_def, Option.some.injEq, forall_eq'] at h
  obtain ⟨hsubject, hpredicate, hobject, -⟩ := h
  simp [parts, ofParts?, triple.subject.restores limit hsubject,
    triple.predicate.restores limit hpredicate, triple.object.restores limit hobject]

theorem Triple.restores (triple : Triple) : Restores toJson ofJson? triple := by
  intro limit hlimit
  have hwritten : triple.toJson =
      .fields (present ["subject", "predicate", "object"] triple.parts) := rfl
  rw [hwritten] at hlimit ⊢
  obtain ⟨inner, rfl, hinner⟩ := exists_of_depth_present_le rfl hlimit
  rw [ofJson?, parts?_present (by decide) rfl]
  exact ofParts?_parts hinner

theorem Term.isWorded_toJson (term : Term) : term.toJson.isWorded = true := by
  cases term with
  | iri | blank | «variable» => rfl
  | literal content =>
    obtain ⟨lexical, datatype, language⟩ := content
    cases datatype <;> cases language <;> rfl

theorem Triple.isReadable_parts {triple : Triple} {limit : Nat}
    (h : ∀ part ∈ triple.parts, ∀ value ∈ part, value.depth ≤ limit) :
    (present ["subject", "predicate", "object"] triple.parts).all
      (·.2.isReadable limit) = true := by
  simp only [parts, List.forall_mem_cons, Option.mem_def, Option.some.injEq, forall_eq'] at h
  obtain ⟨hsubject, hpredicate, hobject, -⟩ := h
  have hreadable (term : Term) (hdepth : term.toJson.depth ≤ limit) :
      term.toJson.isReadable limit = true :=
    Json.isReadable_of_isWorded _ term.isWorded_toJson limit hdepth
  simp [present, parts, hreadable _ hsubject, hreadable _ hpredicate, hreadable _ hobject]

theorem Quad.restores (quad : Quad) : Restores toJson ofJson? quad := by
  intro limit hlimit
  have hwritten : quad.toJson = .fields (present ("graph" :: ["subject", "predicate", "object"])
      (some quad.graph.toJson :: quad.triple.parts)) := rfl
  rw [hwritten] at hlimit ⊢
  obtain ⟨inner, rfl, hinner⟩ := exists_of_depth_present_le rfl hlimit
  rw [List.forall_mem_cons] at hinner
  obtain ⟨hgraph, hterms⟩ := hinner
  have hfound : member? (present ("graph" :: ["subject", "predicate", "object"])
      (some quad.graph.toJson :: quad.triple.parts)) "graph" = some (some quad.graph.toJson) :=
    member?_present (by decide) List.mem_cons_self
  have hothers : (present ("graph" :: ["subject", "predicate", "object"])
      (some quad.graph.toJson :: quad.triple.parts)).filter (·.1 ≠ "graph") =
        present ["subject", "predicate", "object"] quad.triple.parts := by
    simp [present, Triple.parts]
  have hstatement := Triple.ofParts?_parts hterms
  have hreadable := Triple.isReadable_parts hterms
  have hgraph := quad.graph.restores inner (hgraph _ rfl)
  have hparts : ["subject", "predicate", "object"].mapM
      (member? (present ["subject", "predicate", "object"] quad.triple.parts)) =
        some quad.triple.parts := mapM_member?_present (by decide) rfl
  rw [Json.fields, ofJson?, keyed?_fields]
  simp only [Option.bind_eq_bind, Option.bind_some, hfound, hothers, withDefault?, hgraph,
    hreadable, hparts, hstatement]
  rfl

/-! ## Graphs -/

theorem Literal.depth_toJson_le (literal : Literal) : literal.toJson.depth ≤ 1 := by
  obtain ⟨lexical, datatype, language⟩ := literal
  cases datatype <;> cases language <;> exact Nat.le_refl 1

theorem Term.depth_toJson_le (term : Term) : term.toJson.depth ≤ 2 := by
  cases term with
  | iri | blank | «variable» => exact Nat.le_succ 1
  | literal content =>
    have hcontent := content.depth_toJson_le
    exact Json.depth_fields_le_iff.mpr (by simp [Json.text, Json.depth, hcontent])

theorem Triple.depth_toJson_le (triple : Triple) : triple.toJson.depth ≤ 3 :=
  Json.depth_fields_le_iff.mpr (by simp [members, Term.depth_toJson_le])

theorem Graph.depth_toJson_le (graph : Graph) : graph.toJson.depth ≤ 4 :=
  Json.depth_array_le_iff.mpr (List.forall_mem_map.mpr fun triple _ => triple.depth_toJson_le)

/-- **A graph is read back from its JSON**, with its statements in their order. -/
theorem Graph.restores (graph : Graph) : Restores toJson ofJson? graph := by
  intro limit hlimit
  have hlist : list? Triple.ofJson? limit graph.toJson = some graph.triples :=
    restores_list (fun triple _ => Triple.restores triple) limit hlimit
  rw [ofJson?, hlist]
  exact congrArg some (Graph.ofList_triples graph)

/-! ## Patterns -/

namespace Pattern

mutual

theorem restores : (pattern : Pattern) → Restores toJson ofJson? pattern
  | .group children => by
    intro limit hlimit
    obtain ⟨inner, rfl, hinner⟩ := exists_of_depth_tagged_le hlimit
    have hchildren := restores_children children inner hinner
    rw [toJson, ofJson?, tagged?_tagged (by decide)]
    simp [hchildren]
  | .block triples => by
    intro limit hlimit
    obtain ⟨inner, rfl, hinner⟩ := exists_of_depth_tagged_le hlimit
    have htriples := restores_list (fun triple _ => Triple.restores triple) inner hinner
    rw [toJson, ofJson?, tagged?_tagged (by decide)]
    simp [htriples]
  | .optional body => by
    intro limit hlimit
    obtain ⟨inner, rfl, hinner⟩ := exists_of_depth_tagged_le hlimit
    have hbody := restores body inner hinner
    rw [toJson, ofJson?, tagged?_tagged (by decide)]
    simp [hbody]
  | .graph name body => by
    intro limit hlimit
    obtain ⟨inner, rfl, hinner⟩ := exists_of_depth_tagged_le hlimit
    obtain ⟨inner, rfl, hparts⟩ := Json.exists_of_depth_fields_le hinner
    rw [List.forall_mem_cons, List.forall_mem_cons] at hparts
    have hname := name.restores inner hparts.1
    have hbody := restores body inner hparts.2.1
    have hfound : objectParts? ["name", "pattern"]
        (.fields [("name", name.toJson), ("pattern", body.toJson)]) =
          some [some name.toJson, some body.toJson] :=
      @objectParts?_present ["name", "pattern"] [some name.toJson, some body.toJson] (by decide) rfl
    rw [toJson, ofJson?, tagged?_tagged (by decide)]
    simp [graphOfJson?, hfound, hname, hbody]
  | .filter expression => by
    intro limit hlimit
    obtain ⟨inner, rfl, -⟩ := exists_of_depth_tagged_le hlimit
    rw [toJson, ofJson?, tagged?_tagged (by decide)]
    rfl

theorem restores_children : (children : List Pattern) →
    Restores (fun children => .array (listToJson children)) listOfJson? children
  | [] => by
    intro limit hlimit
    obtain ⟨inner, rfl, -⟩ := Json.exists_of_depth_array_le hlimit
    rfl
  | child :: rest => by
    intro limit hlimit
    obtain ⟨inner, rfl, hinner⟩ := Json.exists_of_depth_array_le hlimit
    rw [listToJson, List.forall_mem_cons] at hinner
    have hchild := restores child inner hinner.1
    have hrest : (listToJson rest).mapM (ofJson? inner) = some rest :=
      restores_children rest (inner + 1) (Json.depth_array_le_iff.mpr hinner.2)
    show (listToJson (child :: rest)).mapM (ofJson? inner) = some (child :: rest)
    rw [listToJson, List.mapM_cons, hchild, hrest]
    rfl

end

end Pattern

/-! ## Requests -/

theorem restores_quads (data : List Quad) : Restores Wire.quads quads? data :=
  restores_list fun quad _ => quad.restores

theorem Modify.toJson_eq (modify : Modify) : modify.toJson = .fields (present
    ["with_graph", "using", "using_named", "delete", "insert", "where_pattern"]
    [modify.withGraph.map .text, arrayPart .text modify.usingGraphs,
      arrayPart .text modify.usingNamed, modify.delete.map quads, modify.insert.map quads,
      some modify.pattern.toJson]) := by
  simp [toJson, ifPresent_eq, unlessEmpty_eq, present]

theorem Modify.restores (modify : Modify) : Restores toJson ofJson? modify := by
  intro limit hlimit
  rw [toJson_eq] at hlimit ⊢
  obtain ⟨inner, rfl, hinner⟩ := exists_of_depth_present_le rfl hlimit
  simp only [List.forall_mem_cons] at hinner
  obtain ⟨hwith, husing, hnamed, hdelete, hinsert, hpattern, -⟩ := hinner
  have hwith := withDefault?_nullable hwith (fun _ => nofun) fun text _ => restores_text text
  have husing := withDefault?_list husing fun text _ => restores_text text
  have hnamed := withDefault?_list hnamed fun text _ => restores_text text
  have hdelete := withDefault?_nullable hdelete (fun _ => nofun) fun data _ => restores_quads data
  have hinsert := withDefault?_nullable hinsert (fun _ => nofun) fun data _ => restores_quads data
  have hpattern := modify.pattern.restores inner (hpattern _ rfl)
  rw [ofJson?, parts?_present (by decide) rfl]
  simp [hwith, texts?, husing, hnamed, hdelete, hinsert, hpattern]

theorem Operation.restores (operation : Operation) : Restores toJson ofJson? operation := by
  intro limit hlimit
  cases operation with
  | insertData data | deleteData data | deleteWhere data =>
    obtain ⟨inner, rfl, hinner⟩ := exists_of_depth_tagged_le hlimit
    have hdata := restores_quads data inner hinner
    rw [toJson, ofJson?, tagged?_tagged (by decide)]
    simp [hdata]
  | modify change =>
    obtain ⟨inner, rfl, hinner⟩ := exists_of_depth_tagged_le hlimit
    have hchange := change.restores inner hinner
    rw [toJson, ofJson?, tagged?_tagged (by decide)]
    simp [hchange]

theorem PrefixDecl.restores (decl : PrefixDecl) : Restores toJson ofJson? decl := by
  intro limit hlimit
  obtain ⟨inner, rfl, -⟩ := Json.exists_of_depth_fields_le hlimit
  have hparts : parts? ["label", "iri"] decl.toJson =
      some [some (.text decl.label), some (.text decl.iri)] :=
    @parts?_present ["label", "iri"] [some (.text decl.label), some (.text decl.iri)]
      (by decide) rfl
  rw [ofJson?, hparts]
  rfl

theorem Request.toJson_eq (request : Request) : request.toJson =
    .fields (present ["base", "prefixes", "operations"]
      [request.base.map .text, arrayPart PrefixDecl.toJson request.prefixes,
        some (.array (request.operations.map Operation.toJson))]) := by
  simp [toJson, ifPresent_eq, unlessEmpty_eq, present]

theorem Request.restores (request : Request) : Restores toJson ofJson? request := by
  intro limit hlimit
  rw [toJson_eq] at hlimit ⊢
  obtain ⟨inner, rfl, hinner⟩ := exists_of_depth_present_le rfl hlimit
  simp only [List.forall_mem_cons] at hinner
  obtain ⟨hbase, hprefixes, hoperations, -⟩ := hinner
  have hbase := withDefault?_nullable hbase (fun _ => nofun) fun text _ => restores_text text
  have hprefixes := withDefault?_list hprefixes fun decl _ => PrefixDecl.restores decl
  have hoperations := restores_list (fun operation _ => Operation.restores operation) inner
    (hoperations _ rfl)
  rw [ofJson?, parts?_present (by decide) rfl]
  simp [hbase, hprefixes, hoperations]

/-! ## Texts -/

theorem Triple.isWorded_toJson (triple : Triple) : triple.toJson.isWorded = true :=
  Json.isWorded_fields (by simp [members, Term.isWorded_toJson])

theorem GraphName.isWorded_toJson (graph : GraphName) : graph.toJson.isWorded = true := by
  cases graph with
  | default => rfl
  | named name => exact isWorded_tagged name.isWorded_toJson

theorem Quad.isWorded_toJson (quad : Quad) : quad.toJson.isWorded = true :=
  Json.isWorded_fields
    (by simp [Triple.members, Term.isWorded_toJson, GraphName.isWorded_toJson])

theorem isWorded_quads (data : List Quad) : (quads data).isWorded = true :=
  isWorded_list data Quad.isWorded_toJson

namespace Pattern

mutual

theorem isWorded_toJson : (pattern : Pattern) → pattern.toJson.isWorded = true
  | .group children => isWorded_tagged (isWorded_children children)
  | .block triples => isWorded_tagged (isWorded_list triples Triple.isWorded_toJson)
  | .optional body => isWorded_tagged (isWorded_toJson body)
  | .graph name body => by
    have hbody := isWorded_toJson body
    exact isWorded_tagged (Json.isWorded_fields (by simp [name.isWorded_toJson, hbody]))
  | .filter _ => isWorded_tagged rfl

theorem isWorded_children : (children : List Pattern) →
    (Json.array (listToJson children)).isWorded = true
  | [] => rfl
  | child :: rest => by
    have hrest : Json.areWorded (listToJson rest) = true := isWorded_children rest
    rw [listToJson, Json.isWorded, Json.areWorded, isWorded_toJson child, hrest]
    rfl

end

end Pattern

theorem Modify.isWorded_toJson (modify : Modify) : modify.toJson.isWorded = true := by
  rw [toJson_eq]
  refine isWorded_present ?_
  simp only [List.forall_mem_cons, List.not_mem_nil, false_implies, implies_true, and_true]
  refine ⟨isWorded_of_mem_map isWorded_text, isWorded_of_mem_arrayPart isWorded_text,
    isWorded_of_mem_arrayPart isWorded_text, isWorded_of_mem_map isWorded_quads,
    isWorded_of_mem_map isWorded_quads, ?_⟩
  rintro _ ⟨⟩
  exact modify.pattern.isWorded_toJson

theorem Operation.isWorded_toJson (operation : Operation) :
    operation.toJson.isWorded = true := by
  cases operation with
  | insertData data | deleteData data | deleteWhere data =>
    exact isWorded_tagged (isWorded_quads data)
  | modify change => exact isWorded_tagged change.isWorded_toJson

theorem PrefixDecl.isWorded_toJson (decl : PrefixDecl) : decl.toJson.isWorded = true := rfl

theorem Request.isWorded_toJson (request : Request) : request.toJson.isWorded = true := by
  rw [toJson_eq]
  refine isWorded_present ?_
  simp only [List.forall_mem_cons, List.not_mem_nil, false_implies, implies_true, and_true]
  refine ⟨isWorded_of_mem_map isWorded_text,
    isWorded_of_mem_arrayPart PrefixDecl.isWorded_toJson, ?_⟩
  rintro _ ⟨⟩
  exact isWorded_list request.operations Operation.isWorded_toJson

theorem Graph.isWorded_toJson (graph : Graph) : graph.toJson.isWorded = true :=
  isWorded_list graph.triples Triple.isWorded_toJson

/-- **Requests and graphs are read back from their JSON.** A request whose JSON is not nested deeper
than the reader goes is what any text of this JSON holds, among them the one that is written; a
graph is never nested deeper, and is read back with its statements in their order. -/
theorem Wire.read_toJson :
    (∀ request : Request, request.toJson.depth ≤ maxDepth →
      (∀ text, Json.parse? text = some request.toJson → Request.ofText text = .ok request) ∧
        Request.ofText request.toJson.render = .ok request) ∧
    (∀ graph : Graph, Graph.ofJson? maxDepth graph.toJson = some graph ∧
      (Json.parse? graph.toJson.render).bind (Graph.ofJson? maxDepth) = some graph) := by
  constructor
  · intro request hdepth
    have htext (text : String) (hparse : Json.parse? text = some request.toJson) :
        Request.ofText text = .ok request := by
      have hread : Request.parse? text = some request := by
        rw [Request.parse?, hparse]
        exact request.restores maxDepth hdepth
      rw [Request.ofText, hread]
    exact ⟨htext, htext _ (Json.parse?_render request.isWorded_toJson)⟩
  · intro graph
    have hdepth : graph.toJson.depth ≤ maxDepth :=
      Nat.le_trans graph.depth_toJson_le (by decide)
    have hread := graph.restores maxDepth hdepth
    exact ⟨hread, by rw [Json.parse?_render graph.isWorded_toJson, Option.bind_some, hread]⟩

/-- A request with every kind of operation, term and pattern, with a template that is empty and one
that is absent, and with a text that has to be escaped. -/
def variedRequest : Request where
  base := some "http://ext/1"
  prefixes := [⟨"", "http://ext/"⟩]
  operations :=
    [.insertData [⟨⟨.iri "http://ext/1", .iri "http://ext/p",
        .literal (.typed "12" "http://ext/d")⟩, .default⟩],
      .deleteData [],
      .deleteWhere [⟨⟨.blank "b", .variable "p", .literal (.tagged "\"\\\n\x01ü" "en")⟩,
        .named (.variable "g")⟩],
      .modify {
        withGraph := some "http://ext/g"
        usingGraphs := []
        usingNamed := ["http://ext/u"]
        delete := some []
        insert := none
        pattern := .group [.block [⟨.variable "s", .iri "http://ext/p", .variable "o"⟩],
          .optional (.filter "?o > 1"), .graph (.iri "http://ext/g") (.group [])] }]

theorem variedRequest_read :
    variedRequest.toJson.depth ≤ maxDepth ∧
      Request.ofText variedRequest.toJson.render = .ok variedRequest := by
  have hdepth : variedRequest.toJson.depth ≤ maxDepth := by decide +kernel
  exact ⟨hdepth, (read_toJson.1 variedRequest hdepth).2⟩

end RdfGateway
