import RdfGateway.Proofs.UpdateUnits

/-!
# The texts of legal updates

A request that keeps the rules of updates is written as an update (`Request.isUpdate_text`), as long
as its texts have the form of their places and its filters are expressions.

Proof. Each term is a text of the language that its place asks for, by its kind and by the checks of
its texts. Statements and other parts stand in braces in any order, so that one of either kind may
be put in front of a content (`Content.statement`, `Content.other`). Patterns follow by recursion,
each in front of whatever content comes behind it, and operations one by one, with a semicolon
between them.
-/

namespace RdfGateway

open Text Sparql Sparql.Grammar

/-! ## Terms -/

variable {expressions : Language Char} {allowed : Allowed}

/-- The text has the form of its place and is legal there: a language tag and the label of a prefix
are terminals, and a filter is an expression that stays inside its parentheses. -/
structure PlacedText.IsLegal (expressions : Language Char) (text : PlacedText) : Prop where
  sound : text.fault? = none
  tag : text.hasPlainTag = true
  label : text.hasPlainLabel = true
  filter : ∀ expression, text = .filter expression →
    expression.toList ∈ expressions ∧ Filter.StaysInside expression

def Sparql.Grammar.Allowed.admits (allowed : Allowed) (term : Term) : Bool :=
  (allowed.vars || !term.isVariable) && (allowed.blanks || !term.isBlank)

theorem mem_only {language : Language Char} {text : List Char} {allowed : Bool}
    (hallowed : allowed = true) (h : text ∈ language) : text ∈ only allowed language := by
  rwa [only, if_pos hallowed]

namespace Term

section
variable {term : Term} (hlegal : ∀ text ∈ term.texts, text.IsLegal expressions)
  (hadmits : allowed.admits term = true)
include hlegal hadmits

theorem text_mem_varOrIri (hname : term.isName = true) : term.text.toList ∈ varOrIri allowed := by
  cases term with
  | iri text => exact .inl (reads_iri breaks_nil (hlegal (.iri text) List.mem_cons_self).sound).1
  | «variable» name =>
    have hform := of_faultUnless_eq_none (hlegal (.variableName name) List.mem_cons_self).sound
    have hmem := (reads_variable breaks_nil (Name.mem_varName_of_isVariableName hform)).1
    exact .inr (mem_only (by simpa [Allowed.admits, isVariable, isBlank] using hadmits) (.inl hmem))
  | blank | literal => cases hname

theorem text_mem_subject (hliteral : term.isLiteral = false) :
    term.text.toList ∈ subject allowed := by
  cases term with
  | iri | «variable» => exact .inl (text_mem_varOrIri hlegal hadmits rfl)
  | blank label =>
    have hmem := (reads_blank breaks_nil (hlegal (.blankLabel label) List.mem_cons_self).sound).1
    exact .inr (mem_only (by simpa [Allowed.admits, isVariable, isBlank] using hadmits) hmem)
  | literal => cases hliteral

theorem text_mem_object : term.text.toList ∈ object allowed := by
  cases term with
  | iri | blank | «variable» => exact .inl (text_mem_subject hlegal hadmits rfl)
  | literal content =>
    exact .inr (content.mem_quotedLiteral le_rfl le_rfl (fun text ht => (hlegal text ht).sound)
      fun text ht => (hlegal text ht).tag)

end

end Term

/-! ## Statements -/

/-- The subject is no literal, and the predicate is an IRI or a variable. -/
structure Triple.HasKinds (triple : Triple) : Prop where
  subject : triple.subject.isLiteral = false
  predicate : triple.predicate.isName = true

/-- The terms have the kinds of their places, are allowed, and have legal texts. -/
structure Triple.IsPlaced (expressions : Language Char) (allowed : Allowed) (triple : Triple) :
    Prop where
  kinds : triple.HasKinds
  admits : ∀ term ∈ triple.terms, allowed.admits term = true
  legal : ∀ text ∈ triple.texts, text.IsLegal expressions

theorem Triple.IsPlaced.sameSubject {triple : Triple} (h : triple.IsPlaced expressions allowed) :
    SameSubject allowed (triple.shown.symbols.map Symbol.text) := by
  obtain ⟨⟨hsubject, hpredicate⟩, hadmits, hlegal⟩ := h
  simp only [terms, texts, List.forall_mem_cons, List.forall_mem_append] at hadmits hlegal
  obtain ⟨hs, hp, ho, -⟩ := hadmits
  obtain ⟨⟨hls, hlp⟩, hlo⟩ := hlegal
  have hunits : triple.shown.symbols.map Symbol.text =
      [triple.subject.text.toList, triple.predicate.text.toList, triple.object.text.toList] := by
    simp [symbols, shown, Symbol.text, Term.text_shown]
  rw [hunits]
  exact .statement (Term.text_mem_subject hls hs hsubject)
    (Term.text_mem_varOrIri hlp hp hpredicate) (Term.text_mem_object hlo ho)

/-- The term is a name that is allowed. -/
structure Term.IsPlacedName (expressions : Language Char) (allowed : Allowed) (name : Term) :
    Prop where
  isName : name.isName = true
  admits : allowed.admits name = true
  legal : ∀ text ∈ name.texts, text.IsLegal expressions

theorem Term.IsPlacedName.mem_varOrIri {name : Term} (h : name.IsPlacedName expressions allowed) :
    name.shown.text.toList ∈ varOrIri allowed := by
  rw [text_shown]
  exact text_mem_varOrIri h.legal h.admits h.isName

/-- The statements and the graph names have the kinds of their places, and the texts are legal. -/
structure ArePlaced (expressions : Language Char) (statements : List Triple)
    (graphNames : List Term) (texts : List PlacedText) : Prop where
  kinds : ∀ triple ∈ statements, triple.HasKinds
  names : ∀ name ∈ graphNames, name.isName = true
  legal : ∀ text ∈ texts, text.IsLegal expressions

theorem ArePlaced.of_append {statements others : List Triple} {names more : List Term}
    {texts rest : List PlacedText}
    (h : ArePlaced expressions (statements ++ others) (names ++ more) (texts ++ rest)) :
    ArePlaced expressions statements names texts ∧ ArePlaced expressions others more rest := by
  obtain ⟨hkinds, hnames, hlegal⟩ := h
  rw [List.forall_mem_append] at hkinds hnames hlegal
  exact ⟨⟨hkinds.1, hnames.1, hlegal.1⟩, hkinds.2, hnames.2, hlegal.2⟩

/-! ## Quads -/

/-- The statement of the quad and its graph stand in their places. -/
structure Quad.IsPlaced (expressions : Language Char) (allowed : Allowed) (quad : Quad) :
    Prop where
  triple : quad.triple.IsPlaced expressions allowed
  graph : ∀ name ∈ quad.graph.names, name.IsPlacedName expressions allowed

/-- What is known of the lists of quads is known of each quad. -/
theorem ArePlaced.isPlaced {quads : List Quad}
    (h : ArePlaced expressions (quads.map Quad.triple) (quads.flatMap (·.graph.names))
      (quads.flatMap Quad.texts))
    (hadmits : ∀ quad ∈ quads, ∀ term ∈ quad.terms, allowed.admits term = true) :
    ∀ quad ∈ quads, quad.IsPlaced expressions allowed := by
  intro quad hquad
  have hkinds := h.kinds _ (List.mem_map_of_mem hquad)
  have hadmits := hadmits quad hquad
  have hlegal : ∀ text ∈ quad.texts, text.IsLegal expressions :=
    fun text ht => h.legal text (List.mem_flatMap_of_mem hquad ht)
  rw [Quad.terms, List.forall_mem_append] at hadmits
  rw [Quad.texts, List.forall_mem_append] at hlegal
  refine ⟨⟨hkinds, hadmits.2, hlegal.2⟩, fun name hname => ?_⟩
  refine ⟨h.names name (List.mem_flatMap_of_mem hquad hname), hadmits.1 name hname, ?_⟩
  cases hgraph : quad.graph with
  | default =>
    rw [hgraph] at hname
    cases hname
  | named other =>
    rw [hgraph] at hname hlegal
    obtain rfl := List.mem_singleton.mp hname
    exact hlegal.1

theorem content_quadElements {quads : List Quad}
    (h : ∀ quad ∈ quads, quad.IsPlaced expressions allowed) :
    Content allowed (GraphQuads allowed) (Element.units (quadElements quads)) := by
  induction quads with
  | nil => exact .nil
  | cons quad quads ih =>
    obtain ⟨⟨htriple, hname⟩, hquads⟩ := List.forall_mem_cons.mp h
    have hrest := ih hquads
    have hstatement := htriple.sameSubject
    obtain ⟨triple, graph⟩ := quad
    rw [quadElements, List.map_cons]
    cases graph with
    | default =>
      rw [Quad.shown, GraphName.shown, Quad.element, Element.units_statement]
      exact hrest.statement hstatement
    | named name =>
      rw [Quad.shown, GraphName.shown, Quad.element, Element.units_graph, Element.units_statement]
      exact hrest.other (.graph (hname name List.mem_cons_self).mem_varOrIri
        (.present (.dotted hstatement)))

/-! ## Patterns -/

namespace Pattern

/-- What stands in the pattern stands in its place. -/
def IsPlaced (expressions : Language Char) (pattern : Pattern) : Prop :=
  ArePlaced expressions pattern.statements pattern.graphNames pattern.texts

/-- The units may stand in front of whatever comes in the braces of a group. -/
def IsFront (expressions : Language Char) (units : Units) : Prop :=
  ∀ rest, Content ⟨true, true⟩ (PatternPart expressions) rest →
    Content ⟨true, true⟩ (PatternPart expressions) (units ++ rest)

theorem IsFront.content {units : Units} (h : IsFront expressions units) :
    Content ⟨true, true⟩ (PatternPart expressions) units := by
  have hcontent := h [] .nil
  rwa [List.append_nil] at hcontent

theorem isFront_block {triples : List Triple} (h : (block triples).IsPlaced expressions) :
    IsFront expressions (Element.units (block triples).elements) := by
  intro rest hrest
  obtain ⟨hkinds, -, hlegal⟩ := h
  rw [statements] at hkinds
  rw [texts] at hlegal
  induction triples with
  | nil => exact hrest
  | cons triple triples ih =>
    rw [List.forall_mem_cons] at hkinds
    rw [List.flatMap_cons, List.forall_mem_append] at hlegal
    have hplaced : triple.IsPlaced expressions ⟨true, true⟩ :=
      ⟨hkinds.1, fun _ _ => rfl, hlegal.1⟩
    have hcontent := (ih hkinds.2 hlegal.2).statement hplaced.sameSubject
    rw [elements, List.map_cons, Element.units_statement, List.append_assoc, List.cons_append]
    exact hcontent

/-- A pattern that is one part, and not a group, shows the part in braces as well. -/
theorem isFront_of_part {pattern : Pattern} (hgroup : pattern.isGroup = false)
    (h : PatternPart expressions (Element.units pattern.elements)) :
    IsFront expressions (Element.units pattern.elements) ∧
      Content ⟨true, true⟩ (PatternPart expressions) (Element.units pattern.inner) := by
  have hfront : IsFront expressions (Element.units pattern.elements) := fun _ hrest => hrest.other h
  rw [inner_of_not_isGroup hgroup]
  exact ⟨hfront, hfront.content⟩

mutual

/-- **A pattern is a part of a group**, and what stands in its braces is the content of one. -/
theorem isFront_elements : (pattern : Pattern) → pattern.IsPlaced expressions →
    IsFront expressions (Element.units pattern.elements) ∧
      Content ⟨true, true⟩ (PatternPart expressions) (Element.units pattern.inner)
  | .group children, h => by
    have hcontent := (isFront_elementsAll children h).content
    have hunits : Element.units (Pattern.group children).elements =
        braces (Element.units (elementsAll children)) := by
      rw [elements, Element.units_group, Element.units_nil, List.append_nil]
    rw [inner_group, hunits]
    exact ⟨fun _ hrest => hrest.other (.group hcontent), hcontent⟩
  | .block triples, h => by
    have hfront := isFront_block h
    rw [inner_of_not_isGroup rfl]
    exact ⟨hfront, hfront.content⟩
  | .optional body, h => by
    obtain ⟨-, hbody⟩ := isFront_elements body h
    refine isFront_of_part rfl ?_
    rw [elements, Element.units_optional, Element.units_nil, List.append_nil]
    exact .optional hbody
  | .graph name body, ⟨hkinds, hnames, hlegal⟩ => by
    obtain ⟨hname, hnames⟩ := List.forall_mem_cons.mp hnames
    rw [texts, List.forall_mem_append] at hlegal
    obtain ⟨-, hbody⟩ := isFront_elements body ⟨hkinds, hnames, hlegal.2⟩
    refine isFront_of_part rfl ?_
    rw [elements, Element.units_graph, Element.units_nil, List.append_nil]
    exact .graph (Term.IsPlacedName.mem_varOrIri ⟨hname, rfl, hlegal.1⟩) hbody
  | .filter expression, h => by
    obtain ⟨hmem, hinside⟩ := (h.legal _ List.mem_cons_self).filter expression rfl
    exact isFront_of_part rfl (.filter hmem hinside)

theorem isFront_elementsAll : (patterns : List Pattern) →
    (Pattern.group patterns).IsPlaced expressions →
      IsFront expressions (Element.units (elementsAll patterns))
  | [], _ => fun _ hrest => hrest
  | child :: patterns, h => by
    obtain ⟨hchild, hpatterns⟩ := ArePlaced.of_append h
    intro rest hrest
    have hlater := isFront_elementsAll patterns hpatterns rest hrest
    have hcontent := (isFront_elements child hchild).1 _ hlater
    rw [elementsAll, Element.units_append, List.append_assoc]
    exact hcontent

end

end Pattern

/-! ## Clauses -/

theorem many_units {production : Units → Prop} {clauses : List Clause}
    (h : ∀ clause ∈ clauses, production (Clause.units [clause])) :
    Many production (Clause.units clauses) := by
  induction clauses with
  | nil => exact .nil
  | cons clause clauses ih =>
    obtain ⟨hclause, hclauses⟩ := List.forall_mem_cons.mp h
    have hmany := Many.cons hclause (ih hclauses)
    rwa [← Clause.units_append] at hmany

theorem maybe_template (keyword : String) {template : Option (List Quad)}
    (h : ∀ quad ∈ template.getD [], quad.IsPlaced expressions allowed) :
    Maybe (Template keyword allowed)
      (Clause.units (template.toList.map (Clause.ofQuads [keyword]))) := by
  cases template with
  | none => exact .absent
  | some quads =>
    rw [Option.toList_some, List.map_singleton, Clause.ofQuads, Clause.units_block]
    exact .present (.quads (.braces (content_quadElements h)))

namespace Modify

variable {modify : Modify}

theorem templates_units
    (hdelete : ∀ quad ∈ modify.delete.getD [], quad.IsPlaced expressions ⟨true, false⟩)
    (hinsert : ∀ quad ∈ modify.insert.getD [], quad.IsPlaced expressions ⟨true, true⟩)
    (htemplate : (modify.delete.isSome || modify.insert.isSome) = true) :
    Templates (Clause.units (modify.delete.toList.map (Clause.ofQuads ["DELETE"])) ++
      Clause.units (modify.insert.toList.map (Clause.ofQuads ["INSERT"]))) := by
  have hinserts := maybe_template "INSERT" hinsert
  have hdeletes := maybe_template "DELETE" hdelete
  cases hd : modify.delete with
  | some quads =>
    rw [hd] at hdeletes
    cases hdeletes with
    | present hdeletes => exact .delete hdeletes hinserts
  | none =>
    cases hi : modify.insert with
    | none =>
      rw [hd, hi] at htemplate
      cases htemplate
    | some quads =>
      rw [hi] at hinserts
      cases hinserts with
      | present hinserts => exact .insert hinserts

section
variable (hiris : ∀ text ∈ (modify.withGraph.toList ++ modify.usingGraphs ++
  modify.usingNamed).map PlacedText.iri, text.IsLegal expressions)
include hiris

theorem mem_iriRef {iri : String}
    (h : iri ∈ modify.withGraph.toList ++ modify.usingGraphs ++ modify.usingNamed) :
    (Term.iri iri).text.toList ∈ Terminal.iriRef.language :=
  (reads_iri breaks_nil (hiris _ (List.mem_map_of_mem h)).sound).1

theorem many_using :
    Many Using (Clause.units (modify.usingGraphs.map (Clause.ofIri ["USING"]) ++
      modify.usingNamed.map (Clause.ofIri ["USING", "NAMED"]))) := by
  refine many_units fun clause hclause => ?_
  rw [List.mem_append, List.mem_map, List.mem_map] at hclause
  rcases hclause with ⟨iri, hiri, rfl⟩ | ⟨iri, hiri, rfl⟩
  · rw [Clause.ofIri, Clause.units_iri]
    exact .iri (mem_iriRef hiris (List.mem_append_left _ (List.mem_append_right _ hiri)))
  · rw [Clause.ofIri, Clause.units_iri]
    exact .named (mem_iriRef hiris (List.mem_append_right _ hiri))

theorem maybe_with :
    Maybe With (Clause.units (modify.withGraph.toList.map (Clause.ofIri ["WITH"]))) := by
  cases hgraph : modify.withGraph with
  | none => exact .absent
  | some iri =>
    rw [Option.toList_some, List.map_singleton, Clause.ofIri, Clause.units_iri]
    exact .present (.iri (mem_iriRef hiris (by simp [hgraph])))

end

end Modify

theorem Request.many_declarations {request : Request}
    (h : ∀ text ∈ prologueTexts request.base request.prefixes, text.IsLegal expressions) :
    Many Declaration (Clause.units request.prologueClauses) := by
  refine many_units fun clause hclause => ?_
  rw [prologueTexts, List.forall_mem_append] at h
  obtain ⟨hbase, hprefixes⟩ := h
  rw [prologueClauses, List.mem_append, List.mem_map, List.mem_map] at hclause
  rcases hclause with ⟨iri, hiri, rfl⟩ | ⟨decl, hdecl, rfl⟩
  · rw [Clause.ofIri, Clause.units_iri]
    exact .base (reads_iri breaks_nil (hbase _ (List.mem_map_of_mem hiri)).sound).1
  · have hdecls := fun text ht => hprefixes text (List.mem_flatMap.mpr ⟨decl, hdecl, ht⟩)
    have hiri := (hdecls (.iri decl.iri) (List.mem_cons_of_mem _ List.mem_cons_self)).sound
    have hlabel := hdecls (.prefixLabel decl.label) List.mem_cons_self
    have hprefix := (Name.prefixLabel_iff (of_faultUnless_eq_none hlabel.sound)).mpr hlabel.label
    have hns : (decl.label ++ ":").toList ∈ Terminal.pnameNs.language := by
      rw [String.toList_append]
      exact mem_pnameNs_iff.mpr hprefix
    rw [PrefixDecl.clause, Clause.ofIri, Clause.units_iri]
    exact .named hns (reads_iri breaks_nil hiri).1

/-! ## Operations -/

/-- The units are those that the relation has for scopes with these labels. -/
def HasScopes (update : Units → List Units → List Units → Prop) (units : Units)
    (data patterns : List (List String)) : Prop :=
  ∃ dataUnits patternUnits, update units dataUnits patternUnits ∧
    List.Forall₂ Covers dataUnits data ∧ List.Forall₂ Covers patternUnits patterns

namespace Operation

/-- What stands in the operation stands in its place, and a modification has a template. -/
structure IsPlaced (expressions : Language Char) (operation : Operation) : Prop where
  places : ArePlaced expressions operation.statements operation.graphNames operation.texts
  ground : operation.isGround = true
  template : operation.hasTemplate = true
  deletion : ∀ quad ∈ operation.deleted, ∀ term ∈ quad.terms, term.isBlank = false

variable {operation : Operation}

theorem isVariable_of_isGround {quads : List Quad}
    (h : (quads.all fun quad => quad.terms.all (!·.isVariable)) = true) :
    ∀ quad ∈ quads, ∀ term ∈ quad.terms, term.isVariable = false := by
  intro quad hquad term hterm
  have := List.all_eq_true.mp (List.all_eq_true.mp h quad hquad) term hterm
  rwa [Bool.not_eq_true'] at this

/-- The parts of a modification. -/
theorem arePlaced_modify {change : Modify}
    (h : ArePlaced expressions (modify change).statements (modify change).graphNames
      (modify change).texts) :
    (∀ text ∈ (change.withGraph.toList ++ change.usingGraphs ++ change.usingNamed).map
        PlacedText.iri, text.IsLegal expressions) ∧
      ArePlaced expressions ((change.delete.getD []).map Quad.triple)
        ((change.delete.getD []).flatMap (·.graph.names))
        ((change.delete.getD []).flatMap Quad.texts) ∧
      ArePlaced expressions ((change.insert.getD []).map Quad.triple)
        ((change.insert.getD []).flatMap (·.graph.names))
        ((change.insert.getD []).flatMap Quad.texts) ∧
      change.pattern.IsPlaced expressions := by
  have hstatements (template : Option (List Quad)) :
      templateStatements template = (template.getD []).map Quad.triple := by
    cases template <;> rfl
  have htexts (template : Option (List Quad)) :
      templateTexts template = (template.getD []).flatMap Quad.texts := by
    cases template <;> rfl
  rw [statements, graphNames, texts, Modify.statements, Modify.texts, hstatements, hstatements,
    htexts, htexts, List.flatMap_append] at h
  obtain ⟨⟨hkinds, hnames, hlegal⟩, hpattern⟩ := h.of_append
  rw [List.append_assoc, List.forall_mem_append] at hlegal
  obtain ⟨hdelete, hinsert⟩ := ArePlaced.of_append ⟨hkinds, hnames, hlegal.2⟩
  exact ⟨hlegal.1, hdelete, hinsert, hpattern⟩

/-- The units of a modification. -/
theorem hasScopes_modify {change : Modify} (h : (modify change).IsPlaced expressions) :
    HasScopes (Update1 expressions) (Clause.units (modify change).clauses)
      (modify change).dataScopes (modify change).patternScopes := by
  obtain ⟨hplaces, -, htemplate, hdeletion⟩ := h
  obtain ⟨hiris, hdelete, hinsert, hpattern⟩ := arePlaced_modify hplaces
  have hdeletes : ∀ quad ∈ change.delete.getD [], quad.IsPlaced expressions ⟨true, false⟩ :=
    hdelete.isPlaced fun quad hquad term hterm => by
      simp [Allowed.admits, hdeletion quad hquad term hterm]
  have hinserts : ∀ quad ∈ change.insert.getD [], quad.IsPlaced expressions ⟨true, true⟩ :=
    hinsert.isPlaced fun _ _ _ _ => rfl
  have hupdate := Update1.modify (Modify.maybe_with hiris)
    (Modify.templates_units hdeletes hinserts htemplate) (Modify.many_using hiris)
    (change.pattern.isFront_elements hpattern).2
  refine ⟨_, _, ?_, .nil, Element.coversScopes change.pattern.inner⟩
  rw [clauses, final, Clause.units_append, Clause.units_block, List.map_singleton,
    List.singleton_append]
  simpa only [leading, Modify.leading, Clause.units_append, List.append_assoc] using hupdate

/-- **The units of an operation** are those of an update with one operation. -/
theorem hasScopes_units (h : operation.IsPlaced expressions) :
    HasScopes (Update1 expressions) (Clause.units operation.clauses) operation.dataScopes
      operation.patternScopes := by
  obtain ⟨hplaces, hground, htemplate, hdeletion⟩ := h
  cases operation with
  | insertData quads =>
    have hquads : ∀ quad ∈ quads, quad.IsPlaced expressions ⟨false, true⟩ :=
      hplaces.isPlaced fun quad hquad term hterm => by
        simp [Allowed.admits, isVariable_of_isGround hground quad hquad term hterm]
    refine ⟨_, _, ?_, .cons (covers_quadElements quads).braces .nil, .nil⟩
    have hclauses : (insertData quads).clauses = [Clause.ofQuads ["INSERT", "DATA"] quads] := rfl
    rw [hclauses, Clause.ofQuads, Clause.units_block]
    exact .insertData (.braces (content_quadElements hquads))
  | deleteData quads =>
    have hquads : ∀ quad ∈ quads, quad.IsPlaced expressions ⟨false, false⟩ :=
      hplaces.isPlaced fun quad hquad term hterm => by
        simp [Allowed.admits, isVariable_of_isGround hground quad hquad term hterm,
          hdeletion quad hquad term hterm]
    refine ⟨_, _, ?_, .nil, .nil⟩
    have hclauses : (deleteData quads).clauses = [Clause.ofQuads ["DELETE", "DATA"] quads] := rfl
    rw [hclauses, Clause.ofQuads, Clause.units_block]
    exact .deleteData (.braces (content_quadElements hquads))
  | deleteWhere quads =>
    have hquads : ∀ quad ∈ quads, quad.IsPlaced expressions ⟨true, false⟩ :=
      hplaces.isPlaced fun quad hquad term hterm => by
        simp [Allowed.admits, hdeletion quad hquad term hterm]
    refine ⟨_, _, ?_, .nil, .nil⟩
    have hclauses : (deleteWhere quads).clauses = [Clause.ofQuads ["DELETE", "WHERE"] quads] := rfl
    rw [hclauses, Clause.ofQuads, Clause.units_block]
    exact .deleteWhere (.braces (content_quadElements hquads))
  | modify change => exact hasScopes_modify ⟨hplaces, hground, htemplate, hdeletion⟩

end Operation

/-! ## Requests -/

/-- Operations behind the declarations of a prologue. -/
theorem hasScopes_listClauses {units : Units} (hprologue : Many Declaration units) :
    (operations : List Operation) → (∀ operation ∈ operations, operation.IsPlaced expressions) →
      HasScopes (Update expressions)
        (units ++ Clause.units (Operation.listClauses operations))
        (operations.flatMap Operation.dataScopes) (operations.flatMap Operation.patternScopes)
  | [], _ => by
    refine ⟨_, _, ?_, .nil, .nil⟩
    rw [Operation.listClauses, Clause.units, List.flatMap_nil, List.map_nil, List.append_nil]
    exact .prologue hprologue
  | [operation], h => by
    obtain ⟨data, patterns, hoperation, hdata, hpatterns⟩ :=
      operation.hasScopes_units (List.forall_mem_singleton.mp h)
    rw [Operation.listClauses, List.flatMap_nil, List.append_nil, List.flatMap_singleton,
      List.flatMap_singleton]
    exact ⟨data, patterns, .operation hprologue hoperation, hdata, hpatterns⟩
  | operation :: next :: operations, h => by
    obtain ⟨hfirst, hlater⟩ := List.forall_mem_cons.mp h
    obtain ⟨data, patterns, hoperation, hdata, hpatterns⟩ := operation.hasScopes_units hfirst
    -- the operations behind the semicolon have an empty prologue
    obtain ⟨laterData, laterPatterns, hrest, hlaterData, hlaterPatterns⟩ :=
      hasScopes_listClauses Many.nil (next :: operations) hlater
    refine ⟨_, _, ?_, List.rel_append hdata hlaterData, List.rel_append hpatterns hlaterPatterns⟩
    rw [Operation.listClauses, Clause.units_append]
    exact .sequence hprologue hoperation hrest

theorem Request.isLegal_texts {request : Request}
    (hsound : ∀ text ∈ request.texts, text.fault? = none)
    (hkeeps : ∀ rule : UpdateRule, rule ≠ .literal → request.keeps rule = true)
    (hexpressions : ∀ expression, .filter expression ∈ request.texts →
      expression.toList ∈ expressions) :
    ∀ text ∈ request.texts, text.IsLegal expressions := by
  intro text ht
  refine ⟨hsound text ht, ?_, ?_, ?_⟩
  · exact List.all_eq_true.mp (hkeeps .languageTag (by decide)) text ht
  · exact List.all_eq_true.mp (hkeeps .prefixLabel (by decide)) text ht
  · rintro expression rfl
    exact ⟨hexpressions expression ht,
      Filter.isInside_iff.mp (List.all_eq_true.mp (hkeeps .filter (by decide)) _ ht)⟩

theorem Request.isPlaced_operation {request : Request}
    (hlegal : ∀ text ∈ request.texts, text.IsLegal expressions)
    (hkeeps : ∀ rule : UpdateRule, rule ≠ .literal → request.keeps rule = true) :
    ∀ operation ∈ request.operations, operation.IsPlaced expressions := by
  have hsubject : (request.statements.all fun triple => !triple.subject.isLiteral) = true :=
    hkeeps .subject (by decide)
  have hpredicate : (request.statements.all fun triple => triple.predicate.isName) = true :=
    hkeeps .predicate (by decide)
  have hnames : (request.operations.flatMap Operation.graphNames).all Term.isName = true :=
    hkeeps .graphName (by decide)
  have hground : request.operations.all Operation.isGround = true := hkeeps .data (by decide)
  have htemplate : request.operations.all Operation.hasTemplate = true :=
    hkeeps .template (by decide)
  have hdeletion : (request.operations.all fun operation =>
      operation.deleted.all fun quad => quad.terms.all (!·.isBlank)) = true :=
    hkeeps .deletion (by decide)
  rw [List.all_eq_true] at hpredicate hnames hground htemplate
  simp only [List.all_eq_true, Bool.not_eq_true'] at hsubject hdeletion
  intro operation ho
  refine ⟨⟨fun triple ht => ?_, fun name hn => ?_, fun text ht => ?_⟩, hground _ ho,
    htemplate _ ho, hdeletion _ ho⟩
  · have hmem := List.mem_flatMap_of_mem ho ht
    exact ⟨hsubject triple hmem, hpredicate triple hmem⟩
  · exact hnames name (List.mem_flatMap_of_mem ho hn)
  · exact hlegal text (List.mem_append_right _ (List.mem_flatMap_of_mem ho ht))

/-- **A request that keeps the rules is written as an update**, but for a datatype beside a language
tag, which the text does not show. -/
theorem Request.isUpdate_text {request : Request}
    (hsound : ∀ text ∈ request.texts, text.fault? = none)
    (hkeeps : ∀ rule : UpdateRule, rule ≠ .literal → request.keeps rule = true)
    (hexpressions : ∀ expression, .filter expression ∈ request.texts →
      expression.toList ∈ expressions) :
    IsUpdate expressions request.text.toList := by
  have hlegal := isLegal_texts hsound hkeeps hexpressions
  have hprologue := many_declarations fun text ht => hlegal text (List.mem_append_left _ ht)
  obtain ⟨data, patterns, hupdate, hdata, hpatterns⟩ :=
    hasScopes_listClauses hprologue request.operations (isPlaced_operation hlegal hkeeps)
  have hapart := hkeeps .labels (by decide)
  rw [keeps, Bool.and_eq_true] at hapart
  rw [← Clause.units_append] at hupdate
  exact ⟨_, data, patterns, (request.spells hsound).divided, hupdate,
    areApart_of_covers hdata hapart.1, areApart_of_covers hpatterns hapart.2⟩

end RdfGateway
