import RdfGateway.Gateway.Fault

/-!
# The statements and the texts of a request

A request is a tree that holds two things at its leaves: statements, which the policy is about, and
texts that have to have the form of their place. `statements` lists the statements in request order,
`texts` lists the checked texts in the order in which they are looked at, and `mapStatements`
replaces each statement where it stands.

* `Request.statements_mapStatements`: a replaced tree holds the replaced statements in their order.
* `Request.mapStatements_congr`: only the statements that occur matter to a replacement.
* `Request.mem_texts_mapStatements`: what is checked of a replaced tree.
* `Triple.fault?_eq`, `GraphName.fault?_eq`, `prologueFault?_eq`: the fault that a check finds is
  the one of the first malformed text.
-/

namespace RdfGateway

/-! ## Checked texts -/

/-- A text at a place that asks for a form. -/
inductive PlacedText where
  | iri (text : String)
  | blankLabel (label : String)
  | variableName (name : String)
  | languageTag (tag : String)
  | prefixLabel (label : String)
  | filter (expression : String)
  deriving DecidableEq

/-- The fault of a text that does not have the form of its place. -/
def PlacedText.fault? : PlacedText → Option Fault
  | .iri text => iriFault? text
  | .blankLabel label => faultUnless (Name.isBlankLabel label.toList) (.name ("_:" ++ label))
  | .variableName name => faultUnless (Name.isVariableName name.toList) (.name ("?" ++ name))
  | .languageTag tag => faultUnless (Name.isLanguageTag tag.toList) (.languageTag tag)
  | .prefixLabel label => faultUnless (Name.isPrefixLabel label.toList) (.name (label ++ ":"))
  | .filter expression => filterFault? expression

/-- The fault of the first malformed text. -/
def firstFault? (texts : List PlacedText) : Option Fault := texts.findSome? PlacedText.fault?

@[simp] theorem firstFault?_nil : firstFault? [] = none := rfl

@[simp] theorem firstFault?_cons (text : PlacedText) (texts : List PlacedText) :
    firstFault? (text :: texts) = (text.fault?.or (firstFault? texts)) := by
  rw [firstFault?, List.findSome?_cons, firstFault?]
  cases text.fault? <;> rfl

@[simp] theorem firstFault?_append (texts others : List PlacedText) :
    firstFault? (texts ++ others) = (firstFault? texts).or (firstFault? others) :=
  List.findSome?_append

theorem firstFault?_eq_none_iff {texts : List PlacedText} :
    firstFault? texts = none ↔ ∀ text ∈ texts, text.fault? = none :=
  List.findSome?_eq_none_iff

theorem firstFault?_eq_some_iff {texts : List PlacedText} {fault : Fault} :
    firstFault? texts = some fault ↔
      ∃ sound text more, texts = sound ++ text :: more ∧
        (∀ earlier ∈ sound, earlier.fault? = none) ∧ text.fault? = some fault := by
  unfold firstFault?
  rw [List.findSome?_eq_some_iff]
  constructor
  · rintro ⟨sound, text, more, htexts, hfault, hsound⟩
    exact ⟨sound, text, more, htexts, hsound, hfault⟩
  · rintro ⟨sound, text, more, htexts, hsound, hfault⟩
    exact ⟨sound, text, more, htexts, hfault, hsound⟩

theorem exists_firstFault?_iff {texts : List PlacedText} :
    (∃ fault, firstFault? texts = some fault) ↔ ∃ text ∈ texts, text.fault? ≠ none := by
  unfold firstFault?
  simp only [← Option.isSome_iff_exists, List.isSome_findSome?, List.any_eq_true,
    Option.isSome_iff_ne_none]

/-- The checked texts of a literal. -/
def Literal.texts (literal : Literal) : List PlacedText :=
  literal.datatype.toList.map .iri ++ literal.language.toList.map .languageTag

/-- The checked texts of a term. -/
def Term.texts : Term → List PlacedText
  | .iri text => [.iri text]
  | .blank label => [.blankLabel label]
  | .variable name => [.variableName name]
  | .literal content => content.texts

/-- The checked texts of a statement. -/
def Triple.texts (triple : Triple) : List PlacedText :=
  triple.subject.texts ++ triple.predicate.texts ++ triple.object.texts

/-- The checked texts of a graph name. -/
def GraphName.texts : GraphName → List PlacedText
  | .default => []
  | .named name => name.texts

/-- The checked texts of a statement and its graph name. -/
def Quad.texts (quad : Quad) : List PlacedText := quad.graph.texts ++ quad.triple.texts

/-- The checked texts of a prologue. -/
def prologueTexts (base : Option String) (prefixes : List PrefixDecl) : List PlacedText :=
  base.toList.map .iri ++ prefixes.flatMap fun decl => [.prefixLabel decl.label, .iri decl.iri]

theorem Literal.fault?_eq (literal : Literal) : literal.fault? = firstFault? literal.texts := by
  obtain ⟨_, datatype, language⟩ := literal
  cases datatype <;> cases language <;> simp [Literal.fault?, Literal.texts, PlacedText.fault?]

theorem Term.fault?_eq (term : Term) : term.fault? = firstFault? term.texts := by
  cases term with
  | literal content => exact content.fault?_eq
  | iri text => simp [Term.fault?, Term.texts, PlacedText.fault?]
  | blank label => simp [Term.fault?, Term.texts, PlacedText.fault?]
  | «variable» name => simp [Term.fault?, Term.texts, PlacedText.fault?]

theorem Triple.fault?_eq (triple : Triple) : triple.fault? = firstFault? triple.texts := by
  simp [Triple.fault?, Triple.texts, Term.fault?_eq]

theorem GraphName.fault?_eq (graph : GraphName) : graph.fault? = firstFault? graph.texts := by
  cases graph with
  | default => rfl
  | named name => exact name.fault?_eq

theorem findSome?_iriFault? (iris : List String) :
    iris.findSome? iriFault? = firstFault? (iris.map .iri) := by
  rw [firstFault?, List.findSome?_map]
  rfl

theorem prologueFault?_eq (base : Option String) (prefixes : List PrefixDecl) :
    prologueFault? base prefixes = firstFault? (prologueTexts base prefixes) := by
  have hbase : base.bind iriFault? = firstFault? (base.toList.map .iri) := by
    cases base <;> simp [PlacedText.fault?]
  have hprefixes : prefixes.findSome? PrefixDecl.fault? =
      firstFault? (prefixes.flatMap fun decl => [.prefixLabel decl.label, .iri decl.iri]) := by
    induction prefixes with
    | nil => rfl
    | cons decl rest ih =>
      rw [List.findSome?_cons, List.flatMap_cons, firstFault?_append, ← ih]
      simp only [PrefixDecl.fault?, firstFault?_cons, firstFault?_nil, PlacedText.fault?,
        Option.or_none, Option.orElse_eq_orElse, Option.orElse_eq_or]
      cases (faultUnless (Name.isPrefixLabel decl.label.toList) (.name (decl.label ++ ":"))).or
        (iriFault? decl.iri) <;> rfl
  rw [prologueFault?, prologueTexts, firstFault?_append, hbase, hprefixes,
    Option.orElse_eq_orElse, Option.orElse_eq_or]

/-! ## Patterns -/

namespace Pattern

mutual

/-- The checked texts of a pattern: the name of a graph comes before its body. -/
def texts : Pattern → List PlacedText
  | .group children => textsAll children
  | .block triples => triples.flatMap Triple.texts
  | .optional body => texts body
  | .graph name body => name.texts ++ texts body
  | .filter expression => [.filter expression]

/-- The checked texts of patterns. -/
def textsAll : List Pattern → List PlacedText
  | [] => []
  | child :: rest => texts child ++ textsAll rest

end

mutual

/-- The statements of a pattern, left to right and depth first. -/
def statements : Pattern → List Triple
  | .group children => statementsAll children
  | .block triples => triples
  | .optional body => statements body
  | .graph _ body => statements body
  | .filter _ => []

/-- The statements of patterns. -/
def statementsAll : List Pattern → List Triple
  | [] => []
  | child :: rest => statements child ++ statementsAll rest

end

mutual

/-- The pattern with each statement of its blocks replaced where it stands. -/
def mapStatements (f : Triple → Triple) : Pattern → Pattern
  | .group children => .group (mapStatementsAll f children)
  | .block triples => .block (triples.map f)
  | .optional body => .optional (mapStatements f body)
  | .graph name body => .graph name (mapStatements f body)
  | .filter expression => .filter expression

/-- The patterns with each statement replaced where it stands. -/
def mapStatementsAll (f : Triple → Triple) : List Pattern → List Pattern
  | [] => []
  | child :: rest => mapStatements f child :: mapStatementsAll f rest

end

theorem textsAll_append (patterns others : List Pattern) :
    textsAll (patterns ++ others) = textsAll patterns ++ textsAll others := by
  induction patterns with
  | nil => rfl
  | cons child rest ih => rw [List.cons_append, textsAll, ih, textsAll, List.append_assoc]

theorem statementsAll_append (patterns others : List Pattern) :
    statementsAll (patterns ++ others) = statementsAll patterns ++ statementsAll others := by
  induction patterns with
  | nil => rfl
  | cons child rest ih =>
    rw [List.cons_append, statementsAll, ih, statementsAll, List.append_assoc]

variable {f g : Triple → Triple}

mutual

theorem statements_mapStatements :
    (pattern : Pattern) → (mapStatements f pattern).statements = pattern.statements.map f
  | .group children => statementsAll_mapStatementsAll children
  | .block _ => rfl
  | .optional body => statements_mapStatements body
  | .graph _ body => statements_mapStatements body
  | .filter _ => rfl

theorem statementsAll_mapStatementsAll :
    (patterns : List Pattern) →
      statementsAll (mapStatementsAll f patterns) = (statementsAll patterns).map f
  | [] => rfl
  | child :: rest => by
    rw [mapStatementsAll, statementsAll, statementsAll, List.map_append,
      statements_mapStatements child, statementsAll_mapStatementsAll rest]

end

mutual

theorem mapStatements_congr :
    (pattern : Pattern) → (∀ triple ∈ pattern.statements, f triple = g triple) →
      mapStatements f pattern = mapStatements g pattern
  | .group children, h => congrArg Pattern.group (mapStatementsAll_congr children h)
  | .block _, h => congrArg Pattern.block (List.map_congr_left h)
  | .optional body, h => congrArg Pattern.optional (mapStatements_congr body h)
  | .graph name body, h => congrArg (Pattern.graph name) (mapStatements_congr body h)
  | .filter _, _ => rfl

theorem mapStatementsAll_congr :
    (patterns : List Pattern) → (∀ triple ∈ statementsAll patterns, f triple = g triple) →
      mapStatementsAll f patterns = mapStatementsAll g patterns
  | [], _ => rfl
  | child :: rest, h => by
    have hchild := mapStatements_congr child fun triple ht => h triple (List.mem_append_left _ ht)
    have hrest := mapStatementsAll_congr rest fun triple ht =>
      h triple (List.mem_append_right _ ht)
    rw [mapStatementsAll, mapStatementsAll, hchild, hrest]

end

variable {triple : Triple}

mutual

theorem texts_subset :
    (pattern : Pattern) → triple ∈ pattern.statements → triple.texts ⊆ pattern.texts
  | .group children, h => textsAll_subset children h
  | .block _, h => fun _ hx => List.mem_flatMap_of_mem h hx
  | .optional body, h => texts_subset body h
  | .graph _ body, h => List.subset_append_of_subset_right _ (texts_subset body h)
  | .filter _, h => absurd h List.not_mem_nil

theorem textsAll_subset :
    (patterns : List Pattern) → triple ∈ statementsAll patterns →
      triple.texts ⊆ textsAll patterns
  | [], h => absurd h List.not_mem_nil
  | child :: rest, h => by
    rw [textsAll]
    rcases List.mem_append.mp h with h | h
    · exact List.subset_append_of_subset_left _ (texts_subset child h)
    · exact List.subset_append_of_subset_right _ (textsAll_subset rest h)

end

end Pattern

/-! ## Operations and requests -/

/-- The quad with its statement replaced; its graph name is kept. -/
def Quad.mapStatement (f : Triple → Triple) (quad : Quad) : Quad :=
  { quad with triple := f quad.triple }

/-- The checked texts of a template that may be absent. -/
def templateTexts (template : Option (List Quad)) : List PlacedText :=
  template.elim [] (·.flatMap Quad.texts)

/-- The statements of a template that may be absent. -/
def templateStatements (template : Option (List Quad)) : List Triple :=
  template.elim [] (·.map Quad.triple)

namespace Modify

/-- The checked texts of a modification: the IRIs of its graphs come first. -/
def texts (modify : Modify) : List PlacedText :=
  (modify.withGraph.toList ++ modify.usingGraphs ++ modify.usingNamed).map .iri ++
    templateTexts modify.delete ++ templateTexts modify.insert ++ modify.pattern.texts

/-- The statements of a modification: what it deletes, what it inserts, what it matches. -/
def statements (modify : Modify) : List Triple :=
  templateStatements modify.delete ++ templateStatements modify.insert ++
    modify.pattern.statements

/-- The modification with each statement replaced where it stands. -/
def mapStatements (f : Triple → Triple) (modify : Modify) : Modify :=
  { modify with
    delete := modify.delete.map (·.map (Quad.mapStatement f))
    insert := modify.insert.map (·.map (Quad.mapStatement f))
    pattern := modify.pattern.mapStatements f }

end Modify

namespace Operation

/-- The checked texts of an operation. -/
def texts : Operation → List PlacedText
  | .insertData quads | .deleteData quads | .deleteWhere quads => quads.flatMap Quad.texts
  | .modify change => change.texts

/-- The statements of an operation. -/
def statements : Operation → List Triple
  | .insertData quads | .deleteData quads | .deleteWhere quads => quads.map Quad.triple
  | .modify change => change.statements

/-- The operation with each statement replaced where it stands. -/
def mapStatements (f : Triple → Triple) : Operation → Operation
  | .insertData quads => .insertData (quads.map (Quad.mapStatement f))
  | .deleteData quads => .deleteData (quads.map (Quad.mapStatement f))
  | .deleteWhere quads => .deleteWhere (quads.map (Quad.mapStatement f))
  | .modify change => .modify (change.mapStatements f)

end Operation

namespace Request

/-- The checked texts of a request: its prologue, then its operations in order. -/
def texts (request : Request) : List PlacedText :=
  prologueTexts request.base request.prefixes ++ request.operations.flatMap Operation.texts

/-- The statements of a request in order, each as often as it occurs. -/
def statements (request : Request) : List Triple :=
  request.operations.flatMap Operation.statements

/-- The request with each statement replaced where it stands. -/
def mapStatements (f : Triple → Triple) (request : Request) : Request :=
  { request with operations := request.operations.map (Operation.mapStatements f) }

end Request

section
variable {f g : Triple → Triple}

theorem map_triple_mapStatement (quads : List Quad) :
    (quads.map (Quad.mapStatement f)).map Quad.triple = (quads.map Quad.triple).map f := by
  rw [List.map_map, List.map_map]
  rfl

theorem map_mapStatement_congr {quads : List Quad}
    (h : ∀ triple ∈ quads.map Quad.triple, f triple = g triple) :
    quads.map (Quad.mapStatement f) = quads.map (Quad.mapStatement g) :=
  List.map_congr_left fun quad hq => by
    rw [Quad.mapStatement, Quad.mapStatement, h _ (List.mem_map_of_mem hq)]

theorem quads_texts_subset {quads : List Quad} {triple : Triple}
    (h : triple ∈ quads.map Quad.triple) : triple.texts ⊆ quads.flatMap Quad.texts := by
  obtain ⟨quad, hq, rfl⟩ := List.mem_map.mp h
  exact fun _ hx => List.mem_flatMap_of_mem hq (List.mem_append_right _ hx)

theorem template_texts_subset {template : Option (List Quad)} {triple : Triple}
    (h : triple ∈ templateStatements template) : triple.texts ⊆ templateTexts template := by
  cases template with
  | none => exact absurd h List.not_mem_nil
  | some quads => exact quads_texts_subset h

theorem templateStatements_map (template : Option (List Quad)) :
    templateStatements (template.map (·.map (Quad.mapStatement f))) =
      (templateStatements template).map f := by
  cases template with
  | none => rfl
  | some quads => exact map_triple_mapStatement quads

theorem template_map_congr {template : Option (List Quad)}
    (h : ∀ triple ∈ templateStatements template, f triple = g triple) :
    template.map (·.map (Quad.mapStatement f)) = template.map (·.map (Quad.mapStatement g)) := by
  cases template with
  | none => rfl
  | some quads => exact congrArg some (map_mapStatement_congr h)

theorem Modify.statements_mapStatements (modify : Modify) :
    (modify.mapStatements f).statements = modify.statements.map f := by
  simp only [Modify.statements, Modify.mapStatements, templateStatements_map,
    Pattern.statements_mapStatements, List.map_append]

theorem Modify.mapStatements_congr {modify : Modify}
    (h : ∀ triple ∈ modify.statements, f triple = g triple) :
    modify.mapStatements f = modify.mapStatements g := by
  simp only [Modify.statements, List.mem_append] at h
  have hdelete := template_map_congr fun triple ht => h triple (.inl (.inl ht))
  have hinsert := template_map_congr fun triple ht => h triple (.inl (.inr ht))
  have hpattern := modify.pattern.mapStatements_congr fun triple ht => h triple (.inr ht)
  rw [Modify.mapStatements, Modify.mapStatements, hdelete, hinsert, hpattern]

theorem Modify.texts_subset {modify : Modify} {triple : Triple}
    (h : triple ∈ modify.statements) : triple.texts ⊆ modify.texts := by
  rw [Modify.texts]
  rcases List.mem_append.mp h with h | h
  · rcases List.mem_append.mp h with h | h
    · exact List.subset_append_of_subset_left _ (List.subset_append_of_subset_left _
        (List.subset_append_of_subset_right _ (template_texts_subset h)))
    · exact List.subset_append_of_subset_left _
        (List.subset_append_of_subset_right _ (template_texts_subset h))
  · exact List.subset_append_of_subset_right _ (modify.pattern.texts_subset h)

theorem Operation.statements_mapStatements (operation : Operation) :
    (operation.mapStatements f).statements = operation.statements.map f := by
  cases operation with
  | insertData quads | deleteData quads | deleteWhere quads => exact map_triple_mapStatement quads
  | modify change => exact change.statements_mapStatements

theorem Operation.mapStatements_congr {operation : Operation}
    (h : ∀ triple ∈ operation.statements, f triple = g triple) :
    operation.mapStatements f = operation.mapStatements g := by
  cases operation with
  | insertData quads => exact congrArg Operation.insertData (map_mapStatement_congr h)
  | deleteData quads => exact congrArg Operation.deleteData (map_mapStatement_congr h)
  | deleteWhere quads => exact congrArg Operation.deleteWhere (map_mapStatement_congr h)
  | modify change => exact congrArg Operation.modify (Modify.mapStatements_congr h)

theorem Operation.texts_subset {operation : Operation} {triple : Triple}
    (h : triple ∈ operation.statements) : triple.texts ⊆ operation.texts := by
  cases operation with
  | insertData quads | deleteData quads | deleteWhere quads => exact quads_texts_subset h
  | modify change => exact Modify.texts_subset h

/-- The texts of a statement of a request are texts of the request. -/
theorem Request.texts_subset {request : Request} {triple : Triple}
    (h : triple ∈ request.statements) : triple.texts ⊆ request.texts := by
  obtain ⟨operation, ho, ht⟩ := List.mem_flatMap.mp h
  exact fun _ hx =>
    List.mem_append_right _ (List.mem_flatMap_of_mem ho (Operation.texts_subset ht hx))

theorem Request.statements_mapStatements (request : Request) :
    (request.mapStatements f).statements = request.statements.map f := by
  rw [Request.statements, Request.mapStatements, List.flatMap_map, Request.statements,
    List.map_flatMap]
  exact congrArg (request.operations.flatMap ·) (funext Operation.statements_mapStatements)

theorem Request.mapStatements_congr {request : Request}
    (h : ∀ triple ∈ request.statements, f triple = g triple) :
    request.mapStatements f = request.mapStatements g := by
  have hoperations : request.operations.map (Operation.mapStatements f) =
      request.operations.map (Operation.mapStatements g) :=
    List.map_congr_left fun operation ho =>
      Operation.mapStatements_congr fun triple ht =>
        h triple (List.mem_flatMap.mpr ⟨operation, ho, ht⟩)
  rw [Request.mapStatements, Request.mapStatements, hoperations]

end

/-! ## The texts of a replacement, and replacing twice

A replaced tree has the texts of the tree around its statements and those of its new statements. -/

section
variable {f g : Triple → Triple} {text : PlacedText}

mutual

theorem Pattern.mem_texts_mapStatements :
    (pattern : Pattern) → text ∈ (pattern.mapStatements f).texts →
      text ∈ pattern.texts ∨ ∃ triple ∈ pattern.statements, text ∈ (f triple).texts
  | .group children, h => Pattern.mem_textsAll_mapStatementsAll children h
  | .block triples, h => by
    simp only [Pattern.mapStatements, Pattern.texts, List.flatMap_map] at h
    exact .inr (List.mem_flatMap.mp h)
  | .optional body, h => Pattern.mem_texts_mapStatements body h
  | .graph name body, h => by
    rcases List.mem_append.mp h with hname | hbody
    · exact .inl (List.mem_append_left _ hname)
    · rcases Pattern.mem_texts_mapStatements body hbody with hbody | hstatement
      · exact .inl (List.mem_append_right _ hbody)
      · exact .inr hstatement
  | .filter _, h => .inl h

theorem Pattern.mem_textsAll_mapStatementsAll :
    (patterns : List Pattern) → text ∈ Pattern.textsAll (Pattern.mapStatementsAll f patterns) →
      text ∈ Pattern.textsAll patterns ∨
        ∃ triple ∈ Pattern.statementsAll patterns, text ∈ (f triple).texts
  | [], h => absurd h List.not_mem_nil
  | child :: rest, h => by
    rcases List.mem_append.mp h with hchild | hrest
    · rcases Pattern.mem_texts_mapStatements child hchild with hchild | ⟨triple, ht, hx⟩
      · exact .inl (List.mem_append_left _ hchild)
      · exact .inr ⟨triple, List.mem_append_left _ ht, hx⟩
    · rcases Pattern.mem_textsAll_mapStatementsAll rest hrest with hrest | ⟨triple, ht, hx⟩
      · exact .inl (List.mem_append_right _ hrest)
      · exact .inr ⟨triple, List.mem_append_right _ ht, hx⟩

end

theorem mem_quads_texts_map {quads : List Quad}
    (h : text ∈ (quads.map (Quad.mapStatement f)).flatMap Quad.texts) :
    text ∈ quads.flatMap Quad.texts ∨
      ∃ triple ∈ quads.map Quad.triple, text ∈ (f triple).texts := by
  rw [List.flatMap_map] at h
  obtain ⟨quad, hq, hx⟩ := List.mem_flatMap.mp h
  rcases List.mem_append.mp hx with hname | hstatement
  · exact .inl (List.mem_flatMap_of_mem hq (List.mem_append_left _ hname))
  · exact .inr ⟨quad.triple, List.mem_map_of_mem hq, hstatement⟩

theorem mem_templateTexts_map {template : Option (List Quad)}
    (h : text ∈ templateTexts (template.map (·.map (Quad.mapStatement f)))) :
    text ∈ templateTexts template ∨
      ∃ triple ∈ templateStatements template, text ∈ (f triple).texts := by
  cases template with
  | none => exact .inl h
  | some quads => exact mem_quads_texts_map h

theorem Modify.mem_texts_mapStatements {modify : Modify}
    (h : text ∈ (modify.mapStatements f).texts) :
    text ∈ modify.texts ∨ ∃ triple ∈ modify.statements, text ∈ (f triple).texts := by
  simp only [Modify.texts, Modify.statements, Modify.mapStatements, List.mem_append] at h ⊢
  rcases h with ((hiri | hdelete) | hinsert) | hpattern
  · exact .inl (.inl (.inl (.inl hiri)))
  · rcases mem_templateTexts_map hdelete with hold | ⟨triple, ht, hx⟩
    · exact .inl (.inl (.inl (.inr hold)))
    · exact .inr ⟨triple, .inl (.inl ht), hx⟩
  · rcases mem_templateTexts_map hinsert with hold | ⟨triple, ht, hx⟩
    · exact .inl (.inl (.inr hold))
    · exact .inr ⟨triple, .inl (.inr ht), hx⟩
  · rcases modify.pattern.mem_texts_mapStatements hpattern with hold | ⟨triple, ht, hx⟩
    · exact .inl (.inr hold)
    · exact .inr ⟨triple, .inr ht, hx⟩

theorem Operation.mem_texts_mapStatements {operation : Operation}
    (h : text ∈ (operation.mapStatements f).texts) :
    text ∈ operation.texts ∨ ∃ triple ∈ operation.statements, text ∈ (f triple).texts := by
  cases operation with
  | insertData quads | deleteData quads | deleteWhere quads => exact mem_quads_texts_map h
  | modify change => exact Modify.mem_texts_mapStatements h

theorem Request.mem_texts_mapStatements {request : Request}
    (h : text ∈ (request.mapStatements f).texts) :
    text ∈ request.texts ∨ ∃ triple ∈ request.statements, text ∈ (f triple).texts := by
  rcases List.mem_append.mp h with hprologue | hoperations
  · exact .inl (List.mem_append_left _ hprologue)
  · rw [Request.mapStatements, List.flatMap_map] at hoperations
    obtain ⟨operation, ho, hx⟩ := List.mem_flatMap.mp hoperations
    rcases Operation.mem_texts_mapStatements hx with hold | ⟨triple, ht, hx⟩
    · exact .inl (List.mem_append_right _ (List.mem_flatMap_of_mem ho hold))
    · exact .inr ⟨triple, List.mem_flatMap.mpr ⟨operation, ho, ht⟩, hx⟩

mutual

theorem Pattern.mapStatements_mapStatements :
    (pattern : Pattern) →
      (pattern.mapStatements f).mapStatements g = pattern.mapStatements (g ∘ f)
  | .group children => congrArg Pattern.group (Pattern.mapStatementsAll_mapStatementsAll children)
  | .block _ => congrArg Pattern.block (List.map_map ..)
  | .optional body => congrArg Pattern.optional (Pattern.mapStatements_mapStatements body)
  | .graph name body => congrArg (Pattern.graph name) (Pattern.mapStatements_mapStatements body)
  | .filter _ => rfl

theorem Pattern.mapStatementsAll_mapStatementsAll :
    (patterns : List Pattern) →
      Pattern.mapStatementsAll g (Pattern.mapStatementsAll f patterns) =
        Pattern.mapStatementsAll (g ∘ f) patterns
  | [] => rfl
  | child :: rest => by
    simp only [Pattern.mapStatementsAll, Pattern.mapStatements_mapStatements child,
      Pattern.mapStatementsAll_mapStatementsAll rest]

end

theorem map_mapStatement_map (quads : List Quad) :
    (quads.map (Quad.mapStatement f)).map (Quad.mapStatement g) =
      quads.map (Quad.mapStatement (g ∘ f)) :=
  List.map_map ..

theorem Operation.mapStatements_mapStatements (operation : Operation) :
    (operation.mapStatements f).mapStatements g = operation.mapStatements (g ∘ f) := by
  cases operation with
  | insertData quads | deleteData quads | deleteWhere quads =>
    simp only [Operation.mapStatements, map_mapStatement_map]
  | modify change =>
    have hquads : (List.map (Quad.mapStatement g)) ∘ (List.map (Quad.mapStatement f)) =
        List.map (Quad.mapStatement (g ∘ f)) := funext map_mapStatement_map
    simp only [Operation.mapStatements, Modify.mapStatements, Option.map_map, hquads,
      Pattern.mapStatements_mapStatements]

theorem Request.mapStatements_mapStatements (request : Request) :
    (request.mapStatements f).mapStatements g = request.mapStatements (g ∘ f) := by
  have hoperations : Operation.mapStatements g ∘ Operation.mapStatements f =
      Operation.mapStatements (g ∘ f) := funext Operation.mapStatements_mapStatements
  simp only [Request.mapStatements, List.map_map, hoperations]

end

end RdfGateway
