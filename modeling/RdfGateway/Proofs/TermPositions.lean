import RdfGateway.Proofs.FilterContainment
import RdfGateway.Proofs.LabelScopes
import RdfGateway.Proofs.LiteralTerminals
import RdfGateway.Proofs.UpdateOutcome
import RdfGateway.Rdf.Statement

/-!
# Where terms stand

Documents and updates have rules for where a term of which kind may stand, and for texts that the
checks let through although a reader of the document or the update does not (`GraphRule`,
`UpdateRule`). A gateway looks at the text of each term and never at its place, so it enforces none
of these rules, and it breaks none: the outcome keeps a rule exactly when what was sent and not
dropped keeps it (`keeps_of_internalizeGraph`, `keeps_of_internalizeRequest`).

Proof. A rule never reads the text of an IRI, and the mapping inwards makes an IRI of an IRI and
leaves every other term alone (`apply_inwardTerm`). The rest of an update stays as it is, the names
of its graphs, its other texts and the operations around its statements.
-/

namespace RdfGateway

/-! ## The rules -/

def Term.isLiteral : Term → Bool
  | .literal _ => true
  | _ => false

/-- The term is an IRI or a variable. -/
def Term.isName (term : Term) : Bool := term.isIri || term.isVariable

def Term.isBlank : Term → Bool
  | .blank _ => true
  | _ => false

/-- The term is no literal with both a datatype and a language tag. -/
def Term.isSingle : Term → Bool
  | .literal content => content.datatype.isNone || content.language.isNone
  | _ => true

/-- No literal of the statement has both a datatype and a language tag. -/
def Triple.isSingle (triple : Triple) : Bool :=
  triple.subject.isSingle && triple.predicate.isSingle && triple.object.isSingle

def Triple.terms (triple : Triple) : List Term := [triple.subject, triple.predicate, triple.object]

/-- The label is a prefix of SPARQL, when the text is the label of a prefix. -/
def PlacedText.hasPlainLabel : PlacedText → Bool
  | .prefixLabel label => Name.isPlainLabel label.toList
  | _ => true

/-- The filter stays inside its parentheses, when the text is a filter. -/
def PlacedText.staysInside : PlacedText → Bool
  | .filter expression => Filter.isInside expression
  | _ => true

/-- The rules of a document: a subject is an IRI or a blank node, a predicate is an IRI, an object
is no variable, and a literal has a datatype or a language tag, not both. Language tags begin with
letters. -/
inductive GraphRule where
  | subject
  | predicate
  | object
  | literal
  | languageTag
  deriving DecidableEq

def Triple.keeps (triple : Triple) : GraphRule → Bool
  | .subject => triple.subject.isResource
  | .predicate => triple.predicate.isIri
  | .object => !triple.object.isVariable
  | .literal => triple.isSingle
  | .languageTag => triple.texts.all PlacedText.hasPlainTag

def Graph.keeps (graph : Graph) (rule : GraphRule) : Bool :=
  graph.triples.all fun triple => triple.keeps rule

/-- The name of the graph, when it has one. -/
def GraphName.names : GraphName → List Term
  | .default => []
  | .named name => [name]

def Quad.terms (quad : Quad) : List Term := quad.graph.names ++ quad.triple.terms

mutual

/-- The graph names of a pattern. -/
def Pattern.graphNames : Pattern → List Term
  | .group children => Pattern.graphNamesAll children
  | .block _ => []
  | .optional body => Pattern.graphNames body
  | .graph name body => name :: Pattern.graphNames body
  | .filter _ => []

def Pattern.graphNamesAll : List Pattern → List Term
  | [] => []
  | child :: rest => Pattern.graphNames child ++ Pattern.graphNamesAll rest

end

namespace Operation

def graphNames : Operation → List Term
  | .insertData quads | .deleteData quads | .deleteWhere quads => quads.flatMap (·.graph.names)
  | .modify change =>
    (change.delete.getD [] ++ change.insert.getD []).flatMap (·.graph.names) ++
      change.pattern.graphNames

/-- What the operation inserts or deletes as data has no variables. -/
def isGround : Operation → Bool
  | .insertData quads | .deleteData quads => quads.all fun quad => quad.terms.all (!·.isVariable)
  | .deleteWhere _ | .modify _ => true

/-- The operation deletes or inserts something when it is a modification. -/
def hasTemplate : Operation → Bool
  | .modify change => change.delete.isSome || change.insert.isSome
  | .insertData _ | .deleteData _ | .deleteWhere _ => true

/-- The quads that the operation deletes, or the template of these. -/
def deleted : Operation → List Quad
  | .insertData _ => []
  | .deleteData quads | .deleteWhere quads => quads
  | .modify change => change.delete.getD []

end Operation

/-- No label stands in two of the scopes. -/
def areApart (scopes : List (List String)) : Bool :=
  decide (scopes.Pairwise fun scope other => ∀ label ∈ scope, label ∉ other)

/-- The rules of an update. A subject is no literal, a predicate and a graph name are IRIs or
variables, a literal has a datatype or a language tag, not both, the data that is inserted or
deleted has no variables, and a modification has a template. What is deleted has no blank nodes, and
no label stands in two scopes. Language tags begin with letters, prefixes are those of SPARQL, and
filters stay inside their parentheses. -/
inductive UpdateRule where
  | subject
  | predicate
  | literal
  | graphName
  | data
  | template
  | deletion
  | labels
  | languageTag
  | prefixLabel
  | filter
  deriving DecidableEq

def Request.keeps (request : Request) : UpdateRule → Bool
  | .subject => request.statements.all fun triple => !triple.subject.isLiteral
  | .predicate => request.statements.all fun triple => triple.predicate.isName
  | .literal =>
    request.statements.all Triple.isSingle &&
      (request.operations.flatMap Operation.graphNames).all Term.isSingle
  | .graphName => (request.operations.flatMap Operation.graphNames).all Term.isName
  | .data => request.operations.all Operation.isGround
  | .template => request.operations.all Operation.hasTemplate
  | .deletion =>
    request.operations.all fun operation =>
      operation.deleted.all fun quad => quad.terms.all (!·.isBlank)
  | .labels => areApart request.dataScopes && areApart request.patternScopes
  | .languageTag => request.texts.all PlacedText.hasPlainTag
  | .prefixLabel => request.texts.all PlacedText.hasPlainLabel
  | .filter => request.texts.all PlacedText.staysInside

/-! ## What stays in place -/

section
variable {f : Triple → Triple} {p : PlacedText → Bool}

mutual

theorem Pattern.graphNames_mapStatements :
    (pattern : Pattern) → (pattern.mapStatements f).graphNames = pattern.graphNames
  | .group children => Pattern.graphNamesAll_mapStatementsAll children
  | .block _ => rfl
  | .optional body => Pattern.graphNames_mapStatements body
  | .graph name body => congrArg (name :: ·) (Pattern.graphNames_mapStatements body)
  | .filter _ => rfl

theorem Pattern.graphNamesAll_mapStatementsAll :
    (patterns : List Pattern) →
      Pattern.graphNamesAll (Pattern.mapStatementsAll f patterns) = Pattern.graphNamesAll patterns
  | [] => rfl
  | child :: rest => by
    rw [Pattern.mapStatementsAll, Pattern.graphNamesAll, Pattern.graphNamesAll,
      Pattern.graphNames_mapStatements child, Pattern.graphNamesAll_mapStatementsAll rest]

end

mutual

theorem Pattern.all_texts_mapStatements
    (hf : ∀ triple, (f triple).texts.all p = triple.texts.all p) :
    (pattern : Pattern) → (pattern.mapStatements f).texts.all p = pattern.texts.all p
  | .group children => Pattern.all_textsAll_mapStatementsAll hf children
  | .block triples => by
    simp only [mapStatements, texts, List.all_flatMap, List.all_map, Function.comp_def, hf]
  | .optional body => Pattern.all_texts_mapStatements hf body
  | .graph name body => by
    rw [mapStatements, texts, texts, List.all_append, List.all_append,
      Pattern.all_texts_mapStatements hf body]
  | .filter _ => rfl

theorem Pattern.all_textsAll_mapStatementsAll
    (hf : ∀ triple, (f triple).texts.all p = triple.texts.all p) :
    (patterns : List Pattern) →
      (Pattern.textsAll (Pattern.mapStatementsAll f patterns)).all p =
        (Pattern.textsAll patterns).all p
  | [] => rfl
  | child :: rest => by
    rw [Pattern.mapStatementsAll, Pattern.textsAll, Pattern.textsAll, List.all_append,
      List.all_append, Pattern.all_texts_mapStatements hf child,
      Pattern.all_textsAll_mapStatementsAll hf rest]

end

theorem all_texts_mapStatement
    (hf : ∀ triple, (f triple).texts.all p = triple.texts.all p) (quads : List Quad) :
    ((quads.map (Quad.mapStatement f)).flatMap Quad.texts).all p =
      (quads.flatMap Quad.texts).all p := by
  simp only [List.flatMap_map, List.all_flatMap, Quad.texts, Quad.mapStatement, List.all_append, hf]

theorem all_templateTexts_map
    (hf : ∀ triple, (f triple).texts.all p = triple.texts.all p) (template : Option (List Quad)) :
    (templateTexts (template.map (·.map (Quad.mapStatement f)))).all p =
      (templateTexts template).all p := by
  cases template with
  | none => rfl
  | some quads => exact all_texts_mapStatement hf quads

theorem flatMap_names_mapStatement (quads : List Quad) :
    (quads.map (Quad.mapStatement f)).flatMap (·.graph.names) = quads.flatMap (·.graph.names) :=
  List.flatMap_map ..

namespace Operation

theorem graphNames_mapStatements (operation : Operation) :
    (operation.mapStatements f).graphNames = operation.graphNames := by
  cases operation with
  | insertData quads | deleteData quads | deleteWhere quads =>
    exact flatMap_names_mapStatement quads
  | modify change =>
    have htemplate (template : Option (List Quad)) :
        (template.map (·.map (Quad.mapStatement f))).getD [] =
          (template.getD []).map (Quad.mapStatement f) := by
      cases template <;> rfl
    simp only [mapStatements, Modify.mapStatements, graphNames, htemplate, ← List.map_append,
      flatMap_names_mapStatement, Pattern.graphNames_mapStatements]

theorem all_texts_mapStatements
    (hf : ∀ triple, (f triple).texts.all p = triple.texts.all p) (operation : Operation) :
    (operation.mapStatements f).texts.all p = operation.texts.all p := by
  cases operation with
  | insertData quads | deleteData quads | deleteWhere quads => exact all_texts_mapStatement hf quads
  | modify change =>
    simp only [mapStatements, texts, Modify.texts, Modify.mapStatements, List.all_append,
      all_templateTexts_map hf, Pattern.all_texts_mapStatements hf]

theorem deleted_mapStatements (operation : Operation) :
    (operation.mapStatements f).deleted = operation.deleted.map (Quad.mapStatement f) := by
  cases operation with
  | insertData | deleteData | deleteWhere => rfl
  | modify change =>
    rw [mapStatements, deleted, deleted, Modify.mapStatements]
    cases change.delete <;> rfl

theorem hasTemplate_mapStatements (operation : Operation) :
    (operation.mapStatements f).hasTemplate = operation.hasTemplate := by
  cases operation with
  | insertData | deleteData | deleteWhere => rfl
  | modify change => simp [mapStatements, Modify.mapStatements, hasTemplate]

theorem isGround_mapStatements
    (hf : ∀ triple, (f triple).terms.all (!·.isVariable) = triple.terms.all (!·.isVariable))
    (operation : Operation) :
    (operation.mapStatements f).isGround = operation.isGround := by
  cases operation with
  | insertData quads | deleteData quads =>
    simp only [mapStatements, isGround, List.all_map]
    congr 1
    funext quad
    simp only [Function.comp_apply, Quad.terms, Quad.mapStatement, List.all_append, hf]
  | deleteWhere | modify => rfl

end Operation

theorem Request.all_texts_mapStatements
    (hf : ∀ triple, (f triple).texts.all p = triple.texts.all p) (request : Request) :
    (request.mapStatements f).texts.all p = request.texts.all p := by
  simp only [texts, mapStatements, List.all_append, List.flatMap_map, List.all_flatMap,
    Operation.all_texts_mapStatements hf]

end

namespace Domains

variable {domains : Domains}

/-- What does not read the text of an IRI is the same of a term and of its image. -/
theorem apply_inwardTerm {α : Type} (p : Term → α)
    (hp : ∀ iri other, p (.iri iri) = p (.iri other)) (term : Term) :
    p (domains.inwardTerm term) = p term := by
  cases term with
  | iri text => exact hp _ _
  | blank | literal | «variable» => rfl

theorem isVariable_inwardTerm (term : Term) :
    (domains.inwardTerm term).isVariable = term.isVariable :=
  apply_inwardTerm Term.isVariable (fun _ _ => rfl) term

theorem isSingle_inwardTriple (triple : Triple) :
    (domains.inwardTriple triple).isSingle = triple.isSingle := by
  have hsingle (term : Term) : (domains.inwardTerm term).isSingle = term.isSingle :=
    apply_inwardTerm Term.isSingle (fun _ _ => rfl) term
  simp only [Triple.isSingle, inwardTriple, hsingle]

theorem all_terms_inwardTriple (p : Term → Bool) (hp : ∀ iri other, p (.iri iri) = p (.iri other))
    (triple : Triple) : (domains.inwardTriple triple).terms.all p = triple.terms.all p := by
  have hterm (term : Term) : p (domains.inwardTerm term) = p term := apply_inwardTerm p hp term
  simp only [Triple.terms, inwardTriple, List.all_cons, List.all_nil, hterm]

theorem labels_inwardTriple (triple : Triple) :
    (domains.inwardTriple triple).labels = triple.labels := by
  have hlabels (term : Term) : (domains.inwardTerm term).labels = term.labels :=
    apply_inwardTerm Term.labels (fun _ _ => rfl) term
  simp only [Triple.labels, inwardTriple, hlabels]

/-- What holds of every IRI holds of the texts of a statement and of its image alike. -/
theorem all_texts_inwardTriple (p : PlacedText → Bool) (hp : ∀ iri, p (.iri iri) = true)
    (triple : Triple) : (domains.inwardTriple triple).texts.all p = triple.texts.all p := by
  have hterm (term : Term) : (domains.inwardTerm term).texts.all p = term.texts.all p :=
    apply_inwardTerm (fun term => term.texts.all p) (fun _ _ => by simp [Term.texts, hp]) term
  simp only [Triple.texts, inwardTriple, List.all_append, hterm]

theorem keeps_inwardTriple (triple : Triple) (rule : GraphRule) :
    (domains.inwardTriple triple).keeps rule = triple.keeps rule := by
  cases rule with
  | subject => exact apply_inwardTerm Term.isResource (fun _ _ => rfl) triple.subject
  | predicate => rfl
  | object => exact congrArg (!·) (isVariable_inwardTerm triple.object)
  | literal => exact isSingle_inwardTriple triple
  | languageTag => exact all_texts_inwardTriple _ (fun _ => rfl) triple

end Domains

theorem Request.keeps_mapStatements {domains : Domains} (request : Request) (rule : UpdateRule) :
    (request.mapStatements domains.inwardTriple).keeps rule = request.keeps rule := by
  have hsubject (triple : Triple) :
      (domains.inwardTriple triple).subject.isLiteral = triple.subject.isLiteral :=
    Domains.apply_inwardTerm Term.isLiteral (fun _ _ => rfl) triple.subject
  have hpredicate (triple : Triple) :
      (domains.inwardTriple triple).predicate = triple.predicate := rfl
  have hoperations : (request.mapStatements domains.inwardTriple).operations =
      request.operations.map (Operation.mapStatements domains.inwardTriple) := rfl
  have hnames : (request.mapStatements domains.inwardTriple).operations.flatMap
      Operation.graphNames = request.operations.flatMap Operation.graphNames := by
    rw [hoperations, List.flatMap_map]
    exact congrArg (request.operations.flatMap ·) (funext Operation.graphNames_mapStatements)
  cases rule with
  | subject =>
    simp only [keeps, statements_mapStatements, List.all_map, Function.comp_def, hsubject]
  | predicate =>
    simp only [keeps, statements_mapStatements, List.all_map, Function.comp_def, hpredicate]
  | literal =>
    simp only [keeps, statements_mapStatements, List.all_map, Function.comp_def,
      Domains.isSingle_inwardTriple, hnames]
  | graphName => simp only [keeps, hnames]
  | data =>
    have hground (operation : Operation) :
        (operation.mapStatements domains.inwardTriple).isGround = operation.isGround :=
      operation.isGround_mapStatements (Domains.all_terms_inwardTriple _ fun _ _ => rfl)
    simp only [keeps, hoperations, List.all_map, Function.comp_def, hground]
  | template =>
    simp only [keeps, hoperations, List.all_map, Function.comp_def,
      Operation.hasTemplate_mapStatements]
  | deletion =>
    have hblanks (triple : Triple) : (domains.inwardTriple triple).terms.all (!·.isBlank) =
        triple.terms.all (!·.isBlank) := Domains.all_terms_inwardTriple _ (fun _ _ => rfl) triple
    simp only [keeps, hoperations, List.all_map, Function.comp_def,
      Operation.deleted_mapStatements, Quad.terms, Quad.mapStatement, List.all_append, hblanks]
  | labels =>
    rw [keeps, keeps, request.dataScopes_mapStatements Domains.labels_inwardTriple,
      request.patternScopes_mapStatements Domains.labels_inwardTriple]
  | languageTag | prefixLabel | filter =>
    exact request.all_texts_mapStatements (Domains.all_texts_inwardTriple _ fun _ => rfl)

/-! ## The outcome -/

namespace Gateway

variable {gateway : Gateway} {graph image : Graph} {request result : Request}

theorem keeps_of_internalizeGraph (h : gateway.internalizeGraph graph = .ok image)
    (rule : GraphRule) :
    image.keeps rule = (gateway.considered graph).all fun triple => triple.keeps rule := by
  obtain ⟨-, -, rfl⟩ := internalizeGraph_eq_ok_iff.mp h
  rw [Bool.eq_iff_iff, Graph.keeps, List.all_eq_true, List.all_eq_true]
  simp only [← Graph.mem_def, Graph.mem_ofList, List.forall_mem_map, Domains.keeps_inwardTriple]

theorem keeps_of_internalizeRequest (h : gateway.internalizeRequest request = .ok result)
    (rule : UpdateRule) : result.keeps rule = request.keeps rule := by
  obtain ⟨-, -, rfl⟩ := internalizeRequest_eq_ok_iff.mp h
  exact request.keeps_mapStatements rule

end Gateway

end RdfGateway
