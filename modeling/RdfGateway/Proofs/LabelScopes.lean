import RdfGateway.Proofs.RequestParts
import RdfGateway.Proofs.UpdateElements

/-!
# The scopes of blank node labels

A label stands for one blank node in the data of an insertion, and for one in a basic graph pattern,
that is in the statements of a pattern between two braces. An update may have a label in the data of
one insertion only, and in one basic graph pattern only.

* `Request.dataScopes`, `Request.patternScopes`: the labels of each scope of either kind.
* `Request.dataScopes_mapStatements`, `Request.patternScopes_mapStatements`: replaced statements with
  the same labels leave them as they are.

Proof. The scopes of a pattern are those of its elements, so both are gone through together, each
pattern in front of whatever elements follow it.
-/

namespace RdfGateway

/-! ## Labels -/

/-- The label of the term, when it is a blank node. -/
def Term.labels : Term → List String
  | .blank label => [label]
  | _ => []

def Triple.labels (triple : Triple) : List String :=
  triple.subject.labels ++ (triple.predicate.labels ++ triple.object.labels)

def GraphName.labels : GraphName → List String
  | .default => []
  | .named name => name.labels

def Quad.labels (quad : Quad) : List String := quad.graph.labels ++ quad.triple.labels

theorem Term.labels_shown (term : Term) : term.shown.labels = term.labels := by
  cases term <;> rfl

theorem Triple.labels_shown (triple : Triple) : triple.shown.labels = triple.labels := by
  simp only [labels, shown, Term.labels_shown]

/-! ## Scopes -/

namespace Element

mutual

/-- The labels of each basic graph pattern from the element on, in front of those of what follows it.
Braces end one and begin the next, a filter does neither. -/
def scopes : Element → List (List String) → List (List String)
  | .statement triple, later => later.modifyHead (triple.labels ++ ·)
  | .group elements, later => [] :: (scopesAll elements ++ later)
  | .optional elements, later => [] :: (scopesAll elements ++ later)
  | .graph name elements, later => name.labels :: (scopesAll elements ++ later)
  | .filter _, later => later

def scopesAll : List Element → List (List String)
  | [] => [[]]
  | element :: rest => element.scopes (scopesAll rest)

end

end Element

namespace Operation

/-- The labels of the data that the operation inserts. -/
def dataScopes : Operation → List (List String)
  | .insertData quads => [quads.flatMap Quad.labels]
  | .deleteData _ | .deleteWhere _ | .modify _ => []

/-- The labels of each basic graph pattern that the operation looks for. -/
def patternScopes : Operation → List (List String)
  | .modify change => Element.scopesAll change.pattern.inner
  | .insertData _ | .deleteData _ | .deleteWhere _ => []

end Operation

namespace Request

def dataScopes (request : Request) : List (List String) :=
  request.operations.flatMap Operation.dataScopes

def patternScopes (request : Request) : List (List String) :=
  request.operations.flatMap Operation.patternScopes

end Request

/-! ## Replaced statements -/

namespace Pattern

open Element

/-- The elements of two patterns have the same scopes in front of elements that have the same. -/
def SameScopes (pattern other : Pattern) : Prop :=
  ∀ {rest others : List Element}, scopesAll rest = scopesAll others →
    scopesAll (pattern.elements ++ rest) = scopesAll (other.elements ++ others)

theorem SameScopes.elements {pattern other : Pattern} (h : SameScopes pattern other) :
    scopesAll pattern.elements = scopesAll other.elements := by
  have hscopes := h (Eq.refl (scopesAll []))
  rwa [List.append_nil, List.append_nil] at hscopes

theorem isGroup_mapStatements {f : Triple → Triple} (pattern : Pattern) :
    (pattern.mapStatements f).isGroup = pattern.isGroup := by
  cases pattern <;> rfl

section
variable {f : Triple → Triple}

/-- In the braces of a pattern that is no group stand its elements. -/
theorem SameScopes.and_inner {pattern : Pattern} (hgroup : pattern.isGroup = false)
    (h : SameScopes (pattern.mapStatements f) pattern) :
    SameScopes (pattern.mapStatements f) pattern ∧
      scopesAll (pattern.mapStatements f).inner = scopesAll pattern.inner := by
  refine ⟨h, ?_⟩
  rw [inner_of_not_isGroup hgroup,
    inner_of_not_isGroup (pattern.isGroup_mapStatements.trans hgroup), h.elements]

theorem sameScopes_block (hf : ∀ triple, (f triple).labels = triple.labels)
    (triples : List Triple) : SameScopes (.block (triples.map f)) (.block triples) := by
  intro rest others h
  induction triples with
  | nil => exact h
  | cons triple triples ih =>
    simp only [Pattern.elements, List.map_cons, List.cons_append, scopesAll, scopes,
      Triple.labels_shown, hf] at ih ⊢
    rw [ih]

mutual

theorem sameScopes_mapStatements (hf : ∀ triple, (f triple).labels = triple.labels) :
    (pattern : Pattern) →
    SameScopes (pattern.mapStatements f) pattern ∧
      scopesAll (pattern.mapStatements f).inner = scopesAll pattern.inner
  | .group children => by
    have hchildren := scopesAll_elementsAll hf children
    refine ⟨fun {rest others} h => ?_, by rw [mapStatements, inner_group, inner_group, hchildren]⟩
    simp only [mapStatements, elements, List.cons_append, List.nil_append, scopesAll, scopes, h,
      hchildren]
  | .block triples => SameScopes.and_inner rfl (sameScopes_block hf triples)
  | .optional body => by
    obtain ⟨-, hbody⟩ := sameScopes_mapStatements hf body
    refine SameScopes.and_inner rfl fun {rest others} h => ?_
    simp only [mapStatements, elements, List.cons_append, List.nil_append, scopesAll, scopes, h]
    rw [← inner, ← inner, hbody]
  | .graph name body => by
    obtain ⟨-, hbody⟩ := sameScopes_mapStatements hf body
    refine SameScopes.and_inner rfl fun {rest others} h => ?_
    simp only [mapStatements, elements, List.cons_append, List.nil_append, scopesAll, scopes, h]
    rw [← inner, ← inner, hbody]
  | .filter expression => by
    refine SameScopes.and_inner rfl fun {rest others} h => ?_
    simp only [mapStatements, elements, List.cons_append, List.nil_append, scopesAll, scopes, h]

theorem scopesAll_elementsAll (hf : ∀ triple, (f triple).labels = triple.labels) :
    (patterns : List Pattern) →
    scopesAll (elementsAll (mapStatementsAll f patterns)) = scopesAll (elementsAll patterns)
  | [] => rfl
  | child :: patterns =>
    (sameScopes_mapStatements hf child).1 (scopesAll_elementsAll hf patterns)

end

end

end Pattern

section
variable {f : Triple → Triple} (hf : ∀ triple, (f triple).labels = triple.labels)
include hf

theorem Operation.dataScopes_mapStatements (operation : Operation) :
    (operation.mapStatements f).dataScopes = operation.dataScopes := by
  cases operation with
  | insertData quads =>
    have hquads : (quads.map (Quad.mapStatement f)).flatMap Quad.labels =
        quads.flatMap Quad.labels := by
      rw [List.flatMap_map]
      exact congrArg (quads.flatMap ·) (funext fun quad =>
        congrArg (quad.graph.labels ++ ·) (hf quad.triple))
    rw [mapStatements, dataScopes, dataScopes, hquads]
  | deleteData | deleteWhere | modify => rfl

theorem Operation.patternScopes_mapStatements (operation : Operation) :
    (operation.mapStatements f).patternScopes = operation.patternScopes := by
  cases operation with
  | modify change => exact (change.pattern.sameScopes_mapStatements hf).2
  | insertData | deleteData | deleteWhere => rfl

namespace Request

/-- **Replaced statements with the same labels have the same scopes.** -/
theorem dataScopes_mapStatements (request : Request) :
    (request.mapStatements f).dataScopes = request.dataScopes := by
  rw [dataScopes, mapStatements, List.flatMap_map]
  exact congrArg (request.operations.flatMap ·)
    (funext fun operation => operation.dataScopes_mapStatements hf)

theorem patternScopes_mapStatements (request : Request) :
    (request.mapStatements f).patternScopes = request.patternScopes := by
  rw [patternScopes, mapStatements, List.flatMap_map]
  exact congrArg (request.operations.flatMap ·)
    (funext fun operation => operation.patternScopes_mapStatements hf)

end Request

end

end RdfGateway
