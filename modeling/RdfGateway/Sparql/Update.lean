import RdfGateway.Rdf.Term

/-!
# Update requests

The operations of a SPARQL Update request as a tree. Statements stand in the data of an operation,
in the templates of a modification and in the blocks of its pattern; everything else is structure.
-/

namespace RdfGateway

/-- A declared prefix: the label without its colon, and the namespace it stands for. -/
structure PrefixDecl where
  label : String
  iri : String
  deriving DecidableEq, Inhabited

/-- A node of the pattern that a modification matches. -/
inductive Pattern where
  | group (children : List Pattern)
  | block (triples : List Triple)
  | optional (body : Pattern)
  | graph (name : Term) (body : Pattern)
  | filter (expression : String)
  deriving Inhabited

mutual

/-- Equality of patterns is decided node by node. -/
def Pattern.decideEq : (p q : Pattern) → Decidable (p = q)
  | .group ps, .group qs =>
    match Pattern.decideEqs ps qs with
    | isTrue h => isTrue (congrArg _ h)
    | isFalse h => isFalse fun e => h (Pattern.group.inj e)
  | .block ts, .block us =>
    if h : ts = us then isTrue (congrArg _ h) else isFalse fun e => h (Pattern.block.inj e)
  | .optional p, .optional q =>
    match Pattern.decideEq p q with
    | isTrue h => isTrue (congrArg _ h)
    | isFalse h => isFalse fun e => h (Pattern.optional.inj e)
  | .graph n p, .graph m q =>
    match Pattern.decideEq p q with
    | isTrue h =>
      if hn : n = m then isTrue (by rw [h, hn]) else isFalse fun e => hn (Pattern.graph.inj e).1
    | isFalse h => isFalse fun e => h (Pattern.graph.inj e).2
  | .filter a, .filter b =>
    if h : a = b then isTrue (congrArg _ h) else isFalse fun e => h (Pattern.filter.inj e)
  | .group _, .block _ | .group _, .optional _ | .group _, .graph _ _ | .group _, .filter _
  | .block _, .group _ | .block _, .optional _ | .block _, .graph _ _ | .block _, .filter _
  | .optional _, .group _ | .optional _, .block _ | .optional _, .graph _ _
  | .optional _, .filter _ | .graph _ _, .group _ | .graph _ _, .block _
  | .graph _ _, .optional _ | .graph _ _, .filter _ | .filter _, .group _ | .filter _, .block _
  | .filter _, .optional _ | .filter _, .graph _ _ => isFalse nofun

/-- Equality of lists of patterns is decided pattern by pattern. -/
def Pattern.decideEqs : (ps qs : List Pattern) → Decidable (ps = qs)
  | [], [] => isTrue rfl
  | [], _ :: _ | _ :: _, [] => isFalse nofun
  | p :: ps, q :: qs =>
    match Pattern.decideEq p q, Pattern.decideEqs ps qs with
    | isTrue h, isTrue hs => isTrue (by rw [h, hs])
    | isFalse h, _ => isFalse fun e => h (List.cons.inj e).1
    | _, isFalse hs => isFalse fun e => hs (List.cons.inj e).2

end

instance : DecidableEq Pattern := Pattern.decideEq

/-- A modification: what to delete and insert wherever the pattern matches. -/
structure Modify where
  withGraph : Option String
  usingGraphs : List String
  usingNamed : List String
  delete : Option (List Quad)
  insert : Option (List Quad)
  pattern : Pattern
  deriving DecidableEq, Inhabited

/-- An operation of an update. -/
inductive Operation where
  | insertData (quads : List Quad)
  | deleteData (quads : List Quad)
  | deleteWhere (quads : List Quad)
  | modify (modify : Modify)
  deriving DecidableEq, Inhabited

/-- The words that begin an operation. -/
def Operation.keyword : Operation → String
  | .insertData _ => "INSERT DATA"
  | .deleteData _ => "DELETE DATA"
  | .deleteWhere _ => "DELETE WHERE"
  | .modify _ => "MODIFY"

/-- An update request: its prologue and its operations in order. -/
structure Request where
  base : Option String
  prefixes : List PrefixDecl
  operations : List Operation
  deriving DecidableEq, Inhabited

end RdfGateway
