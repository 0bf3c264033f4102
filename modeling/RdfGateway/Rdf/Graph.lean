import RdfGateway.Rdf.StatementSet

/-!
# Graphs

A graph is a set of statements that remembers the order in which they came. It keeps them twice: in
a list without repetition, for the order, and in a set, for looking one up. List and set have the
same members. Order shows when a graph is written; two graphs hold the same statements whatever
their order.

* `mem_insert`, `insert_snd`: what an insertion adds and what it reports.
* `mem_ofList`, `triples_ofList_of_nodup`: a graph built from a list keeps first occurrences.
-/

namespace RdfGateway

/-- Statements without repetition, in the order of their first insertion. -/
structure Graph where
  triples : List Triple
  /-- The same statements as a set, in which they are looked up. -/
  index : StatementSet := .ofList triples
  nodup : triples.Nodup
  mem_index : ∀ triple, triple ∈ index ↔ triple ∈ triples := by simp

namespace Graph

/-- The graph without statements. -/
def empty : Graph := { triples := [], index := ∅, nodup := .nil }

instance : EmptyCollection Graph := ⟨empty⟩

instance : Inhabited Graph := ⟨empty⟩

instance : Membership Triple Graph := ⟨fun graph triple => triple ∈ graph.triples⟩

theorem mem_def {triple : Triple} {graph : Graph} : triple ∈ graph ↔ triple ∈ graph.triples :=
  Iff.rfl

/-- The statement is in the graph, as the index has it. -/
def contains (graph : Graph) (triple : Triple) : Bool := graph.index.contains triple

theorem contains_iff {graph : Graph} {triple : Triple} :
    graph.contains triple = true ↔ triple ∈ graph := by
  rw [contains, ← Std.ExtTreeSet.mem_iff_contains, graph.mem_index, mem_def]

instance (triple : Triple) (graph : Graph) : Decidable (triple ∈ graph) :=
  decidable_of_iff _ contains_iff

/-- The list of the statements determines the graph. -/
@[ext] theorem ext {g h : Graph} (eq : g.triples = h.triples) : g = h := by
  obtain ⟨triples, index, nodup, same⟩ := g
  obtain ⟨others, otherIndex, otherNodup, otherSame⟩ := h
  obtain rfl : triples = others := eq
  obtain rfl : index = otherIndex :=
    Std.ExtTreeSet.ext_mem fun triple => (same triple).trans (otherSame triple).symm
  rfl

/-- The number of statements. -/
def size (graph : Graph) : Nat := graph.triples.length

theorem nodup_concat {graph : Graph} {triple : Triple} (h : ¬ graph.contains triple = true) :
    (graph.triples ++ [triple]).Nodup := by
  rw [contains_iff, mem_def] at h
  rw [List.nodup_append]
  refine ⟨graph.nodup, by simp, fun a ha b hb => ?_⟩
  rw [List.mem_singleton] at hb
  exact fun e => h (hb ▸ e ▸ ha)

theorem mem_insert_index (graph : Graph) (triple other : Triple) :
    other ∈ graph.index.insert triple ↔ other ∈ graph.triples ++ [triple] := by
  rw [Std.ExtTreeSet.mem_insert, Std.LawfulEqOrd.compare_eq_iff_eq, graph.mem_index,
    List.mem_append, List.mem_singleton, or_comm, eq_comm]

/-- The graph with the statement added at its end, and whether it was new. -/
def insert (graph : Graph) (triple : Triple) : Graph × Bool :=
  if h : graph.contains triple then
    (graph, false)
  else
    (⟨graph.triples ++ [triple], graph.index.insert triple, nodup_concat h,
      mem_insert_index graph triple⟩, true)

/-- The graph with several statements added, one after the other. -/
def extend (graph : Graph) (triples : List Triple) : Graph :=
  triples.foldl (fun graph triple => (graph.insert triple).1) graph

/-- The graph of the statements of a list, first occurrences only. -/
def ofList (triples : List Triple) : Graph := empty.extend triples

/-- Two graphs hold the same statements. -/
def sameStatements (g h : Graph) : Bool := g.index == h.index

/-! ## The operations seen through the list of statements -/

theorem insert_of_mem {graph : Graph} {triple : Triple} (h : triple ∈ graph) :
    graph.insert triple = (graph, false) :=
  dif_pos (contains_iff.2 h)

theorem triples_insert (graph : Graph) (triple : Triple) :
    (graph.insert triple).1.triples =
      if triple ∈ graph then graph.triples else graph.triples ++ [triple] := by
  by_cases h : triple ∈ graph
  · rw [if_pos h, insert_of_mem h]
  · rw [if_neg h, insert, dif_neg (mt contains_iff.1 h)]

theorem insert_snd (graph : Graph) (triple : Triple) :
    (graph.insert triple).2 = !decide (triple ∈ graph) := by
  by_cases h : triple ∈ graph
  · rw [insert_of_mem h, decide_eq_true h]
    rfl
  · rw [insert, dif_neg (mt contains_iff.1 h), decide_eq_false h]
    rfl

theorem mem_insert {graph : Graph} {triple new : Triple} :
    triple ∈ (graph.insert new).1 ↔ triple ∈ graph ∨ triple = new := by
  rw [mem_def, triples_insert]
  by_cases h : new ∈ graph
  · rw [if_pos h]
    exact ⟨.inl, fun o => o.elim id fun e => e ▸ h⟩
  · rw [if_neg h, List.mem_append, List.mem_singleton, mem_def]

theorem mem_extend {graph : Graph} {triples : List Triple} {triple : Triple} :
    triple ∈ graph.extend triples ↔ triple ∈ graph ∨ triple ∈ triples := by
  induction triples generalizing graph with
  | nil => simp [extend]
  | cons t triples ih =>
    have h := @ih (graph.insert t).1
    rw [extend, List.foldl_cons, ← extend, h, mem_insert, List.mem_cons, or_assoc]

theorem mem_ofList {triples : List Triple} {triple : Triple} :
    triple ∈ ofList triples ↔ triple ∈ triples := by
  rw [ofList, mem_extend]
  simp [mem_def, empty]

theorem sameStatements_iff {g h : Graph} :
    g.sameStatements h = true ↔ ∀ triple, triple ∈ g ↔ triple ∈ h := by
  rw [sameStatements, beq_iff_eq]
  constructor
  · intro e triple
    rw [← contains_iff, ← contains_iff, contains, e, contains]
  · intro e
    apply Std.ExtTreeSet.ext_mem
    intro triple
    rw [g.mem_index, h.mem_index]
    exact e triple

theorem triples_extend_of_nodup {graph : Graph} {triples : List Triple}
    (h : (graph.triples ++ triples).Nodup) :
    (graph.extend triples).triples = graph.triples ++ triples := by
  induction triples generalizing graph with
  | nil => simp [extend]
  | cons t triples ih =>
    have new : ¬ t ∈ graph := by
      rw [List.nodup_append] at h
      exact fun m => h.2.2 t m t List.mem_cons_self rfl
    have step : (graph.insert t).1.triples = graph.triples ++ [t] := by
      rw [triples_insert, if_neg new]
    have split : graph.triples ++ t :: triples = (graph.insert t).1.triples ++ triples := by
      rw [step, List.append_assoc]
      rfl
    rw [extend, List.foldl_cons, ← extend, split]
    exact ih (split ▸ h)

theorem triples_ofList_of_nodup {triples : List Triple} (h : triples.Nodup) :
    (ofList triples).triples = triples := by
  rw [ofList, triples_extend_of_nodup]
  · rfl
  · exact h

/-- A graph that is built from its own statements is the same one. -/
theorem ofList_triples (graph : Graph) : ofList graph.triples = graph :=
  ext (triples_ofList_of_nodup graph.nodup)

end Graph

end RdfGateway
