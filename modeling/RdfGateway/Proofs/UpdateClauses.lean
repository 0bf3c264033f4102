import Mathlib.Data.List.Forall2
import RdfGateway.Proofs.UpdateElements

/-!
# The clauses of an update

What the text of an update shows is a list of clauses: words with an IRI or with braces behind
them, and the semicolons between operations.

* `Clause.flatMap_symbols_inj`: clauses are told apart by their symbols.
* `Operation.Alike`: two operations show the same.
* `Request.alike_of_symbols`: requests with the same symbols are alike.

Proof. The words of a clause reach up to the first symbol that is no word of its own, the prologue
up to the first clause of an operation, and an operation up to the first clause whose words end an
operation. So every list is cut where a stop comes first (`append_inj_of_stops`). The parts of a
modification are found again by their words.
-/

namespace RdfGateway

open Sparql

/-! ## Clauses -/

/-- What stands behind the words of a clause. -/
inductive Object where
  | iri (text : String)
  | block (elements : List Element)
  | semicolon

/-- Words and what stands behind them. -/
structure Clause where
  words : List String
  object : Object

def Object.symbols : Object → List Symbol
  | .iri text => [.term (.iri text)]
  | .block elements => opening :: (Element.symbolsAll elements ++ [closing])
  | .semicolon => [.word ";"]

theorem Object.symbols_append_inj {object other : Object} {rest more : List Symbol}
    (h : object.symbols ++ rest = other.symbols ++ more) : object = other ∧ rest = more := by
  cases object with
  | iri text =>
    cases other with
    | iri text' => simpa [symbols] using h
    | block _ | semicolon => simp [symbols, opening] at h
  | block elements =>
    cases other with
    | block elements' =>
      simp only [symbols, List.cons_append, List.append_assoc, List.nil_append, List.cons.injEq,
        true_and] at h
      obtain ⟨rfl, hr⟩ := Element.symbolsAll_append_inj elements elements' h
      exact ⟨rfl, hr⟩
    | iri _ | semicolon => simp [symbols, opening] at h
  | semicolon =>
    cases other with
    | semicolon => simpa [symbols] using h
    | iri _ | block _ => simp [symbols, opening] at h

namespace Clause

def symbols (clause : Clause) : List Symbol := clause.words.map .word ++ clause.object.symbols

/-- The symbol is none of the words of a clause. -/
def endsWords : Symbol → Bool
  | .word text => text == "\x7b" || text == ";"
  | _ => true

/-- The words of the clause hold neither an opening brace nor a semicolon. -/
def IsProper (clause : Clause) : Prop := ∀ word ∈ clause.words, endsWords (.word word) = false

variable {clause other : Clause} {rest more : List Symbol}

theorem exists_object_eq_cons (object : Object) :
    ∃ symbol tail, object.symbols = symbol :: tail ∧ endsWords symbol = true := by
  cases object with
  | iri text => exact ⟨_, _, rfl, rfl⟩
  | block elements => exact ⟨_, _, rfl, by decide⟩
  | semicolon => exact ⟨_, _, rfl, by decide⟩

/-- **The symbols of a clause are known again** in what follows them. -/
theorem symbols_append_inj (hc : clause.IsProper) (ho : other.IsProper)
    (h : clause.symbols ++ rest = other.symbols ++ more) : clause = other ∧ rest = more := by
  have hwords {clause : Clause} (hc : clause.IsProper) :
      ∀ symbol ∈ clause.words.map Symbol.word, endsWords symbol = false := by
    intro symbol hs
    obtain ⟨word, hw, rfl⟩ := List.mem_map.mp hs
    exact hc word hw
  have hobject (object : Object) (rest : List Symbol) :
      ∀ symbol ∈ (object.symbols ++ rest).head?, endsWords symbol = true := by
    obtain ⟨first, tail, htext, hends⟩ := exists_object_eq_cons object
    intro symbol hs
    rw [htext] at hs
    cases hs
    exact hends
  rw [symbols, symbols, List.append_assoc, List.append_assoc] at h
  obtain ⟨he, htails⟩ :=
    append_inj_of_stops (hwords hc) (hwords ho) (hobject _ _) (hobject _ _) h
  obtain ⟨hobjects, hr⟩ := Object.symbols_append_inj htails
  have hlists := (List.map_inj_right fun _ _ => Symbol.word.inj).mp he
  obtain ⟨words, object⟩ := clause
  obtain ⟨words', object'⟩ := other
  cases hlists
  cases hobjects
  exact ⟨rfl, hr⟩

theorem symbols_ne_nil (clause : Clause) : clause.symbols ≠ [] := by
  obtain ⟨first, tail, htext, -⟩ := exists_object_eq_cons clause.object
  simp [symbols, htext]

/-- **Clauses are told apart by their symbols.** -/
theorem flatMap_symbols_inj {clauses others : List Clause}
    (hc : ∀ clause ∈ clauses, clause.IsProper) (ho : ∀ clause ∈ others, clause.IsProper)
    (h : clauses.flatMap symbols = others.flatMap symbols) : clauses = others := by
  induction clauses generalizing others with
  | nil =>
    cases others with
    | nil => rfl
    | cons other others =>
      rw [List.flatMap_cons, List.flatMap_nil] at h
      exact absurd (List.append_eq_nil_iff.mp h.symm).1 other.symbols_ne_nil
  | cons clause clauses ih =>
    cases others with
    | nil =>
      rw [List.flatMap_cons, List.flatMap_nil] at h
      exact absurd (List.append_eq_nil_iff.mp h).1 clause.symbols_ne_nil
    | cons other others =>
      rw [List.flatMap_cons, List.flatMap_cons] at h
      obtain ⟨hfirst, hcs⟩ := List.forall_mem_cons.mp hc
      obtain ⟨hfirst', hos⟩ := List.forall_mem_cons.mp ho
      obtain ⟨rfl, hr⟩ := symbols_append_inj hfirst hfirst' h
      rw [ih hcs hos hr]

/-! ### The clauses of a request -/

/-- The words with an IRI behind them. -/
def ofIri (words : List String) (text : String) : Clause := ⟨words, .iri text⟩

/-- The words with statements in braces behind them. -/
def ofQuads (words : List String) (quads : List Quad) : Clause :=
  ⟨words, .block (quadElements quads)⟩

/-- The IRIs that stand behind the words. -/
def iris (words : List String) (clauses : List Clause) : List String :=
  clauses.filterMap fun clause =>
    match clause.object with
    | .iri text => if clause.words = words then some text else none
    | _ => none

/-- The elements that stand in braces behind the words. -/
def blocks (words : List String) (clauses : List Clause) : List (List Element) :=
  clauses.filterMap fun clause =>
    match clause.object with
    | .block elements => if clause.words = words then some elements else none
    | _ => none

section
variable (words others : List String)

@[simp] theorem iris_append (clauses later : List Clause) :
    iris words (clauses ++ later) = iris words clauses ++ iris words later :=
  List.filterMap_append

@[simp] theorem blocks_append (clauses later : List Clause) :
    blocks words (clauses ++ later) = blocks words clauses ++ blocks words later :=
  List.filterMap_append

@[simp] theorem iris_map_ofIri (texts : List String) :
    iris words (texts.map (ofIri others)) = if others = words then texts else [] := by
  rw [iris, List.filterMap_map]
  by_cases h : others = words
  · simp [ofIri, h]
  · simp [ofIri, h]

@[simp] theorem iris_map_ofQuads (templates : List (List Quad)) :
    iris words (templates.map (ofQuads others)) = [] := by
  rw [iris, List.filterMap_map]
  simp [Function.comp_def, ofQuads]

@[simp] theorem blocks_map_ofIri (texts : List String) :
    blocks words (texts.map (ofIri others)) = [] := by
  rw [blocks, List.filterMap_map]
  simp [Function.comp_def, ofIri]

@[simp] theorem blocks_map_ofQuads (templates : List (List Quad)) :
    blocks words (templates.map (ofQuads others)) =
      if others = words then templates.map quadElements else [] := by
  rw [blocks, List.filterMap_map]
  by_cases h : others = words
  · simp [ofQuads, h]
  · simp [ofQuads, h]

end

end Clause

open Clause

namespace Modify

def leading (modify : Modify) : List Clause :=
  modify.withGraph.toList.map (ofIri ["WITH"]) ++
    (modify.delete.toList.map (ofQuads ["DELETE"]) ++
      (modify.insert.toList.map (ofQuads ["INSERT"]) ++
        (modify.usingGraphs.map (ofIri ["USING"]) ++
          modify.usingNamed.map (ofIri ["USING", "NAMED"]))))

/-- The same graphs, the same templates, present or not, as far as their text shows them, and the
same elements in the pattern. -/
structure Alike (modify other : Modify) : Prop where
  withGraph : modify.withGraph = other.withGraph
  usingGraphs : modify.usingGraphs = other.usingGraphs
  usingNamed : modify.usingNamed = other.usingNamed
  delete : modify.delete.map (List.map Quad.shown) = other.delete.map (List.map Quad.shown)
  insert : modify.insert.map (List.map Quad.shown) = other.insert.map (List.map Quad.shown)
  pattern : modify.pattern.inner = other.pattern.inner

theorem template_inj {template other : Option (List Quad)}
    (h : template.toList.map quadElements = other.toList.map quadElements) :
    template.map (List.map Quad.shown) = other.map (List.map Quad.shown) := by
  cases template with
  | none =>
    cases other with
    | none => rfl
    | some _ => cases h
  | some quads =>
    cases other with
    | none => cases h
    | some others => exact congrArg some (quadElements_inj (List.cons.inj h).1)

theorem alike_of_leading {modify other : Modify} (h : modify.leading = other.leading)
    (hpattern : modify.pattern.inner = other.pattern.inner) : modify.Alike other where
  withGraph := by
    have := congrArg (fun clauses => (iris ["WITH"] clauses).head?) h
    simpa [leading] using this
  usingGraphs := by
    have := congrArg (iris ["USING"]) h
    simpa [leading] using this
  usingNamed := by
    have := congrArg (iris ["USING", "NAMED"]) h
    simpa [leading] using this
  delete := by
    have := congrArg (blocks ["DELETE"]) h
    exact template_inj (by simpa [leading] using this)
  insert := by
    have := congrArg (blocks ["INSERT"]) h
    exact template_inj (by simpa [leading] using this)
  pattern := hpattern

end Modify

namespace Operation

def leading : Operation → List Clause
  | .modify change => change.leading
  | _ => []

/-- The last clause of an operation. Its words tell what kind of operation it is. -/
def final : Operation → Clause
  | .insertData quads => ofQuads ["INSERT", "DATA"] quads
  | .deleteData quads => ofQuads ["DELETE", "DATA"] quads
  | .deleteWhere quads => ofQuads ["DELETE", "WHERE"] quads
  | .modify change => ⟨["WHERE"], .block change.pattern.inner⟩

def clauses (operation : Operation) : List Clause := operation.leading ++ [operation.final]

/-- Operations of one kind with the same content as far as their text shows it. -/
def Alike : Operation → Operation → Prop
  | .insertData quads, .insertData others => quads.map Quad.shown = others.map Quad.shown
  | .deleteData quads, .deleteData others => quads.map Quad.shown = others.map Quad.shown
  | .deleteWhere quads, .deleteWhere others => quads.map Quad.shown = others.map Quad.shown
  | .modify change, .modify other => change.Alike other
  | _, _ => False

def leadingWords : List (List String) :=
  [["WITH"], ["DELETE"], ["INSERT"], ["USING"], ["USING", "NAMED"]]

/-- The words of the last clause of an operation. -/
def finalWords : List (List String) :=
  [["INSERT", "DATA"], ["DELETE", "DATA"], ["DELETE", "WHERE"], ["WHERE"]]

theorem words_leading (operation : Operation) :
    ∀ clause ∈ operation.leading, clause.words ∈ leadingWords := by
  intro clause hc
  cases operation with
  | insertData _ | deleteData _ | deleteWhere _ => cases hc
  | modify change =>
    simp only [leading, Modify.leading, List.mem_append, List.mem_map] at hc
    rcases hc with ⟨_, -, rfl⟩ | ⟨_, -, rfl⟩ | ⟨_, -, rfl⟩ | ⟨_, -, rfl⟩ | ⟨_, -, rfl⟩
    all_goals simp [ofIri, ofQuads, leadingWords]

theorem words_final (operation : Operation) : operation.final.words ∈ finalWords := by
  cases operation
  all_goals simp [final, ofQuads, finalWords]

theorem words_clauses {operation : Operation} {clause : Clause} (h : clause ∈ operation.clauses) :
    clause.words ∈ leadingWords ++ finalWords := by
  rw [clauses, List.mem_append, List.mem_singleton] at h
  rw [List.mem_append]
  rcases h with h | rfl
  · exact .inl (operation.words_leading clause h)
  · exact .inr operation.words_final

def isFinal (clause : Clause) : Bool := finalWords.contains clause.words

theorem isFinal_final (operation : Operation) : isFinal operation.final = true :=
  List.contains_iff_mem.mpr operation.words_final

theorem isFinal_leading (operation : Operation) :
    ∀ clause ∈ operation.leading, isFinal clause = false := by
  have hwords : ∀ words ∈ leadingWords, finalWords.contains words = false := by decide
  intro clause hc
  exact hwords clause.words (operation.words_leading clause hc)

theorem alike_of_clauses {operation other : Operation}
    (hleading : operation.leading = other.leading) (hfinal : operation.final = other.final) :
    operation.Alike other := by
  cases operation <;> cases other <;> simp only [final, ofQuads, Clause.mk.injEq] at hfinal
  all_goals obtain ⟨hwords, hobject⟩ := hfinal
  case modify.modify change change' =>
    exact Modify.alike_of_leading hleading (Object.block.inj hobject)
  case insertData.insertData | deleteData.deleteData | deleteWhere.deleteWhere =>
    exact quadElements_inj (Object.block.inj hobject)
  -- operations of different kinds end with different words
  all_goals exact absurd hwords (by decide)

/-- **The clauses of an operation are known again** in what follows them. -/
theorem clauses_append_inj {operation other : Operation} {rest more : List Clause}
    (h : operation.clauses ++ rest = other.clauses ++ more) :
    operation.Alike other ∧ rest = more := by
  have hhead (operation : Operation) (rest : List Clause) :
      ∀ clause ∈ (operation.final :: rest).head?, isFinal clause = true := by
    intro clause hc
    cases hc
    exact operation.isFinal_final
  rw [clauses, clauses, List.append_assoc, List.append_assoc] at h
  obtain ⟨hleading, hr⟩ := append_inj_of_stops operation.isFinal_leading other.isFinal_leading
    (hhead operation rest) (hhead other more) h
  obtain ⟨hfinal, hr⟩ := List.cons.inj hr
  exact ⟨alike_of_clauses hleading hfinal, hr⟩

def later (operation : Operation) : List Clause := ⟨[], .semicolon⟩ :: operation.clauses

theorem forall₂_alike_of_later {operations others : List Operation}
    (h : operations.flatMap later = others.flatMap later) :
    List.Forall₂ Alike operations others := by
  induction operations generalizing others with
  | nil =>
    cases others with
    | nil => exact .nil
    | cons other others => cases h
  | cons operation operations ih =>
    cases others with
    | nil => cases h
    | cons other others =>
      rw [List.flatMap_cons, List.flatMap_cons] at h
      obtain ⟨halike, hr⟩ := clauses_append_inj (List.cons.inj h).2
      exact .cons halike (ih hr)

/-- The clauses of operations with semicolons between them. -/
def listClauses : List Operation → List Clause
  | [] => []
  | operation :: operations => operation.clauses ++ operations.flatMap later

theorem clauses_ne_nil (operation : Operation) : operation.clauses ≠ [] := by
  simp [clauses]

theorem forall₂_alike_of_listClauses {operations others : List Operation}
    (h : listClauses operations = listClauses others) : List.Forall₂ Alike operations others := by
  cases operations with
  | nil =>
    cases others with
    | nil => exact .nil
    | cons other others =>
      exact absurd h.symm (List.append_ne_nil_of_left_ne_nil other.clauses_ne_nil _)
  | cons operation operations =>
    cases others with
    | nil => exact absurd h (List.append_ne_nil_of_left_ne_nil operation.clauses_ne_nil _)
    | cons other others =>
      obtain ⟨halike, hr⟩ := clauses_append_inj h
      exact .cons halike (forall₂_alike_of_later hr)

end Operation

def PrefixDecl.clause (decl : PrefixDecl) : Clause :=
  ofIri ["PREFIX", decl.label ++ ":"] decl.iri

theorem PrefixDecl.clause_inj {decl other : PrefixDecl} (h : decl.clause = other.clause) :
    decl = other := by
  obtain ⟨label, iri⟩ := decl
  obtain ⟨label', iri'⟩ := other
  simpa [clause, ofIri] using h

namespace Request

def prologueClauses (request : Request) : List Clause :=
  request.base.toList.map (ofIri ["BASE"]) ++ request.prefixes.map PrefixDecl.clause

def clauses (request : Request) : List Clause :=
  request.prologueClauses ++ Operation.listClauses request.operations

/-- The first word of a clause of a prologue. -/
def isPrologue (clause : Clause) : Bool :=
  clause.words.head? == some "BASE" || clause.words.head? == some "PREFIX"

theorem isPrologue_prologueClauses (request : Request) :
    ∀ clause ∈ request.prologueClauses, isPrologue clause = true := by
  intro clause hc
  simp only [prologueClauses, List.mem_append, List.mem_map] at hc
  rcases hc with ⟨_, -, rfl⟩ | ⟨_, -, rfl⟩
  all_goals rfl

theorem isPrologue_clauses {operation : Operation} :
    ∀ clause ∈ operation.clauses, isPrologue clause = false := by
  have hwords : ∀ words ∈ Operation.leadingWords ++ Operation.finalWords,
      (words.head? == some "BASE" || words.head? == some "PREFIX") = false := by
    decide
  intro clause hc
  exact hwords clause.words (Operation.words_clauses hc)

theorem isPrologue_head (operations : List Operation) :
    ∀ clause ∈ (Operation.listClauses operations).head?, (!isPrologue clause) = true := by
  intro clause hc
  cases operations with
  | nil => cases hc
  | cons operation operations =>
    rw [Operation.listClauses, List.head?_append_of_ne_nil _ operation.clauses_ne_nil] at hc
    rw [isPrologue_clauses clause (List.mem_of_mem_head? hc)]
    rfl

theorem prologue_inj {request other : Request}
    (h : request.prologueClauses = other.prologueClauses) :
    request.base = other.base ∧ request.prefixes = other.prefixes := by
  have hprefixes (prefixes : List PrefixDecl) :
      iris ["BASE"] (prefixes.map PrefixDecl.clause) = [] := by
    rw [iris, List.filterMap_map]
    simp [Function.comp_def, PrefixDecl.clause, ofIri]
  have hbase : request.base = other.base := by
    have := congrArg (fun clauses => (iris ["BASE"] clauses).head?) h
    simpa [prologueClauses, hprefixes] using this
  rw [prologueClauses, prologueClauses, hbase, List.append_cancel_left_eq] at h
  exact ⟨hbase, (List.map_inj_right fun _ _ => PrefixDecl.clause_inj).mp h⟩

/-- **Requests with the same clauses are alike.** -/
theorem alike_of_clauses {request other : Request} (h : request.clauses = other.clauses) :
    request.base = other.base ∧ request.prefixes = other.prefixes ∧
      List.Forall₂ Operation.Alike request.operations other.operations := by
  have hstops (request : Request) :
      ∀ clause ∈ request.prologueClauses, (!isPrologue clause) = false := by
    intro clause hc
    rw [request.isPrologue_prologueClauses clause hc]
    rfl
  obtain ⟨hprologue, hoperations⟩ := append_inj_of_stops (hstops request) (hstops other)
    (isPrologue_head _) (isPrologue_head _) h
  obtain ⟨hbase, hprefixes⟩ := prologue_inj hprologue
  exact ⟨hbase, hprefixes, Operation.forall₂_alike_of_listClauses hoperations⟩

/-! ### Proper clauses -/

theorem endsWords_label (label : String) : endsWords (.word (label ++ ":")) = false := by
  have hlast {mark : String} (hmark : mark.toList.getLast? ≠ some ':') : label ++ ":" ≠ mark := by
    rintro rfl
    simp at hmark
  rw [endsWords, Bool.or_eq_false_iff, beq_eq_false_iff_ne, beq_eq_false_iff_ne]
  exact ⟨hlast (by decide), hlast (by decide)⟩

theorem isProper_clauses (request : Request) : ∀ clause ∈ request.clauses, clause.IsProper := by
  have hwords : ∀ words ∈ Operation.leadingWords ++ Operation.finalWords,
      ∀ word ∈ words, endsWords (.word word) = false := by
    decide
  have hoperation {operation : Operation} : ∀ clause ∈ operation.clauses, clause.IsProper :=
    fun clause hc => hwords clause.words (Operation.words_clauses hc)
  have hlater (operations : List Operation) :
      ∀ clause ∈ operations.flatMap Operation.later, clause.IsProper := by
    intro clause hc
    obtain ⟨operation, -, hc⟩ := List.mem_flatMap.mp hc
    rcases List.mem_cons.mp hc with rfl | hc
    · intro word hw
      cases hw
    · exact hoperation clause hc
  intro clause hc
  rw [clauses, prologueClauses, List.append_assoc, List.mem_append, List.mem_append] at hc
  rcases hc with hc | hc | hc
  · obtain ⟨text, -, rfl⟩ := List.mem_map.mp hc
    intro word hw
    cases List.mem_singleton.mp hw
    decide
  · obtain ⟨decl, -, rfl⟩ := List.mem_map.mp hc
    intro word hw
    rcases List.mem_cons.mp hw with rfl | hw
    · decide
    · cases List.mem_singleton.mp hw
      exact endsWords_label decl.label
  · cases hoperations : request.operations with
    | nil =>
      rw [hoperations] at hc
      cases hc
    | cons operation operations =>
      rw [hoperations, Operation.listClauses, List.mem_append] at hc
      rcases hc with hc | hc
      · exact hoperation clause hc
      · exact hlater operations clause hc

def symbols (request : Request) : List Symbol := request.clauses.flatMap Clause.symbols

/-- **Requests with the same symbols are alike.** -/
theorem alike_of_symbols {request other : Request} (h : request.symbols = other.symbols) :
    request.base = other.base ∧ request.prefixes = other.prefixes ∧
      List.Forall₂ Operation.Alike request.operations other.operations :=
  alike_of_clauses (flatMap_symbols_inj request.isProper_clauses other.isProper_clauses h)

end Request

end RdfGateway
