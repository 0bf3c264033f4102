import RdfGateway.Proofs.UpdateClauses

/-!
# The text of an update is read in one way

Two requests that pass every check and have the same text are alike (`Request.alike_of_text`): they
have the same prologue and the same operations in the same order, with the same graphs, templates
and patterns. What the text does not show is how neighbouring statements of a pattern are divided
among blocks, whether a body is a group or stands alone, and a datatype beside a language tag. So
no accepted text can make a request look like another one.

Proof. The text of a request spells the symbols of its clauses (`Request.spells`), which is shown
from the last character to the first: each part of the text spells its symbols in front of whatever
follows, if that begins with a break. A text spells one list of symbols only (`Spells.unique`), and
the symbols determine the clauses (`Request.alike_of_symbols`).
-/

namespace RdfGateway

open Sparql

/-! ## Parts of a line -/

variable {rest : List Char} {later : List Symbol}

namespace Sparql

namespace Spells

theorem blank (h : Spells rest later) : Spells (' ' :: rest) later := .space rfl h

theorem line (h : Spells rest later) : Spells ('\n' :: rest) later := .space rfl h

theorem word (text : String) (hword : isWord text.toList = true) (hbreaks : Breaks rest)
    (h : Spells rest later) : Spells (text.toList ++ rest) (.word text :: later) :=
  have hsound : (Symbol.word text).IsSound := hword
  .symbol hsound hbreaks h

theorem term {term : Term} (hsound : ∀ text ∈ term.texts, text.fault? = none)
    (hbreaks : Breaks rest) (h : Spells rest later) :
    Spells (term.text.toList ++ rest) (.term term.shown :: later) :=
  have hsound : (Symbol.term term).IsSound := hsound
  .symbol hsound hbreaks h

theorem filter {expression : String} (hsound : filterFault? expression = none)
    (hbreaks : Breaks rest) (h : Spells rest later) :
    Spells ((Symbol.filter expression).text ++ rest) (.filter expression :: later) :=
  have hsound : (Symbol.filter expression).IsSound := hsound
  .symbol hsound hbreaks h

theorem mark {c : Char} {text : String} (htext : text.toList = [c]) (hword : isWord [c] = true)
    (hbreaks : Breaks rest) (h : Spells rest later) :
    Spells (c :: rest) (.word text :: later) := by
  have hspells := word text (by rw [htext, hword]) hbreaks h
  rwa [htext] at hspells

theorem opening (hbreaks : Breaks rest) (h : Spells rest later) :
    Spells ('\x7b' :: rest) (Sparql.opening :: later) :=
  mark (by simp) (by decide) hbreaks h

theorem closing (hbreaks : Breaks rest) (h : Spells rest later) :
    Spells ('\x7d' :: rest) (Sparql.closing :: later) :=
  mark (by simp) (by decide) hbreaks h

theorem dot (hbreaks : Breaks rest) (h : Spells rest later) :
    Spells ('.' :: rest) (Sparql.dot :: later) :=
  mark (by simp) (by decide) hbreaks h

/-- A statement with its dot spells its terms and the dot. -/
theorem statement {triple : Triple} (hsound : ∀ text ∈ triple.texts, text.fault? = none)
    (hbreaks : Breaks rest) (h : Spells rest later) :
    Spells ((triple.text ++ " .").toList ++ rest)
      ((Element.statement triple.shown).symbols ++ later) := by
  rw [Triple.texts, List.forall_mem_append, List.forall_mem_append] at hsound
  obtain ⟨⟨hsubject, hpredicate⟩, hobject⟩ := hsound
  have htext : (triple.text ++ " .").toList ++ rest =
      triple.subject.text.toList ++ ' ' :: (triple.predicate.text.toList ++ ' ' ::
        (triple.object.text.toList ++ ' ' :: '.' :: rest)) := by
    simp [Triple.text]
  rw [htext]
  have hend := (dot hbreaks h).blank
  have hobject := (term hobject (breaks_space _) hend).blank
  have hpredicate := (term hpredicate (breaks_space _) hobject).blank
  exact term hsubject (breaks_space _) hpredicate

theorem quad {quad : Quad} (hsound : ∀ text ∈ quad.texts, text.fault? = none)
    (hbreaks : Breaks rest) (h : Spells rest later) :
    Spells (quad.text.toList ++ rest) (quad.shown.element.symbols ++ later) := by
  obtain ⟨triple, graph⟩ := quad
  rw [Quad.texts, List.forall_mem_append] at hsound
  obtain ⟨hname, htriple⟩ := hsound
  cases graph with
  | default => exact statement htriple hbreaks h
  | named name =>
    have htext : (Quad.mk triple (.named name)).text.toList ++ rest =
        "GRAPH".toList ++ ' ' :: (name.text.toList ++ ' ' :: '\x7b' :: ' ' ::
          ((triple.text ++ " .").toList ++ ' ' :: '\x7d' :: rest)) := by
      simp [Quad.text]
    rw [htext]
    have hend := (closing hbreaks h).blank
    have hbody := (opening (breaks_space _) (statement htriple (breaks_space _) hend).blank).blank
    have hgraph :=
      word "GRAPH" (by decide) (breaks_space _) (term hname (breaks_space _) hbody).blank
    simpa [Quad.shown, GraphName.shown, Quad.element, Element.symbols, Element.symbolsAll]
      using hgraph

theorem quadLines {quads : List Quad}
    (hsound : ∀ text ∈ quads.flatMap Quad.texts, text.fault? = none) (h : Spells rest later) :
    Spells ((String.join (quads.map fun quad => "  " ++ quad.text ++ "\n")).toList ++ rest)
      (Element.symbolsAll (quadElements quads) ++ later) := by
  induction quads with
  | nil => exact h
  | cons quad quads ih =>
    rw [List.flatMap_cons, List.forall_mem_append] at hsound
    have hquad := Spells.quad hsound.1 (breaks_line _) (ih hsound.2).line
    simpa [quadElements, Element.symbolsAll] using hquad.blank.blank

theorem quads {quads : List Quad}
    (hsound : ∀ text ∈ quads.flatMap Quad.texts, text.fault? = none) (hbreaks : Breaks rest)
    (h : Spells rest later) :
    Spells ((quadsText quads).toList ++ rest)
      ((Object.block (quadElements quads)).symbols ++ later) := by
  have htext : (quadsText quads).toList ++ rest = '\x7b' :: '\n' ::
      ((String.join (quads.map fun quad => "  " ++ quad.text ++ "\n")).toList ++
        '\x7d' :: rest) := by
    simp [quadsText]
  have hlines := (quadLines hsound (closing hbreaks h)).line
  rw [htext]
  simpa [Object.symbols] using opening (breaks_line _) hlines

end Spells

end Sparql

/-! ## Patterns -/

namespace Pattern

open Spells

theorem spells_block : (triples : List Triple) →
    (∀ text ∈ triples.flatMap Triple.texts, text.fault? = none) → Breaks rest →
      Spells rest later →
        Spells ((Pattern.block triples).text.toList ++ rest)
          (Element.symbolsAll (Pattern.block triples).elements ++ later)
  | [], _, _, h => h
  | [triple], hsound, hbreaks, h => by
    have hstatement := statement (by simpa using hsound) hbreaks h
    simpa [text, elements, Element.symbolsAll] using hstatement
  | triple :: next :: triples, hsound, hbreaks, h => by
    rw [List.flatMap_cons, List.forall_mem_append] at hsound
    have hblock := spells_block (next :: triples) hsound.2 hbreaks h
    have hstatement := statement hsound.1 (breaks_space _) hblock.blank
    simpa [text, elements, Element.symbolsAll, String.intercalate_cons_cons] using hstatement

/-- The text spells the symbols of the elements, in front of whatever follows it. -/
def SpellsElements (text : String) (elements : List Element) : Prop :=
  ∀ {rest : List Char} {later : List Symbol}, Breaks rest → Spells rest later →
    Spells (text.toList ++ rest) (Element.symbolsAll elements ++ later)

/-- A body spells its elements in braces, whether the braces are its own or not. -/
theorem spells_body {body : Pattern} (hbody : SpellsElements body.text body.elements)
    (hbreaks : Breaks rest) (h : Spells rest later) :
    Spells ((inBraces body.isGroup body.text).toList ++ rest)
      ((Object.block body.inner).symbols ++ later) := by
  cases hgroup : body.isGroup with
  | true =>
    cases body with
    | group children =>
      -- the braces are those of the group
      have hspells := hbody hbreaks h
      rw [inner_group]
      simpa [inBraces, elements, Object.symbols, Element.symbolsAll, Element.symbols] using hspells
    | block _ | optional _ | graph _ _ | filter _ => cases hgroup
  | false =>
    have hend := (closing hbreaks h).blank
    have hspells := opening (breaks_space _) (hbody (breaks_space _) hend).blank
    rw [inner_of_not_isGroup hgroup]
    simpa [inBraces, Object.symbols] using hspells

theorem breaks_childrenText (children : List Pattern) (hbreaks : Breaks rest) :
    Breaks ((childrenText children).toList ++ rest) := by
  cases children with
  | nil => simpa [childrenText] using hbreaks
  | cons child children => simpa [childrenText] using breaks_space _

mutual

/-- **A pattern spells its elements.** -/
theorem spells_text : (pattern : Pattern) → (∀ text ∈ pattern.texts, text.fault? = none) →
    SpellsElements pattern.text pattern.elements
  | .group children, hsound, rest, later, hbreaks, h => by
    have hend := (closing hbreaks h).blank
    have hchildren := spells_childrenText children hsound (breaks_space _) hend
    have hspells := opening (breaks_childrenText children (breaks_space _)) hchildren
    simpa [text, elements, Element.symbolsAll, Element.symbols] using hspells
  | .block triples, hsound, rest, later, hbreaks, h => spells_block triples hsound hbreaks h
  | .optional body, hsound, rest, later, hbreaks, h => by
    have hbody := (spells_body (spells_text body hsound) hbreaks h).blank
    have hspells := word "OPTIONAL" (by decide) (breaks_space _) hbody
    simpa [text, elements, inner, Object.symbols, Element.symbolsAll, Element.symbols]
      using hspells
  | .graph name body, hsound, rest, later, hbreaks, h => by
    rw [texts, List.forall_mem_append] at hsound
    have hbody := (spells_body (spells_text body hsound.2) hbreaks h).blank
    have hspells :=
      word "GRAPH" (by decide) (breaks_space _) (term hsound.1 (breaks_space _) hbody).blank
    simpa [text, elements, inner, Object.symbols, Element.symbolsAll, Element.symbols]
      using hspells
  | .filter expression, hsound, rest, later, hbreaks, h => by
    have hspells := Spells.filter (hsound (.filter expression) List.mem_cons_self) hbreaks h
    simpa [text, elements, Symbol.text, Element.symbolsAll, Element.symbols] using hspells

theorem spells_childrenText : (children : List Pattern) →
    (∀ text ∈ textsAll children, text.fault? = none) →
      SpellsElements (childrenText children) (elementsAll children)
  | [], _, rest, later, _, h => h
  | child :: children, hsound, rest, later, hbreaks, h => by
    rw [textsAll, List.forall_mem_append] at hsound
    have hchildren := spells_childrenText children hsound.2 hbreaks h
    have hspells :=
      (spells_text child hsound.1 (breaks_childrenText children hbreaks) hchildren).blank
    simpa [childrenText, elementsAll, Element.symbolsAll_append] using hspells

end

end Pattern

/-! ## Operations -/

open Clause Spells

theorem spells_words {words : List String} (hwords : ∀ word ∈ words, isWord word.toList = true)
    (h : Spells rest later) :
    Spells ((" ".intercalate words).toList ++ ' ' :: rest) (words.map .word ++ later) := by
  induction words with
  | nil => exact h.blank
  | cons first words ih =>
    obtain ⟨hfirst, hwords⟩ := List.forall_mem_cons.mp hwords
    cases words with
    | nil => simpa using word first hfirst (breaks_space _) h.blank
    | cons next words =>
      have hspells := word first hfirst (breaks_space _) (ih hwords).blank
      simpa [String.intercalate_cons_cons] using hspells

/-- A line of words and an IRI spells a clause. -/
theorem spells_clause {words : List String} {iri : String}
    (hwords : ∀ word ∈ words, isWord word.toList = true) (hsound : iriFault? iri = none)
    (h : Spells rest later) :
    Spells ((clause (" ".intercalate words) iri).toList ++ rest)
      ((ofIri words iri).symbols ++ later) := by
  have hiri : ∀ text ∈ (Term.iri iri).texts, text.fault? = none :=
    List.forall_mem_singleton.mpr hsound
  have hspells := spells_words hwords (term hiri (breaks_line _) h.line)
  simpa [clause, ofIri, Clause.symbols, Object.symbols, Term.text, Term.shown] using hspells

theorem spells_clauses (words : List String) {iris : List String}
    (hwords : ∀ word ∈ words, isWord word.toList = true)
    (hsound : ∀ iri ∈ iris, iriFault? iri = none) (h : Spells rest later) :
    Spells ((String.join (iris.map (clause (" ".intercalate words)))).toList ++ rest)
      ((iris.map (ofIri words)).flatMap Clause.symbols ++ later) := by
  induction iris with
  | nil => exact h
  | cons iri iris ih =>
    obtain ⟨hiri, hiris⟩ := List.forall_mem_cons.mp hsound
    simpa using spells_clause hwords hiri (ih hiris)

theorem elim_clause (keyword : String) (iri : Option String) :
    iri.elim "" (clause keyword) = String.join (iri.toList.map (clause keyword)) := by
  cases iri <;> simp [String.join]

theorem spells_template (keyword : String) {template : Option (List Quad)}
    (hword : isWord keyword.toList = true)
    (hsound : ∀ text ∈ templateTexts template, text.fault? = none) (h : Spells rest later) :
    Spells ((templateText keyword template).toList ++ rest)
      ((template.toList.map (ofQuads [keyword])).flatMap Clause.symbols ++ later) := by
  cases template with
  | none => exact h
  | some quads =>
    have hquads := (Spells.quads hsound (breaks_line _) h.line).blank
    have hspells := word keyword hword (breaks_space _) hquads
    simpa [templateText, ofQuads, Clause.symbols] using hspells

theorem Modify.spells_text {modify : Modify} (hsound : ∀ text ∈ modify.texts, text.fault? = none)
    (hbreaks : Breaks rest) (h : Spells rest later) :
    Spells (modify.text.toList ++ rest)
      ((Operation.modify modify).clauses.flatMap Clause.symbols ++ later) := by
  simp only [Modify.texts, List.map_append, List.forall_mem_append, List.forall_mem_map] at hsound
  obtain ⟨⟨⟨⟨⟨hwith, husing⟩, hnamed⟩, hdelete⟩, hinsert⟩, hpattern⟩ := hsound
  -- from the last part to the first, each in front of those that follow it
  have hwhere := word "WHERE" (by decide) (breaks_space _)
    (Pattern.spells_body (modify.pattern.spells_text hpattern) hbreaks h).blank
  have hnamed := spells_clauses ["USING", "NAMED"] (by decide) hnamed hwhere
  have husing := spells_clauses ["USING"] (by decide) husing hnamed
  have hinsert := spells_template "INSERT" (by decide) hinsert husing
  have hdelete := spells_template "DELETE" (by decide) hdelete hinsert
  have hwith := spells_clauses ["WITH"] (by decide) hwith hdelete
  have hkeyword : " ".intercalate ["USING", "NAMED"] = "USING NAMED" := by decide
  simpa [Modify.text, elim_clause, hkeyword, Operation.clauses, Operation.leading, Modify.leading,
    Operation.final, Clause.symbols] using hwith

theorem spells_data (first second : String) {quads : List Quad}
    (hwords : ∀ word ∈ [first, second], isWord word.toList = true)
    (hsound : ∀ text ∈ quads.flatMap Quad.texts, text.fault? = none) (hbreaks : Breaks rest)
    (h : Spells rest later) :
    Spells ((first ++ " " ++ second ++ " " ++ quadsText quads).toList ++ rest)
      ((ofQuads [first, second] quads).symbols ++ later) := by
  have hspells := spells_words hwords (Spells.quads hsound hbreaks h)
  simpa [ofQuads, Clause.symbols, String.intercalate_cons_cons] using hspells

/-- **An operation spells its clauses.** -/
theorem Operation.spells_text {operation : Operation}
    (hsound : ∀ text ∈ operation.texts, text.fault? = none) (hbreaks : Breaks rest)
    (h : Spells rest later) :
    Spells (operation.text.toList ++ rest)
      (operation.clauses.flatMap Clause.symbols ++ later) := by
  cases operation with
  | insertData quads =>
    have hspells := spells_data "INSERT" "DATA" (by decide) hsound hbreaks h
    simpa [text, keyword, clauses, leading, final] using hspells
  | deleteData quads =>
    have hspells := spells_data "DELETE" "DATA" (by decide) hsound hbreaks h
    simpa [text, keyword, clauses, leading, final] using hspells
  | deleteWhere quads =>
    have hspells := spells_data "DELETE" "WHERE" (by decide) hsound hbreaks h
    simpa [text, keyword, clauses, leading, final] using hspells
  | modify change => exact Modify.spells_text hsound hbreaks h

theorem Operation.spells_list : (operations : List Operation) →
    (∀ text ∈ operations.flatMap Operation.texts, text.fault? = none) →
      Spells (" ;\n".intercalate (operations.map Operation.text)).toList
        ((listClauses operations).flatMap Clause.symbols)
  | [], _ => .nil
  | [operation], hsound => by
    have hspells := Operation.spells_text (by simpa using hsound) breaks_nil .nil
    simpa [listClauses] using hspells
  | operation :: next :: operations, hsound => by
    rw [List.flatMap_cons, List.forall_mem_append] at hsound
    have hlist := spells_list (next :: operations) hsound.2
    have hsemicolon := (word ";" (by decide) (breaks_line _) hlist.line).blank
    have hspells := spells_text hsound.1 (breaks_space _) hsemicolon
    simpa [listClauses, later, Clause.symbols, Object.symbols, String.intercalate_cons_cons]
      using hspells

/-! ## Prologues -/

theorem isWordChar_of_isPrefixChar {c : Char} (h : Name.isPrefixChar c = true) :
    isWordChar c = true := by
  have hspace : Name.isPrefixChar ' ' = false := by decide +kernel
  have hline : Name.isPrefixChar '\n' = false := by decide +kernel
  have hparenthesis : Name.isPrefixChar '(' = false := by decide +kernel
  rw [isWordChar, isBreak, beq_eq_false_of_class h hspace, beq_eq_false_of_class h hline, bne,
    beq_eq_false_of_class h hparenthesis]
  rfl

theorem isTermMark_of_isAlphabetic {c : Char} (h : Text.isAlphabetic c = true) :
    isTermMark c = false := by
  have hbracket : Text.isAlphabetic '<' = false := by decide +kernel
  have hline : Text.isAlphabetic '_' = false := by decide +kernel
  have hquote : Text.isAlphabetic '"' = false := by decide +kernel
  have hquestion : Text.isAlphabetic '?' = false := by decide +kernel
  rw [isTermMark, beq_eq_false_of_class h hbracket, beq_eq_false_of_class h hline,
    beq_eq_false_of_class h hquote, beq_eq_false_of_class h hquestion]
  rfl

theorem isWord_label {label : String} (h : Name.isPrefixLabel label.toList = true) :
    isWord (label ++ ":").toList = true := by
  obtain ⟨hfirst, hchars⟩ := Name.forall_of_isPrefixLabel h
  have hall : (label.toList ++ [':']).all isWordChar = true := by
    rw [List.all_append, Bool.and_eq_true, List.all_eq_true]
    exact ⟨fun c hc => isWordChar_of_isPrefixChar (hchars c hc), by decide⟩
  rw [String.toList_append]
  show isWord (label.toList ++ [':']) = true
  cases hlabel : label.toList with
  | nil => decide
  | cons c text =>
    rw [hlabel] at hfirst hall
    rw [List.cons_append, isWord, isTermMark_of_isAlphabetic (hfirst c rfl)]
    exact hall

theorem PrefixDecl.spells_text {decl : PrefixDecl}
    (hlabel : Name.isPrefixLabel decl.label.toList = true) (hiri : iriFault? decl.iri = none)
    (h : Spells rest later) :
    Spells (decl.text.toList ++ rest) (decl.clause.symbols ++ later) := by
  have hwords : ∀ word ∈ ["PREFIX", decl.label ++ ":"], isWord word.toList = true := by
    intro word hw
    rcases List.mem_cons.mp hw with rfl | hw
    · decide
    · cases List.mem_singleton.mp hw
      exact isWord_label hlabel
  have hspells := spells_clause hwords hiri h
  simpa [text, PrefixDecl.clause, String.intercalate_cons_cons, String.append_assoc] using hspells

theorem PrefixDecl.spells_all {prefixes : List PrefixDecl}
    (hsound : ∀ text ∈ prefixes.flatMap fun decl =>
      [PlacedText.prefixLabel decl.label, .iri decl.iri], text.fault? = none)
    (h : Spells rest later) :
    Spells ((String.join (prefixes.map PrefixDecl.text)).toList ++ rest)
      ((prefixes.map PrefixDecl.clause).flatMap Clause.symbols ++ later) := by
  induction prefixes with
  | nil => exact h
  | cons decl prefixes ih =>
    rw [List.flatMap_cons, List.forall_mem_append] at hsound
    obtain ⟨hdecl, hprefixes⟩ := hsound
    have hlabel := hdecl (.prefixLabel decl.label) (by simp)
    have hiri := hdecl (.iri decl.iri) (by simp)
    simpa using spells_text (of_faultUnless_eq_none hlabel) hiri (ih hprefixes)

/-! ## Requests -/

namespace Request

/-- **The text of a request spells its symbols.** -/
theorem spells {request : Request} (hsound : ∀ text ∈ request.texts, text.fault? = none) :
    Spells request.text.toList request.symbols := by
  rw [texts, List.forall_mem_append, prologueTexts, List.forall_mem_append] at hsound
  obtain ⟨⟨hbase, hprefixes⟩, hoperations⟩ := hsound
  have hlist := Operation.spells_list request.operations hoperations
  have hdecls := PrefixDecl.spells_all hprefixes hlist
  have hspells := spells_clauses ["BASE"] (by decide) (List.forall_mem_map.mp hbase) hdecls
  simpa [text, elim_clause, symbols, clauses, prologueClauses] using hspells

/-- **The text of an update is read in one way**: accepted requests with the same text have the
same base, the same prefixes, and operations that are alike one by one, in the same order. -/
theorem alike_of_text {request other : Request} (hr : ∀ text ∈ request.texts, text.fault? = none)
    (ho : ∀ text ∈ other.texts, text.fault? = none) (h : request.text = other.text) :
    request.base = other.base ∧ request.prefixes = other.prefixes ∧
      List.Forall₂ Operation.Alike request.operations other.operations := by
  have hother : Spells request.text.toList other.symbols := by
    rw [h]
    exact spells ho
  exact alike_of_symbols (Spells.unique (spells hr) hother)

/-- An update with neighbouring blocks, bodies without a group and a datatype beside a language
tag. -/
def dividedUpdate : Request where
  base := some "http://ext/"
  prefixes := [⟨"", "http://ext/"⟩, ⟨"größe-1.x", "urn:x"⟩]
  operations :=
    [.insertData [⟨⟨.blank "a.b", .iri "http://ext/p",
        .literal ⟨"\"\x7d ; DROP ALL\n", some "urn:x", some "en-GB"⟩⟩,
        .named (.iri "http://ext/g")⟩],
      .modify
        { withGraph := none
          usingGraphs := ["http://ext/g"]
          usingNamed := ["http://ext/n"]
          delete := some []
          insert := none
          pattern := .group
            [.block [⟨.variable "s", .iri "http://ext/p", .variable "o"⟩],
              .block [⟨.variable "o", .iri "http://ext/p", .literal (.plain "'\x7b")⟩],
              .filter "regex(?o, \") \x7d\")",
              .optional (.block []),
              .graph (.variable "g") (.optional (.filter "true"))] }]

/-- The same with one block, with groups for bodies and without the datatype. -/
def joinedUpdate : Request where
  base := some "http://ext/"
  prefixes := [⟨"", "http://ext/"⟩, ⟨"größe-1.x", "urn:x"⟩]
  operations :=
    [.insertData [⟨⟨.blank "a.b", .iri "http://ext/p",
        .literal (.tagged "\"\x7d ; DROP ALL\n" "en-GB")⟩, .named (.iri "http://ext/g")⟩],
      .modify
        { withGraph := none
          usingGraphs := ["http://ext/g"]
          usingNamed := ["http://ext/n"]
          delete := some []
          insert := none
          pattern := .group
            [.block [⟨.variable "s", .iri "http://ext/p", .variable "o"⟩,
                ⟨.variable "o", .iri "http://ext/p", .literal (.plain "'\x7b")⟩],
              .filter "regex(?o, \") \x7d\")",
              .optional (.group [.block []]),
              .graph (.variable "g") (.group [.optional (.group [.filter "true"])])] }]

theorem dividedUpdate_alike :
    (∀ text ∈ dividedUpdate.texts, text.fault? = none) ∧
      (∀ text ∈ joinedUpdate.texts, text.fault? = none) ∧
      dividedUpdate.text = joinedUpdate.text ∧ dividedUpdate ≠ joinedUpdate ∧
      List.Forall₂ Operation.Alike dividedUpdate.operations joinedUpdate.operations := by
  have hdivided : ∀ text ∈ dividedUpdate.texts, text.fault? = none := by decide +kernel
  have hjoined : ∀ text ∈ joinedUpdate.texts, text.fault? = none := by decide +kernel
  have htext : dividedUpdate.text = joinedUpdate.text := by decide +kernel
  exact ⟨hdivided, hjoined, htext, by decide, (alike_of_text hdivided hjoined htext).2.2⟩

end Request

end RdfGateway
