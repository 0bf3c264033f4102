import Mathlib.Data.List.Forall2
import RdfGateway.Proofs.TermPositions
import RdfGateway.Proofs.UniqueReading
import RdfGateway.Proofs.UpdateGrammar

/-!
# The units of an update text

The text of a request is divided into the texts of its symbols (`Spells.divided`). Scope by scope
the labels among these units are labels of the request, so that scopes apart in the request are
apart in its text.

* `Element.coversScopes`: the scopes of elements, between the braces of their units.
* `covers_quadElements`: the scope of data.
* `areApart_of_covers`: scopes of units are apart when those of their labels are.

Proof. A label is the text of a blank node and of nothing else among the units, by the first
character of each (`Covers.text`). Elements are gone through with their units, and the units are cut
at the braces that the elements bring.
-/

namespace RdfGateway

open Sparql Sparql.Grammar

/-! ## Units -/

theorem Term.text_shown (term : Term) : term.shown.text = term.text := by
  cases term with
  | iri | blank | «variable» => rfl
  | literal content =>
    obtain ⟨lexical, datatype, language⟩ := content
    cases language <;> rfl

namespace Sparql

theorem Symbol.text_shown (symbol : Symbol) : symbol.shown.text = symbol.text := by
  cases symbol with
  | word | filter => rfl
  | term content => exact congrArg String.toList content.text_shown

/-- A text is divided into the texts of the symbols that it spells. -/
theorem Spells.divided {text : List Char} {symbols : List Symbol} (h : Spells text symbols) :
    Divided text (symbols.map Symbol.text) := by
  induction h with
  | nil => exact .nil
  | space hc _ ih => exact .space hc ih
  | symbol hs hbreaks _ ih =>
    rw [List.map_cons, Symbol.text_shown]
    exact .unit hbreaks ih

end Sparql

namespace Element

/-- The units of elements. -/
def units (elements : List Element) : Units := (symbolsAll elements).map Symbol.text

theorem units_nil : units [] = [] := rfl

variable (rest : List Element)

theorem units_statement (triple : Triple) :
    units (.statement triple :: rest) =
      triple.symbols.map Symbol.text ++ ".".toList :: units rest := by
  simp [units, symbolsAll, symbols, dot, Symbol.text]

theorem units_group (elements : List Element) :
    units (.group elements :: rest) = braces (units elements) ++ units rest := by
  simp [units, symbolsAll, symbols, braces, opening, closing, openingBrace, closingBrace,
    Symbol.text]

theorem units_optional (elements : List Element) :
    units (.optional elements :: rest) =
      "OPTIONAL".toList :: (braces (units elements) ++ units rest) := by
  rw [← units_group]
  rfl

theorem units_graph (name : Term) (elements : List Element) :
    units (.graph name elements :: rest) =
      "GRAPH".toList :: name.text.toList :: (braces (units elements) ++ units rest) := by
  rw [← units_group]
  rfl

theorem units_filter (expression : String) :
    units (.filter expression :: rest) = Grammar.filter expression :: units rest := rfl

theorem units_append (elements : List Element) :
    units (elements ++ rest) = units elements ++ units rest := by
  rw [units, symbolsAll_append, List.map_append]
  rfl

end Element

namespace Clause

/-- The units of clauses. -/
def units (clauses : List Clause) : Units := (clauses.flatMap symbols).map Symbol.text

theorem units_append (clauses rest : List Clause) :
    units (clauses ++ rest) = units clauses ++ units rest := by
  rw [units, List.flatMap_append, List.map_append]
  rfl

theorem units_iri (words : List String) (text : String) :
    units [⟨words, .iri text⟩] = words.map String.toList ++ [(Term.iri text).text.toList] := by
  simp [units, symbols, Object.symbols, Symbol.text]

theorem units_block (words : List String) (elements : List Element) :
    units [⟨words, .block elements⟩] =
      words.map String.toList ++ braces (Element.units elements) := by
  simp [units, symbols, Object.symbols, Symbol.text, Element.units, braces, opening, closing,
    openingBrace, closingBrace]

end Clause

/-! ## Scopes -/

/-- Among the units are no labels of blank nodes but these. -/
def Covers (units : Units) (labels : List String) : Prop :=
  ∀ unit ∈ units, unit ∈ Terminal.blankNodeLabel.language →
    ∃ label ∈ labels, unit = (Term.blank label).text.toList

/-- The same between any two braces. -/
def CoversScopes (units : Units) (scopes : List (List String)) : Prop :=
  List.Forall₂ Covers (units.splitOnP isBrace) scopes

section
variable {units others : Units} {labels : List String} {scopes later : List (List String)}

namespace Covers

theorem append {more : List String} (h : Covers units labels) (hothers : Covers others more) :
    Covers (units ++ others) (labels ++ more) := by
  intro unit hunit hlabel
  rcases List.mem_append.mp hunit with hunit | hunit
  · obtain ⟨label, hl, htext⟩ := h unit hunit hlabel
    exact ⟨label, List.mem_append_left _ hl, htext⟩
  · obtain ⟨label, hl, htext⟩ := hothers unit hunit hlabel
    exact ⟨label, List.mem_append_right _ hl, htext⟩

theorem nil : Covers [] [] := fun _ hunit => absurd hunit List.not_mem_nil

theorem single {unit : List Char} (h : unit.head? ≠ some '_') : Covers [unit] [] := by
  refine List.forall_mem_singleton.mpr fun hlabel => ?_
  obtain ⟨_, rfl, rest, -, rfl⟩ := hlabel
  exact absurd rfl h

theorem cons_word {unit : List Char} (hunit : unit.head? ≠ some '_') (h : Covers units labels) :
    Covers (unit :: units) labels :=
  (single hunit).append h

theorem braces (h : Covers units labels) : Covers (braces units) labels := by
  have hclosing : Covers [closingBrace] [] := single (by decide)
  have hunits := h.append hclosing
  rw [List.append_nil] at hunits
  exact hunits.cons_word (by decide)

theorem text (term : Term) : Covers [term.text.toList] term.labels := by
  cases term with
  | blank label => exact List.forall_mem_singleton.mpr fun _ => ⟨label, List.mem_cons_self, rfl⟩
  | iri | «variable» => exact single (by simp [Term.text])
  | literal content => exact single (by simp [Term.text, content.toList_text])

end Covers

theorem isBrace_text (term : Term) : isBrace term.text.toList = false := by
  obtain ⟨c, more, htext, hmark⟩ := term.exists_text_eq_cons
  rw [htext]
  rcases hmark with rfl | rfl | rfl | rfl
  all_goals simp [isBrace, openingBrace, closingBrace]

namespace CoversScopes

theorem nil : CoversScopes [] [[]] := .cons .nil .nil

/-- What is no brace is counted to the units up to the next brace. -/
theorem cons {unit : List Char} (hunit : Covers [unit] labels) (hbrace : isBrace unit = false)
    (h : CoversScopes units scopes) :
    CoversScopes (unit :: units) (scopes.modifyHead (labels ++ ·)) := by
  rw [CoversScopes] at h ⊢
  rw [List.splitOnP_cons_eq_if_modifyHead, if_neg (by simp [hbrace])]
  generalize units.splitOnP isBrace = pieces at h ⊢
  cases h with
  | nil => exact .nil
  | cons hfirst hrest => exact .cons (hunit.append hfirst) hrest

theorem cons_word {unit : List Char} (hunit : unit.head? ≠ some '_') (hbrace : isBrace unit = false)
    (h : CoversScopes units scopes) : CoversScopes (unit :: units) scopes := by
  have hcons := h.cons (.single hunit) hbrace
  cases scopes <;> exact hcons

theorem braces_append (h : CoversScopes units scopes) (hothers : CoversScopes others later) :
    CoversScopes (braces units ++ others) ([] :: (scopes ++ later)) := by
  have hsplit : (braces units ++ others).splitOnP isBrace =
      [] :: (units.splitOnP isBrace ++ others.splitOnP isBrace) := by
    have hunits : braces units ++ others = [] ++ openingBrace :: (units ++ closingBrace :: others) := by
      simp [braces]
    rw [hunits, List.splitOnP_append_cons _ _ rfl, List.splitOnP_append_cons _ _ rfl]
    rfl
  rw [CoversScopes, hsplit]
  exact .cons .nil (List.rel_append h hothers)

end CoversScopes

end

namespace Element

mutual

/-- **Between braces the units of elements have the labels of a scope.** -/
theorem coversScopes_cons : (element : Element) → {rest : List Element} →
    {later : List (List String)} → CoversScopes (units rest) later →
      CoversScopes (units (element :: rest)) (element.scopes later)
  | .statement triple, rest, later, h => by
    have hdot : CoversScopes (".".toList :: units rest) later := h.cons_word (by decide) (by decide)
    have hobject := hdot.cons (.text triple.object) (isBrace_text _)
    have hpredicate := hobject.cons (.text triple.predicate) (isBrace_text _)
    have hsubject := hpredicate.cons (.text triple.subject) (isBrace_text _)
    rw [units_statement]
    simpa [Triple.symbols, Symbol.text, scopes, Triple.labels, List.modifyHead_modifyHead,
      Function.comp_def] using hsubject
  | .group elements, rest, later, h => by
    rw [units_group]
    exact (coversScopes elements).braces_append h
  | .optional elements, rest, later, h => by
    rw [units_optional]
    exact ((coversScopes elements).braces_append h).cons_word (by decide) (by decide)
  | .graph name elements, rest, later, h => by
    have hname := ((coversScopes elements).braces_append h).cons (.text name) (isBrace_text _)
    rw [List.modifyHead_cons, List.append_nil] at hname
    rw [units_graph]
    exact hname.cons_word (by decide) (by decide)
  | .filter expression, rest, later, h => by
    obtain ⟨text, htext⟩ : ∃ text, Grammar.filter expression = 'F' :: text := ⟨_, rfl⟩
    rw [units_filter, htext]
    exact h.cons_word (by simp) (by simp [isBrace, openingBrace, closingBrace])

theorem coversScopes : (elements : List Element) →
    CoversScopes (units elements) (scopesAll elements)
  | [] => .nil
  | element :: rest => coversScopes_cons element (coversScopes rest)

end

end Element

theorem covers_quadElements (quads : List Quad) :
    Covers (Element.units (quadElements quads)) (quads.flatMap Quad.labels) := by
  induction quads with
  | nil => exact .nil
  | cons quad quads ih =>
    have hstatement (triple : Triple) :
        Covers (Element.units [.statement triple.shown]) triple.labels := by
      have hdot : Covers [".".toList] [] := .single (by decide)
      have hunits := (Covers.text triple.shown.subject).append
        ((Covers.text triple.shown.predicate).append
          ((Covers.text triple.shown.object).append hdot))
      rw [Element.units_statement, Element.units_nil, ← triple.labels_shown]
      simpa [Triple.symbols, Symbol.text, Triple.labels] using hunits
    have hquad : Covers (Element.units [quad.shown.element]) quad.labels := by
      obtain ⟨triple, graph⟩ := quad
      cases graph with
      | default => exact hstatement triple
      | named name =>
        have hgraph := (Covers.text name.shown).append (hstatement triple).braces
        rw [name.labels_shown] at hgraph
        rw [Quad.shown, GraphName.shown, Quad.element, Element.units_graph, Element.units_nil,
          List.append_nil]
        exact hgraph.cons_word (by decide)
    have hunits := hquad.append ih
    rwa [← Element.units_append] at hunits

theorem exists_of_mem_forall₂ {α β : Type} {r : α → β → Prop} {first : List α} {second : List β}
    {a : α} (h : List.Forall₂ r first second) (ha : a ∈ first) : ∃ b ∈ second, r a b := by
  induction h with
  | nil => cases ha
  | cons hhead _ ih =>
    rcases List.mem_cons.mp ha with rfl | ha
    · exact ⟨_, List.mem_cons_self, hhead⟩
    · obtain ⟨b, hb, hr⟩ := ih ha
      exact ⟨b, List.mem_cons_of_mem _ hb, hr⟩

/-- **Scopes of units are apart** when the scopes of their labels are. -/
theorem areApart_of_covers {scopes : List Units} {labels : List (List String)}
    (h : List.Forall₂ Covers scopes labels) (hapart : areApart labels = true) :
    AreApart scopes := by
  rw [RdfGateway.areApart, decide_eq_true_eq] at hapart
  induction h with
  | nil => exact .nil
  | cons hfirst hrest ih =>
    obtain ⟨hlater, hapart⟩ := List.pairwise_cons.mp hapart
    refine List.pairwise_cons.mpr ⟨fun other hother unit hunit hlabel hmem => ?_, ih hapart⟩
    obtain ⟨found, hfound, hcovers⟩ := exists_of_mem_forall₂ hrest hother
    obtain ⟨label, hl, rfl⟩ := hfirst unit hunit hlabel
    obtain ⟨label', hl', htext⟩ := hcovers _ hmem hlabel
    obtain rfl : label = label' := by simpa [Term.text, String.toList_inj] using htext
    exact hlater found hfound label hl hl'

end RdfGateway
