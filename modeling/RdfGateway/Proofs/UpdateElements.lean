import RdfGateway.Proofs.UpdateSymbols
import RdfGateway.Sparql.Printer

/-!
# What stands in the braces of an update

In braces stand elements: a statement, a filter, or again braces with the words before them. A
pattern shows its elements, not its tree. Statements stand side by side, however they are divided
among blocks; a body shows the same elements whether it is a group or stands alone; and the
statements of a data block are elements too, in the braces of their graphs.

* `Pattern.inner`: the elements of a pattern between its braces.
* `Element.symbols_append_inj`: the symbols of an element are known again in what follows them.

Proof. An element is known by its first symbol, and elements reach up to the brace that closes
them, since no element begins with one.
-/

namespace RdfGateway

open Sparql

/-! ## Elements -/

/-- The statement as its text shows it. -/
def Triple.shown (triple : Triple) : Triple :=
  ⟨triple.subject.shown, triple.predicate.shown, triple.object.shown⟩

def GraphName.shown : GraphName → GraphName
  | .default => .default
  | .named name => .named name.shown

def Quad.shown (quad : Quad) : Quad := ⟨quad.triple.shown, quad.graph.shown⟩

/-- What may stand in braces. -/
inductive Element where
  | statement (triple : Triple)
  | group (elements : List Element)
  | optional (elements : List Element)
  | graph (name : Term) (elements : List Element)
  | filter (expression : String)

/-- The elements of a body: a body that is one group stands for what the group holds. -/
def Element.within : List Element → List Element
  | [.group elements] => elements
  | elements => elements

namespace Pattern

mutual

/-- The elements of a pattern. The statements of a block stand side by side, so that it does not
matter how neighbouring statements are divided among blocks. -/
def elements : Pattern → List Element
  | .group children => [.group (elementsAll children)]
  | .block triples => triples.map fun triple => .statement triple.shown
  | .optional body => [.optional (Element.within body.elements)]
  | .graph name body => [.graph name.shown (Element.within body.elements)]
  | .filter expression => [.filter expression]

def elementsAll : List Pattern → List Element
  | [] => []
  | child :: rest => child.elements ++ elementsAll rest

end

/-- The elements in the braces of a pattern that is a body. -/
def inner (pattern : Pattern) : List Element := Element.within pattern.elements

theorem inner_group (children : List Pattern) :
    (Pattern.group children).inner = elementsAll children := by
  rw [inner, elements, Element.within]

/-- A body that is no group stands for itself. -/
theorem inner_of_not_isGroup {pattern : Pattern} (h : pattern.isGroup = false) :
    pattern.inner = pattern.elements := by
  cases pattern with
  | group children => cases h
  | optional body | graph name body | filter expression => rfl
  | block triples =>
    cases triples with
    | nil => rfl
    | cons triple triples => cases triples <;> rfl

end Pattern

/-- A statement of a data block or a template, in the braces of its graph when it has one. -/
def Quad.element (quad : Quad) : Element :=
  match quad.graph with
  | .default => .statement quad.triple
  | .named name => .graph name [.statement quad.triple]

theorem Quad.element_inj {quad other : Quad} (h : quad.element = other.element) :
    quad = other := by
  obtain ⟨triple, graph⟩ := quad
  obtain ⟨triple', graph'⟩ := other
  cases graph <;> cases graph' <;> simp_all [element]

/-- The elements in the braces of a data block or a template. -/
def quadElements (quads : List Quad) : List Element := quads.map fun quad => quad.shown.element

theorem quadElements_inj {quads others : List Quad} (h : quadElements quads = quadElements others) :
    quads.map Quad.shown = others.map Quad.shown := by
  have hquads (quads : List Quad) :
      quadElements quads = (quads.map Quad.shown).map Quad.element := by
    rw [quadElements, List.map_map]
    rfl
  rw [hquads, hquads] at h
  exact (List.map_inj_right fun _ _ => Quad.element_inj).mp h

/-! ### Their symbols -/

namespace Sparql

def opening : Symbol := .word "\x7b"

def closing : Symbol := .word "\x7d"

def dot : Symbol := .word "."

end Sparql

def Triple.symbols (triple : Triple) : List Symbol :=
  [.term triple.subject, .term triple.predicate, .term triple.object]

namespace Element

mutual

def symbols : Element → List Symbol
  | .statement triple => triple.symbols ++ [dot]
  | .group elements => opening :: (symbolsAll elements ++ [closing])
  | .optional elements => .word "OPTIONAL" :: opening :: (symbolsAll elements ++ [closing])
  | .graph name elements =>
    .word "GRAPH" :: .term name :: opening :: (symbolsAll elements ++ [closing])
  | .filter expression => [.filter expression]

def symbolsAll : List Element → List Symbol
  | [] => []
  | element :: rest => element.symbols ++ symbolsAll rest

end

theorem symbolsAll_append (elements others : List Element) :
    symbolsAll (elements ++ others) = symbolsAll elements ++ symbolsAll others := by
  induction elements with
  | nil => rfl
  | cons element elements ih => rw [List.cons_append, symbolsAll, symbolsAll, ih, List.append_assoc]

theorem symbols_ne_closing (element : Element) (rest more : List Symbol) :
    element.symbols ++ rest ≠ closing :: more := by
  cases element <;> simp [symbols, Triple.symbols, opening, closing]

mutual

/-- **The symbols of an element are known again** in what follows them. -/
theorem symbols_append_inj : (element other : Element) → {rest more : List Symbol} →
    element.symbols ++ rest = other.symbols ++ more → element = other ∧ rest = more
  | .statement triple, other, rest, more, h => by
    obtain ⟨s, p, o⟩ := triple
    cases other with
    | statement triple' =>
      obtain ⟨s', p', o'⟩ := triple'
      simpa [symbols, Triple.symbols, and_assoc] using h
    | group _ | optional _ | graph _ _ | filter _ =>
      simp [symbols, Triple.symbols, opening] at h
  | .group elements, other, rest, more, h => by
    cases other with
    | group elements' =>
      simp only [symbols, List.cons_append, List.append_assoc, List.nil_append, List.cons.injEq,
        true_and] at h
      obtain ⟨rfl, hr⟩ := symbolsAll_append_inj elements elements' h
      exact ⟨rfl, hr⟩
    | statement _ | optional _ | graph _ _ | filter _ =>
      simp [symbols, Triple.symbols, opening] at h
  | .optional elements, other, rest, more, h => by
    cases other with
    | optional elements' =>
      simp only [symbols, List.cons_append, List.append_assoc, List.nil_append, List.cons.injEq,
        true_and] at h
      obtain ⟨rfl, hr⟩ := symbolsAll_append_inj elements elements' h
      exact ⟨rfl, hr⟩
    | statement _ | group _ | graph _ _ | filter _ =>
      simp [symbols, Triple.symbols, opening] at h
  | .graph name elements, other, rest, more, h => by
    cases other with
    | graph name' elements' =>
      simp only [symbols, List.cons_append, List.append_assoc, List.nil_append, List.cons.injEq,
        true_and, Symbol.term.injEq] at h
      obtain ⟨rfl, h⟩ := h
      obtain ⟨rfl, hr⟩ := symbolsAll_append_inj elements elements' h
      exact ⟨rfl, hr⟩
    | statement _ | group _ | optional _ | filter _ =>
      simp [symbols, Triple.symbols, opening] at h
  | .filter expression, other, rest, more, h => by
    cases other with
    | filter expression' => simpa [symbols] using h
    | statement _ | group _ | optional _ | graph _ _ =>
      simp [symbols, Triple.symbols, opening] at h

theorem symbolsAll_append_inj : (elements others : List Element) → {rest more : List Symbol} →
    symbolsAll elements ++ closing :: rest = symbolsAll others ++ closing :: more →
      elements = others ∧ rest = more
  | [], [], rest, more, h => ⟨rfl, (List.cons.inj h).2⟩
  | [], other :: others, rest, more, h => by
    rw [symbolsAll, symbolsAll, List.append_assoc] at h
    exact absurd h.symm (symbols_ne_closing other _ _)
  | element :: elements, [], rest, more, h => by
    rw [symbolsAll, symbolsAll, List.append_assoc] at h
    exact absurd h (symbols_ne_closing element _ _)
  | element :: elements, other :: others, rest, more, h => by
    rw [symbolsAll, symbolsAll, List.append_assoc, List.append_assoc] at h
    obtain ⟨rfl, hlater⟩ := symbols_append_inj element other h
    obtain ⟨rfl, hr⟩ := symbolsAll_append_inj elements others hlater
    exact ⟨rfl, hr⟩

end

end Element

end RdfGateway
