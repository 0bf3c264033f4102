import RdfGateway.Body.Reader
import RdfGateway.Proofs.TermTexts

/-!
# N-Triples are read back

A graph that is written as N-Triples and read again is the same graph, statement by statement and
in the same order, and its text has one line for each statement (`readGraph_toNTriples`). The
texts in literals may be any texts. IRIs have to be such that the reader takes them, and language
tags have to be well-formed and in lower case, because the reader writes them so.

Proof. Each token is read up to the character that the printer writes after it, with any text
behind: `stringText_escape` for the characters of a literal, `nameTail_label` for labels and
`iriText_admitted` for IRIs. `exists_terms` puts the tokens of a line together. No term holds a
line break, so the lines are read apart (`pieces_lines`).
-/

namespace RdfGateway

open Sparql Text

/-! ## Lines -/

namespace Text

variable {α : Type} [DecidableEq α] {mark : α}

theorem pieces_append_mark {line rest : List α} (h : mark ∉ line) :
    pieces mark (line ++ mark :: rest) = line :: pieces mark rest := by
  induction line with
  | nil => rw [List.nil_append, pieces, if_pos rfl]
  | cons c line ih =>
    rw [List.mem_cons, not_or] at h
    rw [List.cons_append, pieces, if_neg (Ne.symm h.1), ih h.2]

/-- Lines that hold no mark are read apart when a mark is written after each. -/
theorem pieces_lines {lines : List (List α)} (h : ∀ line ∈ lines, mark ∉ line) :
    pieces mark (lines.flatMap fun line => line ++ [mark]) = lines ++ [[]] := by
  induction lines with
  | nil => rfl
  | cons line lines ih =>
    obtain ⟨hline, hlines⟩ := List.forall_mem_cons.mp h
    rw [List.flatMap_cons, List.append_assoc, List.singleton_append, pieces_append_mark hline,
      ih hlines]
    rfl

theorem pieces_map_some (text : List α) :
    pieces (some mark) (text.map some) = (pieces mark text).map (List.map some) := by
  induction text with
  | nil => rfl
  | cons c text ih =>
    rw [List.map_cons, pieces, pieces, ih]
    by_cases hc : c = mark
    · rw [if_pos hc, if_pos (congrArg some hc)]
      rfl
    · rw [if_neg hc, if_neg fun e => hc (Option.some.inj e)]
      cases pieces mark text <;> rfl

end Text

/-! ## Tokens -/

namespace Token

theorem iriText_cons {c : Char} (hbackslash : c ≠ '\\') (hclose : c ≠ '>') (rest : Document) :
    iriText (some c :: rest) =
      (fun (text, rest) => (c :: text, rest)) <$> iriText rest := by
  rw [iriText.eq_def]
  split
  · rename_i he
    cases he
  · rename_i he
    cases he
    exact absurd rfl hbackslash
  · rename_i he
    cases he
    exact absurd rfl hbackslash
  · rename_i he
    cases he
    exact absurd rfl hclose
  · rename_i he
    cases he
    rw [if_neg hbackslash]
  · rename_i he
    cases he

theorem iriText_admitted {text : List Char}
    (h : ∀ c ∈ text, Sparql.iriEnclosure.admits c = true) (rest : Document) :
    iriText (text.map some ++ some '>' :: rest) = some (text, rest) := by
  induction text with
  | nil => simp [iriText]
  | cons c text ih =>
    obtain ⟨hc, htext⟩ := List.forall_mem_cons.mp h
    have hbackslash : c ≠ '\\' := by
      rintro rfl
      exact absurd hc (by decide)
    have hclose : c ≠ '>' := by
      rintro rfl
      exact absurd hc (by decide)
    rw [List.map_cons, List.cons_append, iriText_cons hbackslash hclose, ih htext]
    rfl

/-! ### Names -/

theorem nameTail_cons {c : Char} (h : Name.isNameChar c = true) (rest : Document) :
    nameTail (some c :: rest) = (fun (name, rest) => (c :: name, rest)) <$> nameTail rest := by
  have hdot : c ≠ '.' := by
    rintro rfl
    exact absurd h (by decide)
  rw [nameTail, if_neg hdot, if_pos h]

theorem nameTail_dot {c : Char} (h : Name.isNameChar c = true) (rest : Document) :
    nameTail (some '.' :: some c :: rest) =
      (fun (name, rest) => ('.' :: name, rest)) <$> nameTail (some c :: rest) := by
  have hgoes : goesOn (some c :: rest) = true := by
    simp [goesOn, h]
  rw [nameTail.eq_3, if_pos rfl, if_pos hgoes]

theorem nameTail_blank (rest : Document) :
    nameTail (some ' ' :: rest) = some ([], some ' ' :: rest) := by
  have hname : Name.isNameChar ' ' = false := by decide
  have hforeign : isForeign ' ' = false := by decide
  simp [nameTail, hname, hforeign]

theorem nameTail_label {text : List Char} (h : Name.isLabelTail text = true) (rest : Document) :
    nameTail (text.map some ++ some ' ' :: rest) = some (text, some ' ' :: rest) := by
  fun_induction Name.isLabelTail text with
  | case1 => exact nameTail_blank rest
  | case2 c text ih =>
    rw [Bool.and_eq_true] at h
    rw [List.map_cons, List.map_cons, List.cons_append, List.cons_append, nameTail_dot h.1,
      nameTail_cons h.1, ih h.2]
    rfl
  | case3 c text hc ih =>
    rw [Bool.and_eq_true] at h
    rw [List.map_cons, List.cons_append, nameTail_cons h.1, ih h.2]
    rfl

theorem blankLabel_label {label : String} (h : Name.isBlankLabel label.toList = true)
    (rest : Document) :
    blankLabel (label.toList.map some ++ some ' ' :: rest) = some (label, some ' ' :: rest) := by
  cases hlabel : label.toList with
  | nil =>
    rw [hlabel] at h
    cases h
  | cons c text =>
    rw [hlabel, Name.isBlankLabel, Bool.and_eq_true] at h
    have hself : String.ofList (c :: text) = label := by
      rw [← hlabel, String.ofList_toList]
    rw [List.map_cons, List.cons_append, blankLabel, if_pos h.1, nameTail_label h.2, ← hself]
    rfl

theorem languageTag_tag {tag : String} (hchars : ∀ c ∈ tag.toList, Name.isTagChar c = true)
    (hformed : LanguageTag.isWellFormedTag tag.toList = true)
    (hlower : tag.toList.map Char.toLower = tag.toList) (rest : Document) :
    languageTag (tag.toList.map some ++ some ' ' :: rest) = some (tag, some ' ' :: rest) := by
  have hall : ∀ c ∈ tag.toList.map some,
      (c.any fun c => c.isAlphanum || c == '-') = true := by
    intro c hc
    obtain ⟨d, hd, rfl⟩ := List.mem_map.mp hc
    exact hchars d hd
  have hblank : ((some ' ').any fun c => c.isAlphanum || c == '-') = false := by decide
  have htake : (tag.toList.map some ++ some ' ' :: rest).takeWhile
      (fun c => c.any fun c => c.isAlphanum || c == '-') = tag.toList.map some := by
    rw [List.takeWhile_append_of_pos hall, List.takeWhile_cons, hblank]
    simp
  have hdrop : (tag.toList.map some ++ some ' ' :: rest).dropWhile
      (fun c => c.any fun c => c.isAlphanum || c == '-') = some ' ' :: rest := by
    rw [List.dropWhile_append_of_pos hall, List.dropWhile_cons, hblank]
    simp
  have htag : (tag.toList.map some).filterMap id = tag.toList := by
    rw [List.filterMap_map]
    exact List.filterMap_some
  simp only [languageTag, htake, hdrop, htag]
  rw [if_pos hformed, hlower, String.ofList_toList]

end Token

/-! ## Terms -/

/-- A text that the reader of N-Triples takes as it is written: an IRI that is an absolute
reference, a well-formed language tag in lower case, any other text. -/
def PlacedText.isReadable : PlacedText → Bool
  | .iri text => Iri.isAbsoluteReference text.toList
  | .languageTag tag =>
    LanguageTag.isWellFormedTag tag.toList && tag.toList.map Char.toLower == tag.toList
  | _ => true

/-- The texts are sound and such as the reader takes them. -/
def Readable (texts : List PlacedText) : Prop :=
  ∀ text ∈ texts, text.fault? = none ∧ text.isReadable = true

instance (texts : List PlacedText) : Decidable (Readable texts) :=
  inferInstanceAs (Decidable (∀ text ∈ texts, text.fault? = none ∧ text.isReadable = true))

namespace NTriples

theorem skip_blank (document : Document) : skip (some ' ' :: document) = skip document := by
  rw [skip, List.dropWhile_cons_of_pos rfl, skip]

theorem skip_cons {c : Char} (hspace : c ≠ ' ') (htab : c ≠ '\t') (rest : Document) :
    skip (some c :: rest) = some c :: rest := by
  have hblank : isBlank (some c) = false := by
    simp [isBlank, hspace, htab]
  rw [skip, List.dropWhile_cons, hblank]
  simp

theorem skip_text (term : Term) (rest : Document) :
    skip (term.text.toList.map some ++ rest) = term.text.toList.map some ++ rest := by
  obtain ⟨c, more, htext, hmark⟩ := term.exists_text_eq_cons
  rw [htext, List.map_cons, List.cons_append]
  rcases hmark with rfl | rfl | rfl | rfl
  all_goals exact skip_cons (by decide) (by decide) _

theorem iri_text {text : String} (hsound : iriFault? text = none)
    (habsolute : Iri.isAbsoluteReference text.toList = true) (rest : Document) :
    iri ((Term.iri text).text.toList.map some ++ rest) = some (text, rest) := by
  have htext : (Term.iri text).text.toList.map some ++ rest =
      some '<' :: (text.toList.map some ++ some '>' :: rest) := by
    simp [Term.text]
  have hread := Token.iriText_admitted (admits_of_iriFault? hsound) rest
  simp only [iri, htext, expect, if_pos, hread, Option.bind_eq_bind, Option.bind_some, habsolute,
    String.ofList_toList]

theorem resource_text {term : Term} (hplain : term.isResource = true) (h : Readable term.texts)
    (rest : Document) :
    ∃ found : Resource, found.toTerm = term ∧
      resource (term.text.toList.map some ++ some ' ' :: rest) =
        some (found, some ' ' :: rest) := by
  cases term with
  | iri text =>
    obtain ⟨hsound, hreadable⟩ := h (.iri text) List.mem_cons_self
    have hread := iri_text hsound hreadable (some ' ' :: rest)
    refine ⟨.iri text, rfl, ?_⟩
    rw [resource, hread]
    · rfl
    · simp [Term.text]
  | blank label =>
    obtain ⟨hsound, -⟩ := h (.blankLabel label) List.mem_cons_self
    have hread := Token.blankLabel_label (of_faultUnless_eq_none hsound) rest
    have htext : (Term.blank label).text.toList.map some ++ some ' ' :: rest =
        some '_' :: some ':' :: (label.toList.map some ++ some ' ' :: rest) := by
      simp [Term.text]
    refine ⟨.blank label, rfl, ?_⟩
    rw [htext, resource, hread]
    rfl
  | literal content => cases hplain
  | «variable» name => cases hplain

/-- The text of a term does not begin like a statement in the place of a term. -/
theorem text_ne_quoted {term : Term} (h : ∀ text ∈ term.texts, text.fault? = none)
    (more rest : Document) :
    term.text.toList.map some ++ some ' ' :: more ≠ some '<' :: some '<' :: rest := by
  cases term with
  | iri text =>
    have hadmits := admits_of_iriFault? (h (.iri text) List.mem_cons_self)
    cases hchars : text.toList with
    | nil => simp [Term.text, hchars]
    | cons c tail =>
      have hc : c ≠ '<' := by
        rintro rfl
        exact absurd (hadmits '<' (hchars ▸ List.mem_cons_self)) (by decide)
      simp [Term.text, hchars, hc]
  | blank label => simp [Term.text]
  | literal content => simp [Term.text, content.toList_text]
  | «variable» name => simp [Term.text]

theorem place_eq {α : Type} {plain : Document → Option (α × Document)} {document : Document}
    (h : ∀ rest, document ≠ some '<' :: some '<' :: rest) (depth : Nat) :
    place plain depth document = (fun (term, rest) => (.term term, rest)) <$> plain document := by
  rw [place.eq_def]
  split
  · exact absurd rfl (h _)
  · cases plain document <;> rfl

theorem literalOf_suffix {literal : Literal} (hordinary : literal.isOrdinary = true)
    (h : Readable literal.texts) :
    ∃ (found : Node) (rest : Document), found.toTerm = .literal literal ∧ skip rest = [some '.'] ∧
      literalOf literal.lexical (literal.suffix.toList.map some ++ [some ' ', some '.']) =
        some (found, rest) := by
  obtain ⟨lexical, datatype, language⟩ := literal
  cases language with
  | some tag =>
    have hdatatype : datatype = none := by
      cases datatype with
      | none => rfl
      | some datatype => cases hordinary
    subst hdatatype
    obtain ⟨hsound, hreadable⟩ := h (.languageTag tag) List.mem_cons_self
    rw [PlacedText.isReadable, Bool.and_eq_true, beq_iff_eq] at hreadable
    have hchars := Name.forall_of_isLanguageTag (of_faultUnless_eq_none hsound)
    have hread := Token.languageTag_tag hchars hreadable.1 hreadable.2 [some '.']
    have htext : (Literal.mk lexical none (some tag)).suffix.toList.map some ++
        [some ' ', some '.'] = some '@' :: (tag.toList.map some ++ [some ' ', some '.']) := by
      simp [Literal.suffix]
    refine ⟨.tagged lexical tag, [some ' ', some '.'], rfl, rfl, ?_⟩
    rw [htext, literalOf, skip_cons (by decide) (by decide)]
    simp only [hread, Option.bind_eq_bind, Option.bind_some]
    rfl
  | none =>
    cases datatype with
    -- looking for a tag or a datatype, the reader has passed over the blank
    | none => exact ⟨.plain lexical, [some '.'], rfl, rfl, rfl⟩
    | some datatype =>
      -- the reader would make this literal a plain one
      have hother : datatype ≠ Vocabulary.xsdString := by
        rintro rfl
        cases hordinary
      obtain ⟨hsound, hreadable⟩ := h (.iri datatype) List.mem_cons_self
      have hread := iri_text hsound hreadable [some ' ', some '.']
      have hskip := skip_text (.iri datatype) [some ' ', some '.']
      have htext : (Literal.mk lexical (some datatype) none).suffix.toList.map some ++
          [some ' ', some '.'] = some '^' :: some '^' ::
            ((Term.iri datatype).text.toList.map some ++ [some ' ', some '.']) := by
        simp [Literal.suffix, Term.text]
      refine ⟨.typed lexical datatype, [some ' ', some '.'], ?_, rfl, ?_⟩
      · rw [Node.toTerm, typedLiteral, if_neg hother]
        rfl
      · rw [htext, literalOf, skip_cons (by decide) (by decide)]
        simp only [expect, if_pos, Option.bind_eq_bind, Option.bind_some, hskip, hread]
        rfl

theorem node_text {term : Term} (hplain : term.isNode = true) (h : Readable term.texts) :
    ∃ (found : Node) (rest : Document), found.toTerm = term ∧ skip rest = [some '.'] ∧
      node (term.text.toList.map some ++ [some ' ', some '.']) = some (found, rest) := by
  have hresource (htext : ∀ rest, term.text.toList.map some ++ [some ' ', some '.'] ≠
      some '"' :: rest) (hplain : term.isResource = true) :
      ∃ (found : Node) (rest : Document), found.toTerm = term ∧ skip rest = [some '.'] ∧
        node (term.text.toList.map some ++ [some ' ', some '.']) = some (found, rest) := by
    obtain ⟨found, hfound, hread⟩ := resource_text hplain h [some '.']
    refine ⟨.resource found, [some ' ', some '.'], hfound, rfl, ?_⟩
    rw [node, hread]
    · rfl
    · exact htext
  cases term with
  | iri text => exact hresource (by simp [Term.text]) rfl
  | blank label => exact hresource (by simp [Term.text]) rfl
  | literal content =>
    obtain ⟨found, rest, hfound, hskip, hread⟩ := literalOf_suffix hplain h
    refine ⟨found, rest, hfound, hskip, ?_⟩
    have htext : (Term.literal content).text.toList.map some ++ [some ' ', some '.'] =
        some '"' :: ((content.lexical.toList.flatMap escapeChar).map some ++ some '"' ::
          (content.suffix.toList.map some ++ [some ' ', some '.'])) := by
      simp [Term.text, content.toList_text]
    rw [htext, node, Token.stringText_escape]
    simpa using hread
  | «variable» name => cases hplain

/-! ## Lines and documents -/

/-- The line of a triple, without the line break. -/
def statementLine (triple : Triple) : List Char := (triple.text ++ " .").toList

theorem map_some_statementLine (triple : Triple) :
    (statementLine triple).map some =
      triple.subject.text.toList.map some ++ some ' ' ::
        (triple.predicate.text.toList.map some ++ some ' ' ::
          (triple.object.text.toList.map some ++ [some ' ', some '.'])) := by
  simp [statementLine, Triple.text]

theorem isLineEnd_text (term : Term) (rest : Document) :
    isLineEnd (term.text.toList.map some ++ rest) = false := by
  obtain ⟨c, more, htext, hmark⟩ := term.exists_text_eq_cons
  rw [isLineEnd, skip_text, htext, List.map_cons, List.cons_append]
  rcases hmark with rfl | rfl | rfl | rfl
  all_goals rfl

theorem exists_terms {triple : Triple} (hplain : triple.isPlain = true)
    (h : Readable triple.texts) :
    ∃ statement : Statement, statement.toTriple = triple ∧
      terms ((statementLine triple).map some) =
        some (.term statement.subject, statement.predicate, .term statement.object) := by
  obtain ⟨subject, predicate, object⟩ := triple
  simp only [Triple.isPlain, Bool.and_eq_true] at hplain
  obtain ⟨⟨hsubject, hpredicate⟩, hobject⟩ := hplain
  cases predicate with
  | blank label | literal content | «variable» name => cases hpredicate
  | iri predicate =>
    rw [Readable, Triple.texts, List.forall_mem_append, List.forall_mem_append] at h
    obtain ⟨⟨hs, hp⟩, ho⟩ := h
    obtain ⟨hsound, habsolute⟩ := hp (.iri predicate) List.mem_cons_self
    obtain ⟨foundSubject, hfoundSubject, hreadSubject⟩ := resource_text hsubject hs
      ((Term.iri predicate).text.toList.map some ++ some ' ' ::
        (object.text.toList.map some ++ [some ' ', some '.']))
    have hreadPredicate := iri_text hsound habsolute
      (some ' ' :: (object.text.toList.map some ++ [some ' ', some '.']))
    obtain ⟨foundObject, rest, hfoundObject, hend, hreadObject⟩ := node_text hobject ho
    refine ⟨⟨foundSubject, predicate, foundObject⟩, ?_, ?_⟩
    · rw [Statement.toTriple, hfoundSubject, hfoundObject]
    · have hquotedSubject := text_ne_quoted (fun text ht => (hs text ht).1)
        ((Term.iri predicate).text.toList.map some ++ some ' ' ::
          (object.text.toList.map some ++ [some ' ', some '.']))
      have hquotedObject := text_ne_quoted (fun text ht => (ho text ht).1) [some '.']
      simp only [map_some_statementLine, terms, place_eq hquotedSubject, hreadSubject,
        Option.map_eq_map, Option.map_some, Option.bind_eq_bind, Option.bind_some, skip_blank,
        skip_text, hreadPredicate, place_eq hquotedObject, hreadObject, hend]
      rfl

/-- **A triple is read from its line.** -/
theorem exists_line {triple : Triple} (hplain : triple.isPlain = true)
    (h : Readable triple.texts) :
    ∃ statement : Statement, statement.toTriple = triple ∧
      line ((statementLine triple).map some) = .ok (some statement) := by
  obtain ⟨statement, htriple, hterms⟩ := exists_terms hplain h
  refine ⟨statement, htriple, ?_⟩
  have hend : isLineEnd ((statementLine triple).map some) = false := by
    rw [map_some_statementLine]
    exact isLineEnd_text triple.subject _
  have hskip : skip ((statementLine triple).map some) = (statementLine triple).map some := by
    rw [map_some_statementLine]
    exact skip_text triple.subject _
  rw [line, hend, hskip, hterms]
  rfl

/-- Lines that are triples, and the empty line after them, are read as the triples. -/
theorem exists_mapM_line {triples : List Triple} (hplain : ∀ t ∈ triples, t.isPlain = true)
    (h : ∀ t ∈ triples, Readable t.texts) :
    ∃ found : List Statement, found.map Statement.toTriple = triples ∧
      ((triples.map fun t => (statementLine t).map some) ++ [[]]).mapM line =
        .ok (found.map some ++ [none]) := by
  induction triples with
  | nil => exact ⟨[], rfl, rfl⟩
  | cons triple triples ih =>
    obtain ⟨hplain, hplains⟩ := List.forall_mem_cons.mp hplain
    obtain ⟨h, hs⟩ := List.forall_mem_cons.mp h
    obtain ⟨statement, rfl, hline⟩ := exists_line hplain h
    obtain ⟨found, rfl, hlines⟩ := ih hplains hs
    refine ⟨statement :: found, rfl, ?_⟩
    rw [List.map_cons, List.cons_append, List.mapM_cons, hline, hlines]
    rfl

end NTriples

/-! ### Line breaks -/

section
variable {mark : Char} (hmark : mark = '\n' ∨ mark = '\r')
include hmark

theorem mark_not_mem_escape (text : List Char) : mark ∉ text.flatMap NTriples.escapeChar := by
  intro h
  obtain ⟨c, -, hc⟩ := List.mem_flatMap.mp h
  unfold NTriples.escapeChar at hc
  split at hc
  case h_6 hline hreturn _ =>
    obtain rfl := List.mem_singleton.mp hc
    exact hmark.elim hline hreturn
  all_goals
    rcases hmark with rfl | rfl
    all_goals exact absurd hc (by decide)

theorem mark_not_mem_of_forall {p : Char → Bool} (hline : p '\n' = false)
    (hreturn : p '\r' = false) {text : List Char} (h : ∀ c ∈ text, p c = true) : mark ∉ text := by
  intro hmem
  have hp := h mark hmem
  rcases hmark with rfl | rfl
  · exact absurd (hline.symm.trans hp) Bool.false_ne_true
  · exact absurd (hreturn.symm.trans hp) Bool.false_ne_true

theorem mark_not_mem_iri {iri : String} (h : iriFault? iri = none) : mark ∉ iri.toList :=
  mark_not_mem_of_forall hmark (by decide) (by decide) (admits_of_iriFault? h)

theorem Literal.mark_not_mem_suffix (literal : Literal)
    (h : ∀ text ∈ literal.texts, text.fault? = none) : mark ∉ literal.suffix.toList := by
  obtain ⟨lexical, datatype, language⟩ := literal
  cases language with
  | some tag =>
    have htag := h (.languageTag tag) (List.mem_append_right _ List.mem_cons_self)
    have := mark_not_mem_of_forall hmark (by decide) (by decide)
      (Name.forall_of_isLanguageTag (of_faultUnless_eq_none htag))
    rcases hmark with rfl | rfl
    all_goals simp [Literal.suffix, this]
  | none =>
    cases datatype with
    | none => simp [Literal.suffix]
    | some datatype =>
      have := mark_not_mem_iri hmark (h (.iri datatype) List.mem_cons_self)
      rcases hmark with rfl | rfl
      all_goals simp [Literal.suffix, this]

/-- No line break stands in the text of a term. -/
theorem Term.mark_not_mem_text {term : Term} (h : ∀ text ∈ term.texts, text.fault? = none) :
    mark ∉ term.text.toList := by
  cases term with
  | iri text =>
    have := mark_not_mem_iri hmark (h (.iri text) List.mem_cons_self)
    rcases hmark with rfl | rfl
    all_goals simp [Term.text, this]
  | blank label =>
    have hlabel := h (.blankLabel label) List.mem_cons_self
    have := mark_not_mem_of_forall (p := fun c => Name.isNameChar c || c == '.') hmark (by decide)
      (by decide) fun c hc => by
        simpa using Name.forall_of_isBlankLabel (of_faultUnless_eq_none hlabel) c hc
    rcases hmark with rfl | rfl
    all_goals simp [Term.text, this]
  | «variable» name =>
    have hname := h (.variableName name) List.mem_cons_self
    have := mark_not_mem_of_forall hmark (by decide) (by decide)
      (Name.forall_of_isVariableName (of_faultUnless_eq_none hname))
    rcases hmark with rfl | rfl
    all_goals simp [Term.text, this]
  | literal content =>
    have hescape := mark_not_mem_escape hmark content.lexical.toList
    have hsuffix := content.mark_not_mem_suffix hmark h
    rcases hmark with rfl | rfl
    all_goals simp [Term.text, Literal.toList_text, hescape, hsuffix]

theorem mark_not_mem_statementLine {triple : Triple}
    (h : ∀ text ∈ triple.texts, text.fault? = none) : mark ∉ NTriples.statementLine triple := by
  rw [Triple.texts, List.forall_mem_append, List.forall_mem_append] at h
  obtain ⟨⟨hs, hp⟩, ho⟩ := h
  have hsubject := Term.mark_not_mem_text hmark hs
  have hpredicate := Term.mark_not_mem_text hmark hp
  have hobject := Term.mark_not_mem_text hmark ho
  rcases hmark with rfl | rfl
  all_goals simp [NTriples.statementLine, Triple.text, hsubject, hpredicate, hobject]

end

/-! ### Graphs -/

theorem Graph.toList_toNTriples (graph : Graph) :
    graph.toNTriples.toList =
      (graph.triples.map NTriples.statementLine).flatMap fun line => line ++ ['\n'] := by
  rw [Graph.toNTriples, String.toList_join, List.flatMap_map, List.flatMap_map]
  exact congrArg (graph.triples.flatMap ·) (funext fun triple => by
    simp [NTriples.statementLine, Triple.line])

/-- **A graph written as N-Triples has one line for each statement, in order.** -/
theorem Graph.lines_toNTriples {graph : Graph}
    (h : ∀ triple ∈ graph.triples, ∀ text ∈ triple.texts, text.fault? = none) :
    pieces '\n' graph.toNTriples.toList =
      graph.triples.map (fun triple => (triple.text ++ " .").toList) ++ [[]] := by
  rw [Graph.toList_toNTriples]
  refine pieces_lines fun line hline => ?_
  obtain ⟨triple, ht, rfl⟩ := List.mem_map.mp hline
  exact mark_not_mem_statementLine (.inl rfl) (h triple ht)

/-- **A graph written as N-Triples is read back**, whatever the texts in its literals are and
whatever resource it is sent to: the statements are the same and in the same order. Its text has
one line for each statement. -/
theorem readGraph_toNTriples {graph : Graph}
    (h : ∀ triple ∈ graph.triples, triple.isPlain = true ∧ Readable triple.texts)
    (resource : Option String) :
    readGraph graph.toNTriples.toByteArray .nTriples resource = .ok graph ∧
      pieces '\n' graph.toNTriples.toList =
        graph.triples.map (fun triple => (triple.text ++ " .").toList) ++ [[]] := by
  have hlines := Graph.lines_toNTriples fun triple ht text hx => ((h triple ht).2 text hx).1
  refine ⟨?_, hlines⟩
  obtain ⟨found, hfound, hread⟩ := NTriples.exists_mapM_line (fun t ht => (h t ht).1)
    fun t ht => (h t ht).2
  have hpieces : pieces (some '\n') (characters graph.toNTriples.toByteArray) =
      (graph.triples.map fun t => (NTriples.statementLine t).map some) ++ [[]] := by
    rw [characters_toByteArray, pieces_map_some, hlines, List.map_append, List.map_map]
    rfl
  have hstatements :
      readStatements graph.toNTriples.toByteArray .nTriples resource = .ok found := by
    simp only [readStatements, NTriples.statements, hpieces, hread]
    simp
  have hgraph : Graph.ofList (found.map Statement.toTriple) = graph := by
    rw [hfound]
    exact Graph.ext (Graph.triples_ofList_of_nodup graph.nodup)
  rw [readGraph, hstatements, ← hgraph]
  rfl

/-- Four statements about a blank node with a dot in its label: a text with every escaped character
and with characters that are not shown, a tagged text, a number and an IRI with characters outside
ASCII. -/
def noteGraph : Graph where
  triples :=
    [⟨.blank "note.1", .iri "http://ext.example/says",
        .literal (.plain "\"C:\\\" ends\r\n\there \x00\x0c\x7f \u0085\u2028 <a> .")⟩,
      ⟨.blank "note.1", .iri "http://ext.example/says", .literal (.tagged "moin @nds" "nds-de")⟩,
      ⟨.blank "note.1", .iri "http://ext.example/page",
        .literal (.typed "12" "http://www.w3.org/2001/XMLSchema#integer")⟩,
      ⟨.iri "urn:ext:note", .iri "http://ext.example/see", .iri "http://ext.example/größe?q=%20#x"⟩]
  nodup := by decide

theorem readGraph_noteGraph :
    (∀ triple ∈ noteGraph.triples, triple.isPlain = true ∧ Readable triple.texts) ∧
      readGraph noteGraph.toNTriples.toByteArray .nTriples (some "no base") = .ok noteGraph ∧
      (pieces '\n' noteGraph.toNTriples.toList).length = 5 := by
  have h : ∀ triple ∈ noteGraph.triples, triple.isPlain = true ∧ Readable triple.texts := by
    decide +kernel
  obtain ⟨hread, hlines⟩ := readGraph_toNTriples h (some "no base")
  exact ⟨h, hread, by rw [hlines]; rfl⟩

end RdfGateway
