import RdfGateway.NTriples.Printer
import RdfGateway.Proofs.AcceptedTexts
import RdfGateway.Proofs.RequestParts
import RdfGateway.Turtle.Token

/-!
# The text of a term

The text of a term begins with the mark of its kind, and it is known again in a longer text when
the end, a space or a line break follows it (`Term.text_append_inj`). One thing is lost: a literal
with a language tag does not show a datatype beside it. `Term.shown` is the term as its text shows
it.

Proof. The four marks differ. Then an IRI reaches up to its closing bracket, a name up to the next
break (`append_inj_of_stops`), and the characters of a literal are read back by the reader of
quoted texts, whatever they are (`stringText_escape`).
-/

namespace RdfGateway

open Text

/-! ## Escaped characters -/

namespace Token

theorem stringText_plain {c : Char} (hquote : c ≠ '"') (hbackslash : c ≠ '\\') (hline : c ≠ '\n')
    (hreturn : c ≠ '\r') (rest : Document) :
    stringText (.short '"') (some c :: rest) =
      (fun (text, rest) => (c :: text, rest)) <$> stringText (.short '"') rest := by
  have hend : Quoting.end? (.short '"') (some c :: rest) = none := by
    simp [Quoting.end?, hquote]
  have hallows : Quoting.allows (.short '"') c = true := by
    simp [Quoting.allows, hline, hreturn, hbackslash]
  rw [stringText.eq_def]
  split
  · rename_i he
    cases he
  · rename_i he
    cases he
    exact absurd rfl hbackslash
  · rename_i he
    cases he
    exact absurd rfl hbackslash
  · rename_i he
    cases he
    exact absurd rfl hbackslash
  · rename_i he
    cases he
    rw [hend, if_pos hallows]
  · rename_i he
    cases he

theorem stringText_escaped {e c : Char} (h : escaped? e = some c) (hshort : e ≠ 'u')
    (hlong : e ≠ 'U') (rest : Document) :
    stringText (.short '"') (some '\\' :: some e :: rest) =
      (fun (text, rest) => (c :: text, rest)) <$> stringText (.short '"') rest := by
  rw [stringText.eq_def]
  split
  · rename_i he
    cases he
  · rename_i he
    cases he
    exact absurd rfl hshort
  · rename_i he
    cases he
    exact absurd rfl hlong
  · rename_i he
    cases he
    rw [h]
    cases stringText (.short '"') rest <;> rfl
  · rename_i hnone he
    cases he
    exact (hnone e rest rfl rfl).elim
  · rename_i he
    cases he

theorem stringText_escapeChar (c : Char) (rest : Document) :
    stringText (.short '"') ((NTriples.escapeChar c).map some ++ rest) =
      (fun (text, rest) => (c :: text, rest)) <$> stringText (.short '"') rest := by
  unfold NTriples.escapeChar
  split
  · exact stringText_escaped rfl (by decide) (by decide) rest
  · exact stringText_escaped rfl (by decide) (by decide) rest
  · exact stringText_escaped rfl (by decide) (by decide) rest
  · exact stringText_escaped rfl (by decide) (by decide) rest
  · exact stringText_escaped rfl (by decide) (by decide) rest
  · rename_i hbackslash hquote hline hreturn htab
    exact stringText_plain hquote hbackslash hline hreturn rest

/-- The characters of a literal are read back from their escaped form, whatever they are. -/
theorem stringText_escape (text : List Char) (rest : Document) :
    stringText (.short '"') ((text.flatMap NTriples.escapeChar).map some ++ some '"' :: rest) =
      some (text, rest) := by
  induction text with
  | nil => simp [stringText, Quoting.end?]
  | cons c text ih =>
    rw [List.flatMap_cons, List.map_append, List.append_assoc, stringText_escapeChar, ih]
    rfl

end Token

/-! ## Checked texts -/

theorem of_faultUnless_eq_none {holds : Bool} {fault : Fault} (h : faultUnless holds fault = none) :
    holds = true := by
  cases holds with
  | true => rfl
  | false => cases h

theorem admits_of_iriFault? {iri : String} (h : iriFault? iri = none) :
    ∀ c ∈ iri.toList, Sparql.iriEnclosure.admits c = true :=
  Iri.admits_of_isAbsolute (of_faultUnless_eq_none h)

/-- What is written after the closing quote of a literal. -/
def Literal.suffix (literal : Literal) : String :=
  match literal.language, literal.datatype with
  | some language, _ => "@" ++ language
  | none, some datatype => "^^<" ++ datatype ++ ">"
  | none, none => ""

theorem Literal.toList_text (literal : Literal) :
    literal.text.toList =
      '"' :: (literal.lexical.toList.flatMap NTriples.escapeChar ++
        '"' :: literal.suffix.toList) := by
  have htext : literal.text =
      "\"" ++ NTriples.escape literal.lexical ++ "\"" ++ literal.suffix := rfl
  rw [htext]
  simp [NTriples.escape, String.toList_append]

/-- The text of a term begins with the mark of its kind. -/
theorem Term.exists_text_eq_cons (term : Term) :
    ∃ c more, term.text.toList = c :: more ∧ (c = '<' ∨ c = '_' ∨ c = '"' ∨ c = '?') := by
  cases term with
  | iri text => exact ⟨'<', text.toList ++ ['>'], by simp [Term.text], .inl rfl⟩
  | blank label => exact ⟨'_', ':' :: label.toList, by simp [Term.text], .inr (.inl rfl)⟩
  | literal content => exact ⟨'"', _, content.toList_text, .inr (.inr (.inl rfl))⟩
  | «variable» name => exact ⟨'?', name.toList, by simp [Term.text], .inr (.inr (.inr rfl))⟩

/-! ## What a term shows -/

/-- The literal as its text shows it: a datatype beside a language tag is not written. -/
def Literal.shown (literal : Literal) : Literal :=
  if literal.language.isSome then { literal with datatype := none } else literal

def Term.shown : Term → Term
  | .literal content => .literal content.shown
  | term => term

/-! ## Where a term ends -/

section Stops

variable {α : Type} {stops : α → Bool} {text other rest more : List α}

/-- Two texts without a stop are the same when they are followed by stops and make up the same
text with what follows them. -/
theorem append_inj_of_stops (htext : ∀ c ∈ text, stops c = false)
    (hother : ∀ c ∈ other, stops c = false) (hrest : ∀ c ∈ rest.head?, stops c = true)
    (hmore : ∀ c ∈ more.head?, stops c = true) (h : text ++ rest = other ++ more) :
    text = other ∧ rest = more := by
  induction text generalizing other with
  | nil =>
    cases other with
    | nil => exact ⟨rfl, h⟩
    | cons d other =>
      -- what follows the first text begins inside the other one, where nothing stops
      rw [List.nil_append, List.cons_append] at h
      rw [h] at hrest
      have hstops := hrest d rfl
      rw [hother d List.mem_cons_self] at hstops
      cases hstops
  | cons c text ih =>
    cases other with
    | nil =>
      rw [List.nil_append, List.cons_append] at h
      rw [← h] at hmore
      have hstops := hmore c rfl
      rw [htext c List.mem_cons_self] at hstops
      cases hstops
    | cons d other =>
      obtain ⟨hc, h⟩ := List.cons.inj h
      obtain ⟨htext', hrest'⟩ := ih (fun e he => htext e (List.mem_cons_of_mem c he))
        (fun e he => hother e (List.mem_cons_of_mem d he)) h
      exact ⟨by rw [hc, htext'], hrest'⟩

/-- The same with one mark that is written after both. -/
theorem append_inj_of_mark [DecidableEq α] {mark : α} (htext : mark ∉ text) (hother : mark ∉ other)
    (h : text ++ mark :: rest = other ++ mark :: more) : text = other ∧ rest = more := by
  let stops := fun c : α => c == mark
  have hstops {text : List α} (hmark : mark ∉ text) : ∀ c ∈ text, stops c = false := by
    intro c hc
    refine beq_eq_false_iff_ne.mpr ?_
    rintro rfl
    exact hmark hc
  have hmark : stops mark = true := beq_self_eq_true mark
  obtain ⟨he, hrest⟩ := append_inj_of_stops (hstops htext) (hstops hother)
    (by simpa using hmark) (by simpa using hmark) h
  exact ⟨he, (List.cons.inj hrest).2⟩

end Stops

namespace Sparql

/-- A space or a line break. -/
def isBreak (c : Char) : Bool := c == ' ' || c == '\n'

/-- Nothing follows, or a space or a line break does. -/
def Breaks (rest : List Char) : Prop := ∀ c ∈ rest.head?, isBreak c = true

theorem breaks_space (rest : List Char) : Breaks (' ' :: rest) := by
  intro c hc
  cases hc
  rfl

theorem breaks_line (rest : List Char) : Breaks ('\n' :: rest) := by
  intro c hc
  cases hc
  rfl

theorem breaks_nil : Breaks [] := by
  intro c hc
  cases hc

end Sparql

open Sparql

section

variable {rest more : List Char}

theorem beq_eq_false_of_class {p : Char → Bool} {c d : Char} (hc : p c = true)
    (hd : p d = false) : (c == d) = false := by
  rw [beq_eq_false_iff_ne]
  rintro rfl
  rw [hd] at hc
  cases hc

theorem isBreak_eq_false_of_forall {p : Char → Bool} (hspace : p ' ' = false)
    (hline : p '\n' = false) {text : List Char} (h : ∀ c ∈ text, p c = true) :
    ∀ c ∈ text, isBreak c = false := by
  intro c hc
  have hp := h c hc
  rw [isBreak, beq_eq_false_of_class hp hspace, beq_eq_false_of_class hp hline]
  rfl

theorem isBreak_blankLabel {label : String} (h : (PlacedText.blankLabel label).fault? = none) :
    ∀ c ∈ label.toList, isBreak c = false := by
  have hlabel := Name.forall_of_isBlankLabel (of_faultUnless_eq_none h)
  exact isBreak_eq_false_of_forall (p := fun c => Name.isNameChar c || c == '.') (by decide)
    (by decide) fun c hc => by simpa using hlabel c hc

theorem isBreak_variableName {name : String} (h : (PlacedText.variableName name).fault? = none) :
    ∀ c ∈ name.toList, isBreak c = false :=
  isBreak_eq_false_of_forall (by decide) (by decide)
    (Name.forall_of_isVariableName (of_faultUnless_eq_none h))

theorem isBreak_languageTag {tag : String} (h : (PlacedText.languageTag tag).fault? = none) :
    ∀ c ∈ tag.toList, isBreak c = false :=
  isBreak_eq_false_of_forall (by decide) (by decide)
    (Name.forall_of_isLanguageTag (of_faultUnless_eq_none h))

theorem close_not_mem_iri {iri : String} (h : iriFault? iri = none) : '>' ∉ iri.toList := by
  intro hmem
  exact absurd (admits_of_iriFault? h '>' hmem) (by decide)

theorem iri_append_inj {text other : String} (htext : iriFault? text = none)
    (hother : iriFault? other = none)
    (h : text.toList ++ '>' :: rest = other.toList ++ '>' :: more) :
    text = other ∧ rest = more := by
  obtain ⟨he, hrest⟩ :=
    append_inj_of_mark (close_not_mem_iri htext) (close_not_mem_iri hother) h
  exact ⟨String.toList_inj.mp he, hrest⟩

/-- A text in quotes is known again, whatever follows its closing quote. -/
theorem quoted_append_inj {text other : List Char}
    (h : text.flatMap NTriples.escapeChar ++ '"' :: rest =
      other.flatMap NTriples.escapeChar ++ '"' :: more) : text = other ∧ rest = more := by
  have hread := congrArg (Token.stringText (.short '"') ∘ List.map some) h
  simp only [Function.comp_apply, List.map_append, List.map_cons, Token.stringText_escape,
    Option.some.injEq, Prod.mk.injEq] at hread
  exact ⟨hread.1, (List.map_inj_right fun _ _ => Option.some.inj).mp hread.2⟩

theorem not_breaks {c : Char} (hc : isBreak c = false) {text : List Char}
    (h : rest = c :: text) : ¬ Breaks rest := by
  subst h
  intro hbreaks
  have := hbreaks c rfl
  rw [hc] at this
  cases this

theorem Literal.suffix_append_inj {literal other : Literal}
    (hl : ∀ text ∈ literal.texts, text.fault? = none)
    (ho : ∀ text ∈ other.texts, text.fault? = none) (hrest : Breaks rest) (hmore : Breaks more)
    (h : literal.suffix.toList ++ rest = other.suffix.toList ++ more) :
    literal.shown.datatype = other.shown.datatype ∧ literal.language = other.language ∧
      rest = more := by
  obtain ⟨lexical, datatype, language⟩ := literal
  obtain ⟨lexical', datatype', language'⟩ := other
  cases language with
  | some tag =>
    have htag := hl (.languageTag tag) (List.mem_append_right _ List.mem_cons_self)
    cases language' with
    | some tag' =>
      have htag' := ho (.languageTag tag') (List.mem_append_right _ List.mem_cons_self)
      simp only [suffix, String.toList_append, List.append_assoc, List.append_cancel_left_eq] at h
      obtain ⟨he, hr⟩ := append_inj_of_stops (isBreak_languageTag htag)
        (isBreak_languageTag htag') hrest hmore h
      exact ⟨rfl, congrArg some (String.toList_inj.mp he), hr⟩
    | none =>
      cases datatype' with
      | some iri' => simp [suffix] at h
      | none =>
        exact absurd hmore (not_breaks (c := '@') (by decide) (by simpa [suffix] using h.symm))
  | none =>
    cases language' with
    | some tag' =>
      cases datatype with
      | some iri => simp [suffix] at h
      | none =>
        exact absurd hrest (not_breaks (c := '@') (by decide) (by simpa [suffix] using h))
    | none =>
      cases datatype with
      | some iri =>
        cases datatype' with
        | some iri' =>
          have hiri := hl (.iri iri) List.mem_cons_self
          have hiri' := ho (.iri iri') List.mem_cons_self
          simp only [suffix, String.toList_append, List.append_assoc,
            List.append_cancel_left_eq] at h
          obtain ⟨rfl, hr⟩ := iri_append_inj hiri hiri' h
          exact ⟨rfl, rfl, hr⟩
        | none =>
          exact absurd hmore (not_breaks (c := '^') (by decide) (by simpa [suffix] using h.symm))
      | none =>
        cases datatype' with
        | some iri' =>
          exact absurd hrest (not_breaks (c := '^') (by decide) (by simpa [suffix] using h))
        | none => exact ⟨rfl, rfl, by simpa [suffix] using h⟩

theorem Literal.shown_eq {literal other : Literal} (hlexical : literal.lexical = other.lexical)
    (hdatatype : literal.shown.datatype = other.shown.datatype)
    (hlanguage : literal.language = other.language) : literal.shown = other.shown := by
  obtain ⟨lexical, datatype, language⟩ := literal
  obtain ⟨lexical', datatype', language'⟩ := other
  cases hlexical
  cases hlanguage
  cases language with
  | some tag => rfl
  | none =>
    cases hdatatype
    rfl

/-- **The text of a term is known again** before a break. -/
theorem Term.text_append_inj {term other : Term} (ht : ∀ text ∈ term.texts, text.fault? = none)
    (ho : ∀ text ∈ other.texts, text.fault? = none) (hrest : Breaks rest) (hmore : Breaks more)
    (h : term.text.toList ++ rest = other.text.toList ++ more) :
    term.shown = other.shown ∧ rest = more := by
  cases term with
  | iri iri =>
    cases other with
    | iri iri' =>
      have hiri := ht (.iri iri) List.mem_cons_self
      have hiri' := ho (.iri iri') List.mem_cons_self
      simp only [text, String.toList_append, List.append_assoc, List.append_cancel_left_eq] at h
      obtain ⟨rfl, hr⟩ := iri_append_inj hiri hiri' h
      exact ⟨rfl, hr⟩
    | blank _ | «variable» _ => simp [text] at h
    | literal content => simp [text, content.toList_text] at h
  | blank label =>
    cases other with
    | blank label' =>
      have hlabel := isBreak_blankLabel (ht (.blankLabel label) List.mem_cons_self)
      have hlabel' := isBreak_blankLabel (ho (.blankLabel label') List.mem_cons_self)
      simp only [text, String.toList_append, List.append_assoc, List.append_cancel_left_eq] at h
      obtain ⟨he, hr⟩ := append_inj_of_stops hlabel hlabel' hrest hmore h
      exact ⟨congrArg Term.blank (String.toList_inj.mp he), hr⟩
    | iri _ | «variable» _ => simp [text] at h
    | literal content => simp [text, content.toList_text] at h
  | «variable» name =>
    cases other with
    | «variable» name' =>
      have hname := isBreak_variableName (ht (.variableName name) List.mem_cons_self)
      have hname' := isBreak_variableName (ho (.variableName name') List.mem_cons_self)
      simp only [text, String.toList_append, List.append_assoc, List.append_cancel_left_eq] at h
      obtain ⟨he, hr⟩ := append_inj_of_stops hname hname' hrest hmore h
      exact ⟨congrArg Term.variable (String.toList_inj.mp he), hr⟩
    | iri _ | blank _ => simp [text] at h
    | literal content => simp [text, content.toList_text] at h
  | literal content =>
    cases other with
    | literal content' =>
      simp only [text, Literal.toList_text, List.cons_append, List.append_assoc,
        List.cons.injEq, true_and] at h
      obtain ⟨hlexical, hsuffix⟩ := quoted_append_inj h
      obtain ⟨hdatatype, hlanguage, hr⟩ := Literal.suffix_append_inj ht ho hrest hmore hsuffix
      have hshown := Literal.shown_eq (String.toList_inj.mp hlexical) hdatatype hlanguage
      exact ⟨congrArg Term.literal hshown, hr⟩
    | iri _ | blank _ | «variable» _ => simp [text, content.toList_text] at h

end

end RdfGateway
