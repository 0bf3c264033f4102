import RdfGateway.Proofs.NTriplesRoundTrip
import RdfGateway.Proofs.TermPositions

/-!
# The grammar of N-Triples

N-Triples as a language over characters, production by production, without comments. What a graph
is written as belongs to it exactly when the graph keeps the rules of documents
(`Graph.toNTriples_mem_document_iff`), but for the rule that a literal has no datatype beside a
language tag, because such a datatype is not written. Without one the graph is known again from its
text (`Graph.eq_of_toNTriples`).

Proof. The line breaks of a document are those between its statements, so the lines are taken apart
as they were put together (`Grammar.lines_mem_document_iff`). In a line, a subject and a predicate
are known again by their first character and their end, and of an object the first character and
what stands behind the closing quote are known (`Grammar.statementLine_mem_iff`).
-/

namespace RdfGateway

open Text Sparql
open scoped Computability

/-! ## Productions -/

namespace NTriples.Grammar

/-- `UCHAR`. -/
def codePoint : Language Char :=
  exactly ['\\', 'u'] * oneOf Iri.isHexDigit ^ 4 + exactly ['\\', 'U'] * oneOf Iri.isHexDigit ^ 8

/-- `IRIREF`. -/
def iriRef : Language Char :=
  exactly ['<'] * ((oneOf iriEnclosure.admits + codePoint)∗ * exactly ['>'])

/-- `PN_CHARS_U` and the digits. -/
def labelStarts : CharRanges := nameStarts ++ [(0x3A, 0x3A)]

/-- `PN_CHARS`. -/
def labelChars : CharRanges := pnChars ++ [(0x3A, 0x3A)]

/-- `BLANK_NODE_LABEL`. -/
def blankNodeLabel : Language Char :=
  exactly ['_', ':'] * (oneOf labelStarts.has *
    (1 + (oneOf labelChars.has + exactly ['.'])∗ * oneOf labelChars.has))

def subject : Language Char := iriRef + blankNodeLabel

def predicate : Language Char := iriRef

def object : Language Char := subject + quotedLiteral (escapedChar + codePoint) iriRef

def isSpace (c : Char) : Bool := c == ' ' || c == '\t'

/-- Spaces and tabs. -/
def space : Language Char := (oneOf isSpace)∗

/-- `triple`. -/
def triple : Language Char :=
  space * (subject * (space * (predicate * (space * (object * (space *
    (exactly ['.'] * space)))))))

def isLineEnd (c : Char) : Bool := c == '\n' || c == '\r'

/-- `EOL`. -/
def lineEnd : Language Char := someOf isLineEnd

/-- `ntriplesDoc`. -/
def document : Language Char := (1 + triple) * ((lineEnd * triple)∗ * (1 + lineEnd))

/-! ## Lines -/

theorem avoids_codePoint {marks : List Char}
    (hmarks : (marks.all fun mark => !(['\\', 'u', 'U'].contains mark)) = true)
    (hdigits : marks.all (!Iri.isHexDigit ·) = true) : Avoids marks codePoint := by
  have hsign {sign : Char} (hsign : sign ∈ ['u', 'U']) : Avoids marks (exactly ['\\', sign]) := by
    refine .exactly (List.all_eq_true.mpr fun mark hm => ?_)
    have hfree := List.all_eq_true.mp hmarks mark hm
    simp only [List.mem_cons, List.not_mem_nil, or_false] at hsign
    rcases hsign with rfl | rfl
    all_goals simp_all
  exact ((hsign (by simp)).mul ((Avoids.oneOf hdigits).pow 4)).add
    ((hsign (by simp)).mul ((Avoids.oneOf hdigits).pow 8))

/-- No line break stands in a statement. -/
theorem avoids_triple : Avoids ['\n', '\r'] triple := by
  have hcode : Avoids ['\n', '\r'] codePoint := avoids_codePoint rfl rfl
  have hiri : Avoids ['\n', '\r'] iriRef :=
    (Avoids.exactly rfl).mul (((Avoids.oneOf rfl).add hcode).kstar.mul (.exactly rfl))
  have hblank : Avoids ['\n', '\r'] blankNodeLabel :=
    (Avoids.exactly rfl).mul ((Avoids.oneOf rfl).mul
      (Avoids.one.add (((Avoids.oneOf rfl).add (.exactly rfl)).kstar.mul (.oneOf rfl))))
  have hsubject : Avoids ['\n', '\r'] subject := hiri.add hblank
  have hescapes : Avoids ['\n', '\r'] (escapedChar + codePoint) :=
    ((Avoids.exactly rfl).mul (.oneOf rfl)).add hcode
  have htag : Avoids ['\n', '\r'] Terminal.langTag.language :=
    (Avoids.exactly rfl).mul ((Avoids.someOf rfl).mul
      ((Avoids.exactly rfl).mul (.someOf rfl)).kstar)
  have hliteral : Avoids ['\n', '\r'] (quotedLiteral (escapedChar + codePoint) iriRef) :=
    ((Avoids.exactly rfl).mul (((Avoids.oneOf rfl).add hescapes).kstar.mul (.exactly rfl))).mul
      (Avoids.one.add (htag.add ((Avoids.exactly rfl).mul hiri)))
  have hspace : Avoids ['\n', '\r'] space := (Avoids.oneOf rfl).kstar
  exact hspace.mul (hsubject.mul (hspace.mul (hiri.mul (hspace.mul
    ((hsubject.add hliteral).mul (hspace.mul ((Avoids.exactly rfl).mul hspace)))))))

/-- Between line breaks the text has statements or nothing. -/
def HasLines (text : List Char) : Prop := ∀ piece ∈ text.splitOnP isLineEnd, piece ∈ 1 + triple

variable {text other : List Char}

theorem hasLines_of_mem (h : text ∈ 1 + triple) : HasLines text := by
  have hfree : ∀ c ∈ text, isLineEnd c = false := by
    intro c hc
    have hmarks : c ∉ ['\n', '\r'] := by
      rcases h with rfl | h
      · cases hc
      · exact avoids_triple text h c hc
    simpa [isLineEnd] using hmarks
  rw [HasLines, List.splitOnP_eq_singleton hfree]
  exact List.forall_mem_singleton.mpr h

theorem HasLines.append_cons {c : Char} (htext : HasLines text) (hc : isLineEnd c = true)
    (hother : HasLines other) : HasLines (text ++ c :: other) := by
  rw [HasLines, List.splitOnP_append_cons _ _ hc, List.forall_mem_append]
  exact ⟨htext, hother⟩

theorem HasLines.append_lineEnd {mark : List Char} (htext : HasLines text) (hmark : mark ∈ lineEnd)
    (hother : HasLines other) : HasLines (text ++ (mark ++ other)) := by
  obtain ⟨hne, hends⟩ := mem_someOf_iff.mp hmark
  induction mark generalizing text with
  | nil => exact absurd rfl hne
  | cons c mark ih =>
    obtain ⟨hc, hends⟩ := List.forall_mem_cons.mp hends
    refine htext.append_cons hc ?_
    cases mark with
    | nil => exact hother
    | cons d mark =>
      have hnil : HasLines [] := hasLines_of_mem (.inl rfl)
      exact ih hnil (mem_someOf_iff.mpr ⟨List.cons_ne_nil d mark, hends⟩)
        (List.cons_ne_nil d mark) hends

theorem hasLines_of_mem_document (h : text ∈ document) : HasLines text := by
  obtain ⟨front, hfront, _, ⟨_, ⟨parts, rfl, hparts⟩, last, hlast, rfl⟩, rfl⟩ := h
  have hlines := hasLines_of_mem hfront
  clear hfront
  induction parts generalizing front with
  | nil =>
    rcases hlast with rfl | hlast
    · simpa using hlines
    · have hnil : HasLines [] := hasLines_of_mem (.inl rfl)
      simpa using hlines.append_lineEnd hlast hnil
  | cons part parts ih =>
    obtain ⟨⟨mark, hmark, statement, hstatement, rfl⟩, hlater⟩ := List.forall_mem_cons.mp hparts
    have hnext := hlines.append_lineEnd hmark (hasLines_of_mem (.inr hstatement))
    simpa using ih _ hlater hnext

variable {lines : List (List Char)}

/-- The break behind a line may be counted to the next line. -/
theorem flatMap_line_cons (line : List Char) (lines : List (List Char)) :
    ((line :: lines).flatMap fun line => line ++ ['\n']) =
      line ++ ((lines.map fun line => '\n' :: line).flatten ++ ['\n']) := by
  induction lines generalizing line with
  | nil => simp
  | cons next lines ih =>
    rw [List.flatMap_cons, ih next]
    simp

/-- **Lines make up a document exactly when each of them is a statement.** -/
theorem lines_mem_document_iff
    (hlines : ∀ line ∈ lines, line ≠ [] ∧ ∀ c ∈ line, isLineEnd c = false) :
    (lines.flatMap fun line => line ++ ['\n']) ∈ document ↔ ∀ line ∈ lines, line ∈ triple := by
  constructor
  · intro h line hline
    have hpieces : (lines.flatMap fun line => line ++ ['\n']).splitOnP isLineEnd =
        lines ++ [[]] := by
      clear h hline
      induction lines with
      | nil => rfl
      | cons line lines ih =>
        obtain ⟨⟨-, hfree⟩, hlines⟩ := List.forall_mem_cons.mp hlines
        rw [List.flatMap_cons, List.append_assoc, List.singleton_append,
          List.splitOnP_append_cons _ _ rfl, ih hlines, List.splitOnP_eq_singleton hfree]
        rfl
    have hpiece := hasLines_of_mem_document h line
      (by rw [hpieces]; exact List.mem_append_left _ hline)
    exact hpiece.resolve_left (hlines line hline).1
  · intro h
    cases lines with
    | nil => exact ⟨[], .inl rfl, [], ⟨[], Language.nil_mem_kstar _, [], .inl rfl, rfl⟩, rfl⟩
    | cons line lines =>
      obtain ⟨hfirst, hrest⟩ := List.forall_mem_cons.mp h
      have hends : ['\n'] ∈ lineEnd := mem_someOf_iff.mpr ⟨by simp, by simp [isLineEnd]⟩
      have hparts : (lines.map fun line => '\n' :: line).flatten ∈ (lineEnd * triple)∗ :=
        Language.join_mem_kstar (List.forall_mem_map.mpr fun line hline =>
          Language.append_mem_mul hends (hrest line hline))
      have hlast : (lines.map fun line => '\n' :: line).flatten ++ ['\n'] ∈
          (lineEnd * triple)∗ * (1 + lineEnd) := Language.append_mem_mul hparts (.inr hends)
      rw [flatMap_line_cons]
      exact Language.append_mem_mul (.inr hfirst) hlast

/-! ## Terms -/

theorem iriRef_le : Terminal.iriRef.language ≤ iriRef :=
  mul_le_mul' le_rfl (mul_le_mul' (kstar_mono le_self_add) le_rfl)

theorem oneOf_append_le (ranges others : CharRanges) :
    oneOf ranges.has ≤ oneOf (CharRanges.has (ranges ++ others)) := by
  rintro _ ⟨c, rfl, hc⟩
  exact ⟨c, rfl, by rw [CharRanges.has_append, hc, Bool.true_or]⟩

theorem blankNodeLabel_le : Terminal.blankNodeLabel.language ≤ blankNodeLabel := by
  have hchars : oneOf pnChars.has ≤ oneOf labelChars.has := oneOf_append_le _ _
  have hend : nameEnd ≤ 1 + (oneOf labelChars.has + exactly ['.'])∗ * oneOf labelChars.has :=
    add_le_add le_rfl (mul_le_mul' (kstar_mono (add_le_add hchars le_rfl)) hchars)
  exact mul_le_mul' le_rfl (mul_le_mul' (oneOf_append_le _ _) hend)

/-! ### Where a term ends -/

/-- An IRI ends at its closing bracket. -/
theorem exists_iriRef_eq (h : text ∈ iriRef) : ∃ body, text = '<' :: (body ++ ['>']) ∧ '>' ∉ body := by
  obtain ⟨_, rfl, _, ⟨body, hbody, _, rfl, rfl⟩, rfl⟩ := h
  have hfree : Avoids ['>'] (oneOf iriEnclosure.admits + codePoint)∗ :=
    ((Avoids.oneOf rfl).add (avoids_codePoint rfl rfl)).kstar
  exact ⟨body, rfl, fun hmem => hfree body hbody '>' hmem List.mem_cons_self⟩

/-- The label of a blank node ends before a blank or the bracket of an IRI. -/
theorem exists_blankNodeLabel_eq (h : text ∈ blankNodeLabel) :
    ∃ body, text = '_' :: body ∧ ∀ c ∈ body, c ∉ [' ', '\t', '<'] := by
  obtain ⟨_, rfl, label, hlabel, rfl⟩ := h
  have hfree : Avoids [' ', '\t', '<'] (exactly [':'] * (oneOf labelStarts.has *
      (1 + (oneOf labelChars.has + exactly ['.'])∗ * oneOf labelChars.has))) :=
    (Avoids.exactly rfl).mul ((Avoids.oneOf rfl).mul
      (Avoids.one.add (((Avoids.oneOf rfl).add (.exactly rfl)).kstar.mul (.oneOf rfl))))
  exact ⟨':' :: label, rfl, hfree _ (append_mem_exactly_mul.mpr hlabel)⟩

variable {rest more : List Char}

theorem iriRef_append_inj (htext : text ∈ iriRef) (hother : other ∈ iriRef)
    (h : text ++ rest = other ++ more) : rest = more := by
  obtain ⟨body, rfl, hbody⟩ := exists_iriRef_eq htext
  obtain ⟨body', rfl, hbody'⟩ := exists_iriRef_eq hother
  simp only [List.cons_append, List.append_assoc, List.cons.injEq, true_and] at h
  exact (append_inj_of_mark hbody hbody' h).2

/-- Two texts without the marks are the same when each is followed by one of these. -/
theorem append_inj_of_marks {marks : List Char} (htext : ∀ c ∈ text, c ∉ marks)
    (hother : ∀ c ∈ other, c ∉ marks) (hrest : ∀ c ∈ rest.head?, c ∈ marks)
    (hmore : ∀ c ∈ more.head?, c ∈ marks) (h : text ++ rest = other ++ more) :
    text = other ∧ rest = more := by
  have hfree {text : List Char} (h : ∀ c ∈ text, c ∉ marks) :
      ∀ c ∈ text, marks.contains c = false := fun c hc => by simpa using h c hc
  exact append_inj_of_stops (hfree htext) (hfree hother)
    (fun c hc => List.contains_iff_mem.mpr (hrest c hc))
    (fun c hc => List.contains_iff_mem.mpr (hmore c hc)) h

theorem subject_append_inj (htext : text ∈ subject) (hother : other ∈ subject)
    (hrest : ∀ c ∈ rest.head?, c ∈ [' ', '\t', '<']) (hmore : ∀ c ∈ more.head?, c ∈ [' ', '\t', '<'])
    (h : text ++ rest = other ++ more) : rest = more := by
  rcases htext with htext | htext
  · rcases hother with hother | hother
    · exact iriRef_append_inj htext hother h
    · obtain ⟨body, rfl, -⟩ := exists_iriRef_eq htext
      obtain ⟨body', rfl, -⟩ := exists_blankNodeLabel_eq hother
      cases h
  · obtain ⟨body, rfl, hbody⟩ := exists_blankNodeLabel_eq htext
    rcases hother with hother | hother
    · obtain ⟨body', rfl, -⟩ := exists_iriRef_eq hother
      cases h
    · obtain ⟨body', rfl, hbody'⟩ := exists_blankNodeLabel_eq hother
      exact (append_inj_of_marks hbody hbody' hrest hmore (List.cons.inj h).2).2

theorem space_append_inj (htext : text ∈ space) (hother : other ∈ space)
    (hrest : ∀ c ∈ rest.head?, isSpace c = false) (hmore : ∀ c ∈ more.head?, isSpace c = false)
    (h : text ++ rest = other ++ more) : rest = more := by
  have hspaces {text : List Char} (h : text ∈ space) : ∀ c ∈ text, (!isSpace c) = false :=
    fun c hc => by rw [mem_kstar_oneOf.mp h c hc, Bool.not_true]
  exact (append_inj_of_stops (hspaces htext) (hspaces hother)
    (fun c hc => by rw [hrest c hc, Bool.not_false])
    (fun c hc => by rw [hmore c hc, Bool.not_false]) h).2

/-- Behind blanks stands what follows them, or one of the blanks does. -/
theorem head_space_append {marks : List Char} (htext : text ∈ space)
    (hrest : ∀ c ∈ rest.head?, c ∈ marks) : ∀ c ∈ (text ++ rest).head?, c ∈ ' ' :: '\t' :: marks := by
  cases text with
  | nil => exact fun c hc => List.mem_cons_of_mem _ (List.mem_cons_of_mem _ (hrest c hc))
  | cons d text =>
    rintro _ ⟨⟩
    have hd := mem_kstar_oneOf.mp htext d List.mem_cons_self
    rw [isSpace, Bool.or_eq_true, beq_iff_eq, beq_iff_eq] at hd
    rcases hd with rfl | rfl
    · exact List.mem_cons_self
    · exact List.mem_cons_of_mem _ List.mem_cons_self

theorem head_iriRef (h : text ∈ iriRef) : ∀ c ∈ (text ++ rest).head?, c ∈ ['<'] := by
  obtain ⟨body, rfl, -⟩ := exists_iriRef_eq h
  rintro _ ⟨⟩
  exact List.mem_cons_self

theorem exists_object_eq_cons (h : text ∈ object) :
    ∃ c body, text = c :: body ∧ (c = '<' ∨ c = '_' ∨ c = '"') := by
  rcases h with (h | h) | ⟨_, ⟨_, rfl, body, -, rfl⟩, ending, -, rfl⟩
  · obtain ⟨body, rfl, -⟩ := exists_iriRef_eq h
    exact ⟨'<', _, rfl, .inl rfl⟩
  · obtain ⟨body, rfl, -⟩ := exists_blankNodeLabel_eq h
    exact ⟨'_', _, rfl, .inr (.inl rfl)⟩
  · exact ⟨'"', _, rfl, .inr (.inr rfl)⟩

/-! ### Terms in their places -/

section
variable {term : Term}

theorem isResource_of_append (htext : text ∈ subject)
    (h : text ++ rest = term.text.toList ++ more) : term.isResource = true := by
  cases term with
  | iri | blank => rfl
  | literal content =>
    rw [Term.text, content.toList_text] at h
    rcases htext with htext | htext
    · obtain ⟨body, rfl, -⟩ := exists_iriRef_eq htext
      cases h
    · obtain ⟨body, rfl, -⟩ := exists_blankNodeLabel_eq htext
      cases h
  | «variable» name =>
    obtain ⟨c, body, rfl, hc⟩ := exists_object_eq_cons (.inl htext)
    rw [Term.text, String.toList_append] at h
    obtain rfl : c = '?' := (List.cons.inj h).1
    simp at hc

theorem isIri_of_append (htext : text ∈ iriRef) (h : text ++ rest = term.text.toList ++ more) :
    term.isIri = true := by
  obtain ⟨body, rfl, -⟩ := exists_iriRef_eq htext
  cases term with
  | iri => rfl
  | blank label | «variable» name => simp [Term.text] at h
  | literal content => simp [Term.text, content.toList_text] at h

theorem isVariable_of_append (htext : text ∈ object) (h : text ++ rest = term.text.toList ++ more) :
    term.isVariable = false := by
  obtain ⟨c, body, rfl, hc⟩ := exists_object_eq_cons htext
  cases term with
  | iri | blank | literal => rfl
  | «variable» name =>
    rw [Term.text, String.toList_append] at h
    obtain rfl : c = '?' := (List.cons.inj h).1
    simp at hc

/-- Blanks end where a term begins. -/
theorem append_text_inj {blanks others : List Char} (hblanks : blanks ∈ space)
    (hothers : others ∈ space) (htext : text ∈ object)
    (h : blanks ++ (text ++ rest) = others ++ (term.text.toList ++ more)) :
    text ++ rest = term.text.toList ++ more := by
  obtain ⟨c, body, rfl, hc⟩ := exists_object_eq_cons htext
  obtain ⟨d, body', htext', hd⟩ := term.exists_text_eq_cons
  rw [htext'] at h ⊢
  refine space_append_inj hblanks hothers ?_ ?_ h
  · rintro _ ⟨⟩
    rcases hc with rfl | rfl | rfl
    all_goals rfl
  · rintro _ ⟨⟩
    rcases hd with rfl | rfl | rfl | rfl
    all_goals rfl

variable (hsound : ∀ text ∈ term.texts, text.fault? = none)
include hsound

theorem text_mem_iriRef (h : term.isIri = true) : term.text.toList ∈ iriRef := by
  cases term with
  | iri text => exact iriRef_le (reads_iri breaks_nil (hsound (.iri text) List.mem_cons_self)).1
  | blank | literal | «variable» => cases h

theorem text_mem_subject (h : term.isResource = true) : term.text.toList ∈ subject := by
  cases term with
  | iri text => exact .inl (text_mem_iriRef hsound rfl)
  | blank label =>
    have hmem := (reads_blank breaks_nil (hsound (.blankLabel label) List.mem_cons_self)).1
    exact .inr (blankNodeLabel_le hmem)
  | literal | «variable» => cases h

theorem text_mem_object (h : term.isVariable = false)
    (htag : ∀ text ∈ term.texts, text.hasPlainTag = true) : term.text.toList ∈ object := by
  cases term with
  | iri | blank => exact .inl (text_mem_subject hsound rfl)
  | literal content => exact .inr (content.mem_quotedLiteral le_self_add iriRef_le hsound htag)
  | «variable» => cases h

end

/-! ### What stands behind a string -/

/-- A tag behind a string, before blanks and a dot, is one of the grammar. -/
theorem tag_mem_langTag {tag : List Char} (htag : ∀ c ∈ tag, Name.isTagChar c = true)
    (htext : text ∈ literalEnd iriRef) (hrest : ∀ c ∈ rest.head?, c ∈ [' ', '\t', '.'])
    (h : text ++ rest = '@' :: (tag ++ [' ', '.'])) : '@' :: tag ∈ Terminal.langTag.language := by
  rcases htext with rfl | htext | ⟨_, rfl, iri, -, rfl⟩
  · rw [List.nil_append] at h
    simp [h] at hrest
  · have hfree : Avoids [' ', '\t', '.'] Terminal.langTag.language :=
      (Avoids.exactly rfl).mul ((Avoids.someOf rfl).mul
        ((Avoids.exactly rfl).mul (.someOf rfl)).kstar)
    have htag' : ∀ c ∈ '@' :: tag, c ∉ [' ', '\t', '.'] :=
      List.forall_mem_cons.mpr ⟨by decide, fun c hc => not_mem_of_class (by decide) (htag c hc)⟩
    obtain ⟨rfl, -⟩ := append_inj_of_marks (hfree text htext) htag' hrest (by simp)
      (h.trans (List.cons_append ..).symm)
    exact htext
  · cases h

theorem passedOver_codePoint : PassedOver codePoint := by
  have hdigit : PassedOver (oneOf Iri.isHexDigit) := by
    refine .oneOf fun c hc => ?_
    have hfree : c ∉ ['"', '\\', '\n', '\r'] := not_mem_of_class (by decide) hc
    simpa [isStringChar] using hfree
  have hsign (sign : Char) : PassedOver (exactly ['\\', sign]) :=
    .escape _ fun _ hpart => ⟨sign, hpart⟩
  exact ((hsign 'u').mul (hdigit.pow 4)).add ((hsign 'U').mul (hdigit.pow 8))

theorem hasPlainTag_of_append_literal {literal : Literal}
    (hsound : ∀ text ∈ literal.texts, text.fault? = none) (htext : text ∈ object)
    (hrest : ∀ c ∈ rest.head?, c ∈ [' ', '\t', '.'])
    (h : text ++ rest = literal.text.toList ++ [' ', '.']) :
    ∀ text ∈ literal.texts, text.hasPlainTag = true := by
  rw [literal.toList_text] at h
  obtain ⟨_, ⟨_, rfl, _, ⟨body, hbody, _, rfl, rfl⟩, rfl⟩, ending, hending, rfl⟩ :
      text ∈ quotedLiteral (escapedChar + codePoint) iriRef := by
    rcases htext with (htext | htext) | htext
    · obtain ⟨_, rfl, -⟩ := exists_iriRef_eq htext
      cases h
    · obtain ⟨_, rfl, -⟩ := exists_blankNodeLabel_eq htext
      cases h
    · exact htext
  simp only [List.cons_append, List.append_assoc, List.nil_append, List.cons.injEq, true_and] at h
  obtain ⟨-, hsuffix⟩ := stringBody_append_inj (PassedOver.escapedChar.add passedOver_codePoint)
    hbody (escape_mem_stringBody le_self_add _) h
  intro text ht
  rcases List.mem_append.mp ht with hdatatype | hlanguage
  · obtain ⟨iri, -, rfl⟩ := List.mem_map.mp hdatatype
    rfl
  · obtain ⟨tag, htag, rfl⟩ := List.mem_map.mp hlanguage
    have htext : literal.suffix.toList = '@' :: tag.toList := by
      rw [Literal.suffix, Option.mem_toList.mp htag]
      simp
    have hform := of_faultUnless_eq_none (hsound _ ht)
    rw [PlacedText.hasPlainTag, ← Name.langTag_iff hform]
    exact tag_mem_langTag (Name.forall_of_isLanguageTag hform) hending hrest
      (by rwa [htext] at hsuffix)

theorem hasPlainTag_of_isResource {term : Term} (h : term.isResource = true) :
    ∀ text ∈ term.texts, text.hasPlainTag = true := by
  cases term with
  | iri | blank => exact List.forall_mem_singleton.mpr rfl
  | literal | «variable» => cases h

/-- Of an object that is a literal with a tag, the tag is one of the grammar. -/
theorem hasPlainTag_of_append {term : Term} (hsound : ∀ text ∈ term.texts, text.fault? = none)
    (htext : text ∈ object) (hrest : ∀ c ∈ rest.head?, c ∈ [' ', '\t', '.'])
    (h : text ++ rest = term.text.toList ++ [' ', '.']) :
    ∀ text ∈ term.texts, text.hasPlainTag = true := by
  cases term with
  | iri | blank | «variable» => exact List.forall_mem_singleton.mpr rfl
  | literal content => exact hasPlainTag_of_append_literal hsound htext hrest h

/-! ## Statements -/

section
variable {statement : Triple}

theorem statementLine_eq (statement : Triple) :
    statementLine statement =
      statement.subject.text.toList ++ ' ' :: (statement.predicate.text.toList ++ ' ' ::
        (statement.object.text.toList ++ [' ', '.'])) := by
  simp [statementLine, Triple.text]

section
variable (hsound : ∀ text ∈ statement.texts, text.fault? = none)
include hsound

theorem statementLine_mem_triple
    (h : ∀ rule : GraphRule, rule ≠ .literal → statement.keeps rule = true) :
    statementLine statement ∈ triple := by
  rw [Triple.texts, List.forall_mem_append, List.forall_mem_append] at hsound
  obtain ⟨⟨hs, hp⟩, ho⟩ := hsound
  have hvariable : statement.object.isVariable = false := by
    simpa [Triple.keeps] using h .object (by decide)
  have htags : ∀ text ∈ statement.object.texts, text.hasPlainTag = true := fun text ht =>
    List.all_eq_true.mp (h .languageTag (by decide)) text (List.mem_append_right _ ht)
  have hsubject := text_mem_subject hs (h .subject (by decide))
  have hpredicate := text_mem_iriRef hp (h .predicate (by decide))
  have hobject := text_mem_object ho hvariable htags
  have hblank : [' '] ∈ space := mem_kstar_oneOf.mpr (List.forall_mem_singleton.mpr rfl)
  have hnil : [] ∈ space := Language.nil_mem_kstar _
  have hend : [' '] ++ (['.'] ++ []) ∈ space * (exactly ['.'] * space) :=
    Language.append_mem_mul hblank (append_mem_exactly_mul.mpr hnil)
  have hline := Language.append_mem_mul hnil (Language.append_mem_mul hsubject
    (Language.append_mem_mul hblank (Language.append_mem_mul hpredicate
      (Language.append_mem_mul hblank (Language.append_mem_mul hobject hend)))))
  simpa [triple, predicate, statementLine_eq] using hline

theorem keeps_of_statementLine_mem (h : statementLine statement ∈ triple) :
    ∀ rule : GraphRule, rule ≠ .literal → statement.keeps rule = true := by
  rw [Triple.texts, List.forall_mem_append, List.forall_mem_append] at hsound
  obtain ⟨⟨hs, hp⟩, ho⟩ := hsound
  rw [statementLine_eq] at h
  obtain ⟨blanks, hblanks, _, ⟨first, hfirst, _, ⟨blanks', hblanks', _, ⟨second, hsecond, _,
    ⟨blanks'', hblanks'', _, ⟨third, hthird, tail, htail, rfl⟩, rfl⟩, rfl⟩, rfl⟩, rfl⟩, h⟩ := h
  have hnil : [] ∈ space := Language.nil_mem_kstar _
  have hblank : [' '] ∈ space := mem_kstar_oneOf.mpr (List.forall_mem_singleton.mpr rfl)
  -- from the front of the line on, what is left of it is the same on both sides
  have hrest := append_text_inj hblanks hnil (.inl hfirst) h
  have hsubject := isResource_of_append hfirst hrest
  have hrest := subject_append_inj hfirst (text_mem_subject hs hsubject)
    (head_space_append hblanks' (head_iriRef hsecond)) (by simp) hrest
  have hrest := append_text_inj hblanks' hblank (.inl (.inl hsecond)) hrest
  have hpredicate := isIri_of_append hsecond hrest
  have hrest := iriRef_append_inj hsecond (text_mem_iriRef hp hpredicate) hrest
  have hrest := append_text_inj hblanks'' hblank hthird hrest
  have hobject := isVariable_of_append hthird hrest
  obtain ⟨blanks, hblanks, _, ⟨_, rfl, ending, -, rfl⟩, rfl⟩ := htail
  have htag := hasPlainTag_of_append ho hthird (head_space_append hblanks (by simp)) hrest
  intro rule hrule
  cases rule with
  | subject => exact hsubject
  | predicate => exact hpredicate
  | object => rw [Triple.keeps, hobject, Bool.not_false]
  | literal => exact absurd rfl hrule
  | languageTag =>
    have hiri : statement.predicate.isResource = true := by
      cases hterm : statement.predicate with
      | iri | blank => rfl
      | literal | «variable» =>
        rw [hterm] at hpredicate
        cases hpredicate
    rw [Triple.keeps, List.all_eq_true, Triple.texts, List.forall_mem_append,
      List.forall_mem_append]
    exact ⟨⟨hasPlainTag_of_isResource hsubject, hasPlainTag_of_isResource hiri⟩, htag⟩

end

/-- **The line of a statement is one of the grammar exactly when the statement keeps the rules** of
documents, but for a datatype beside a language tag, which the line does not show. -/
theorem statementLine_mem_iff (hsound : ∀ text ∈ statement.texts, text.fault? = none) :
    statementLine statement ∈ triple ↔
      ∀ rule : GraphRule, rule ≠ .literal → statement.keeps rule = true :=
  ⟨keeps_of_statementLine_mem hsound, statementLine_mem_triple hsound⟩

end

end NTriples.Grammar

/-! ## Graphs -/

open NTriples

/-- **What a graph is written as is a document exactly when the graph keeps the rules** of
documents, but for a datatype beside a language tag. -/
theorem Graph.toNTriples_mem_document_iff {graph : Graph}
    (hsound : ∀ triple ∈ graph.triples, ∀ text ∈ triple.texts, text.fault? = none) :
    graph.toNTriples.toList ∈ Grammar.document ↔
      ∀ rule : GraphRule, rule ≠ .literal → graph.keeps rule = true := by
  have hlines : ∀ line ∈ graph.triples.map statementLine,
      line ≠ [] ∧ ∀ c ∈ line, Grammar.isLineEnd c = false := by
    rw [List.forall_mem_map]
    refine fun triple ht => ⟨by simp [Grammar.statementLine_eq], fun c hc => ?_⟩
    rw [Grammar.isLineEnd, Bool.or_eq_false_iff, beq_eq_false_iff_ne, beq_eq_false_iff_ne]
    exact ⟨fun hline => mark_not_mem_statementLine (.inl hline) (hsound triple ht) hc,
      fun hreturn => mark_not_mem_statementLine (.inr hreturn) (hsound triple ht) hc⟩
  rw [graph.toList_toNTriples, Grammar.lines_mem_document_iff hlines, List.forall_mem_map]
  simp only [keeps, List.all_eq_true]
  constructor
  · exact fun h rule hrule triple ht =>
      (Grammar.statementLine_mem_iff (hsound triple ht)).mp (h triple ht) rule hrule
  · exact fun h triple ht =>
      (Grammar.statementLine_mem_iff (hsound triple ht)).mpr fun rule hrule => h rule hrule triple ht

theorem Term.shown_of_isSingle {term : Term} (h : term.isSingle = true) : term.shown = term := by
  cases term with
  | iri | blank | «variable» => rfl
  | literal content =>
    obtain ⟨lexical, datatype, language⟩ := content
    cases language with
    | none => rfl
    | some tag =>
      cases datatype with
      | none => rfl
      | some iri => cases h

theorem Triple.shown_of_isSingle {triple : Triple} (h : triple.isSingle = true) :
    triple.shown = triple := by
  rw [isSingle, Bool.and_eq_true, Bool.and_eq_true] at h
  obtain ⟨⟨hsubject, hpredicate⟩, hobject⟩ := h
  rw [shown, Term.shown_of_isSingle hsubject, Term.shown_of_isSingle hpredicate,
    Term.shown_of_isSingle hobject]

theorem Triple.shown_of_statementLine {triple other : Triple}
    (htriple : ∀ text ∈ triple.texts, text.fault? = none)
    (hother : ∀ text ∈ other.texts, text.fault? = none)
    (h : statementLine triple = statementLine other) : triple.shown = other.shown := by
  rw [texts, List.forall_mem_append, List.forall_mem_append] at htriple hother
  rw [Grammar.statementLine_eq, Grammar.statementLine_eq] at h
  obtain ⟨⟨hs, hp⟩, ho⟩ := htriple
  obtain ⟨⟨hs', hp'⟩, ho'⟩ := hother
  obtain ⟨hsubject, hrest⟩ := Term.text_append_inj hs hs' (breaks_space _) (breaks_space _) h
  obtain ⟨hpredicate, hrest⟩ := Term.text_append_inj hp hp' (breaks_space _) (breaks_space _)
    (List.cons.inj hrest).2
  obtain ⟨hobject, -⟩ := Term.text_append_inj ho ho' (breaks_space _) (breaks_space _)
    (List.cons.inj hrest).2
  rw [shown, shown, hsubject, hpredicate, hobject]

/-- The texts of the statement are sound, and no literal in it has a datatype beside a language
tag. -/
structure Triple.IsShown (triple : Triple) : Prop where
  sound : ∀ text ∈ triple.texts, text.fault? = none
  single : triple.isSingle = true

theorem Triple.eq_of_map_statementLine {triples others : List Triple}
    (htriples : ∀ triple ∈ triples, triple.IsShown) (hothers : ∀ triple ∈ others, triple.IsShown)
    (h : triples.map statementLine = others.map statementLine) : triples = others := by
  induction triples generalizing others with
  | nil => exact (List.map_eq_nil_iff.mp h.symm).symm
  | cons triple triples ih =>
    cases others with
    | nil => cases h
    | cons other others =>
      obtain ⟨hline, hlines⟩ := List.cons.inj h
      obtain ⟨htriple, htriples⟩ := List.forall_mem_cons.mp htriples
      obtain ⟨hother, hothers⟩ := List.forall_mem_cons.mp hothers
      have hshown := shown_of_statementLine htriple.sound hother.sound hline
      rw [shown_of_isSingle htriple.single, shown_of_isSingle hother.single] at hshown
      rw [hshown, ih htriples hothers hlines]

/-- **A graph is known again from its text** when no literal has a datatype beside a language tag. -/
theorem Graph.eq_of_toNTriples {graph other : Graph}
    (hgraph : ∀ triple ∈ graph.triples, triple.IsShown)
    (hother : ∀ triple ∈ other.triples, triple.IsShown)
    (h : graph.toNTriples = other.toNTriples) : graph = other := by
  have hlines := lines_toNTriples fun triple ht => (hgraph triple ht).sound
  rw [h, lines_toNTriples fun triple ht => (hother triple ht).sound] at hlines
  exact ext (Triple.eq_of_map_statementLine hgraph hother
    (List.append_cancel_right hlines).symm)

end RdfGateway
