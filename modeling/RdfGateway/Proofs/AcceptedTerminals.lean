import RdfGateway.Proofs.Terminals

/-!
# Accepted names are terminals

An IRI, a label and a variable name that are accepted belong to their terminals of SPARQL, whatever
their characters. Two checks accept more. A language tag may have digits in its first subtag, which
is a language tag of SPARQL only when it has letters alone (`langTag_iff`), and is read up to the
digit otherwise (`reads_letters_of_tag`); and a prefix label may have letters and numbers of Unicode
that no name of SPARQL has, or that may not begin one (`prefixLabel_iff`). `accepted_terminals` has all five, before a space or a line break.

Proof. The classes of the checks are the tables of the grammar (`startsName_eq` and what follows
it), but for the letters and numbers of a prefix label: every range of their tables lies in one range
of the grammar or of the characters that are left over, and no two of these meet.
-/

namespace RdfGateway

open Text Sparql
open scoped Computability

/-! ## The classes of the checks -/

namespace Name

variable {c : Char}

theorem isAlpha_iff : c.isAlpha = true ↔
    (0x41 ≤ c.toNat ∧ c.toNat ≤ 0x5A) ∨ (0x61 ≤ c.toNat ∧ c.toNat ≤ 0x7A) := by
  change (decide (0x41 ≤ c.val ∧ c.val ≤ 0x5A) ||
    (decide (0x61 ≤ c.val) && decide (c.val ≤ 0x7A))) = true ↔ _
  simp only [Bool.or_eq_true, Bool.and_eq_true, decide_eq_true_eq, UInt32.le_iff_toNat_le]
  rfl

theorem isDigit_iff : c.isDigit = true ↔ 0x30 ≤ c.toNat ∧ c.toNat ≤ 0x39 := by
  simp only [Char.isDigit, Bool.and_eq_true, decide_eq_true_eq, ge_iff_le, UInt32.le_iff_toNat_le]
  rfl

theorem startsName_eq (c : Char) : startsName c = pnCharsBase.has c := by
  rw [Bool.eq_iff_iff]
  simp only [startsName, pnCharsBase, CharRanges.has, List.any_cons, List.any_nil, Bool.or_eq_true,
    Bool.and_eq_true, decide_eq_true_eq, isAlpha_iff, Bool.or_false, or_assoc]

theorem eq_iff_toNat {d : Char} : c = d ↔ d.toNat ≤ c.toNat ∧ c.toNat ≤ d.toNat := by
  rw [← Char.toNat_inj, ge_antisymm_iff]

theorem isNameStart_eq (c : Char) : isNameStart c = nameStarts.has c := by
  rw [isNameStart, startsName_eq, nameStarts, CharRanges.has_append, Bool.or_assoc,
    Bool.eq_iff_iff]
  simp only [CharRanges.has, List.any_cons, List.any_nil, Bool.or_eq_true, Bool.and_eq_true,
    decide_eq_true_eq, isDigit_iff, Bool.or_false, beq_iff_eq, eq_iff_toNat]
  rfl

theorem isVariableChar_eq (c : Char) : isVariableChar c = varChars.has c := by
  rw [isVariableChar, isNameStart_eq, varChars, CharRanges.has_append, Bool.or_assoc,
    Bool.or_assoc, Bool.eq_iff_iff]
  simp only [CharRanges.has, List.any_cons, List.any_nil, Bool.or_eq_true, Bool.and_eq_true,
    decide_eq_true_eq, Bool.or_false, beq_iff_eq, @ge_antisymm_iff Nat]

theorem isNameChar_eq (c : Char) : isNameChar c = pnChars.has c := by
  rw [isNameChar, isVariableChar_eq, pnChars, CharRanges.has_append, Bool.eq_iff_iff]
  simp only [CharRanges.has, List.any_cons, List.any_nil, Bool.or_eq_true, Bool.and_eq_true,
    decide_eq_true_eq, Bool.or_false, beq_iff_eq, eq_iff_toNat]
  rfl

/-! ## Labels and variable names -/

variable {text label tag : List Char}

theorem forall_getLast?_cons {ok : Char → Prop} {c : Char} (hc : ok c)
    (htext : ∀ d ∈ text.getLast?, ok d) : ∀ d ∈ (c :: text).getLast?, ok d := by
  cases text with
  | nil => simpa using hc
  | cons d text => rwa [List.getLast?_cons_cons]

/-- A dot is followed by a name character, so it is not the last character. -/
theorem isNameChar_getLast? (h : isLabelTail text = true) :
    ∀ c ∈ text.getLast?, isNameChar c = true := by
  fun_induction isLabelTail text with
  | case1 => simp
  | case2 c text ih =>
    rw [Bool.and_eq_true] at h
    rw [List.getLast?_cons_cons]
    exact forall_getLast?_cons h.1 (ih h.2)
  | case3 c text hc ih =>
    rw [Bool.and_eq_true] at h
    exact forall_getLast?_cons h.1 (ih h.2)

theorem mem_nameEnd_of_isLabelTail (h : isLabelTail text = true) : text ∈ nameEnd := by
  refine mem_nameEnd_iff.mpr ⟨fun c hc => ?_, fun hlast => ?_⟩
  · rw [← isNameChar_eq]
    exact forall_of_isLabelTail h c hc
  · exact absurd (isNameChar_getLast? h '.' hlast) (by decide)

/-- **An accepted label is one of SPARQL.** -/
theorem mem_blankNodeLabel_of_isBlankLabel (h : isBlankLabel label = true) :
    '_' :: ':' :: label ∈ Terminal.blankNodeLabel.language := by
  cases label with
  | nil => cases h
  | cons c text =>
    rw [isBlankLabel, Bool.and_eq_true, isNameStart_eq] at h
    exact append_mem_exactly_mul.mpr
      (cons_mem_oneOf_mul.mpr ⟨h.1, mem_nameEnd_of_isLabelTail h.2⟩)

/-- **An accepted variable name is one of SPARQL.** -/
theorem mem_varName_of_isVariableName (h : isVariableName text = true) : text ∈ varName := by
  cases text with
  | nil => cases h
  | cons c text =>
    rw [isVariableName, Bool.and_eq_true, isNameStart_eq, List.all_eq_true] at h
    refine cons_mem_oneOf_mul.mpr ⟨h.1, mem_kstar_oneOf.mpr fun d hd => ?_⟩
    rw [← isVariableChar_eq]
    exact h.2 d hd

/-! ## Language tags -/

/-- The first subtag has letters alone. -/
def beginsWithLetters (tag : List Char) : Bool := (tag.takeWhile (· != '-')).all Char.isAlpha

theorem exists_pieces_eq {α : Type} [DecidableEq α] (mark : α) (text : List α) :
    ∃ first later, pieces mark text = first :: later ∧ mark ∉ first ∧
      text = first ++ later.flatMap (mark :: ·) := by
  induction text with
  | nil => exact ⟨[], [], rfl, List.not_mem_nil, rfl⟩
  | cons c text ih =>
    obtain ⟨first, later, hpieces, hmark, htext⟩ := ih
    rw [pieces]
    split
    · rename_i hc
      exact ⟨[], pieces mark text, rfl, List.not_mem_nil, by simp [hc, hpieces, ← htext]⟩
    · rename_i hc
      rw [hpieces]
      exact ⟨c :: first, later, rfl, by simp [hmark, Ne.symm hc], by simp [← htext]⟩

/-- The first subtag is what stands before the first hyphen. -/
theorem takeWhile_append_later {first later : List Char} (hfirst : '-' ∉ first)
    (hlater : later ∈ laterSubtags) : (first ++ later).takeWhile (· != '-') = first := by
  refine takeWhile_append_of_stop (fun c hc => ?_) fun c hc => ?_
  · rw [bne_iff_ne]
    rintro rfl
    exact hfirst hc
  · simp [head?_of_mem_laterSubtags hlater c hc]

theorem hyphen_not_mem_of_letters (h : ∀ c ∈ text, c.isAlpha = true) : '-' ∉ text :=
  fun hmem => absurd (h '-' hmem) (by decide)

/-- **An accepted language tag is one of SPARQL exactly when its first subtag has letters alone.** -/
theorem langTag_iff (h : isLanguageTag tag = true) :
    '@' :: tag ∈ Terminal.langTag.language ↔ beginsWithLetters tag = true := by
  obtain ⟨first, later, hpieces, hmark, htag⟩ := exists_pieces_eq '-' tag
  rw [isLanguageTag, Bool.and_eq_true, hpieces, List.all_cons, Bool.and_eq_true] at h
  obtain ⟨⟨hfirst, hlater⟩, -⟩ := h
  rw [mem_langTag_iff, beginsWithLetters]
  constructor
  · rintro ⟨letters, rest, rfl, -, hletters, hrest⟩
    rw [takeWhile_append_later (hyphen_not_mem_of_letters hletters) hrest]
    exact List.all_eq_true.mpr hletters
  · intro hletters
    have hmem : later.flatMap ('-' :: ·) ∈ laterSubtags := by
      refine Language.mem_kstar.mpr ⟨later.map ('-' :: ·), List.flatMap_def, ?_⟩
      intro part hpart
      obtain ⟨subtag, hsubtag, rfl⟩ := List.mem_map.mp hpart
      have hchars := List.all_eq_true.mp hlater subtag hsubtag
      simp only [Bool.and_eq_true, Bool.not_eq_true', List.isEmpty_eq_false_iff, ne_eq,
        List.all_eq_true] at hchars
      exact append_mem_exactly_mul.mpr (mem_someOf_iff.mpr hchars)
    rw [htag, takeWhile_append_later hmark hmem] at hletters
    simp only [Bool.and_eq_true, Bool.not_eq_true', List.isEmpty_eq_false_iff] at hfirst
    exact ⟨first, _, htag, hfirst.1, List.all_eq_true.mp hletters, hmem⟩

/-- A character that is no letter ends the letters at the front before the first hyphen does. -/
theorem exists_dropWhile_eq (h : beginsWithLetters tag = false) :
    ∃ d more, tag.dropWhile Char.isAlpha = d :: more ∧ d.isAlpha = false ∧ d ≠ '-' := by
  induction tag with
  | nil => cases h
  | cons c text ih =>
    by_cases hmark : c = '-'
    · subst hmark
      cases h
    · cases hletter : c.isAlpha with
      | false => exact ⟨c, text, by simp [hletter], hletter, hmark⟩
      | true =>
        rw [List.dropWhile_cons_of_pos hletter]
        exact ih (by simpa [beginsWithLetters, hmark, hletter] using h)

/-- **A tag with a digit in its first subtag is read up to the digit.** -/
theorem reads_letters_of_tag (h : isLanguageTag tag = true) (hdigit : beginsWithLetters tag = false)
    (rest : List Char) :
    Terminal.langTag.Reads ('@' :: tag.takeWhile Char.isAlpha)
      (tag.dropWhile Char.isAlpha ++ rest) := by
  rw [isLanguageTag, Bool.and_eq_true] at h
  obtain ⟨d, more, hdrop, hletter, hmark⟩ := exists_dropWhile_eq hdigit
  refine Terminal.reads_letters ?_ (fun c hc => List.mem_takeWhile_imp hc) ?_
  · cases tag with
    | nil => cases hdigit
    | cons c text =>
      have hc : c.isAlpha = true := h.2
      rw [List.takeWhile_cons_of_pos hc]
      exact List.cons_ne_nil _ _
  · rw [hdrop]
    rintro _ ⟨⟩
    exact ⟨hletter, hmark⟩

/-! ## Prefix labels -/

/-- The letters and numbers of Unicode that no name of SPARQL has. -/
def strays : CharRanges :=
  [(0xAA, 0xAA), (0xB2, 0xB3), (0xB5, 0xB5), (0xB9, 0xBA), (0xBC, 0xBE), (0x2460, 0x249B),
    (0x24B6, 0x24FF), (0x2776, 0x2793)]

/-- The letter of Unicode that a name of SPARQL may have, but not at its front. -/
def joined : CharRanges := [(0x345, 0x345)]

/-- No character is a stray, and the first one may stand at the front. -/
def isPlainLabel (label : List Char) : Bool :=
  label.all (!strays.has ·) && !label.head?.any joined.has

/-- A letter is one of SPARQL, a stray, or may not stand at the front. -/
theorem has_pnCharsBase_iff {c : Char} (h : isAlphabetic c = true) :
    pnCharsBase.has c = true ↔ strays.has c = false ∧ joined.has c = false := by
  have hwithin : alphabeticRanges.within (pnCharsBase ++ (strays ++ joined)) = true := by
    decide +kernel
  have hapart : pnCharsBase.apart (strays ++ joined) = true := by decide +kernel
  have hcover := CharRanges.has_of_within hwithin h
  rw [← Bool.or_eq_false_iff, ← CharRanges.has_append]
  refine ⟨CharRanges.not_has_of_apart hapart, fun hnot => ?_⟩
  rwa [CharRanges.has_append, hnot, Bool.or_false] at hcover

/-- A character of a prefix label is one of SPARQL or a stray. -/
theorem has_pnChars_iff {c : Char} (h : isPrefixChar c = true) :
    (pnChars.has c = true ∨ c = '.') ↔ strays.has c = false := by
  have hwithin : CharRanges.within (alphabeticRanges ++ numericRanges) (pnChars ++ strays) = true := by
    decide +kernel
  have hapart : pnChars.apart strays = true := by decide +kernel
  constructor
  · rintro (hc | rfl)
    · exact CharRanges.not_has_of_apart hapart hc
    · decide
  · intro hstray
    simp only [isPrefixChar, Bool.or_eq_true, beq_iff_eq] at h
    rcases h with ((hc | rfl) | rfl) | rfl
    · have hcover := CharRanges.has_of_within hwithin (CharRanges.has_append.trans hc)
      rw [CharRanges.has_append, hstray, Bool.or_false] at hcover
      exact .inl hcover
    · exact .inl (by decide)
    · exact .inl (by decide)
    · exact .inr rfl

/-- **An accepted prefix label is one of SPARQL exactly when it is plain.** -/
theorem prefixLabel_iff (h : isPrefixLabel label = true) :
    (label = [] ∨ label ∈ pnPrefix) ↔ isPlainLabel label = true := by
  cases label with
  | nil => simp [isPlainLabel]
  | cons c text =>
    have hchars := (forall_of_isPrefixLabel h).2
    simp only [isPrefixLabel, Bool.and_eq_true, bne_iff_ne] at h
    obtain ⟨⟨hfirst, -⟩, hlast⟩ := h
    have hfollow : text ∈ nameEnd ↔ ∀ d ∈ text, strays.has d = false := by
      rw [mem_nameEnd_iff, and_iff_left hlast]
      exact forall₂_congr fun d hd => has_pnChars_iff (hchars d (List.mem_cons_of_mem c hd))
    rw [pnPrefix, cons_mem_oneOf_mul, has_pnCharsBase_iff hfirst, hfollow]
    simp [isPlainLabel, and_assoc, and_comm]

end Name

/-! ## All names -/

section

variable {rest : List Char} (hrest : Breaks rest)
include hrest

theorem reads_iri {iri : String} (h : iriFault? iri = none) :
    Terminal.iriRef.Reads (Term.iri iri).text.toList rest := by
  have htext : (Term.iri iri).text.toList = '<' :: (iri.toList ++ ['>']) := by
    simp [Term.text, String.toList_append]
  rw [htext, Terminal.reads_iff hrest]
  exact mem_iriRef_iff.mpr (admits_of_iriFault? h)

theorem reads_blank {label : String} (h : (Term.blank label).fault? = none) :
    Terminal.blankNodeLabel.Reads (Term.blank label).text.toList rest := by
  have htext : (Term.blank label).text.toList = '_' :: ':' :: label.toList := by
    simp [Term.text, String.toList_append]
  rw [htext, Terminal.reads_iff hrest]
  exact Name.mem_blankNodeLabel_of_isBlankLabel (of_faultUnless_eq_none h)

theorem reads_variable {name : String} (h : name.toList ∈ varName) :
    Terminal.var1.Reads (Term.variable name).text.toList rest := by
  have htext : (Term.variable name).text.toList = ['?'] ++ name.toList := by
    simp [Term.text, String.toList_append]
  rw [htext, Terminal.reads_iff hrest]
  exact append_mem_exactly_mul.mpr h

theorem reads_tag_iff {literal : Literal} {tag : String} (htag : literal.language = some tag)
    (h : (Term.literal literal).fault? = none) :
    Terminal.langTag.Reads ('@' :: tag.toList) rest ↔ Name.beginsWithLetters tag.toList = true := by
  rw [Terminal.reads_iff hrest]
  rw [Term.fault?_eq, firstFault?_eq_none_iff] at h
  refine Name.langTag_iff (of_faultUnless_eq_none (h (.languageTag tag) ?_))
  exact List.mem_append_right _ (by simp [htag])

end

/-- A declared label that the check of a prologue has let through. -/
theorem isPrefixLabel_of_prologueFault? {base : Option String} {prefixes : List PrefixDecl}
    (h : prologueFault? base prefixes = none) {decl : PrefixDecl} (hdecl : decl ∈ prefixes) :
    Name.isPrefixLabel decl.label.toList = true := by
  rw [prologueFault?_eq, firstFault?_eq_none_iff] at h
  refine of_faultUnless_eq_none (h (.prefixLabel decl.label) (List.mem_append_right _ ?_))
  exact List.mem_flatMap.mpr ⟨decl, hdecl, List.mem_cons_self⟩

/-- **Accepted names are terminals of SPARQL, and are read as one token each** before a space or a
line break: IRIs, labels and variable names always, a language tag exactly when its first subtag has
letters alone, and a prefix label exactly when it is plain. -/
theorem accepted_terminals {rest : List Char} (hrest : Breaks rest) :
    (∀ iri, iriFault? iri = none → Terminal.iriRef.Reads (Term.iri iri).text.toList rest) ∧
    (∀ label, (Term.blank label).fault? = none →
      Terminal.blankNodeLabel.Reads (Term.blank label).text.toList rest) ∧
    (∀ name, (Term.variable name).fault? = none →
      name.toList ∈ varName ∧ Terminal.var1.Reads (Term.variable name).text.toList rest) ∧
    (∀ literal tag, literal.language = some tag → (Term.literal literal).fault? = none →
      (Terminal.langTag.Reads ('@' :: tag.toList) rest ↔
        Name.beginsWithLetters tag.toList = true)) ∧
    (∀ base prefixes, prologueFault? base prefixes = none → ∀ decl ∈ prefixes,
      ((decl.label = "" ∨ decl.label.toList ∈ pnPrefix) ↔
        Name.isPlainLabel decl.label.toList = true) ∧
      (Terminal.pnameNs.Reads (decl.label.toList ++ [':']) rest ↔
        Name.isPlainLabel decl.label.toList = true)) := by
  refine ⟨fun _ => reads_iri hrest, fun _ => reads_blank hrest, fun name hname => ?_,
    fun _ _ => reads_tag_iff hrest, fun base prefixes hprologue decl hdecl => ?_⟩
  · have hmem := Name.mem_varName_of_isVariableName (of_faultUnless_eq_none hname)
    exact ⟨hmem, reads_variable hrest hmem⟩
  · have hlabel := Name.prefixLabel_iff (isPrefixLabel_of_prologueFault? hprologue hdecl)
    rw [String.toList_eq_nil_iff] at hlabel
    refine ⟨hlabel, ?_⟩
    rw [Terminal.reads_iff hrest, mem_pnameNs_iff, String.toList_eq_nil_iff]
    exact hlabel

/-- A literal with a language tag of three subtags. -/
def taggedLiteral : Literal := ⟨"x", none, some "de-DE-1996"⟩

/-- A declaration of a prefix with a dot in its label. -/
def dottedPrefix : PrefixDecl := ⟨"ex.a", "http://ext/"⟩

theorem plain_terminals :
    Breaks [' '] ∧ Terminal.iriRef.Reads "<http://ext/1>".toList [' '] ∧
      Terminal.blankNodeLabel.Reads "_:b.1".toList [' '] ∧
      Terminal.var1.Reads "?1v".toList [' '] ∧
      Terminal.langTag.Reads "@de-DE-1996".toList [' '] ∧
      Terminal.pnameNs.Reads "ex.a:".toList [' '] := by
  have hrest : Breaks [' '] := by
    rintro _ ⟨⟩
    rfl
  obtain ⟨hiri, hlabel, hname, htag, hdeclared⟩ := accepted_terminals hrest
  exact ⟨hrest, hiri "http://ext/1" (by decide +kernel), hlabel "b.1" (by decide +kernel),
    (hname "1v" (by decide +kernel)).2,
    (htag taggedLiteral "de-DE-1996" rfl (by decide +kernel)).mpr (by decide +kernel),
    (hdeclared none [dottedPrefix] (by decide +kernel) dottedPrefix
      List.mem_cons_self).2.mpr (by decide +kernel)⟩

/-- **Accepted names that are no terminals**: a language tag with a digit in its first subtag, and
prefix labels with a letter or a number that no name of SPARQL has. -/
theorem accepted_without_terminal :
    ((Term.literal ⟨"x", none, some "a1"⟩).fault? = none ∧
      "@a1".toList ∉ Terminal.langTag.language) ∧
    (prologueFault? none [⟨"\u00AA", "http://ext/"⟩] = none ∧
      "\u00AA" ≠ "" ∧ "\u00AA".toList ∉ pnPrefix) ∧
    (prologueFault? none [⟨"a\u00B2", "http://ext/"⟩] = none ∧
      "a\u00B2" ≠ "" ∧ "a\u00B2".toList ∉ pnPrefix) := by
  have hlabel {label : List Char} (h : Name.isPrefixLabel label = true)
      (hstray : Name.isPlainLabel label = false) : label ∉ pnPrefix := by
    intro hmem
    rw [(Name.prefixLabel_iff h).mp (.inr hmem)] at hstray
    cases hstray
  refine ⟨⟨by decide +kernel, ?_⟩, ⟨by decide +kernel, by decide, hlabel ?_ ?_⟩,
    by decide +kernel, by decide, hlabel ?_ ?_⟩
  · exact fun hmem => absurd ((Name.langTag_iff (by decide +kernel)).mp hmem) (by decide +kernel)
  all_goals decide +kernel

end RdfGateway
