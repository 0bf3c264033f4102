import RdfGateway.Proofs.IriPaths

/-!
# What may follow a slash of an IRI

A slash may stand behind every absolute IRI (`isAbsoluteText_slash`), and what may follow a slash
depends on nothing but the part of the IRI that the slash stands in (`SlashPlace`,
`isAbsoluteText_append_slash`). Five places are told apart: directly behind the colon of the scheme
an authority may still begin, behind two slashes an address in brackets may follow, and then there
are the path, the query and the fragment. What may follow a slash in one place may follow it in
another one exactly when the places fit (`SlashPlace.fits_iff`): a fragment allows least, a path
fits everywhere but in a fragment, and the three other places fit only themselves.

Proof. A slash is no digit of a percent triplet, and an address in brackets has none, so the text is
divided at the slash whatever part it belongs to. For places that do not fit, one short text may
follow here and not there (`SlashPlace.sample`).
-/

namespace RdfGateway

open Text

namespace Text

variable {α : Type} [DecidableEq α] {mark c : α} {front text : List α}

theorem cut_of_not_mem (h : mark ∉ text) : cut mark text = (text, none) :=
  cut_eq_none_iff.mpr ⟨rfl, h⟩

theorem cut_append_other (hfront : mark ∉ front) (hc : mark ≠ c) (text : List α) :
    cut mark (front ++ c :: text) = (front ++ c :: (cut mark text).1, (cut mark text).2) := by
  rw [cut_append_of_not_mem hfront, cut, if_neg hc.symm]

end Text

namespace Iri

variable {ok other : Char → Bool} {front text path : List Char}

theorem encodes_mono (h : ∀ c ∈ text, ok c = true → other c = true)
    (hok : encodes ok text = true) : encodes other text = true := by
  fun_induction encodes ok text with
  | case1 => rfl
  | case2 a b text ih =>
    simp only [Bool.and_eq_true] at hok
    have htext := ih (fun c hc => h c (by simp [hc])) hok.2
    simp only [encodes, hok.1.1, hok.1.2, htext, Bool.and_self]
  | case3 c text hc ih =>
    simp only [Bool.and_eq_true, bne_iff_ne, ne_eq] at hok
    obtain ⟨hhead, htail⟩ := List.forall_mem_cons.mp h
    rw [encodes_cons_of_ne hok.1.1, hhead hok.1.2, ih htail hok.2, Bool.and_self]

theorem encodes_slash (h : encodes ok text = true) (hok : ok '/' = true) :
    encodes ok (text ++ ['/']) = true := by
  rw [encodes_append_slash, h, hok]
  rfl

/-! ## Behind the scheme -/

/-- The path behind the slash of a host in brackets may be exchanged. -/
theorem isBracketHost_of_slash (hok : encodes isPathChar path = true)
    (h : isBracketHost (front ++ '/' :: text) = true) :
    isBracketHost (front ++ '/' :: path) = true := by
  obtain ⟨host, htext⟩ := isBracketHost_iff.mp h
  obtain ⟨more, hfront, hmore⟩ := host.exists_path_eq htext
  have hpath := host.path_ok
  rw [hmore, encodes_append_slash, Bool.and_eq_true] at hpath
  have hhead : ∀ c ∈ (more ++ '/' :: path).head?, c = '/' := by
    intro c hc
    refine host.path_head c ?_
    rw [hmore]
    cases more <;> exact hc
  have hnew : encodes isPathChar (more ++ '/' :: path) = true := by
    rw [encodes_append_slash, hpath.1, hok]
    rfl
  refine isBracketHost_iff.mpr ⟨{ host with
    path := more ++ '/' :: path, path_ok := hnew, path_head := hhead }, ?_⟩
  simp [BracketHost.toText, BracketHost.authority, hfront]

theorem isHierarchy_of_path (h : encodes isPathChar text = true) : isHierarchy text = true := by
  rw [isHierarchy, h, Bool.true_or]

theorem isBracketHost_slash (h : isBracketHost text = true) :
    isBracketHost (text ++ ['/']) = true := by
  obtain ⟨host, rfl⟩ := isBracketHost_iff.mp h
  have hhead : ∀ c ∈ (host.path ++ ['/']).head?, c = '/' := by
    have hold := host.path_head
    cases hpath : host.path with
    | nil => simp
    | cons c rest => rwa [hpath] at hold
  refine isBracketHost_iff.mpr ⟨{ host with
    path := host.path ++ ['/'], path_ok := encodes_slash host.path_ok rfl, path_head := hhead }, ?_⟩
  simp [BracketHost.toText, BracketHost.authority]

theorem isHierarchy_slash (h : isHierarchy text = true) : isHierarchy (text ++ ['/']) = true := by
  rw [isHierarchy, Bool.or_eq_true] at h
  rcases h with h | h
  · exact isHierarchy_of_path (encodes_slash h rfl)
  · cases hhost : rest? ['/', '/'] text with
    | none => rw [hhost] at h; cases h
    | some host =>
      rw [hhost] at h
      rw [rest?_eq_some_iff.mp hhost]
      simp [isHierarchy, rest?, isBracketHost_slash h]

theorem isPath_append_slash : encodes isPathChar (front ++ '/' :: path) =
    (encodes isPathChar (front ++ ['/']) && encodes isPathChar path) := by
  have hempty : encodes isPathChar [] = true := rfl
  rw [encodes_append_slash, encodes_append_slash, hempty, Bool.and_true, Bool.and_assoc]

theorem isBracketHost_append_slash : isBracketHost (front ++ '/' :: path) =
    (isBracketHost (front ++ ['/']) && encodes isPathChar path) := by
  rw [Bool.eq_iff_iff, Bool.and_eq_true]
  constructor
  · exact fun h => ⟨isBracketHost_of_slash rfl h, encodes_of_isBracketHost h⟩
  · exact fun h => isBracketHost_of_slash h.2 h.1

/-- Behind a slash that is neither of the two before an authority stands a path. -/
theorem isHierarchy_append_slash (hopening : front ≠ []) (hauthority : front ≠ ['/']) :
    isHierarchy (front ++ '/' :: path) =
      (isHierarchy (front ++ ['/']) && encodes isPathChar path) := by
  by_cases hslashes : ∃ before, front = '/' :: '/' :: before
  · obtain ⟨before, rfl⟩ := hslashes
    have hhost (text : List Char) :
        rest? ['/', '/'] ('/' :: '/' :: before ++ text) = some (before ++ text) :=
      rest?_eq_some_iff.mpr rfl
    rw [isHierarchy, isHierarchy, hhost, hhost, isPath_append_slash, Bool.and_or_distrib_right]
    exact congrArg _ isBracketHost_append_slash
  · have hhost (text : List Char) : rest? ['/', '/'] (front ++ '/' :: text) = none := by
      rw [Option.eq_none_iff_forall_ne_some]
      intro host h
      rw [rest?_eq_some_iff] at h
      rcases front with _ | ⟨c, _ | ⟨d, before⟩⟩
      · exact hopening rfl
      · obtain ⟨rfl, -⟩ := List.cons.inj h
        exact hauthority rfl
      · simp only [List.cons_append, List.nil_append, List.cons.injEq] at h
        obtain ⟨rfl, rfl, -⟩ := h
        exact hslashes ⟨before, rfl⟩
    rw [isHierarchy, isHierarchy, hhost, hhost, isPath_append_slash, Bool.or_false, Bool.or_false]

/-! ## The places of a slash -/

/-- Where a slash of an absolute IRI stands. -/
inductive SlashPlace where
  /-- Directly behind the colon of the scheme. -/
  | opening
  /-- Behind the colon and another slash. -/
  | authority
  | path
  | query
  | fragment
  deriving DecidableEq

/-- A path, and behind it a query and a fragment. -/
def isPathOn (text : List Char) : Bool :=
  let (before, fragment) := cut '#' text
  let (path, query) := cut '?' before
  encodes isPathChar path && query.all (encodes isQueryChar) && fragment.all (encodes isFragmentChar)

/-- A query, and behind it a fragment. -/
def isQueryOn (text : List Char) : Bool :=
  let (query, fragment) := cut '#' text
  encodes isQueryChar query && fragment.all (encodes isFragmentChar)

/-- What may follow a slash in the place. -/
def SlashPlace.follows : SlashPlace → List Char → Bool
  | .opening, text => isSchemeSpecific ('/' :: text)
  | .authority, text => isSchemeSpecific ('/' :: '/' :: text)
  | .path, text => isPathOn text
  | .query, text => isQueryOn text
  | .fragment, text => encodes isFragmentChar text

/-- The place of a slash behind a text that follows the scheme and its colon. -/
def slashPlace (front : List Char) : SlashPlace :=
  if '#' ∈ front then .fragment
  else if '?' ∈ front then .query
  else if front = [] then .opening
  else if front = ['/'] then .authority
  else .path

theorem isSchemeSpecific_fragment {before fragment : List Char} (h : '#' ∉ before) :
    isSchemeSpecific (before ++ '#' :: fragment) =
      (isSchemeSpecific before && encodes isFragmentChar fragment) := by
  simp [isSchemeSpecific, cut_append_cons h, cut_of_not_mem h]

theorem isSchemeSpecific_query {hierarchy : List Char} (hmark : '#' ∉ hierarchy)
    (hquery : '?' ∉ hierarchy) (text : List Char) :
    isSchemeSpecific (hierarchy ++ '?' :: text) = (isHierarchy hierarchy && isQueryOn text) := by
  have hcut := cut_append_other hmark (show '#' ≠ '?' by decide) text
  simp [isSchemeSpecific, isQueryOn, hcut, cut_append_cons hquery, Bool.and_assoc]

theorem isQueryOn_append_slash (h : '#' ∉ front) :
    isQueryOn (front ++ '/' :: text) = (encodes isQueryChar front && isQueryOn text) := by
  have hcut := cut_append_other h (show '#' ≠ '/' by decide) text
  have hslash : isQueryChar '/' = true := rfl
  simp [isQueryOn, hcut, encodes_append_slash, hslash, Bool.and_assoc]

theorem isSchemeSpecific_path (hmark : '#' ∉ front) (hquery : '?' ∉ front)
    (hopening : front ≠ []) (hauthority : front ≠ ['/']) :
    isSchemeSpecific (front ++ '/' :: text) =
      (isHierarchy (front ++ ['/']) && isPathOn text) := by
  simp only [isSchemeSpecific, isPathOn, cut_append_other hmark (show '#' ≠ '/' by decide),
    cut_append_other hquery (show '?' ≠ '/' by decide)]
  rw [isHierarchy_append_slash hopening hauthority]
  simp only [Bool.and_assoc]

/-- **What may follow a slash depends on its place alone.** -/
theorem isSchemeSpecific_append_slash : isSchemeSpecific (front ++ '/' :: text) =
    (isSchemeSpecific (front ++ ['/']) && (slashPlace front).follows text) := by
  by_cases hmark : '#' ∈ front
  · obtain ⟨before, fragment, rfl, hbefore⟩ := List.eq_append_cons_of_mem hmark
    have hslash : isFragmentChar '/' = true := rfl
    have hempty : encodes isFragmentChar [] = true := rfl
    rw [slashPlace, if_pos hmark, SlashPlace.follows, List.append_assoc, List.append_assoc,
      List.cons_append, List.cons_append, isSchemeSpecific_fragment hbefore,
      isSchemeSpecific_fragment hbefore, encodes_append_slash, encodes_append_slash, hslash, hempty,
      Bool.true_and, Bool.and_true, Bool.and_true, Bool.and_assoc]
  by_cases hquery : '?' ∈ front
  · obtain ⟨hierarchy, query, rfl, hhierarchy⟩ := List.eq_append_cons_of_mem hquery
    have hmarks : '#' ∉ hierarchy ∧ '#' ∉ query := by simpa using hmark
    have hempty : isQueryOn [] = true := rfl
    rw [slashPlace, if_neg hmark, if_pos hquery, SlashPlace.follows, List.append_assoc,
      List.append_assoc, List.cons_append, List.cons_append,
      isSchemeSpecific_query hmarks.1 hhierarchy, isSchemeSpecific_query hmarks.1 hhierarchy,
      isQueryOn_append_slash hmarks.2, isQueryOn_append_slash hmarks.2, hempty, Bool.and_true,
      Bool.and_assoc]
  by_cases hopening : front = []
  · subst hopening
    rfl
  by_cases hauthority : front = ['/']
  · subst hauthority
    rfl
  have hempty : isPathOn [] = true := rfl
  rw [slashPlace, if_neg hmark, if_neg hquery, if_neg hopening, if_neg hauthority,
    SlashPlace.follows, isSchemeSpecific_path hmark hquery hopening hauthority,
    isSchemeSpecific_path hmark hquery hopening hauthority, hempty, Bool.and_true]

/-- A slash may stand behind whatever follows the scheme. -/
theorem isSchemeSpecific_slash (h : isSchemeSpecific text = true) :
    isSchemeSpecific (text ++ ['/']) = true := by
  have hfragment : isFragmentChar '/' = true := rfl
  by_cases hmark : '#' ∈ text
  · obtain ⟨before, fragment, rfl, hbefore⟩ := List.eq_append_cons_of_mem hmark
    rw [isSchemeSpecific_fragment hbefore, Bool.and_eq_true] at h
    rw [List.append_assoc, List.cons_append, isSchemeSpecific_fragment hbefore, h.1,
      encodes_append_slash, h.2, hfragment]
    rfl
  by_cases hquery : '?' ∈ text
  · obtain ⟨hierarchy, query, rfl, hhierarchy⟩ := List.eq_append_cons_of_mem hquery
    have hmarks : '#' ∉ hierarchy ∧ '#' ∉ query := by simpa using hmark
    rw [isSchemeSpecific_query hmarks.1 hhierarchy, Bool.and_eq_true, isQueryOn,
      cut_of_not_mem hmarks.2] at h
    rw [List.append_assoc, List.cons_append, isSchemeSpecific_query hmarks.1 hhierarchy, h.1,
      isQueryOn_append_slash hmarks.2]
    have hempty : isQueryOn [] = true := rfl
    simpa [hempty] using h.2
  · simp only [isSchemeSpecific, cut_of_not_mem hmark, cut_of_not_mem hquery, Option.all_none,
      Bool.and_true] at h
    have hmark' : '#' ∉ text ++ ['/'] := by simp [hmark]
    have hquery' : '?' ∉ text ++ ['/'] := by simp [hquery]
    simp only [isSchemeSpecific, cut_of_not_mem hmark', cut_of_not_mem hquery', Option.all_none,
      Bool.and_true]
    exact isHierarchy_slash h

/-! ## Places that fit -/

/-- Whatever may follow a slash here may follow a slash there. -/
def SlashPlace.fits : SlashPlace → SlashPlace → Bool
  | .fragment, _ => true
  | .path, there => there != .fragment
  | here, there => here == there

/-- A text that may follow a slash in the place, and only where the place fits. -/
def SlashPlace.sample : SlashPlace → List Char
  | .opening => "/[::1]".toList
  | .authority => "[::1]".toList
  | .path => "#".toList
  | .query => [Char.ofNat 0xE000]
  | .fragment => []

namespace SlashPlace

variable {here there : SlashPlace}

theorem follows_sample (h : here.fits there = false) :
    here.follows here.sample = true ∧ there.follows here.sample = false := by
  cases here <;> cases there <;> revert h <;> decide +kernel

theorem encodes_query_of_path (h : encodes isPathChar text = true) :
    encodes isQueryChar text = true :=
  encodes_mono (fun c _ hc => by simp [isQueryChar, hc]) h

theorem encodes_query_of_fragment (h : encodes isFragmentChar text = true) :
    encodes isQueryChar text = true := by
  refine encodes_mono (fun c _ hc => ?_) h
  rw [isFragmentChar] at hc
  rw [isQueryChar, hc, Bool.true_or]

theorem encodes_path_of_fragment (hquery : '?' ∉ text) (h : encodes isFragmentChar text = true) :
    encodes isPathChar text = true := by
  refine encodes_mono (fun c hc hchar => ?_) h
  rw [isFragmentChar, Bool.or_eq_true, beq_iff_eq] at hchar
  exact hchar.resolve_right fun he => hquery (he ▸ hc)

/-- What may stand in a fragment may be read as a path and a query. -/
theorem isPathOn_of_fragment (h : encodes isFragmentChar text = true) : isPathOn text = true := by
  have hmark : '#' ∉ text := by
    intro hmem
    have hclass := forall_of_encodes h '#' hmem
    revert hclass
    decide
  by_cases hquery : '?' ∈ text
  · obtain ⟨path, query, rfl, hpath⟩ := List.eq_append_cons_of_mem hquery
    rw [encodes_append_cons (by decide) (by decide), Bool.and_eq_true, Bool.and_eq_true] at h
    simp [isPathOn, cut_of_not_mem hmark, cut_append_cons hpath, encodes_path_of_fragment hpath h.1,
      encodes_query_of_fragment h.2.2]
  · simp [isPathOn, cut_of_not_mem hmark, cut_of_not_mem hquery, encodes_path_of_fragment hquery h]

/-- A path with its query may stand in a query. -/
theorem isQueryOn_of_path (h : isPathOn text = true) : isQueryOn text = true := by
  simp only [isPathOn, Bool.and_eq_true] at h
  obtain ⟨⟨hpath, hquery⟩, hfragment⟩ := h
  rw [isQueryOn, Bool.and_eq_true]
  refine ⟨?_, hfragment⟩
  cases hcut : cut '?' (cut '#' text).1 with
  | mk path query =>
    rw [hcut] at hpath hquery
    cases query with
    | none =>
      rw [← (cut_eq_none_iff.mp hcut).1]
      exact encodes_query_of_path hpath
    | some query =>
      rw [(cut_eq_some_iff.mp hcut).1, encodes_append_cons (by decide) (by decide),
        encodes_query_of_path hpath]
      exact hquery

/-- A path may stand behind the slashes before an authority. -/
theorem isSchemeSpecific_of_path (front : List Char) (hmark : '#' ∉ front) (hquery : '?' ∉ front)
    (hfront : ∀ path, encodes isPathChar path = true → encodes isPathChar (front ++ path) = true)
    (h : isPathOn text = true) : isSchemeSpecific (front ++ text) = true := by
  simp only [isPathOn, Bool.and_eq_true] at h
  simp only [isSchemeSpecific, cut_append_of_not_mem hmark, cut_append_of_not_mem hquery,
    Bool.and_eq_true]
  exact ⟨⟨isHierarchy_of_path (hfront _ h.1.1), h.1.2⟩, h.2⟩

theorem follows_of_path (hplace : there ≠ .fragment) (h : isPathOn text = true) :
    there.follows text = true := by
  cases there with
  | opening =>
    exact isSchemeSpecific_of_path ['/'] (by decide) (by decide) (fun _ h => h) h
  | authority =>
    exact isSchemeSpecific_of_path ['/', '/'] (by decide) (by decide) (fun _ h => h) h
  | path => exact h
  | query => exact isQueryOn_of_path h
  | fragment => exact absurd rfl hplace

/-- **What may follow a slash here may follow one there, exactly when the places fit.** -/
theorem fits_iff : here.fits there = true ↔
    ∀ text, here.follows text = true → there.follows text = true := by
  constructor
  · intro h text htext
    cases here with
    | fragment =>
      by_cases hplace : there = .fragment
      · subst hplace
        exact htext
      · exact follows_of_path hplace (isPathOn_of_fragment htext)
    | path => exact follows_of_path (bne_iff_ne.mp h) htext
    | opening | authority | query =>
      obtain rfl := beq_iff_eq.mp h
      exact htext
  · intro h
    by_contra hfits
    rw [Bool.not_eq_true] at hfits
    obtain ⟨hhere, hthere⟩ := follows_sample hfits
    rw [h _ hhere] at hthere
    cases hthere

end SlashPlace

/-! ## Absolute IRIs -/

theorem isAbsoluteText_iff : isAbsoluteText text = true ↔ ∃ scheme rest,
    text = scheme ++ ':' :: rest ∧ isScheme scheme = true ∧ isSchemeSpecific rest = true := by
  constructor
  · intro h
    unfold isAbsoluteText at h
    split at h
    · rename_i scheme rest hcut
      rw [Bool.and_eq_true] at h
      exact ⟨scheme, rest, (cut_eq_some_iff.mp hcut).1, h⟩
    · cases h
  · rintro ⟨scheme, rest, rfl, hscheme, hrest⟩
    rw [isAbsoluteText_append hscheme, hrest]

/-- The place of a slash behind an absolute IRI. -/
def placeBehind (text : List Char) : SlashPlace := slashPlace ((cut ':' text).2.getD [])

/-- **A slash may stand behind every absolute IRI.** -/
theorem isAbsoluteText_slash (h : isAbsoluteText text = true) :
    isAbsoluteText (text ++ ['/']) = true := by
  obtain ⟨scheme, rest, rfl, hscheme, hrest⟩ := isAbsoluteText_iff.mp h
  rw [List.append_assoc, List.cons_append, isAbsoluteText_append hscheme]
  exact isSchemeSpecific_slash hrest

/-- The slashes of an absolute IRI stand behind its scheme. -/
theorem exists_scheme_of_append_slash (h : isAbsoluteText (front ++ '/' :: text) = true) :
    ∃ scheme rest, front = scheme ++ ':' :: rest ∧ isScheme scheme = true := by
  obtain ⟨scheme, rest, hfront, hscheme, -⟩ := isAbsoluteText_iff.mp h
  have hslash : '/' ∉ scheme ++ [':'] := by simp [slash_not_mem_of_isScheme hscheme]
  have hwhole : front ++ '/' :: text = (scheme ++ [':']) ++ rest := by simp [hfront]
  obtain ⟨more, hmore, -⟩ := eq_append_of_not_mem hslash hwhole
  exact ⟨scheme, more, by simpa using hmore, hscheme⟩

/-- **An absolute IRI is divided at any of its slashes**: up to the slash it is an absolute IRI,
and what follows may follow a slash in this place. -/
theorem isAbsoluteText_append_slash : isAbsoluteText (front ++ '/' :: text) =
    (isAbsoluteText (front ++ ['/']) && (placeBehind front).follows text) := by
  by_cases h : ∃ scheme rest, front = scheme ++ ':' :: rest ∧ isScheme scheme = true
  · obtain ⟨scheme, rest, rfl, hscheme⟩ := h
    rw [placeBehind, cut_append_cons (colon_not_mem_of_isScheme hscheme), Option.getD_some,
      List.append_assoc, List.append_assoc, List.cons_append, List.cons_append,
      isAbsoluteText_append hscheme, isAbsoluteText_append hscheme]
    exact isSchemeSpecific_append_slash
  · have hnot (text : List Char) : isAbsoluteText (front ++ '/' :: text) = false :=
      Bool.eq_false_iff.mpr fun habsolute => h (exists_scheme_of_append_slash habsolute)
    rw [hnot, hnot, Bool.false_and]

end Iri

end RdfGateway
