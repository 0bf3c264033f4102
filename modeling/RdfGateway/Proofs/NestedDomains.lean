import RdfGateway.Proofs.WellFormedIdentifiers

/-!
# One domain inside the other

An identifier that is mapped inwards a second time stays as it is when it lies outside the external
domain, and moves to another identifier when it lies in it, unless the mapping left it alone the first
time too (`internalize_self_iff`). Whether this can happen to an identifier is a matter of the two
domains (`Domains.isEntangled`, `identifiers_stay_iff`): it does when the root lies in the external
domain, and when the base lies below the root and the path from the root to the base may stand
below the base once more. Domains that do not begin with one another are not entangled, and
neither are a root and the root with a slash as the base.

Proof. When an identifier begins with the base, it begins with the root and with the base, so one of
the two begins with the other one (`append_eq_base_append`). If it is the base that is longer, what
it has more ends in a slash, and an absolute IRI may end at any of its slashes.
-/

namespace RdfGateway

open Iri Text

namespace Domains

variable {domains : Domains} {base root iri id path rest : String}

/-- What leads from the root, with a slash behind it, to the base. -/
def innerPath? (domains : Domains) : Option String :=
  (rest? (domains.internalRoot ++ "/").toList domains.externalBase.toList).map .ofList

/-- The root lies in the external domain; or the base lies below the root, and what leads from the
root to the base may stand below the base too. -/
def isEntangled (domains : Domains) : Bool :=
  domains.isExternal domains.internalRoot ||
    domains.innerPath?.any fun path =>
      path != "" && isAbsolute (domains.externalBase ++ path)

theorem innerPath?_eq_some_iff : domains.innerPath? = some path ↔
    domains.externalBase = domains.internalRoot ++ "/" ++ path := by
  rw [innerPath?, Option.map_eq_some_iff]
  constructor
  · rintro ⟨rest, hrest, rfl⟩
    apply String.toList_inj.mp
    simp [rest?_eq_some_iff.mp hrest, String.toList_append]
  · intro h
    refine ⟨path.toList, ?_, String.ofList_toList⟩
    rw [rest?_eq_some_iff, h, String.toList_append]

theorem isEntangled_iff : domains.isEntangled = true ↔
    domains.isExternal domains.internalRoot = true ∨
      ∃ path, domains.externalBase = domains.internalRoot ++ "/" ++ path ∧ path ≠ "" ∧
        isAbsolute (domains.externalBase ++ path) = true := by
  simp only [isEntangled, Bool.or_eq_true, Option.any_eq_true, innerPath?_eq_some_iff,
    Bool.and_eq_true, bne_iff_ne]

/-- A text below the root that begins with the base: the root begins with the base, or the base with
the root. -/
theorem append_eq_base_append
    (h : domains.internalRoot ++ "/" ++ path = domains.externalBase ++ rest) :
    domains.isExternal domains.internalRoot = true ∨
      ∃ between, domains.externalBase = domains.internalRoot ++ "/" ++ between ∧
        path = between ++ rest := by
  have hlist : domains.externalBase.toList ++ rest.toList =
      domains.internalRoot.toList ++ '/' :: path.toList := by
    simpa [String.toList_append] using (congrArg String.toList h).symm
  rcases List.append_eq_append_iff.mp hlist with ⟨more, hroot, -⟩ | ⟨more, hbase, hmore⟩
  · exact .inl (beginsWith_iff.mpr ⟨more, hroot⟩)
  · cases more with
    | nil => exact .inl (beginsWith_iff.mpr ⟨[], by simpa using hbase.symm⟩)
    | cons c between =>
      obtain ⟨rfl, hpath⟩ := List.cons.inj hmore
      refine .inr ⟨.ofList between, String.toList_inj.mp ?_, String.toList_inj.mp ?_⟩
      · simp [String.toList_append, hbase]
      · simp [String.toList_append, hpath]

section
variable (h : domains.IsNormal)
include h

theorem IsNormal.root_ne_base : domains.internalRoot ≠ domains.externalBase := by
  intro he
  exact h.root_slash (he ▸ h.base_slash)

/-- When an identifier of the external domain is its own identifier, the base is the root with a
slash. -/
theorem eq_base_of_inward_eq_self (hexternal : domains.isExternal id = true)
    (hself : domains.inward id = id) : domains.externalBase = domains.internalRoot ++ "/" := by
  obtain ⟨rest, rfl⟩ := isExternal_iff.mp hexternal
  rw [inward_append] at hself
  split at hself
  · rename_i hrest
    rw [hrest, String.append_empty] at hself
    exact absurd hself h.root_ne_base
  · exact ((String.append_left_inj rest).mp hself).symm

/-- **An identifier stays when it is mapped once more, exactly when** it lies outside the external
domain, or is the IRI itself that it belongs to. -/
theorem internalize_self_iff (hid : domains.internalize iri = .ok id)
    (habsolute : isAbsolute id = true) :
    domains.internalize id = .ok id ↔ domains.isExternal id = false ∨ id = iri := by
  constructor
  · intro hself
    rw [Classical.or_iff_not_imp_left, Bool.not_eq_false]
    intro hexternal
    have hbase := eq_base_of_inward_eq_self h hexternal (internalize_eq_ok_iff.mp hself).2
    obtain ⟨-, rfl⟩ := internalize_eq_ok_iff.mp hid
    cases hiri : domains.isExternal iri with
    | false => exact inward_of_isExternal_eq_false hiri
    | true =>
      obtain ⟨path, rfl⟩ := isExternal_iff.mp hiri
      rw [inward_append] at hexternal ⊢
      split at hexternal
      · -- the root would begin with the base, which is longer
        obtain ⟨rest, hroot⟩ := isExternal_iff.mp hexternal
        have hslash : "/".length = 1 := rfl
        have hlength := congrArg String.length hroot
        rw [hbase, String.length_append, String.length_append, hslash] at hlength
        omega
      · rename_i hpath
        rw [if_neg hpath, hbase]
  · rintro (hexternal | rfl)
    · rw [internalize_of_isAbsolute habsolute, inward_of_isExternal_eq_false hexternal]
    · exact hid

/-- What leads from the root to the base ends in a slash, so an absolute IRI may end behind it. -/
theorem isAbsolute_base_between
    (hbase : domains.externalBase = domains.internalRoot ++ "/" ++ path) (hpath : path ≠ "")
    (habsolute : isAbsolute (domains.externalBase ++ (path ++ rest)) = true) :
    isAbsolute (domains.externalBase ++ path) = true := by
  obtain ⟨front, hfront⟩ : ∃ front, path.toList = front ++ ['/'] := by
    have hslash := h.base_slash
    rw [hbase, String.toList_append, List.getLast?_append_of_ne_nil _ (by simpa using hpath)] at hslash
    exact List.getLast?_eq_some_iff.mp hslash
  rw [isAbsolute, String.toList_append, String.toList_append, hfront] at habsolute
  rw [isAbsolute, String.toList_append, hfront, ← List.append_assoc]
  rw [List.append_assoc front, List.singleton_append, ← List.append_assoc,
    isAbsoluteText_append_slash, Bool.and_eq_true] at habsolute
  exact habsolute.1

/-- Identifiers of domains that are not entangled lie outside the external domain, or are the IRIs
that they belong to. -/
theorem isExternal_or_eq_of_not_isEntangled (hfree : domains.isEntangled = false)
    (hid : domains.internalize iri = .ok id) : domains.isExternal id = false ∨ id = iri := by
  rw [Bool.eq_false_iff, ne_eq, isEntangled_iff, not_or, not_exists] at hfree
  obtain ⟨habsolute, rfl⟩ := internalize_eq_ok_iff.mp hid
  by_cases hiri : domains.isExternal iri = true
  · obtain ⟨path, rfl⟩ := isExternal_iff.mp hiri
    rw [inward_append]
    by_cases hpath : path = ""
    · rw [if_pos hpath]
      exact .inl (Bool.eq_false_iff.mpr hfree.1)
    · rw [if_neg hpath, Classical.or_iff_not_imp_left, Bool.not_eq_false]
      intro hexternal
      obtain ⟨rest, hrest⟩ := isExternal_iff.mp hexternal
      rcases append_eq_base_append hrest with hroot | ⟨between, hbase, rfl⟩
      · exact absurd hroot hfree.1
      · by_cases hbetween : between = ""
        · rw [hbetween, String.append_empty] at hbase
          rw [hbase]
        · exact absurd ⟨hbase, hbetween, isAbsolute_base_between h hbase hbetween habsolute⟩
            (hfree.2 between)
  · exact .inr (inward_of_isExternal_eq_false (Bool.not_eq_true _ ▸ hiri))

/-- In entangled domains some identifier is an IRI of the external domain, and not the IRI that it
belongs to. -/
theorem exists_external_of_isEntangled (hentangled : domains.isEntangled = true) :
    ∃ iri id, domains.internalize iri = .ok id ∧ isAbsolute id = true ∧
      domains.isExternal id = true ∧ id ≠ iri := by
  rcases isEntangled_iff.mp hentangled with hroot | ⟨path, hbase, hpath, habsolute⟩
  · refine ⟨domains.externalBase, domains.internalRoot, ?_, h.root_absolute, hroot, h.root_ne_base⟩
    have hinward := inward_append domains ""
    rw [String.append_empty, if_pos rfl] at hinward
    exact internalize_eq_ok_iff.mpr ⟨h.base_absolute, hinward⟩
  · refine ⟨domains.externalBase ++ path, domains.externalBase, ?_, h.base_absolute, ?_, ?_⟩
    · rw [internalize_eq_ok_iff, inward_append, if_neg hpath]
      exact ⟨habsolute, hbase.symm⟩
    · exact isExternal_iff.mpr ⟨"", String.append_empty.symm⟩
    · intro he
      have hlength := congrArg String.length he
      rw [String.length_append] at hlength
      have hempty : path.length = 0 := by omega
      exact hpath (by simpa using hempty)

end

/-- **Identifiers stay when they are mapped once more, exactly when the domains are not entangled.**
One identifier does so when it lies outside the external domain, or is the IRI itself that it
belongs to. -/
theorem identifiers_stay_iff (h : ofTexts base root = .ok domains) :
    (∀ iri id, domains.internalize iri = .ok id → isAbsolute id = true →
      (domains.internalize id = .ok id ↔ domains.isExternal id = false ∨ id = iri)) ∧
    ((∀ iri id, domains.internalize iri = .ok id → isAbsolute id = true →
      domains.internalize id = .ok id) ↔ domains.isEntangled = false) := by
  have hnormal := isNormal_of_ofTexts h
  refine ⟨fun _ _ => internalize_self_iff hnormal, ?_, ?_⟩
  · intro hstay
    rw [← Bool.not_eq_true]
    intro hentangled
    obtain ⟨iri, id, hid, habsolute, hexternal, hne⟩ :=
      exists_external_of_isEntangled hnormal hentangled
    rcases (internalize_self_iff hnormal hid habsolute).mp (hstay iri id hid habsolute) with he | he
    · rw [hexternal] at he
      cases he
    · exact hne he
  · intro hfree iri id hid habsolute
    exact (internalize_self_iff hnormal hid habsolute).mpr
      (isExternal_or_eq_of_not_isEntangled hnormal hfree hid)

/-- Domains of which the external one lies inside the internal one, behind a `#` that no IRI below
the base can have again. -/
def fragmentDomains : Domains := ⟨"http://ext/store#/", "http://ext"⟩

set_option maxRecDepth 10000 in
theorem fragmentDomains_stay :
    ofTexts "http://ext/store#" "http://ext/" = .ok fragmentDomains ∧
      fragmentDomains.isEntangled = false ∧
      fragmentDomains.internalize "http://ext/store#/1" = .ok "http://ext/1" ∧
      fragmentDomains.internalize "http://ext/1" = .ok "http://ext/1" := by
  have hdomains : ofTexts "http://ext/store#" "http://ext/" = .ok fragmentDomains := by
    decide +kernel
  have hfree : fragmentDomains.isEntangled = false := by decide +kernel
  have hid : fragmentDomains.internalize "http://ext/store#/1" = .ok "http://ext/1" := by
    decide +kernel
  obtain ⟨-, hiff⟩ := identifiers_stay_iff hdomains
  exact ⟨hdomains, hfree, hid, hiff.mpr hfree _ _ hid (by decide +kernel)⟩

/-- Domains of which the external one lies inside the internal one. -/
def enclosingDomains : Domains := ⟨"http://ext/store/", "http://ext"⟩

set_option maxRecDepth 10000 in
/-- **Identifiers that move on**, one domain inside the other, whichever is the inner one. -/
theorem identifiers_move_on :
    (ofTexts "http://ext/" "http://ext/store" = .ok nestedDomains ∧
      nestedDomains.internalize "http://ext/1" = .ok "http://ext/store/1" ∧
      isAbsolute "http://ext/store/1" = true ∧
      nestedDomains.internalize "http://ext/store/1" = .ok "http://ext/store/store/1") ∧
    (ofTexts "http://ext/store/" "http://ext" = .ok enclosingDomains ∧
      enclosingDomains.internalize "http://ext/store/store/1" = .ok "http://ext/store/1" ∧
      isAbsolute "http://ext/store/1" = true ∧
      enclosingDomains.internalize "http://ext/store/1" = .ok "http://ext/1") := by
  decide +kernel

end Domains

end RdfGateway
