import RdfGateway.Proofs.StoredStatements
import RdfGateway.Proofs.DomainRoundTrip
import RdfGateway.Proofs.IriSlashes
import RdfGateway.Proofs.TermTexts

/-!
# Sending the outcome again

What the gateway of the built-in policy over the default root gives back, it accepts again and
leaves as it is, when the external base is on a server (`Domains.IsServerBase`): graphs and updates,
in every mode (`outcome_unchanged`).

Proof. Two facts on the domains suffice (`Domains.IsSettled`): an identifier is a well-formed IRI
again (`Domains.IsSound`), and it lies outside the external domain, so that it is its own
identifier. Then the images of well-formed statements are well-formed and stay, and without an alias
(`not_isAlias_defaultGateway`) none of them is disallowed or dropped (`internalizeGraph_again`,
`internalizeRequest_again`). For a base on a server the slash at its end and a slash behind the
default root are both slashes of a path, so what may stand below the base may stand below the root
(`isAbsoluteText_append_slash`), and no text begins both with the base and with the default root,
which has no slashes behind its scheme.
-/

namespace RdfGateway

/-! ## Settled domains -/

namespace Domains

variable {domains : Domains} {iri : String} {term : Term} {triple : Triple}

/-- The identifier of an IRI is an IRI. -/
def IsSound (domains : Domains) : Prop :=
  ∀ iri, iriFault? iri = none → iriFault? (domains.inward iri) = none

theorem IsSound.inwardTerm (h : domains.IsSound) (hterm : firstFault? term.texts = none) :
    firstFault? (domains.inwardTerm term).texts = none := by
  cases term with
  | iri text =>
    have htext : iriFault? text = none := by simpa [Term.texts, PlacedText.fault?] using hterm
    simpa [Domains.inwardTerm, Term.texts, PlacedText.fault?] using h text htext
  | blank | literal | «variable» => exact hterm

theorem IsSound.inwardTriple (h : domains.IsSound) (htriple : firstFault? triple.texts = none) :
    firstFault? (domains.inwardTriple triple).texts = none := by
  simp only [Triple.texts, firstFault?_append, Option.or_eq_none_iff, Domains.inwardTriple]
    at htriple ⊢
  obtain ⟨⟨hsubject, hpredicate⟩, hobject⟩ := htriple
  exact ⟨⟨h.inwardTerm hsubject, hpredicate⟩, h.inwardTerm hobject⟩

/-- **Identifiers are settled**: the identifier of an IRI is an IRI, and no identifier lies in the
external domain. -/
structure IsSettled (domains : Domains) : Prop where
  sound : domains.IsSound
  outside : ∀ iri, domains.isExternal (domains.inward iri) = false

namespace IsSettled
variable (h : domains.IsSettled)
include h

theorem inward_inward (iri : String) :
    domains.inward (domains.inward iri) = domains.inward iri :=
  inward_of_isExternal_eq_false (h.outside iri)

theorem inwardTerm_inwardTerm (term : Term) :
    domains.inwardTerm (domains.inwardTerm term) = domains.inwardTerm term := by
  cases term with
  | iri text => exact congrArg Term.iri (h.inward_inward text)
  | blank | literal | «variable» => rfl

theorem inwardTriple_inwardTriple (triple : Triple) :
    domains.inwardTriple (domains.inwardTriple triple) = domains.inwardTriple triple := by
  simp only [inwardTriple, h.inwardTerm_inwardTerm]

end IsSettled

end Domains

/-! ## Sending the outcome of a gateway again -/

namespace Gateway

variable {gateway : Gateway} {graph image : Graph} {request result : Request} {triple : Triple}

/-- Each statement of the image is that of a well-formed one. -/
theorem exists_sent_of_mem_image (h : gateway.internalizeGraph graph = .ok image)
    (ht : triple ∈ image.triples) :
    ∃ sent, firstFault? sent.texts = none ∧ gateway.domains.inwardTriple sent = triple := by
  obtain ⟨hsent, -, rfl⟩ := internalizeGraph_eq_ok_iff.mp h
  rw [firstFault?_eq_none_iff, List.forall_mem_flatMap] at hsent
  obtain ⟨sent, hs, rfl⟩ := List.mem_map.mp (Graph.mem_ofList.mp ht)
  exact ⟨sent, firstFault?_eq_none_iff.mpr (hsent sent hs), rfl⟩

section
variable (hsound : gateway.domains.IsSound)
include hsound

theorem firstFault?_texts_of_mem_image (h : gateway.internalizeGraph graph = .ok image)
    (ht : triple ∈ image.triples) : firstFault? triple.texts = none := by
  obtain ⟨sent, hs, rfl⟩ := exists_sent_of_mem_image h ht
  exact hsound.inwardTriple hs

theorem firstFault?_texts_result (h : gateway.internalizeRequest request = .ok result) :
    firstFault? result.texts = none := by
  obtain ⟨hsent, -, rfl⟩ := internalizeRequest_eq_ok_iff.mp h
  rw [firstFault?_eq_none_iff] at hsent ⊢
  intro text htext
  rcases Request.mem_texts_mapStatements htext with hold | ⟨triple, ht, hx⟩
  · exact hsent text hold
  · have htriple : firstFault? triple.texts = none :=
      firstFault?_eq_none_iff.mpr fun text hx => hsent text (Request.texts_subset ht hx)
    exact firstFault?_eq_none_iff.mp (hsound.inwardTriple htriple) text hx

end

theorem allowed_inwardTriple (hfree : ∀ predicate type, ¬ gateway.IsAlias predicate type)
    (hsound : firstFault? triple.texts = none)
    (hsent : gateway.policy.disallows gateway.mode triple = false) :
    gateway.policy.disallows gateway.mode (gateway.domains.inwardTriple triple) = false :=
  Bool.eq_false_iff.mpr fun hkept =>
    not_assertsAlias hfree (assertsAlias_inwardTriple hsound hsent hkept)

theorem touchesManaged_eq_disallows {policy : Policy} :
    policy.touchesManaged triple = policy.disallows .strict triple := by
  rw [Policy.touchesManaged_eq, Policy.disallows]
  cases policy.offence? triple <;> rfl

section
variable (hsettled : gateway.domains.IsSettled)
  (hfree : ∀ predicate type, ¬ gateway.IsAlias predicate type)
include hsettled hfree

theorem internalizeGraph_again (h : gateway.internalizeGraph graph = .ok image) :
    gateway.internalizeGraph image = .ok image := by
  have hallowed : ∀ triple ∈ image.triples,
      gateway.policy.disallows gateway.mode triple = false :=
    fun triple ht => allowed_of_mem_graph hfree h ht
  have hconsidered := considered_eq_of_allowed hallowed
  have hstays : image.triples.map gateway.domains.inwardTriple = image.triples := by
    refine (List.map_congr_left fun triple ht => ?_).trans (List.map_id image.triples)
    obtain ⟨sent, -, rfl⟩ := exists_sent_of_mem_image h ht
    exact hsettled.inwardTriple_inwardTriple sent
  refine internalizeGraph_eq_ok_iff.mpr ⟨?_, ?_, ?_⟩
  · rw [hconsidered, firstFault?_eq_none_iff, List.forall_mem_flatMap]
    intro triple ht
    exact firstFault?_eq_none_iff.mp (firstFault?_texts_of_mem_image hsettled.sound h ht)
  · rw [hconsidered]
    intro triple ht
    exact refused?_eq_none_iff.mpr (hallowed triple ht)
  · rw [hconsidered, hstays]
    exact Graph.ofList_triples image

theorem internalizeRequest_again (h : gateway.internalizeRequest request = .ok result) :
    gateway.internalizeRequest result = .ok result := by
  have hallowed : ∀ triple ∈ result.statements,
      gateway.policy.disallows gateway.mode triple = false :=
    fun triple ht => allowed_of_mem_request hfree h ht
  have hsound := firstFault?_texts_result hsettled.sound h
  obtain ⟨-, -, rfl⟩ := internalizeRequest_eq_ok_iff.mp h
  refine internalizeRequest_eq_ok_iff.mpr ⟨hsound, ?_, ?_⟩
  · intro triple ht
    exact refused?_eq_none_iff.mpr (Policy.disallows_forUpdate.trans (hallowed triple ht))
  · rw [Request.mapStatements_mapStatements]
    exact Request.mapStatements_congr fun triple _ =>
      hsettled.inwardTriple_inwardTriple triple

end

end Gateway

/-! ## A base on a server -/

namespace Domains

open Iri Text

/-- **A base on a server**: a scheme, two slashes and an authority that is not empty, then nothing
or a path. -/
structure IsServerBase (base : String) : Prop where
  parts : ∃ scheme authority path, base = scheme ++ "://" ++ authority ++ path ∧
    isScheme scheme.toList = true ∧ authority ≠ "" ∧ '/' ∉ authority.toList ∧
    (path = "" ∨ path.toList.head? = some '/')
  no_query : '?' ∉ base.toList
  no_fragment : '#' ∉ base.toList

theorem iriFault?_eq_none_iff {iri : String} : iriFault? iri = none ↔ isAbsolute iri = true :=
  ⟨of_faultUnless_eq_none, fun h => by rw [iriFault?, h]; rfl⟩

theorem withoutSlashes_defaultRoot : withoutSlashes defaultRoot = defaultRoot := by
  decide +kernel

theorem ofTexts_eq_ok_iff {base root : String} {domains : Domains} : ofTexts base root = .ok domains ↔
    isAbsolute base = true ∧ isAbsolute (withoutSlashes root) = true ∧
      domains = ⟨withSlash base, withoutSlashes root⟩ := by
  simp only [ofTexts, iriFault?]
  cases isAbsolute base with
  | false => exact ⟨fun h => (by cases h), fun h => (by cases h.1)⟩
  | true =>
    cases isAbsolute (withoutSlashes root) with
    | false => exact ⟨fun h => (by cases h), fun h => (by cases h.2.1)⟩
    | true => exact ⟨fun h => ⟨rfl, rfl, (Except.ok.inj h).symm⟩, fun h => congrArg Except.ok h.2.2.symm⟩

theorem eq_of_ofTexts {base : String} {domains : Domains}
    (h : ofTexts base defaultRoot = .ok domains) : domains = ⟨withSlash base, defaultRoot⟩ := by
  obtain ⟨-, -, hdomains⟩ := ofTexts_eq_ok_iff.mp h
  rwa [withoutSlashes_defaultRoot] at hdomains

theorem exists_toList_withSlash {base : String} (h : IsServerBase base) :
    ∃ scheme front, (withSlash base).toList = scheme ++ ':' :: '/' :: '/' :: (front ++ ['/']) ∧
      isScheme scheme = true ∧ front ⊆ base.toList := by
  obtain ⟨scheme, authority, path, hbase, hscheme, hauthority, -, -⟩ := h.parts
  have hlist : base.toList =
      scheme.toList ++ ':' :: '/' :: '/' :: (authority.toList ++ path.toList) := by
    simp [hbase, String.toList_append]
  have hsubset : authority.toList ++ path.toList ⊆ base.toList := by
    intro c hc
    rw [hlist]
    apply List.mem_append_right
    exact List.mem_cons_of_mem _ (List.mem_cons_of_mem _ (List.mem_cons_of_mem _ hc))
  unfold withSlash
  by_cases hlast : base.toList.getLast? = some '/'
  · -- The slash at the end is one of the path, because the authority is not empty.
    have hne : authority.toList ++ path.toList ≠ [] := by
      simp [hauthority]
    obtain ⟨front, hfront⟩ : ∃ front, authority.toList ++ path.toList = front ++ ['/'] := by
      rw [hlist, List.getLast?_append_of_ne_nil _ (by simp), List.getLast?_cons_cons,
        List.getLast?_cons_cons, List.getLast?_cons_of_ne_nil hne] at hlast
      exact List.getLast?_eq_some_iff.mp hlast
    refine ⟨scheme.toList, front, ?_, hscheme, ?_⟩
    · rw [if_pos hlast, hlist, hfront]
    · rw [hfront] at hsubset
      exact (List.append_subset.mp hsubset).1
  · refine ⟨scheme.toList, authority.toList ++ path.toList, ?_, hscheme, hsubset⟩
    rw [if_neg hlast, String.toList_append, hlist]
    simp

section
variable {base : String} (hbase : IsServerBase base)
include hbase

/-- What stands below the base may stand below the default root. -/
theorem isAbsolute_below_defaultRoot {path : String}
    (h : isAbsolute (withSlash base ++ path) = true) :
    isAbsolute (defaultRoot ++ "/" ++ path) = true := by
  obtain ⟨scheme, front, hlist, hscheme, hsubset⟩ := exists_toList_withSlash hbase
  have hquery : '?' ∉ front := fun hmem => hbase.no_query (hsubset hmem)
  have hfragment : '#' ∉ front := fun hmem => hbase.no_fragment (hsubset hmem)
  have hplace : placeBehind (scheme ++ ':' :: '/' :: '/' :: front) = .path := by
    rw [placeBehind, cut_append_cons (colon_not_mem_of_isScheme hscheme)]
    simp [slashPlace, hquery, hfragment]
  have hrootPlace : placeBehind defaultRoot.toList = .path := by decide +kernel
  have hrootSlash : isAbsoluteText (defaultRoot.toList ++ ['/']) = true := by decide +kernel
  have hbelow : (withSlash base ++ path).toList =
      (scheme ++ ':' :: '/' :: '/' :: front) ++ '/' :: path.toList := by
    simp [String.toList_append, hlist]
  have hroot : (defaultRoot ++ "/" ++ path).toList = defaultRoot.toList ++ '/' :: path.toList := by
    simp [String.toList_append]
  rw [isAbsolute, hbelow, isAbsoluteText_append_slash, hplace, Bool.and_eq_true] at h
  rw [isAbsolute, hroot, isAbsoluteText_append_slash, hrootPlace, hrootSlash, h.2]
  rfl

/-- No identifier at or below the default root begins with the base. -/
theorem ne_withSlash_append (rest path : String) (hrest : rest.toList.head? ≠ some '/') :
    "info:" ++ rest ≠ withSlash base ++ path := by
  intro he
  obtain ⟨scheme, front, hlist, hscheme, -⟩ := exists_toList_withSlash hbase
  have hcut : cut ':' ("info:" ++ rest).toList = ("info".toList, some rest.toList) :=
    cut_eq_some_iff.mpr ⟨by simp [String.toList_append], by decide⟩
  have hcut' : cut ':' (withSlash base ++ path).toList =
      (scheme, some ('/' :: '/' :: (front ++ ['/']) ++ path.toList)) := by
    refine cut_eq_some_iff.mpr ⟨?_, colon_not_mem_of_isScheme hscheme⟩
    rw [String.toList_append, hlist]
    simp
  rw [he, hcut'] at hcut
  injection hcut with _ hsame
  injection hsame with hsame
  exact hrest (hsame ▸ rfl)

/-- **Over the default root a base on a server is settled.** -/
theorem isSettled_defaultRoot : IsSettled ⟨withSlash base, defaultRoot⟩ where
  sound := by
    intro iri hiri
    by_cases hout : ∃ path, iri = withSlash base ++ path
    · obtain ⟨path, rfl⟩ := hout
      rw [inward_append ⟨withSlash base, defaultRoot⟩ path]
      by_cases hpath : path = ""
      · rw [if_pos hpath]
        show iriFault? defaultRoot = none
        decide +kernel
      · rw [if_neg hpath]
        rw [iriFault?_eq_none_iff] at hiri ⊢
        exact isAbsolute_below_defaultRoot hbase hiri
    · rw [inward_of_not_external fun path he => hout ⟨path, he⟩]
      exact hiri
  outside := by
    intro iri
    rw [Bool.eq_false_iff]
    intro hexternal
    obtain ⟨other, he⟩ := exists_eq_append_of_isExternal hexternal
    by_cases hout : ∃ path, iri = withSlash base ++ path
    · obtain ⟨path, rfl⟩ := hout
      rw [inward_append ⟨withSlash base, defaultRoot⟩ path] at he
      by_cases hpath : path = ""
      · rw [if_pos hpath] at he
        exact ne_withSlash_append hbase "fedora" other (by decide) he
      · rw [if_neg hpath] at he
        refine ne_withSlash_append hbase ("fedora/" ++ path) other ?_ (Eq.trans ?_ he)
        · simp [String.toList_append]
        · apply String.toList_inj.mp
          simp [defaultRoot, String.toList_append]
    · rw [inward_of_not_external fun path he => hout ⟨path, he⟩] at he
      exact hout ⟨other, he⟩

end

end Domains

/-! ## The gateway of the built-in policy over the default root -/

namespace Gateway

variable {gateway : Gateway} {base : String}

theorem eq_defaultGateway (hpolicy : gateway.policy = .builtin)
    (hdomains : Domains.ofTexts base Domains.defaultRoot = .ok gateway.domains) :
    gateway = defaultGateway (Domains.withSlash base) gateway.mode := by
  obtain ⟨policy, domains, mode⟩ := gateway
  cases hpolicy
  cases Domains.eq_of_ofTexts hdomains
  rfl

/-- **What the gateway gives back it accepts again and leaves as it is**, graphs and updates: every
identifier is a well-formed IRI and its own identifier, and no statement that is allowed or kept as
it was sent is forbidden or dropped as it is stored. -/
theorem outcome_unchanged (hpolicy : gateway.policy = .builtin)
    (hdomains : Domains.ofTexts base Domains.defaultRoot = .ok gateway.domains)
    (hbase : Domains.IsServerBase base) :
    (∀ graph image, gateway.internalizeGraph graph = .ok image →
      gateway.internalizeGraph image = .ok image) ∧
    (∀ request result, gateway.internalizeRequest request = .ok result →
      gateway.internalizeRequest result = .ok result) ∧
    (∀ iri, iriFault? iri = none → iriFault? (gateway.domains.inward iri) = none ∧
      gateway.domains.isExternal (gateway.domains.inward iri) = false ∧
      gateway.domains.inward (gateway.domains.inward iri) = gateway.domains.inward iri) ∧
    (∀ triple, firstFault? triple.texts = none →
      (gateway.policy.disallows gateway.mode triple = false →
        gateway.policy.disallows gateway.mode (gateway.domains.inwardTriple triple) = false) ∧
      (gateway.policy.touchesManaged triple = false →
        gateway.policy.touchesManaged (gateway.domains.inwardTriple triple) = false)) := by
  rw [eq_defaultGateway hpolicy hdomains]
  generalize gateway.mode = mode
  have hsettled : (defaultGateway (Domains.withSlash base) mode).domains.IsSettled :=
    Domains.isSettled_defaultRoot hbase
  have hfree := not_isAlias_defaultGateway (Domains.withSlash base)
  refine ⟨fun _ _ h => internalizeGraph_again hsettled (hfree mode) h,
    fun _ _ h => internalizeRequest_again hsettled (hfree mode) h,
    fun iri h => ⟨hsettled.sound iri h, hsettled.outside iri, hsettled.inward_inward iri⟩,
    fun triple hsound => ⟨allowed_inwardTriple (hfree mode) hsound, fun hkept => ?_⟩⟩
  -- Strict enforcement waives nothing, so there a statement is allowed when it touches nothing
  rw [touchesManaged_eq_disallows] at hkept ⊢
  exact allowed_inwardTriple (hfree .strict) hsound hkept

/-- A statement below the base. -/
def ordinaryStatement : Triple := ⟨.iri "http://ext/1", .iri "http://ext/p", .iri "http://ext/"⟩

/-- A statement that belongs to the server. -/
def serverStatement : Triple :=
  ⟨.iri "http://ext/1", .iri "http://fedora.info/definitions/v4/repository#created",
    .literal (.plain "2020")⟩

/-- The gateway over `http://ext/` that drops what belongs to the server. -/
def droppingGateway : Gateway := defaultGateway "http://ext/" .lenient

theorem droppingGateway_unchanged :
    Domains.ofTexts "http://ext" Domains.defaultRoot = .ok droppingGateway.domains ∧
      Domains.IsServerBase "http://ext" ∧
      ∃ image result,
        droppingGateway.internalizeGraph (.ofList [ordinaryStatement, serverStatement]) =
          .ok image ∧
        image.triples = [⟨.iri "info:fedora/1", .iri "http://ext/p", .iri "info:fedora"⟩] ∧
        droppingGateway.internalizeGraph image = .ok image ∧
        droppingGateway.internalizeRequest (insertion ordinaryStatement) = .ok result ∧
        droppingGateway.internalizeRequest result = .ok result := by
  have hdomains : Domains.ofTexts "http://ext" Domains.defaultRoot =
      .ok droppingGateway.domains := by
    decide +kernel
  have hbase : Domains.IsServerBase "http://ext" :=
    ⟨⟨"http", "ext", "", by decide +kernel, by decide +kernel, by decide, by decide, .inl rfl⟩,
      by decide, by decide⟩
  have hpolicy : droppingGateway.policy = .builtin := rfl
  obtain ⟨hgraphs, hrequests, -, -⟩ := outcome_unchanged hpolicy hdomains hbase
  have hordinary : droppingGateway.policy.offence? ordinaryStatement = none := by
    simp only [Policy.offence?, ordinaryStatement, droppingGateway, defaultGateway, Term.asIri,
      isManagedPredicate_builtin, isTypePredicate_builtin]
    decide +kernel
  have hserver : droppingGateway.policy.offence? serverStatement = some .managedProperty := by
    simp only [Policy.offence?, serverStatement, droppingGateway, defaultGateway, Term.asIri,
      isManagedPredicate_builtin]
    decide +kernel
  have hallowed : droppingGateway.policy.disallows droppingGateway.mode ordinaryStatement = false :=
    Policy.disallows_eq_false_iff.mpr (.inl hordinary)
  have hconsidered :
      droppingGateway.considered (.ofList [ordinaryStatement, serverStatement]) =
        [ordinaryStatement] := by
    have htriples : (Graph.ofList [ordinaryStatement, serverStatement]).triples =
        [ordinaryStatement, serverStatement] := Graph.triples_ofList_of_nodup (by decide +kernel)
    have hdrops : droppingGateway.mode.dropsManaged = true := rfl
    simp [considered, hdrops, htriples, Policy.touchesManaged_eq, hordinary, hserver]
  have hgraph : droppingGateway.internalizeGraph (.ofList [ordinaryStatement, serverStatement]) =
      .ok (.ofList [droppingGateway.domains.inwardTriple ordinaryStatement]) := by
    refine internalizeGraph_eq_ok_iff.mpr ⟨?_, ?_, ?_⟩
    · rw [hconsidered]
      decide +kernel
    · rw [hconsidered]
      exact List.forall_mem_singleton.mpr (refused?_eq_none_iff.mpr hallowed)
    · rw [hconsidered]
      rfl
  have hsound : firstFault? ordinaryStatement.texts = none := by decide +kernel
  have hrequest := internalizeRequest_insertion hsound hallowed
  exact ⟨hdomains, hbase, _, _, hgraph, by decide +kernel, hgraphs _ _ hgraph, hrequest,
    hrequests _ _ hrequest⟩

end Gateway

end RdfGateway
