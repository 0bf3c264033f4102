import Mathlib.Data.List.Induction
import RdfGateway.Proofs.UpdateOutcome

/-!
# The outcome of a graph

Under strict and under relaxed enforcement every statement of a graph counts, and three things can
come of it (`internalizeGraph_verdict`). A malformed text ends the matter, whatever was found before
it. Otherwise the disallowed statements are reported, all of them and as they were sent. Otherwise
the graph of the images is kept. The order of the statements shows in the order of the outcome
only, and the domains have no part in a report.

Proof. The closed forms of the two entry points leave three cases. The fault of the first malformed
text is taken apart along the list of statements (`isFirstFault_of_firstFault?`), and a graph that
is built by insertions holds the first occurrences of a list (`triples_ofList`).
-/

namespace RdfGateway

/-! ## First occurrences -/

namespace Graph

theorem ofList_concat (triples : List Triple) (triple : Triple) :
    ofList (triples ++ [triple]) = ((ofList triples).insert triple).1 := by
  unfold ofList extend
  rw [List.foldl_append]
  rfl

/-- A graph built from a list keeps the first occurrence of each statement, in the order of the
list. -/
theorem triples_ofList (triples : List Triple) : (ofList triples).triples = triples.eraseDups := by
  induction triples using List.reverseRecOn with
  | nil => rfl
  | append_singleton triples triple ih =>
    rw [ofList_concat, triples_insert, List.eraseDups_append, ih]
    have hmem : triple ∈ ofList triples ↔ triple ∈ triples := mem_ofList
    by_cases h : triple ∈ triples
    · rw [if_pos (hmem.mpr h)]
      simp [List.removeAll, h]
    · rw [if_neg (mt hmem.mp h)]
      simp [List.removeAll, h, List.eraseDups_cons]

/-- Two lists with the same statements build graphs with the same statements. -/
theorem sameStatements_ofList {triples others : List Triple} (h : triples.Perm others) :
    (ofList triples).sameStatements (ofList others) = true := by
  rw [sameStatements_iff]
  intro triple
  rw [mem_ofList, mem_ofList]
  exact h.mem_iff

end Graph

/-! ## The first malformed text -/

/-- **The fault is that of the first malformed text**: of a statement, its texts in the order of
subject, predicate and object; of the list, the first statement that has a malformed text. -/
def IsFirstFault (triples : List Triple) (fault : Fault) : Prop :=
  ∃ before triple after sound text more,
    triples = before ++ triple :: after ∧
      (∀ earlier ∈ before, ∀ text ∈ earlier.texts, text.fault? = none) ∧
      triple.texts = sound ++ text :: more ∧
      (∀ earlier ∈ sound, earlier.fault? = none) ∧
      text.fault? = some fault

theorem firstFault?_of_isFirstFault {triples : List Triple} {fault : Fault}
    (h : IsFirstFault triples fault) :
    firstFault? (triples.flatMap Triple.texts) = some fault := by
  obtain ⟨before, triple, after, sound, text, more, rfl, hbefore, htexts, hsound, hfault⟩ := h
  have hfirst : firstFault? (before.flatMap Triple.texts) = none := by
    rw [firstFault?_eq_none_iff, List.forall_mem_flatMap]
    exact hbefore
  have htriple : firstFault? triple.texts = some fault := by
    rw [htexts, firstFault?_append, firstFault?_eq_none_iff.mpr hsound, firstFault?_cons, hfault]
    rfl
  rw [List.flatMap_append, firstFault?_append, hfirst, List.flatMap_cons, firstFault?_append,
    htriple]
  rfl

theorem isFirstFault_of_firstFault? {triples : List Triple} {fault : Fault}
    (h : firstFault? (triples.flatMap Triple.texts) = some fault) :
    IsFirstFault triples fault := by
  induction triples with
  | nil => cases h
  | cons triple rest ih =>
    rw [List.flatMap_cons, firstFault?_append, Option.or_eq_some_iff] at h
    rcases h with h | ⟨hsound, h⟩
    · obtain ⟨sound, text, more, htexts, hfault, hsound⟩ := List.findSome?_eq_some_iff.mp h
      exact ⟨[], triple, rest, sound, text, more, rfl, by simp, htexts, hsound, hfault⟩
    · obtain ⟨before, bad, after, sound, text, more, hrest, hbefore, hbad⟩ := ih h
      refine ⟨triple :: before, bad, after, sound, text, more, by rw [hrest]; rfl, ?_, hbad⟩
      intro earlier hmem
      rcases List.mem_cons.mp hmem with rfl | hmem
      · exact firstFault?_eq_none_iff.mp hsound
      · exact hbefore earlier hmem

/-! ## Images -/

namespace Domains

variable {domains : Domains}

/-- **The image of a term**: an IRI that begins with the external base has the internal root in its
place, with a slash before what follows, and every other term is its own image. -/
def IsImage (domains : Domains) (term image : Term) : Prop :=
  (∃ path, term = .iri (domains.externalBase ++ path) ∧
      image = .iri (if path = "" then domains.internalRoot
        else domains.internalRoot ++ "/" ++ path)) ∨
    ((∀ path, term ≠ .iri (domains.externalBase ++ path)) ∧ image = term)

theorem inward_append (domains : Domains) (path : String) :
    domains.inward (domains.externalBase ++ path) =
      if path = "" then domains.internalRoot else domains.internalRoot ++ "/" ++ path := by
  have hrest : Text.rest? domains.externalBase.toList (domains.externalBase ++ path).toList =
      some path.toList := by
    rw [String.toList_append, Text.rest?_append]
  unfold inward
  rw [hrest]
  by_cases hpath : path = ""
  · rw [if_pos hpath, hpath]
    rfl
  · rw [if_neg hpath]
    obtain ⟨c, more, hmore⟩ : ∃ c more, path.toList = c :: more :=
      List.exists_cons_of_ne_nil (mt String.toList_eq_nil_iff.mp hpath)
    rw [hmore]
    apply String.toList_inj.mp
    simp [String.toList_append, hmore]

theorem inward_of_not_external {iri : String} (h : ∀ path, iri ≠ domains.externalBase ++ path) :
    domains.inward iri = iri := by
  unfold inward
  cases hrest : Text.rest? domains.externalBase.toList iri.toList with
  | none => rfl
  | some path =>
    have hiri : iri = domains.externalBase ++ String.ofList path := by
      apply String.toList_inj.mp
      rw [Text.rest?_eq_some_iff.mp hrest, String.toList_append, String.toList_ofList]
    exact absurd hiri (h _)

theorem isImage_inwardTerm (domains : Domains) (term : Term) :
    domains.IsImage term (domains.inwardTerm term) := by
  cases term with
  | iri text =>
    by_cases h : ∃ path, text = domains.externalBase ++ path
    · obtain ⟨path, rfl⟩ := h
      exact .inl ⟨path, rfl, by rw [inwardTerm, inward_append]⟩
    · have hout : ∀ path, text ≠ domains.externalBase ++ path := fun path he => h ⟨path, he⟩
      refine .inr ⟨fun path he => hout path (Term.iri.inj he), ?_⟩
      rw [inwardTerm, inward_of_not_external hout]
  | blank label => exact .inr ⟨nofun, rfl⟩
  | literal content => exact .inr ⟨nofun, rfl⟩
  | «variable» name => exact .inr ⟨nofun, rfl⟩

end Domains

/-! ## The verdict -/

namespace Gateway

variable {gateway : Gateway} {graph other image : Graph} {report : Report}

theorem considered_eq_triples (hmode : gateway.mode = .strict ∨ gateway.mode = .relaxed)
    (graph : Graph) : gateway.considered graph = graph.triples := by
  unfold considered
  rcases hmode with hmode | hmode
  all_goals
    rw [hmode]
    rfl

section
variable (hmode : gateway.mode = .strict ∨ gateway.mode = .relaxed)
include hmode

/-- What a graph without a malformed text comes to. -/
theorem internalizeGraph_of_wellFormed
    (h : firstFault? (graph.triples.flatMap Triple.texts) = none) :
    gateway.internalizeGraph graph =
      if graph.triples.filterMap gateway.refused? = [] then
        .ok (.ofList (graph.triples.map gateway.domains.inwardTriple))
      else .error (.violations (graph.triples.filterMap gateway.refused?)) := by
  rw [← considered_eq_triples hmode graph] at h ⊢
  exact internalizeGraph_of_sound h

theorem internalizeGraph_eq_violations_iff :
    gateway.internalizeGraph graph = .error (.violations report) ↔
      firstFault? (graph.triples.flatMap Triple.texts) = none ∧ report ≠ [] ∧
        report = graph.triples.filterMap gateway.refused? := by
  cases h : firstFault? (graph.triples.flatMap Triple.texts) with
  | some fault =>
    have hfault : gateway.internalizeGraph graph = .error (.fault fault) :=
      internalizeGraph_of_fault (by rw [considered_eq_triples hmode, h])
    rw [hfault]
    simp
  | none =>
    rw [internalizeGraph_of_wellFormed hmode h]
    by_cases hreport : graph.triples.filterMap gateway.refused? = []
    · rw [if_pos hreport, hreport]
      constructor
      · intro e
        cases e
      · rintro ⟨-, hne, he⟩
        exact absurd he hne
    · rw [if_neg hreport, Except.error.injEq, Refusal.violations.injEq]
      constructor
      · rintro rfl
        exact ⟨rfl, hreport, rfl⟩
      · rintro ⟨-, -, he⟩
        exact he.symm

section
variable (hsound : ∀ triple ∈ graph.triples, ∀ text ∈ triple.texts, text.fault? = none)
include hsound

omit hmode in
theorem firstFault?_graph : firstFault? (graph.triples.flatMap Triple.texts) = none := by
  rw [firstFault?_eq_none_iff, List.forall_mem_flatMap]
  exact hsound

/-- A well-formed graph is refused for its disallowed statements, and for all of them. -/
theorem exists_report
    (h : ∃ triple ∈ graph.triples, gateway.policy.disallows gateway.mode triple = true) :
    ∃ report, gateway.internalizeGraph graph = .error (.violations report) ∧
      report.map Violation.statement =
        graph.triples.filter (gateway.policy.disallows gateway.mode) ∧
      (report.map Violation.statement).Nodup ∧
      ∀ violation ∈ report,
        gateway.policy.offence? violation.statement = some violation.offence := by
  obtain ⟨triple, ht, hd⟩ := h
  have hne : graph.triples.filterMap gateway.refused? ≠ [] := by
    intro hnil
    have hnone := refused?_eq_none_iff.mp (List.filterMap_eq_nil_iff.mp hnil triple ht)
    rw [hd] at hnone
    cases hnone
  have hstatements := map_statement_filterMap_refused? gateway graph.triples
  refine ⟨_, (internalizeGraph_eq_violations_iff hmode).mpr ⟨firstFault?_graph hsound, hne, rfl⟩,
    hstatements, ?_, ?_⟩
  · rw [hstatements]
    exact graph.nodup.filter _
  · intro violation hv
    obtain ⟨sent, -, hr⟩ := List.mem_filterMap.mp hv
    obtain ⟨hstatement, hoffence⟩ := refused?_eq_some hr
    rw [hstatement]
    exact hoffence

/-- A well-formed graph without disallowed statements is accepted with all its images. -/
theorem exists_image
    (h : ∀ triple ∈ graph.triples, gateway.policy.disallows gateway.mode triple = false) :
    ∃ image, gateway.internalizeGraph graph = .ok image ∧
      image.triples = (graph.triples.map gateway.domains.inwardTriple).eraseDups := by
  refine ⟨_, internalizeGraph_eq_ok_iff.mpr ⟨?_, ?_, rfl⟩, ?_⟩
  · rw [considered_eq_triples hmode]
    exact firstFault?_graph hsound
  · rw [considered_eq_triples hmode]
    intro triple ht
    exact refused?_eq_none_iff.mpr (h triple ht)
  · rw [considered_eq_triples hmode, Graph.triples_ofList]

end

omit hmode in
theorem firstFault?_of_perm (hperm : other.triples.Perm graph.triples)
    (h : firstFault? (graph.triples.flatMap Triple.texts) = none) :
    firstFault? (other.triples.flatMap Triple.texts) = none := by
  rw [firstFault?_eq_none_iff] at h ⊢
  intro text ht
  exact h text ((hperm.flatMap_right _).mem_iff.mp ht)

/-- The order of the statements shows in the order of the report only. -/
theorem exists_report_of_perm (hperm : other.triples.Perm graph.triples)
    (h : gateway.internalizeGraph graph = .error (.violations report)) :
    ∃ permuted, gateway.internalizeGraph other = .error (.violations permuted) ∧
      permuted.Perm report := by
  obtain ⟨hsound, hne, hreport⟩ := (internalizeGraph_eq_violations_iff hmode).mp h
  have hreports : (other.triples.filterMap gateway.refused?).Perm report := by
    rw [hreport]
    exact hperm.filterMap _
  have hnot : other.triples.filterMap gateway.refused? ≠ [] := by
    intro hnil
    rw [hnil] at hreports
    exact hne hreports.nil_eq.symm
  exact ⟨_, (internalizeGraph_eq_violations_iff hmode).mpr
    ⟨firstFault?_of_perm hperm hsound, hnot, rfl⟩, hreports⟩

/-- The order of the statements shows in the order of the image only. -/
theorem exists_image_of_perm (hperm : other.triples.Perm graph.triples)
    (h : gateway.internalizeGraph graph = .ok image) :
    ∃ same, gateway.internalizeGraph other = .ok same ∧ same.sameStatements image = true := by
  obtain ⟨hsound, hrefused, rfl⟩ := internalizeGraph_eq_ok_iff.mp h
  rw [considered_eq_triples hmode] at hsound hrefused ⊢
  refine ⟨_, internalizeGraph_eq_ok_iff.mpr ⟨?_, ?_, rfl⟩, ?_⟩
  · rw [considered_eq_triples hmode]
    exact firstFault?_of_perm hperm hsound
  · rw [considered_eq_triples hmode]
    intro triple ht
    exact hrefused triple (hperm.mem_iff.mp ht)
  · rw [considered_eq_triples hmode]
    exact Graph.sameStatements_ofList (hperm.map _)

end

/-- **What comes of a graph.** A malformed text is a fault, whatever else is wrong. A well-formed
graph with disallowed statements is refused with a report of exactly these statements, each once,
as it was sent and with its own offence. A well-formed graph without disallowed statements is
accepted, and its images are kept in the order of their first occurrence. Another order of the
statements gives the same graph or a report in another order, and other domains give the same
report. -/
theorem internalizeGraph_verdict (gateway : Gateway)
    (hmode : gateway.mode = .strict ∨ gateway.mode = .relaxed) (graph : Graph) :
    ((∃ triple ∈ graph.triples, ∃ text ∈ triple.texts, text.fault? ≠ none) →
      ∃ fault, IsFirstFault graph.triples fault) ∧
    (∀ fault, IsFirstFault graph.triples fault →
      gateway.internalizeGraph graph = .error (.fault fault)) ∧
    ((∀ triple ∈ graph.triples, ∀ text ∈ triple.texts, text.fault? = none) →
      ((∃ triple ∈ graph.triples, gateway.policy.disallows gateway.mode triple = true) →
        ∃ report, gateway.internalizeGraph graph = .error (.violations report) ∧
          report.map Violation.statement =
            graph.triples.filter (gateway.policy.disallows gateway.mode) ∧
          (report.map Violation.statement).Nodup ∧
          ∀ violation ∈ report,
            gateway.policy.offence? violation.statement = some violation.offence) ∧
      ((∀ triple ∈ graph.triples, gateway.policy.disallows gateway.mode triple = false) →
        ∃ image, gateway.internalizeGraph graph = .ok image ∧
          image.triples = (graph.triples.map gateway.domains.inwardTriple).eraseDups)) ∧
    (∀ triple, (gateway.domains.inwardTriple triple).predicate = triple.predicate ∧
      gateway.domains.IsImage triple.subject (gateway.domains.inwardTriple triple).subject ∧
      gateway.domains.IsImage triple.object (gateway.domains.inwardTriple triple).object) ∧
    (∀ other : Graph, other.triples.Perm graph.triples →
      (∀ report, gateway.internalizeGraph graph = .error (.violations report) →
        ∃ permuted, gateway.internalizeGraph other = .error (.violations permuted) ∧
          permuted.Perm report) ∧
      (∀ image, gateway.internalizeGraph graph = .ok image →
        ∃ same, gateway.internalizeGraph other = .ok same ∧ same.sameStatements image = true)) ∧
    (∀ domains report,
      internalizeGraph { gateway with domains } graph = .error (.violations report) ↔
        gateway.internalizeGraph graph = .error (.violations report)) := by
  refine ⟨?_, fun fault hfirst => ?_, fun hsound => ⟨?_, ?_⟩, ?_, fun other hperm => ⟨?_, ?_⟩,
    fun domains report => ?_⟩
  · rintro ⟨triple, ht, text, hx, hbad⟩
    cases h : firstFault? (graph.triples.flatMap Triple.texts) with
    | none =>
      have hmem : text ∈ graph.triples.flatMap Triple.texts := List.mem_flatMap_of_mem ht hx
      exact absurd (firstFault?_eq_none_iff.mp h text hmem) hbad
    | some fault => exact ⟨fault, isFirstFault_of_firstFault? h⟩
  · refine internalizeGraph_of_fault ?_
    rw [considered_eq_triples hmode]
    exact firstFault?_of_isFirstFault hfirst
  · exact exists_report hmode hsound
  · exact exists_image hmode hsound
  · intro triple
    exact ⟨rfl, gateway.domains.isImage_inwardTerm _, gateway.domains.isImage_inwardTerm _⟩
  · exact fun report h => exists_report_of_perm hmode hperm h
  · exact fun image h => exists_image_of_perm hmode hperm h
  · have hother : ({ gateway with domains } : Gateway).mode = .strict ∨
        ({ gateway with domains } : Gateway).mode = .relaxed := hmode
    rw [internalizeGraph_eq_violations_iff hother, internalizeGraph_eq_violations_iff hmode]
    rfl

/-- A relaxed graph with a disallowed statement before a malformed one. -/
def faultyGraph : Graph := .ofList
  [⟨.iri "http://ext/1", .iri "info:made", .literal (.plain "2020")⟩,
    ⟨.iri "http://ext/1", .iri "http://ext/p", .literal ⟨"a", some "no iri", some "no tag"⟩⟩,
    ⟨.iri "none", .iri "http://ext/p", .iri "http://ext/2"⟩]

/-- A graph with two disallowed statements around a waived one. -/
def refusedGraph : Graph := .ofList
  [⟨.iri "http://ext/1", .iri "info:made", .literal (.plain "2020")⟩,
    ⟨.iri "http://ext/1", .iri "info:type", .iri "info:Soft"⟩,
    ⟨.iri "http://ext/1", .iri "info:type", .iri "info:Hard"⟩]

/-- A graph of which two statements have the same image. -/
def collapsingGraph : Graph := .ofList
  [⟨.iri "http://ext/1", .iri "http://ext/p", .iri "http://ext/"⟩,
    ⟨.blank "b", .iri "http://ext/p", .literal (.plain "http://ext/1")⟩,
    ⟨.iri "info:fedora/1", .iri "http://ext/p", .iri "info:fedora"⟩]

set_option maxRecDepth 10000 in
theorem verdicts_of_relaxed_graphs :
    (smallGateway .relaxed).internalizeGraph faultyGraph = .error (.fault (.iri "no iri")) ∧
      (∃ report,
        (smallGateway .relaxed).internalizeGraph refusedGraph = .error (.violations report) ∧
          report.map Violation.statement =
            [⟨.iri "http://ext/1", .iri "info:made", .literal (.plain "2020")⟩,
              ⟨.iri "http://ext/1", .iri "info:type", .iri "info:Hard"⟩]) ∧
      ∃ image, (smallGateway .relaxed).internalizeGraph collapsingGraph = .ok image ∧
        image.triples =
          [⟨.iri "info:fedora/1", .iri "http://ext/p", .iri "info:fedora"⟩,
            ⟨.blank "b", .iri "http://ext/p", .literal (.plain "http://ext/1")⟩] := by
  have hmode : (smallGateway .relaxed).mode = .strict ∨ (smallGateway .relaxed).mode = .relaxed :=
    .inr rfl
  refine ⟨?_, ?_, ?_⟩
  · have htriples : faultyGraph.triples =
        [⟨.iri "http://ext/1", .iri "info:made", .literal (.plain "2020")⟩] ++
          ⟨.iri "http://ext/1", .iri "http://ext/p",
            .literal ⟨"a", some "no iri", some "no tag"⟩⟩ ::
          [⟨.iri "none", .iri "http://ext/p", .iri "http://ext/2"⟩] := by decide +kernel
    refine (internalizeGraph_verdict _ hmode faultyGraph).2.1 _ ?_
    exact ⟨_, _, _, [.iri "http://ext/1", .iri "http://ext/p"], .iri "no iri",
      [.languageTag "no tag"], htriples, by decide +kernel, rfl, by decide +kernel,
      by decide +kernel⟩
  · have hsound : ∀ triple ∈ refusedGraph.triples, ∀ text ∈ triple.texts,
        text.fault? = none := by decide +kernel
    obtain ⟨hreport, -⟩ := (internalizeGraph_verdict _ hmode refusedGraph).2.2.1 hsound
    obtain ⟨report, h, hstatements, -⟩ := hreport (by decide +kernel)
    refine ⟨report, h, hstatements.trans ?_⟩
    decide +kernel
  · have hsound : ∀ triple ∈ collapsingGraph.triples, ∀ text ∈ triple.texts,
        text.fault? = none := by decide +kernel
    obtain ⟨-, himage⟩ := (internalizeGraph_verdict _ hmode collapsingGraph).2.2.1 hsound
    obtain ⟨image, h, htriples⟩ := himage (by decide +kernel)
    refine ⟨image, h, htriples.trans ?_⟩
    decide +kernel

end Gateway

end RdfGateway
