import RdfGateway.Proofs.Idempotence
import RdfGateway.Proofs.LegalUpdates
import RdfGateway.Proofs.NTriplesGrammar

/-!
# The texts of the outcome

What a gateway hands on is written out, a graph as N-Triples and an update as SPARQL. The text is
not always a document or an update: that depends on what was sent (`outcome_keeps`). The outcome
keeps exactly the rules that the body keeps, and when identifiers are IRIs, a graph is written as a
document exactly when it keeps the rules, and an update that keeps the rules is written as an
update. A body that breaks a rule is written out as it stands, and for each rule there is one that
is accepted (`breakers_accepted`).

Proof. The rules carry over to the outcome (`keeps_of_internalizeGraph`,
`keeps_of_internalizeRequest`). The rest is about what is written alone
(`Graph.toNTriples_mem_document_iff`, `Request.isUpdate_text`).
-/

namespace RdfGateway

open Sparql

/-! ## Filters -/

theorem Triple.filter_not_mem_texts (triple : Triple) (expression : String) :
    .filter expression ∉ triple.texts := by
  have hterm (term : Term) : .filter expression ∉ term.texts := by
    cases term with
    | iri | blank | «variable» => simp [Term.texts]
    | literal content => simp [Term.texts, Literal.texts]
  simp [texts, hterm]

/-- The filters of an update stay as they are when its statements are replaced. -/
theorem Request.filter_mem_of_mapStatements {f : Triple → Triple} {request : Request}
    {expression : String} (h : .filter expression ∈ (request.mapStatements f).texts) :
    .filter expression ∈ request.texts := by
  rcases request.mem_texts_mapStatements h with hmem | ⟨triple, -, hmem⟩
  · exact hmem
  · exact absurd hmem ((f triple).filter_not_mem_texts expression)

/-! ## The outcome -/

namespace Gateway

theorem sound_of_internalizeGraph {gateway : Gateway} {graph image : Graph}
    (hdomains : gateway.domains.IsSound) (h : gateway.internalizeGraph graph = .ok image) :
    ∀ triple ∈ image.triples, ∀ text ∈ triple.texts, text.fault? = none :=
  fun _ ht => firstFault?_eq_none_iff.mp (firstFault?_texts_of_mem_image hdomains h ht)

/-- **What is accepted keeps a rule exactly when what was sent keeps it**: a graph a rule of
documents, less the statements that are dropped, and an update a rule of updates. When identifiers
are IRIs, a graph is written as a document exactly when the outcome keeps the rules, but for a
datatype beside a language tag; without one the graph is known again from its text. An update that
keeps the rules is written as an update, whatever language its filters are expressions of. -/
theorem outcome_keeps (gateway : Gateway) :
    (∀ graph image, gateway.internalizeGraph graph = .ok image →
      (∀ rule : GraphRule,
        image.keeps rule = (gateway.considered graph).all fun triple => triple.keeps rule) ∧
      (gateway.domains.IsSound →
        (image.toNTriples.toList ∈ NTriples.Grammar.document ↔
          ∀ rule : GraphRule, rule ≠ .literal → image.keeps rule = true) ∧
        (image.keeps .literal = true → ∀ other : Graph, (∀ triple ∈ other.triples, triple.IsShown) →
          other.toNTriples = image.toNTriples → other = image))) ∧
    (∀ request result, gateway.internalizeRequest request = .ok result →
      (∀ rule : UpdateRule, result.keeps rule = request.keeps rule) ∧
      (gateway.domains.IsSound →
        (∀ rule : UpdateRule, rule ≠ .literal → request.keeps rule = true) →
        ∀ expressions : Language Char,
          (∀ expression, .filter expression ∈ request.texts → expression.toList ∈ expressions) →
          IsUpdate expressions result.text.toList)) := by
  constructor
  · intro graph image h
    refine ⟨keeps_of_internalizeGraph h, fun hdomains => ?_⟩
    have hsound := sound_of_internalizeGraph hdomains h
    refine ⟨Graph.toNTriples_mem_document_iff hsound, fun hsingle other hother htext => ?_⟩
    exact Graph.eq_of_toNTriples hother
      (fun triple ht => ⟨hsound triple ht, List.all_eq_true.mp hsingle triple ht⟩) htext
  · intro request result h
    have hkeeps := keeps_of_internalizeRequest h
    refine ⟨hkeeps, fun hdomains hrules expressions hexpressions => ?_⟩
    have hsound := firstFault?_eq_none_iff.mp (firstFault?_texts_result hdomains h)
    obtain ⟨-, -, rfl⟩ := internalizeRequest_eq_ok_iff.mp h
    exact Request.isUpdate_text hsound (fun rule hrule => (hkeeps rule).trans (hrules rule hrule))
      fun expression hmem => hexpressions expression (Request.filter_mem_of_mapStatements hmem)

/-- A data block and a modification with a prologue, terms of each kind in legal places. -/
def legalUpdate : Request where
  base := some "http://ext/"
  prefixes := [⟨"ext", "http://ext/"⟩]
  operations :=
    [.insertData [⟨⟨.blank "b", .iri "http://ext/p", .literal (.tagged "A" "en")⟩,
        .named (.iri "http://ext/g")⟩],
      .modify ⟨some "http://ext/g", ["http://ext/g"], [],
        some [⟨⟨.variable "s", .variable "p", .variable "o"⟩, .default⟩], some [],
        .group [.block [⟨.variable "s", .variable "p", .variable "o"⟩],
          .graph (.variable "g") (.optional (.filter "?o < 1"))]⟩]

def legalStatement : Triple := ⟨.iri "http://ext/1", .iri "http://ext/p", .literal (.plain "A\n")⟩

theorem isSound_smallGateway : (smallGateway .strict).domains.IsSound := by
  have hbase : Domains.IsServerBase "http://ext" :=
    ⟨⟨"http", "ext", "", by decide +kernel, by decide +kernel, by decide, by decide, .inl rfl⟩,
      by decide, by decide⟩
  exact (Domains.isSettled_defaultRoot hbase).sound

set_option maxRecDepth 10000 in
theorem legalUpdate_written :
    (smallGateway .strict).domains.IsSound ∧
      (∃ image, (smallGateway .strict).internalizeGraph (.ofList [legalStatement]) = .ok image ∧
        image.triples.length = 1 ∧ image.toNTriples.toList ∈ NTriples.Grammar.document ∧
        ∀ other : Graph, (∀ triple ∈ other.triples, triple.IsShown) →
          other.toNTriples = image.toNTriples → other = image) ∧
      ∃ result, (smallGateway .strict).internalizeRequest legalUpdate = .ok result ∧
        IsUpdate (exactly "?o < 1".toList) result.text.toList := by
  obtain ⟨hgraphs, hrequests⟩ := outcome_keeps (smallGateway .strict)
  refine ⟨isSound_smallGateway, ?_, ?_⟩
  · obtain ⟨image, himage⟩ : ∃ image,
        (smallGateway .strict).internalizeGraph (.ofList [legalStatement]) = .ok image :=
      ⟨_, internalizeGraph_eq_ok_iff.mpr ⟨by decide +kernel, by decide +kernel, rfl⟩⟩
    obtain ⟨hkeeps, hwritten⟩ := hgraphs _ image himage
    obtain ⟨hdocument, hknown⟩ := hwritten isSound_smallGateway
    have hrules (rule : GraphRule) : image.keeps rule = true := by
      rw [hkeeps]
      cases rule <;> decide +kernel
    obtain ⟨-, -, hmapped⟩ := internalizeGraph_eq_ok_iff.mp himage
    refine ⟨image, himage, ?_, hdocument.mpr fun rule _ => hrules rule, hknown (hrules .literal)⟩
    rw [← hmapped]
    decide +kernel
  · obtain ⟨result, hresult⟩ : ∃ result,
        (smallGateway .strict).internalizeRequest legalUpdate = .ok result :=
      ⟨_, internalizeRequest_eq_ok_iff.mpr ⟨by decide +kernel, by decide +kernel, rfl⟩⟩
    obtain ⟨-, hwritten⟩ := hrequests _ result hresult
    refine ⟨result, hresult, hwritten isSound_smallGateway ?_ _ fun expression hmem => ?_⟩
    · intro rule _
      cases rule <;> decide +kernel
    · obtain rfl : expression = "?o < 1" := by
        simpa [legalUpdate, Request.texts, prologueTexts, Operation.texts, Modify.texts,
          templateTexts, Pattern.texts, Pattern.textsAll, Quad.texts, GraphName.texts, Triple.texts,
          Term.texts, Literal.texts] using hmem
      rfl

/-- A statement that breaks the rule of documents and no other one. -/
def breakingStatement : GraphRule → Triple
  | .subject => ⟨.literal (.plain "A"), .iri "http://ext/p", .iri "http://ext/1"⟩
  | .predicate => ⟨.iri "http://ext/1", .blank "b", .iri "http://ext/1"⟩
  | .object => ⟨.iri "http://ext/1", .iri "http://ext/p", .variable "v"⟩
  | .literal =>
    ⟨.iri "http://ext/1", .iri "http://ext/p", .literal ⟨"A", some "http://ext/d", some "en"⟩⟩
  | .languageTag => ⟨.iri "http://ext/1", .iri "http://ext/p", .literal (.tagged "A" "a1")⟩

/-- A request that breaks the rule of updates and no other one. -/
def breakingRequest : UpdateRule → Request
  | .subject => ⟨none, [], [.insertData [⟨breakingStatement .subject, .default⟩]]⟩
  | .predicate => ⟨none, [], [.insertData [⟨breakingStatement .predicate, .default⟩]]⟩
  | .literal => ⟨none, [], [.insertData [⟨breakingStatement .literal, .default⟩]]⟩
  | .graphName => ⟨none, [], [.insertData [⟨legalStatement, .named (.blank "g")⟩]]⟩
  | .data => ⟨none, [], [.insertData [⟨breakingStatement .object, .default⟩]]⟩
  | .template =>
    ⟨none, [], [.modify ⟨none, [], [], none, none, .block [breakingStatement .object]⟩]⟩
  | .deletion =>
    ⟨none, [], [.deleteData [⟨⟨.blank "b", .iri "http://ext/p", .iri "http://ext/1"⟩, .default⟩]]⟩
  | .labels =>
    let block : Pattern := .block [⟨.blank "b", .iri "http://ext/p", .variable "v"⟩]
    ⟨none, [], [.modify ⟨none, [], [], none, some [], .group [block, .group [block]]⟩]⟩
  | .languageTag => ⟨none, [], [.insertData [⟨breakingStatement .languageTag, .default⟩]]⟩
  | .prefixLabel => ⟨none, [⟨"\u00AA", "http://ext/"⟩], []⟩
  | .filter => ⟨none, [], [.modify ⟨none, [], [], none, some [], .filter "true #"⟩]⟩

/-- **Each rule is broken by a body that is accepted**, and by the outcome, which keeps all the
other rules. What such a graph is written as is no document, unless the rule is about a datatype
beside a language tag. -/
theorem breakers_accepted :
    (∀ rule : GraphRule, ∃ image,
      (smallGateway .strict).internalizeGraph (.ofList [breakingStatement rule]) = .ok image ∧
        (∀ other, image.keeps other = (other != rule)) ∧
        (rule ≠ .literal → image.toNTriples.toList ∉ NTriples.Grammar.document)) ∧
    (∀ rule : UpdateRule, ∃ result,
      (smallGateway .strict).internalizeRequest (breakingRequest rule) = .ok result ∧
        ∀ other, result.keeps other = (other != rule)) := by
  constructor
  · intro rule
    obtain ⟨image, himage⟩ : ∃ image,
        (smallGateway .strict).internalizeGraph (.ofList [breakingStatement rule]) = .ok image := by
      refine ⟨_, internalizeGraph_eq_ok_iff.mpr ⟨?_, ?_, rfl⟩⟩
      · cases rule <;> decide +kernel
      · cases rule <;> decide +kernel
    have hkeeps (other : GraphRule) : image.keeps other = (other != rule) := by
      rw [keeps_of_internalizeGraph himage]
      cases rule <;> cases other <;> decide +kernel
    refine ⟨image, himage, hkeeps, fun hliteral hdocument => ?_⟩
    have hrules := (Graph.toNTriples_mem_document_iff
      (sound_of_internalizeGraph isSound_smallGateway himage)).mp hdocument
    exact absurd (hrules rule hliteral) (by simp [hkeeps])
  · intro rule
    refine ⟨_, internalizeRequest_eq_ok_iff.mpr ⟨?_, ?_, rfl⟩, ?_⟩
    · cases rule <;> decide +kernel
    · cases rule <;> decide +kernel
    · intro other
      cases rule <;> cases other <;> decide +kernel

end Gateway

end RdfGateway
