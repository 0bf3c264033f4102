import RdfGateway.Body.Reader
import RdfGateway.Proofs.TurtleProgress

/-!
# Readings of bodies

The readers of both media types give a reading: what they have stated, and whether they came to the
end (`readBody_eq`). A body is refused for what fails first, a statement in the place of a term that
the reader states (`Reading.statements_of_quoted`), or the reader itself
(`Reading.statements_of_incomplete`), and otherwise it is the graph of what has been stated
(`Reading.statements_eq_ok_iff`). What follows in a Turtle document does not matter once such a
statement has been stated (`readBody_of_quoted_after`).
-/

namespace RdfGateway

open Text

/-! ## The statements of a reading -/

/-- The statement as it is stated. -/
def Statement.emission (statement : Statement) : Emission :=
  ⟨.term statement.subject, statement.predicate, .term statement.object⟩

theorem Emission.statement?_eq_some_iff {emission : Emission} {statement : Statement} :
    emission.statement? = some statement ↔ emission = statement.emission := by
  obtain ⟨subject, predicate, object⟩ := emission
  obtain ⟨subject', predicate', object'⟩ := statement
  cases subject <;> cases object <;> simp [statement?, Statement.emission]

section

variable {stated : List Emission} {complete : Bool}

theorem exists_statements (h : ∀ emission ∈ stated, emission.statement? ≠ none) :
    ∃ statements : List Statement, stated = statements.map Statement.emission := by
  induction stated with
  | nil => exact ⟨[], rfl⟩
  | cons emission stated ih =>
    obtain ⟨hhead, htail⟩ := List.forall_mem_cons.mp h
    obtain ⟨statement, hstatement⟩ := Option.ne_none_iff_exists'.mp hhead
    obtain ⟨statements, hstatements⟩ := ih htail
    exact ⟨statement :: statements, by
      rw [List.map_cons, Emission.statement?_eq_some_iff.mp hstatement, hstatements]⟩

namespace Reading

theorem statements_cons (emission : Emission) : statements ⟨emission :: stated, complete⟩ =
    emission.accept >>= fun statement => (statement :: ·) <$> statements ⟨stated, complete⟩ := by
  rw [statements, List.mapM_cons, statements]
  cases emission.accept with
  | error failure => rfl
  | ok statement =>
    cases stated.mapM Emission.accept with
    | error failure => rfl
    | ok found => cases complete <;> rfl

theorem statements_map (found : List Statement) :
    statements ⟨found.map Statement.emission, complete⟩ =
      if complete then .ok found else .error .malformed := by
  induction found with
  | nil => cases complete <;> rfl
  | cons statement found ih =>
    rw [List.map_cons, statements_cons, ih]
    cases complete <;> rfl

theorem statements_of_quoted {reading : Reading}
    (h : ∃ emission ∈ reading.stated, emission.statement? = none) :
    reading.statements = .error .quotedStatement := by
  obtain ⟨stated, complete⟩ := reading
  induction stated with
  | nil =>
    obtain ⟨_, hmem, -⟩ := h
    cases hmem
  | cons emission stated ih =>
    rw [statements_cons, Emission.accept]
    cases hterms : emission.statement? with
    | none => rfl
    | some statement =>
      obtain ⟨quoted, hmem, hquoted⟩ := h
      rcases List.mem_cons.mp hmem with rfl | hmem
      · rw [hterms] at hquoted
        cases hquoted
      · rw [ih ⟨quoted, hmem, hquoted⟩]
        rfl

theorem statements_of_incomplete {reading : Reading}
    (h : ∀ emission ∈ reading.stated, emission.statement? ≠ none)
    (hcomplete : reading.complete = false) : reading.statements = .error .malformed := by
  obtain ⟨stated, complete⟩ := reading
  obtain ⟨found, rfl⟩ := exists_statements h
  rw [statements_map, if_neg (Bool.eq_false_iff.mp hcomplete)]

theorem statements_eq_ok_iff {reading : Reading} {found : List Statement} :
    reading.statements = .ok found ↔
      reading.complete = true ∧ reading.stated = found.map Statement.emission := by
  constructor
  · intro h
    by_cases hquoted : ∃ emission ∈ reading.stated, emission.statement? = none
    · rw [statements_of_quoted hquoted] at h
      cases h
    · obtain ⟨stated, complete⟩ := reading
      obtain ⟨statements, rfl⟩ := exists_statements fun emission hmem hnone =>
        hquoted ⟨emission, hmem, hnone⟩
      rw [statements_map] at h
      cases complete with
      | true => exact ⟨rfl, congrArg (List.map _) (Except.ok.inj h)⟩
      | false => cases h
  · rintro ⟨hcomplete, hstated⟩
    obtain ⟨stated, complete⟩ := reading
    simp only at hcomplete hstated
    rw [hstated, statements_map, if_pos hcomplete]

end Reading

end

/-! ## N-Triples -/

namespace NTriples

/-- What lines state, up to the first one that is malformed. -/
def linesReading : List Document → Reading
  | [] => ⟨[], true⟩
  | line :: rest =>
    if isLineEnd line then linesReading rest
    else
      match terms (skip line) with
      | none => ⟨[], false⟩
      | some (subject, predicate, object) =>
        ⟨⟨subject, predicate, object⟩ :: (linesReading rest).stated, (linesReading rest).complete⟩

/-- What a document states. -/
def reading (document : Document) : Reading := linesReading (pieces (some '\n') document)

theorem statements_linesReading (lines : List Document) :
    (linesReading lines).statements = (fun found => found.filterMap id) <$> lines.mapM line := by
  induction lines with
  | nil => rfl
  | cons first rest ih =>
    rw [List.mapM_cons, linesReading, line]
    split
    · rw [ih]
      cases rest.mapM line <;> rfl
    · cases terms (skip first) with
      | none => rfl
      | some found =>
        obtain ⟨subject, predicate, object⟩ := found
        simp only
        rw [Reading.statements_cons, ih]
        cases subject with
        | quoted => rfl
        | term subject =>
          cases object with
          | quoted => rfl
          | term object => cases rest.mapM line <;> rfl

/-- The statements of a document are those of its reading. -/
theorem statements_eq (document : Document) :
    statements document = (reading document).statements := by
  rw [reading, statements_linesReading]
  rfl

end NTriples

/-! ## Bodies -/

/-- What the reader of a media type makes of a body. -/
def bodyReading (bytes : ByteArray) (mediaType : MediaType) (resource : Option String) :
    Except BodyError Reading :=
  match mediaType with
  | .turtle => (Turtle.reading · (characters bytes)) <$> bodyBase? resource
  | .nTriples => .ok (NTriples.reading (characters bytes))

section

variable {bytes : ByteArray} {contentType : String} {mediaType : MediaType}
  {resource : Option String} {reading : Reading} {graph : Graph}

theorem readStatements_eq (bytes : ByteArray) (mediaType : MediaType) (resource : Option String) :
    readStatements bytes mediaType resource =
      bodyReading bytes mediaType resource >>= Reading.statements := by
  cases mediaType with
  | turtle =>
    rw [readStatements, bodyReading]
    cases bodyBase? resource <;> rfl
  | nTriples => exact NTriples.statements_eq _

theorem readBody_of_mediaType (hmedia : MediaType.ofContentType contentType = .ok mediaType) :
    readBody bytes contentType resource = (fun found => Graph.ofList (found.map Statement.toTriple)) <$>
      (bodyReading bytes mediaType resource >>= Reading.statements) := by
  rw [readBody, hmedia, ← readStatements_eq]
  rfl

theorem readBody_of_reading (hmedia : MediaType.ofContentType contentType = .ok mediaType)
    (hreading : bodyReading bytes mediaType resource = .ok reading) :
    readBody bytes contentType resource =
      (fun found => Graph.ofList (found.map Statement.toTriple)) <$> reading.statements := by
  rw [readBody_of_mediaType hmedia, hreading]
  rfl

/-- **A body that is read** has a reading to its end in which nothing but statements has been stated,
and is the graph of these. -/
theorem readBody_eq_ok_iff : readBody bytes contentType resource = .ok graph ↔
    ∃ (mediaType : MediaType) (statements : List Statement),
      MediaType.ofContentType contentType = .ok mediaType ∧
      bodyReading bytes mediaType resource = .ok ⟨statements.map Statement.emission, true⟩ ∧
      graph = .ofList (statements.map Statement.toTriple) := by
  constructor
  · intro h
    cases hmedia : MediaType.ofContentType contentType with
    | error failure =>
      rw [readBody, hmedia] at h
      cases h
    | ok mediaType =>
      cases hreading : bodyReading bytes mediaType resource with
      | error failure =>
        rw [readBody_of_mediaType hmedia, hreading] at h
        cases h
      | ok reading =>
        rw [readBody_of_reading hmedia hreading] at h
        cases hstatements : reading.statements with
        | error failure =>
          rw [hstatements] at h
          cases h
        | ok statements =>
          rw [hstatements] at h
          obtain ⟨hcomplete, hstated⟩ := Reading.statements_eq_ok_iff.mp hstatements
          obtain ⟨stated, complete⟩ := reading
          cases hcomplete
          cases hstated
          exact ⟨mediaType, statements, rfl, hreading, (Except.ok.inj h).symm⟩
  · rintro ⟨mediaType, statements, hmedia, hreading, rfl⟩
    rw [readBody_of_reading hmedia hreading, Reading.statements_map]
    rfl

/-- **Whatever follows in a Turtle document**, the body is refused for a statement in the place of a
term once the first items have stated one. -/
theorem readBody_of_quoted_after {base : Option Iri.Reference} {count : Nat}
    (hmedia : MediaType.ofContentType contentType = .ok .turtle)
    (hbase : bodyBase? resource = .ok base) (hcount : count ≤ (characters bytes).length + 1)
    (h : ∃ emission ∈ (Turtle.after base (characters bytes) count).stated,
      emission.statement? = none) :
    readBody bytes contentType resource = .error .quotedStatement := by
  have hreading : bodyReading bytes .turtle resource =
      .ok (Turtle.reading base (characters bytes)) := by
    rw [bodyReading, hbase]
    rfl
  obtain ⟨emission, hmem, hquoted⟩ := h
  have hstated : emission ∈ (Turtle.reading base (characters bytes)).stated :=
    (Turtle.stated_after hcount).subset (List.mem_reverse.mpr hmem)
  rw [readBody_of_reading hmedia hreading, Reading.statements_of_quoted ⟨emission, hstated, hquoted⟩]
  rfl

end

end RdfGateway
