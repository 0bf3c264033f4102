import RdfGateway.Body.MediaType
import RdfGateway.Rdf.Statement

/-!
# Readings

A reader states one thing after the other until it comes to the end of the document or fails. What
it states is taken as it comes, so a statement in the place of a term is refused even when the
document is malformed further on, and a document that is malformed before it is refused for that.
-/

namespace RdfGateway

/-- What a reader has made of a document. -/
structure Reading where
  /-- What it has stated, in order. -/
  stated : List Emission
  /-- It has come to the end of the document. -/
  complete : Bool

/-- What is stated as a statement. -/
def Emission.accept (emission : Emission) : Except BodyError Statement :=
  match emission.statement? with
  | some statement => .ok statement
  | none => .error .quotedStatement

/-- The statements of a reading, unless it fails. -/
def Reading.statements (reading : Reading) : Except BodyError (List Statement) := do
  let statements ← reading.stated.mapM Emission.accept
  unless reading.complete do throw .malformed
  return statements

end RdfGateway
