import RdfGateway.Gateway.Basic

/-!
# Updates through the gateway

Every statement of an update is judged where it stands, and the tree around it is kept. The report
of a part is the reports of its parts in the order of the request; a request is refused only after
all of it has been gone through, unless a fault ends the matter.
-/

namespace RdfGateway.Gateway

/-- The judgement of a statement and its graph name, which is kept. -/
def judgeQuad (gateway : Gateway) (quad : Quad) : Except Fault (Judged Quad) := do
  Fault.check quad.graph.fault?
  let judged ← gateway.judge quad.triple
  return judged.map fun triple => { quad with triple }

/-- The judgement of the statements of an operation. -/
def judgeQuads (gateway : Gateway) (quads : List Quad) : Except Fault (Judged (List Quad)) :=
  .all <$> quads.mapM gateway.judgeQuad

/-- The judgement of a template that may be absent. -/
def judgeTemplate (gateway : Gateway) :
    Option (List Quad) → Except Fault (Judged (Option (List Quad)))
  | some quads => do return (← gateway.judgeQuads quads).map some
  | none => .ok (.clean none)

mutual

/-- The judgement of a pattern. -/
def judgePattern (gateway : Gateway) : Pattern → Except Fault (Judged Pattern)
  | .group children => do return (← judgePatterns gateway children).map .group
  | .block triples => do return (← gateway.judgeAll triples).map .block
  | .optional body => do return (← judgePattern gateway body).map .optional
  | .graph name body => do
    Fault.check name.fault?
    return (← judgePattern gateway body).map (.graph name)
  | .filter expression => do
    Fault.check (filterFault? expression)
    return .clean (.filter expression)

/-- The judgement of the children of a group. -/
def judgePatterns (gateway : Gateway) : List Pattern → Except Fault (Judged (List Pattern))
  | [] => .ok (.clean [])
  | child :: rest => do
    let first ← judgePattern gateway child
    let others ← judgePatterns gateway rest
    return ⟨first.value :: others.value, first.report ++ others.report⟩

end

/-- The judgement of a modification. Its graph IRIs are looked at before its statements. -/
def judgeModify (gateway : Gateway) (modify : Modify) : Except Fault (Judged Modify) := do
  Fault.check
    ((modify.withGraph.toList ++ modify.usingGraphs ++ modify.usingNamed).findSome? iriFault?)
  let delete ← gateway.judgeTemplate modify.delete
  let insert ← gateway.judgeTemplate modify.insert
  let pattern ← gateway.judgePattern modify.pattern
  return {
    value := { modify with
      delete := delete.value
      insert := insert.value
      pattern := pattern.value }
    report := delete.report ++ insert.report ++ pattern.report }

/-- The judgement of an operation. -/
def judgeOperation (gateway : Gateway) : Operation → Except Fault (Judged Operation)
  | .insertData quads => do return (← gateway.judgeQuads quads).map .insertData
  | .deleteData quads => do return (← gateway.judgeQuads quads).map .deleteData
  | .deleteWhere quads => do return (← gateway.judgeQuads quads).map .deleteWhere
  | .modify change => do return (← gateway.judgeModify change).map .modify

/-- The judgement of a request. Its prologue is looked at first and kept. -/
def judgeRequest (gateway : Gateway) (request : Request) : Except Fault (Judged Request) := do
  Fault.check (prologueFault? request.base request.prefixes)
  let operations ← request.operations.mapM gateway.judgeOperation
  return (Judged.all operations).map fun operations => { request with operations }

/-- The gateway as it treats updates: nothing can be dropped from them. -/
def forUpdate (gateway : Gateway) : Gateway := { gateway with mode := gateway.mode.forUpdate }

/-- An update of a client as the store carries it out. -/
def internalizeRequest (gateway : Gateway) (request : Request) : Except Refusal Request := do
  (← (gateway.forUpdate.judgeRequest request).mapError .fault).accepted

end RdfGateway.Gateway
