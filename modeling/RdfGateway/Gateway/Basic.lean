import RdfGateway.Gateway.Domains
import RdfGateway.Policy.Basic
import RdfGateway.Policy.Enforcement

/-!
# The gateway

A gateway has a policy, the two identifier domains and a mode of enforcement. It judges one
statement at a time: a malformed statement is a fault, a statement that the policy forbids and the
mode does not waive is a violation and stays as it is, and every other statement is made internal.
Graphs and updates are judged by this one rule.
-/

namespace RdfGateway

/-- A policy, the two domains, and how strictly the policy is applied. -/
structure Gateway where
  policy : Policy
  domains : Domains
  mode : Enforcement
  deriving Inhabited

/-- Why a graph or an update was refused. -/
inductive Refusal where
  /-- A text of it is malformed. Violations found before it are not reported. -/
  | fault (fault : Fault)
  /-- Statements of it may not be written. -/
  | violations (report : Report)
  deriving DecidableEq, Inhabited

/-- What is said of a refusal. -/
def Refusal.message : Refusal → String
  | .fault cause => cause.message
  | .violations report => report.summary

/-- The value, unless violations were found. -/
def Judged.accepted {α : Type} (part : Judged α) : Except Refusal α :=
  if part.report.isEmpty then .ok part.value else .error (.violations part.report)

namespace Gateway

/-- The violation of a statement that the mode does not waive. -/
def refused? (gateway : Gateway) (triple : Triple) : Option Violation :=
  (gateway.policy.violation? triple).filter fun violation =>
    !gateway.mode.waives violation.offence

/-- The judgement of one statement. -/
def judge (gateway : Gateway) (triple : Triple) : Except Fault (Judged Triple) := do
  Fault.check triple.fault?
  match gateway.refused? triple with
  | some violation => return ⟨triple, [violation]⟩
  | none => return .clean (← gateway.domains.internalizeTriple triple)

/-- The judgement of several statements. -/
def judgeAll (gateway : Gateway) (triples : List Triple) : Except Fault (Judged (List Triple)) :=
  .all <$> triples.mapM gateway.judge

/-- The statements of a graph that are judged: under lenient enforcement the managed ones are
dropped. -/
def considered (gateway : Gateway) (graph : Graph) : List Triple :=
  if gateway.mode.dropsManaged then
    graph.triples.filter fun triple => !gateway.policy.touchesManaged triple
  else graph.triples

/-- A graph of a client as the store keeps it. -/
def internalizeGraph (gateway : Gateway) (graph : Graph) : Except Refusal Graph := do
  let judged ← (gateway.judgeAll (gateway.considered graph)).mapError .fault
  return .ofList (← judged.accepted)

end Gateway

end RdfGateway
