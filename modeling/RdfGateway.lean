import RdfGateway.Body.MediaType
import RdfGateway.Body.Reader
import RdfGateway.Body.Reading
import RdfGateway.CommandLine.Arguments
import RdfGateway.CommandLine.Run
import RdfGateway.Gateway.Basic
import RdfGateway.Gateway.Domains
import RdfGateway.Gateway.Fault
import RdfGateway.Gateway.Update
import RdfGateway.Iri.Absolute
import RdfGateway.Iri.Address
import RdfGateway.Iri.Character
import RdfGateway.Iri.Reference
import RdfGateway.Json.Basic
import RdfGateway.Json.Printer
import RdfGateway.Json.Reader
import RdfGateway.Main
import RdfGateway.NTriples.Printer
import RdfGateway.NTriples.Reader
import RdfGateway.Policy.Basic
import RdfGateway.Policy.Enforcement
import RdfGateway.Policy.IriSet
import RdfGateway.Policy.Violation
import RdfGateway.Policy.Vocabulary
import RdfGateway.Rdf.Graph
import RdfGateway.Rdf.LanguageTag
import RdfGateway.Rdf.Name
import RdfGateway.Rdf.Statement
import RdfGateway.Rdf.StatementSet
import RdfGateway.Rdf.Term
import RdfGateway.Settings.Basic
import RdfGateway.Settings.Reader
import RdfGateway.Sparql.Filter
import RdfGateway.Sparql.Printer
import RdfGateway.Sparql.Update
import RdfGateway.Text.Alphabetic
import RdfGateway.Text.Blank
import RdfGateway.Text.CharRanges
import RdfGateway.Text.Cut
import RdfGateway.Text.Hex
import RdfGateway.Text.Lead
import RdfGateway.Text.Numeric
import RdfGateway.Text.Printable
import RdfGateway.Text.Quoted
import RdfGateway.Text.Utf8
import RdfGateway.Toml.Basic
import RdfGateway.Toml.Quoting
import RdfGateway.Toml.Reader
import RdfGateway.Toml.Scalar
import RdfGateway.Turtle.Reader
import RdfGateway.Turtle.Token
import RdfGateway.Wire.Policy
import RdfGateway.Wire.Shape
import RdfGateway.Wire.Statement
import RdfGateway.Wire.Update
import RdfGateway.Proofs.Judgement
import RdfGateway.Proofs.UpdateOutcome
import RdfGateway.Proofs.FilterContainment
import RdfGateway.Proofs.FilterGrammar
import RdfGateway.Proofs.StoredStatements
import RdfGateway.Proofs.GraphOutcome
import RdfGateway.Proofs.DomainRoundTrip
import RdfGateway.Proofs.IdentifierRoundTrip
import RdfGateway.Proofs.AcceptedTexts
import RdfGateway.Proofs.TermTexts
import RdfGateway.Proofs.NTriplesRoundTrip
import RdfGateway.Proofs.UpdateSymbols
import RdfGateway.Proofs.UpdateElements
import RdfGateway.Proofs.LabelScopes
import RdfGateway.Proofs.UpdateClauses
import RdfGateway.Proofs.UniqueReading
import RdfGateway.Proofs.EnforcementModes
import RdfGateway.Proofs.UpdateFaults
import RdfGateway.Proofs.CarriedStatements
import RdfGateway.Proofs.RestrictedTypes
import RdfGateway.Proofs.TighterPolicies
import RdfGateway.Proofs.IriPaths
import RdfGateway.Proofs.Idempotence
import RdfGateway.Proofs.JsonText
import RdfGateway.Proofs.TermPositions
import RdfGateway.Proofs.NTriplesGrammar
import RdfGateway.Proofs.UpdateGrammar
import RdfGateway.Proofs.UpdateUnits
import RdfGateway.Proofs.LegalUpdates
import RdfGateway.Proofs.WrittenOutcome
import RdfGateway.Proofs.WireRoundTrip
import RdfGateway.Proofs.IriSlashes
import RdfGateway.Proofs.WellFormedIdentifiers
import RdfGateway.Proofs.NestedDomains
import RdfGateway.Proofs.NormalDomains
import RdfGateway.Proofs.AcceptedTerminals
import RdfGateway.Proofs.Terminals
import RdfGateway.Proofs.LiteralTerminals
import RdfGateway.Proofs.TurtleProgress
import RdfGateway.Proofs.PlainBodies
import RdfGateway.Proofs.Readings
import RdfGateway.Proofs.GraphHistory
