import Schemata.Number.Binary
import Schemata.Number.Shortest
import Schemata.Number.Text
import Schemata.Number.Read
import Schemata.Text.Printable
import Schemata.Text.Lowercase
import Schemata.Text.Words
import Schemata.Text.Quoted
import Schemata.Text.Blank
import Schemata.Json
import Schemata.Trace
import Schemata.Error
import Schemata.Value.Type
import Schemata.Value.Basic
import Schemata.Value.Text
import Schemata.Value.Json
import Schemata.Property.Constraint
import Schemata.Property.Metadata
import Schemata.Property.Basic
import Schemata.Property.Identity
import Schemata.Container.Basic
import Schemata.Container.Resolve
import Schemata.Container.Session
import Schemata.Schema
import Schemata.Rules.Format
import Schemata.Rules.Parser
import Schemata.Rules.Provider
import Schemata.Service.Request
import Schemata.Validation.Message
import Schemata.Service.Standalone
import Schemata.Service.Answer
import Schemata.Validation.Predicate
import Schemata.Validation.Rule
import Schemata.Validation.Synthesizer
import Schemata.Rules.Cache
import Schemata.Service.Reading
import Schemata.Service.Render
import Schemata.Service.Workspace.Basic
import Schemata.Service.Workspace.Properties
import Schemata.Service.Workspace.Containers
import Schemata.Service.Workspace.Parsing
import Schemata.Service.Workspace.Validation
import Schemata.Service.Workspace.Scenario
import Schemata.Json.Parse
import Schemata.Json.Render
import Schemata.Proofs.Traced
import Schemata.Proofs.Resolution
import Schemata.Proofs.Cycles
import Schemata.Proofs.Providers
import Schemata.Proofs.Caching
import Schemata.Proofs.Availability
import Schemata.Proofs.Templates
import Schemata.Proofs.Combinators
import Schemata.Proofs.Constraints
import Schemata.Proofs.Rounding
import Schemata.Proofs.Numerals
import Schemata.Proofs.ShortestDecimal
import Schemata.Proofs.FloatText
import Schemata.Proofs.CollectionText
import Schemata.Proofs.ValueTypes
import Schemata.Proofs.RoundTrip
import Schemata.Proofs.SharedStack
import Schemata.Proofs.Nesting
import Schemata.Proofs.Specificity
import Schemata.Proofs.SchemaKeys
import Schemata.Proofs.IntervalCheck
import Schemata.Proofs.Positions
import Schemata.Proofs.Synthesis
import Schemata.Proofs.ContainerBuilding
import Schemata.Proofs.CollectionPieces
import Schemata.Proofs.TemplateFilling
import Schemata.Proofs.MetadataHistory
import Schemata.Proofs.AbsentValues
import Schemata.Proofs.Identities
