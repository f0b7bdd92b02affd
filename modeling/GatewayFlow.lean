import GatewayFlow.Arguments
import GatewayFlow.Attributes
import GatewayFlow.Calendar
import GatewayFlow.Catalog
import GatewayFlow.CommandLine
import GatewayFlow.Connection
import GatewayFlow.Document
import GatewayFlow.Edge
import GatewayFlow.Editor
import GatewayFlow.Failure
import GatewayFlow.Field
import GatewayFlow.Files
import GatewayFlow.Flow
import GatewayFlow.FlowFile
import GatewayFlow.Generation
import GatewayFlow.IdSource
import GatewayFlow.Identifier
import GatewayFlow.Index
import GatewayFlow.Invocation
import GatewayFlow.Issue
import GatewayFlow.Json.Reader
import GatewayFlow.Json.Writer
import GatewayFlow.Kind
import GatewayFlow.Log
import GatewayFlow.Lowering
import GatewayFlow.Node
import GatewayFlow.Number.Double
import GatewayFlow.Number.Reading
import GatewayFlow.Number.Shortest
import GatewayFlow.Number.Style
import GatewayFlow.Path
import GatewayFlow.Rendering
import GatewayFlow.Sanitize
import GatewayFlow.SavedFlow
import GatewayFlow.Settings
import GatewayFlow.Text.Blank
import GatewayFlow.Text.Digit
import GatewayFlow.Text.Printable
import GatewayFlow.Text.Quoted
import GatewayFlow.Text.Uppercase
import GatewayFlow.Text.Utf8
import GatewayFlow.Validation
import GatewayFlow.Value
import GatewayFlow.Yaml.BlockText
import GatewayFlow.Yaml.Layout
import GatewayFlow.Yaml.Plain
import GatewayFlow.Yaml.PlainText
import GatewayFlow.Yaml.QuotedText
import GatewayFlow.Yaml.Reader
import GatewayFlow.Yaml.Spacing
import GatewayFlow.Yaml.Style
import GatewayFlow.Yaml.Tag
import GatewayFlow.Yaml.Token
import GatewayFlow.Yaml.Tree
import GatewayFlow.Yaml.Writer
import GatewayFlow.Main
import GatewayFlow.Proofs.Readings
import GatewayFlow.Proofs.EditorRuns
import GatewayFlow.Proofs.IndexScans
import GatewayFlow.Proofs.LoweredDocuments
import GatewayFlow.Proofs.ValidatedFlows
import GatewayFlow.Proofs.Mappings
import GatewayFlow.Proofs.RenderedDocuments
import GatewayFlow.Proofs.SanitizedText
import GatewayFlow.Proofs.References
import GatewayFlow.Proofs.PlainData
import GatewayFlow.Proofs.WrittenAttributes
import GatewayFlow.Proofs.SavedRoundTrip
import GatewayFlow.Proofs.PluginFanOut
import GatewayFlow.Proofs.EdgeTargets
import GatewayFlow.Proofs.IndependentFlows
import GatewayFlow.Proofs.NodeRules
import GatewayFlow.Proofs.LoadedFlows
import GatewayFlow.Proofs.Digits
import GatewayFlow.Proofs.ShortestDoubles
import GatewayFlow.Proofs.WrittenNumbers
import GatewayFlow.Proofs.RenderedData
import GatewayFlow.Proofs.JsonRoundTrip
import GatewayFlow.Proofs.YamlCharacters
import GatewayFlow.Proofs.YamlLines
import GatewayFlow.Proofs.YamlQuoted
import GatewayFlow.Proofs.YamlPlain
import GatewayFlow.Proofs.YamlLayout
import GatewayFlow.Proofs.YamlTokens
import GatewayFlow.Proofs.YamlValues
import GatewayFlow.Proofs.YamlLongKeys
import GatewayFlow.Proofs.YamlRoundTrip
import GatewayFlow.Proofs.FreshIds
import GatewayFlow.Proofs.LoadedConnections
import GatewayFlow.Proofs.FailedEdits
import GatewayFlow.Proofs.JsonData
import GatewayFlow.Proofs.LoadFailures
import GatewayFlow.Proofs.ConsumerScopes
import GatewayFlow.Proofs.RenderedEntries
import GatewayFlow.Proofs.RenderedReferences
import GatewayFlow.Proofs.RequiredFields
import GatewayFlow.Proofs.EdgeIds
import GatewayFlow.Proofs.CountedIds
import GatewayFlow.Proofs.NewNodes
import GatewayFlow.Proofs.DeletedNodes
import GatewayFlow.Proofs.CommandAgreement
import GatewayFlow.Proofs.LoweredNumbers
import GatewayFlow.Proofs.EmptyAttributes
import GatewayFlow.Proofs.AttributeUpdates
import GatewayFlow.Proofs.ConnectOrder
import GatewayFlow.Proofs.FurtherEdges
import GatewayFlow.Proofs.OmittedFields
import GatewayFlow.Proofs.SanitizedValues
import GatewayFlow.Proofs.MergedKeys
import GatewayFlow.Proofs.SafeNames
import GatewayFlow.Proofs.SeededPlugins
import GatewayFlow.Proofs.ReadDocuments
import GatewayFlow.Proofs.SurplusEntries
import GatewayFlow.Proofs.IgnoredAttributes
