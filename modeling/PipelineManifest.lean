import PipelineManifest.Dictionary
import PipelineManifest.Decimal.Binary64
import PipelineManifest.Decimal.Shortest
import PipelineManifest.Decimal.Layout
import PipelineManifest.Text.Graphic
import PipelineManifest.Text.Hexadecimal
import PipelineManifest.Text.Quoted
import PipelineManifest.Text.Description
import PipelineManifest.Json.Value
import PipelineManifest.Json.Parser
import PipelineManifest.Json.Printer
import PipelineManifest.Yaml.Character
import PipelineManifest.Yaml.Scalar
import PipelineManifest.Yaml.Token
import PipelineManifest.Yaml.Tokens
import PipelineManifest.Yaml.Tree
import PipelineManifest.Yaml.Resolution
import PipelineManifest.Yaml.Value
import PipelineManifest.Yaml.Printer
import PipelineManifest.Graph.Node
import PipelineManifest.Graph.Catalogue
import PipelineManifest.Graph.Order
import PipelineManifest.Graph.Expansion
import PipelineManifest.FreshName
import PipelineManifest.Arguments
import PipelineManifest.Environment
import PipelineManifest.Registry
import PipelineManifest.Quickstart
import PipelineManifest.Error
import PipelineManifest.Loading
import PipelineManifest.Files.Path
import PipelineManifest.Files.Tree
import PipelineManifest.Configuration.Document
import PipelineManifest.Configuration.Reader
import PipelineManifest.Configuration.Settings
import PipelineManifest.Manifest.Definition
import PipelineManifest.Manifest.Workflow
import PipelineManifest.Manifest.PipelineSpec
import PipelineManifest.Manifest.Backend
import PipelineManifest.Manifest.Format
import PipelineManifest.Manifest.Document
import PipelineManifest.Compilation
import PipelineManifest.CommandLine
import PipelineManifest.Main
import PipelineManifest.Proofs.Sequence
import PipelineManifest.Proofs.FreshName
import PipelineManifest.Proofs.Graph.Dependency
import PipelineManifest.Proofs.Graph.Search
import PipelineManifest.Proofs.Graph.Order
import PipelineManifest.Proofs.Graph.Expansion
import PipelineManifest.Proofs.Environment.Guards
import PipelineManifest.Proofs.Environment.Layers
import PipelineManifest.Proofs.Compilation.Environment
import PipelineManifest.Proofs.Graph.Capture
import PipelineManifest.Proofs.Json.Reading
import PipelineManifest.Proofs.Json.RoundTrip
import PipelineManifest.Proofs.Manifest.TemplateNames
import PipelineManifest.Proofs.NameSearch
import PipelineManifest.Proofs.Manifest.Workflow
import PipelineManifest.Proofs.Manifest.PipelineSpec
import PipelineManifest.Proofs.Manifest.Agreement
import PipelineManifest.Proofs.Files.Writing
import PipelineManifest.Proofs.Manifest.Files
import PipelineManifest.Proofs.Manifest.Textual
import PipelineManifest.Proofs.Manifest.RoundTrip
import PipelineManifest.Proofs.Manifest.Permutation
import PipelineManifest.Proofs.Manifest.Tasks
import PipelineManifest.Proofs.Compilation.Files
import PipelineManifest.Proofs.Compilation.Report
import PipelineManifest.Proofs.Arguments.Merge
import PipelineManifest.Proofs.Manifest.Extension
import PipelineManifest.Proofs.Manifest.DnsLabels
import PipelineManifest.Proofs.Environment.Rejection
import PipelineManifest.Proofs.Graph.Grouping
import PipelineManifest.Proofs.Graph.Stability
import PipelineManifest.Proofs.Graph.Diagnosis
import PipelineManifest.Proofs.Graph.Repair
import PipelineManifest.Proofs.Arguments.Flags
import PipelineManifest.Proofs.Configuration.Settings
import PipelineManifest.Proofs.Decimal.Rounding
import PipelineManifest.Proofs.Manifest.ArtifactTypes
import PipelineManifest.Proofs.Decimal.Shortest
import PipelineManifest.Proofs.Yaml.Value
import PipelineManifest.Proofs.Configuration.Numerals
import PipelineManifest.Proofs.Json.Unambiguous
import PipelineManifest.Proofs.Manifest.Component
import PipelineManifest.Proofs.Configuration.EngineFlags
import PipelineManifest.Proofs.Files.Leftovers
import PipelineManifest.Proofs.Registry
import PipelineManifest.Proofs.Graph.Building
import PipelineManifest.Proofs.Configuration.Directories
