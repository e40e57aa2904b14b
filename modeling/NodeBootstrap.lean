import NodeBootstrap.Act
import NodeBootstrap.Addon.Basic
import NodeBootstrap.Addon.Render
import NodeBootstrap.Cluster.ConfigMap
import NodeBootstrap.Cluster.RecordedVersion
import NodeBootstrap.Cluster.VersionReport
import NodeBootstrap.Command.Basic
import NodeBootstrap.Command.Packages
import NodeBootstrap.Command.Tools
import NodeBootstrap.CommandLine.Grammar
import NodeBootstrap.CommandLine.Invocation
import NodeBootstrap.CommandLine.Read
import NodeBootstrap.CommandLine.Run
import NodeBootstrap.CommandLine.Word
import NodeBootstrap.Data.Basic
import NodeBootstrap.Document.Basic
import NodeBootstrap.Document.Content
import NodeBootstrap.Document.Layout
import NodeBootstrap.Document.Render
import NodeBootstrap.Endpoint
import NodeBootstrap.Execution.Basic
import NodeBootstrap.Execution.Lines
import NodeBootstrap.Execution.Process
import NodeBootstrap.Execution.Readers
import NodeBootstrap.Execution.Script
import NodeBootstrap.Failure
import NodeBootstrap.Files.Path
import NodeBootstrap.Files.Private
import NodeBootstrap.Files.Tree
import NodeBootstrap.Generation.Basic
import NodeBootstrap.Json.Read
import NodeBootstrap.Main
import NodeBootstrap.Node.Basic
import NodeBootstrap.Node.Upgrade
import NodeBootstrap.Number.Double
import NodeBootstrap.Parameters.Basic
import NodeBootstrap.Parameters.Overrides
import NodeBootstrap.Parameters.Property
import NodeBootstrap.Parameters.Read
import NodeBootstrap.Parameters.Sources
import NodeBootstrap.Proofs.Act
import NodeBootstrap.Proofs.Cutting
import NodeBootstrap.Proofs.Documents
import NodeBootstrap.Proofs.Errands
import NodeBootstrap.Proofs.Governing
import NodeBootstrap.Proofs.Moves
import NodeBootstrap.Proofs.Paths
import NodeBootstrap.Proofs.PrivateFiles
import NodeBootstrap.Proofs.SettingUp
import NodeBootstrap.Proofs.Trees
import NodeBootstrap.Proofs.UpgradeCourse
import NodeBootstrap.Proofs.UpgradeFiles
import NodeBootstrap.Proofs.UpgradeHistory
import NodeBootstrap.Role
import NodeBootstrap.Sizing
import NodeBootstrap.Table.Grid
import NodeBootstrap.Table.Views
import NodeBootstrap.Taint
import NodeBootstrap.Template.Arithmetic
import NodeBootstrap.Template.Expr
import NodeBootstrap.Template.Filter
import NodeBootstrap.Template.Node
import NodeBootstrap.Template.Piece
import NodeBootstrap.Template.Render
import NodeBootstrap.Template.Token
import NodeBootstrap.Template.Value
import NodeBootstrap.Text.Base64
import NodeBootstrap.Text.Blank
import NodeBootstrap.Text.Break
import NodeBootstrap.Text.Case
import NodeBootstrap.Text.CaseTable
import NodeBootstrap.Text.CharTable
import NodeBootstrap.Text.Cut
import NodeBootstrap.Text.Decimal
import NodeBootstrap.Text.Fraction
import NodeBootstrap.Text.Hex
import NodeBootstrap.Text.Moment
import NodeBootstrap.Text.Shown
import NodeBootstrap.Text.Utf8
import NodeBootstrap.Text.Width
import NodeBootstrap.Toml.Lexeme
import NodeBootstrap.Toml.Read
import NodeBootstrap.Toml.Table
import NodeBootstrap.Upgrade.Governor
import NodeBootstrap.Upgrade.Plan
import NodeBootstrap.Upgrade.Transition
import NodeBootstrap.Version.Basic
import NodeBootstrap.Version.Grammar
import NodeBootstrap.Yaml.Basic
import NodeBootstrap.Yaml.Node
import NodeBootstrap.Yaml.Read
import NodeBootstrap.Yaml.ReadFlow
import NodeBootstrap.Yaml.ReadScalar
import NodeBootstrap.Yaml.Scalar
import NodeBootstrap.Yaml.Spot
import NodeBootstrap.Yaml.Write
import NodeBootstrap.Proofs.Watching
import NodeBootstrap.Proofs.UpgradeFloor
import NodeBootstrap.Proofs.Blanks
import NodeBootstrap.Proofs.Contents
import NodeBootstrap.Proofs.Places
import NodeBootstrap.Proofs.Conformance
import NodeBootstrap.Proofs.Layouts
import NodeBootstrap.Proofs.Demands
import NodeBootstrap.Proofs.Trimming
import NodeBootstrap.Proofs.Sections
import NodeBootstrap.Proofs.TidyTrees
import NodeBootstrap.Proofs.TidyDocuments
import NodeBootstrap.Proofs.WrittenLines
import NodeBootstrap.Proofs.Separation
import NodeBootstrap.Proofs.ReadPlain
import NodeBootstrap.Proofs.Leaves
import NodeBootstrap.Proofs.ReadQuoted
import NodeBootstrap.Proofs.ReadBlock
import NodeBootstrap.Proofs.ReadBack
import NodeBootstrap.Proofs.Readable
import NodeBootstrap.Proofs.WrittenVersions
import NodeBootstrap.Proofs.RecordedVersion
import NodeBootstrap.Proofs.Overriding
import NodeBootstrap.Proofs.Joining
import NodeBootstrap.Proofs.SharedSettings
import NodeBootstrap.Proofs.DataFields
import NodeBootstrap.Proofs.OverrideTexts
import NodeBootstrap.Proofs.Precedence
import NodeBootstrap.Proofs.MoveLaws
import NodeBootstrap.Proofs.VersionGrammar
import NodeBootstrap.Proofs.Addresses
import NodeBootstrap.Proofs.EndpointTexts
import NodeBootstrap.Proofs.TaintForms
import NodeBootstrap.Proofs.CommaLists
import NodeBootstrap.Proofs.FilledDocuments
import NodeBootstrap.Proofs.HostFiles
import NodeBootstrap.Proofs.TaintSources
import NodeBootstrap.Proofs.AddonCourse
import NodeBootstrap.Proofs.Substitution
import NodeBootstrap.Proofs.AddonSources
import NodeBootstrap.Proofs.Manifests
import NodeBootstrap.Proofs.PluginLists
import NodeBootstrap.Proofs.Interleaving
import NodeBootstrap.Proofs.OutputLines
import NodeBootstrap.Proofs.CharBytes
import NodeBootstrap.Proofs.Decoding
import NodeBootstrap.Proofs.Captures
import NodeBootstrap.Proofs.Parents
import NodeBootstrap.Proofs.MakingDirectories
import NodeBootstrap.Proofs.WritingAgain
