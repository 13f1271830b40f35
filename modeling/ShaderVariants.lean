import ShaderVariants.Build.Basic
import ShaderVariants.Build.Intake
import ShaderVariants.Build.Output
import ShaderVariants.Build.Source
import ShaderVariants.Catalog
import ShaderVariants.CommandLine.Choices
import ShaderVariants.CommandLine.Config
import ShaderVariants.CommandLine.Program
import ShaderVariants.CommandLine.Setting
import ShaderVariants.Compile.Run
import ShaderVariants.Compile.Settings
import ShaderVariants.Decimal.Binary64
import ShaderVariants.Decimal.Shortest
import ShaderVariants.Description
import ShaderVariants.Digest.Blake3
import ShaderVariants.Fault
import ShaderVariants.FileTree
import ShaderVariants.Header.Basic
import ShaderVariants.Header.Interface
import ShaderVariants.Header.Registry
import ShaderVariants.Job
import ShaderVariants.Json.Fault
import ShaderVariants.Json.Read
import ShaderVariants.Json.Scan
import ShaderVariants.Json.Skip
import ShaderVariants.Json.Value
import ShaderVariants.Layout.Basic
import ShaderVariants.Layout.Interface
import ShaderVariants.Layout.Resource
import ShaderVariants.Layout.ValueType
import ShaderVariants.Log
import ShaderVariants.Log.Filter
import ShaderVariants.Main
import ShaderVariants.OsError
import ShaderVariants.Path
import ShaderVariants.Preset
import ShaderVariants.Proofs.Builds
import ShaderVariants.Proofs.CompileRun
import ShaderVariants.Proofs.Intake
import ShaderVariants.Proofs.JobNames
import ShaderVariants.Proofs.Jobs
import ShaderVariants.Proofs.Keys
import ShaderVariants.Proofs.Offers
import ShaderVariants.Proofs.Outputs
import ShaderVariants.Proofs.Paths
import ShaderVariants.Proofs.Presets
import ShaderVariants.Proofs.Publishing
import ShaderVariants.Proofs.Registry
import ShaderVariants.Proofs.Requests
import ShaderVariants.Proofs.Shaders
import ShaderVariants.Proofs.Snapshots
import ShaderVariants.Proofs.Trees
import ShaderVariants.Publication
import ShaderVariants.Script.Arithmetic
import ShaderVariants.Script.Command
import ShaderVariants.Script.Format
import ShaderVariants.Script.Launch
import ShaderVariants.Script.Pattern
import ShaderVariants.Script.Run
import ShaderVariants.Script.Shell
import ShaderVariants.Script.Token
import ShaderVariants.Script.Utility
import ShaderVariants.Script.Word
import ShaderVariants.Text.Blank
import ShaderVariants.Text.Letter
import ShaderVariants.Text.Quoted
import ShaderVariants.Text.Table.Alphanumeric
import ShaderVariants.Text.Table.Case
import ShaderVariants.Text.Table.CaseMap
import ShaderVariants.Text.Table.Cased
import ShaderVariants.Text.Table.Unprintable
import ShaderVariants.Text.Utf8
import ShaderVariants.Text.Words
import ShaderVariants.Variant.Basic
import ShaderVariants.Variant.Key
import ShaderVariants.Variant.Plan
import ShaderVariants.Variant.Shader
import ShaderVariants.Variant.Stage
import ShaderVariants.Proofs.Orders
import ShaderVariants.Proofs.Fates
import ShaderVariants.Proofs.Ledger
import ShaderVariants.Proofs.Isolation
import ShaderVariants.Proofs.Goals
import ShaderVariants.Proofs.Sources
import ShaderVariants.Proofs.Accounts
import ShaderVariants.Proofs.Effects
import ShaderVariants.Proofs.Targets
import ShaderVariants.Proofs.Settled
import ShaderVariants.Proofs.Republishing
import ShaderVariants.Proofs.Reruns
import ShaderVariants.Proofs.Capitals
import ShaderVariants.Proofs.Dependencies
import ShaderVariants.Proofs.Includes
import ShaderVariants.Proofs.Layers
import ShaderVariants.Proofs.Guards
import ShaderVariants.Proofs.Padding
import ShaderVariants.Proofs.Registration
import ShaderVariants.Proofs.Conflicts
import ShaderVariants.Proofs.SizeFaults
import ShaderVariants.Proofs.Alignment
import ShaderVariants.Proofs.Overflows
import ShaderVariants.Proofs.Expansion
import ShaderVariants.Proofs.Rules
import ShaderVariants.Proofs.Courses
import ShaderVariants.Proofs.Actions
import ShaderVariants.Proofs.Mirrors
import ShaderVariants.Proofs.Writing
import ShaderVariants.Proofs.Tokens
import ShaderVariants.Proofs.Skipping
import ShaderVariants.Proofs.Readers
import ShaderVariants.Proofs.Records
import ShaderVariants.Proofs.Writable
import ShaderVariants.Proofs.Documents
import ShaderVariants.Proofs.Refusals
import ShaderVariants.Proofs.Groups
import ShaderVariants.Proofs.Counts
import ShaderVariants.Proofs.OneOf
import ShaderVariants.Proofs.Fillings
import ShaderVariants.Proofs.Verdicts
import ShaderVariants.Proofs.Edits
import ShaderVariants.Proofs.FieldNames
import ShaderVariants.Proofs.TargetSizes
import ShaderVariants.Proofs.Ways
import ShaderVariants.Proofs.Publications
import ShaderVariants.Proofs.Selectors
import ShaderVariants.Proofs.Limits
import ShaderVariants.Proofs.Integers
import ShaderVariants.Proofs.Literals
import ShaderVariants.Proofs.Bounds
import ShaderVariants.Proofs.Lookups
import ShaderVariants.Proofs.Nested
import ShaderVariants.Proofs.Schedules
