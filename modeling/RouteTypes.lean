import RouteTypes.Api
import RouteTypes.CommandLine
import RouteTypes.Compile
import RouteTypes.CompileError
import RouteTypes.Config.File
import RouteTypes.Config.Target
import RouteTypes.Data.DecodeError
import RouteTypes.Data.Decoding
import RouteTypes.Data.Node
import RouteTypes.Data.Record
import RouteTypes.Data.Value
import RouteTypes.Document.Basic
import RouteTypes.Document.Forms
import RouteTypes.Document.OfNode
import RouteTypes.Document.OfValue
import RouteTypes.Document.Read
import RouteTypes.Document.Schema
import RouteTypes.Event
import RouteTypes.Files.Disk
import RouteTypes.Files.Host
import RouteTypes.Files.Path
import RouteTypes.Files.Plan
import RouteTypes.Json.Node
import RouteTypes.Json.Number
import RouteTypes.Json.String
import RouteTypes.Log.Event
import RouteTypes.Log.Filter
import RouteTypes.Logged
import RouteTypes.Main
import RouteTypes.Module.Basic
import RouteTypes.Module.Render
import RouteTypes.Number.Double
import RouteTypes.Number.Shortest
import RouteTypes.Number.Width
import RouteTypes.OrderedMap
import RouteTypes.Proofs.Acceptance
import RouteTypes.Proofs.AddedEntry
import RouteTypes.Proofs.AliasJumps
import RouteTypes.Proofs.BinarySides
import RouteTypes.Proofs.CallerOptions
import RouteTypes.Proofs.Chains
import RouteTypes.Proofs.Collisions
import RouteTypes.Proofs.Comparison
import RouteTypes.Proofs.Construction
import RouteTypes.Proofs.Cycles
import RouteTypes.Proofs.Declarations
import RouteTypes.Proofs.DeprecatedOperations
import RouteTypes.Proofs.DeprecatedProperties
import RouteTypes.Proofs.Descriptions
import RouteTypes.Proofs.Directions
import RouteTypes.Proofs.DiskFiles
import RouteTypes.Proofs.DistinctKeys
import RouteTypes.Proofs.DocumentCorrespondence
import RouteTypes.Proofs.DocumentKeys
import RouteTypes.Proofs.DocumentNeeds
import RouteTypes.Proofs.DocumentSteps
import RouteTypes.Proofs.DocumentTrees
import RouteTypes.Proofs.Enlargement
import RouteTypes.Proofs.EntryForms
import RouteTypes.Proofs.Following
import RouteTypes.Proofs.GlobalNames
import RouteTypes.Proofs.Imports
import RouteTypes.Proofs.Indentation
import RouteTypes.Proofs.LineSpans
import RouteTypes.Proofs.Lookups
import RouteTypes.Proofs.MergedParameters
import RouteTypes.Proofs.Needs
import RouteTypes.Proofs.Nullability
import RouteTypes.Proofs.ObjectKeys
import RouteTypes.Proofs.Occurrence
import RouteTypes.Proofs.OperationEntries
import RouteTypes.Proofs.Origins
import RouteTypes.Proofs.Outcome
import RouteTypes.Proofs.OutputPaths
import RouteTypes.Proofs.OutputTree
import RouteTypes.Proofs.PathMembers
import RouteTypes.Proofs.PathSplits
import RouteTypes.Proofs.PointerWriting
import RouteTypes.Proofs.Pointers
import RouteTypes.Proofs.Precedence
import RouteTypes.Proofs.Recording
import RouteTypes.Proofs.References
import RouteTypes.Proofs.Regularity
import RouteTypes.Proofs.Relabeling
import RouteTypes.Proofs.RequestBodies
import RouteTypes.Proofs.Retention
import RouteTypes.Proofs.RunWrites
import RouteTypes.Proofs.SchemaChildren
import RouteTypes.Proofs.SchemaCorrespondence
import RouteTypes.Proofs.SchemaKeys
import RouteTypes.Proofs.SchemaLeaves
import RouteTypes.Proofs.SchemaTyping
import RouteTypes.Proofs.SlotRegistries
import RouteTypes.Proofs.Syntax.Grammar
import RouteTypes.Proofs.Syntax.Meaning
import RouteTypes.Proofs.Syntax.Reading
import RouteTypes.Proofs.Syntax.Spacing
import RouteTypes.Proofs.Syntax.Spelling
import RouteTypes.Proofs.Syntax.StringLiteral
import RouteTypes.Proofs.Syntax.Token
import RouteTypes.Proofs.Syntax.Word
import RouteTypes.Proofs.TargetResolution
import RouteTypes.Proofs.TemplateParts
import RouteTypes.Proofs.TypeNames
import RouteTypes.Proofs.TypingCorrespondence
import RouteTypes.Reference.Pointer
import RouteTypes.Reference.Resolve
import RouteTypes.Route.Segment
import RouteTypes.Run
import RouteTypes.Text.Blank
import RouteTypes.Text.Hexadecimal
import RouteTypes.Text.Hidden
import RouteTypes.Text.Identifier
import RouteTypes.Text.Quoted
import RouteTypes.Text.Shown
import RouteTypes.Text.Uppercase
import RouteTypes.Toml.Scalar
import RouteTypes.Toml.String
import RouteTypes.Toml.Value
import RouteTypes.TypeTree.Basic
import RouteTypes.TypeTree.Comment
import RouteTypes.TypeTree.Query
import RouteTypes.TypeTree.Render
import RouteTypes.Typing.Basic
import RouteTypes.Typing.Components
import RouteTypes.Typing.Content
import RouteTypes.Typing.Document
import RouteTypes.Typing.Operation
import RouteTypes.Typing.Parameters
import RouteTypes.Typing.Schema
import RouteTypes.Yaml.Cursor
import RouteTypes.Yaml.Event
import RouteTypes.Yaml.Name
import RouteTypes.Yaml.Node
import RouteTypes.Yaml.Scalar
import RouteTypes.Yaml.ScalarText
import RouteTypes.Yaml.Token
