import QuerySynth.Code.Identifier
import QuerySynth.Diagnostic
import QuerySynth.Document.JsonReader
import QuerySynth.Document.JsonWriter
import QuerySynth.Document.Pointer
import QuerySynth.Filter.Registry
import QuerySynth.Parameter.Flatten
import QuerySynth.Parameter.Object
import QuerySynth.Schema.Comment
import QuerySynth.Rest.Url
import QuerySynth.Rest.Resource
import QuerySynth.Rest.Description
import QuerySynth.Rest.Collect
import QuerySynth.Endpoint.Build
import QuerySynth.Endpoint.Summary
import QuerySynth.Rest.Normalize
import QuerySynth.Code.Printer
import QuerySynth.Generate.Fault
import QuerySynth.Generate.Surroundings
import QuerySynth.Generate.Constructor
import QuerySynth.Generate.Handler
import QuerySynth.Generate.Files
import QuerySynth.Settings.Basic
import QuerySynth.Generate.Plan
import QuerySynth.Schema.Wire
import QuerySynth.Schema.Declaration
import QuerySynth.Schema.Pool
import QuerySynth.Schema.Extract
import QuerySynth.Document.Yaml.Cursor
import QuerySynth.Document.Yaml.ScalarText
import QuerySynth.Document.Yaml.Token
import QuerySynth.Document.Yaml.TokenReader
import QuerySynth.Document.Yaml.Event
import QuerySynth.Document.Yaml.Scalar
import QuerySynth.Document.Yaml.Reader
import QuerySynth.Document.Yaml.Writer
import QuerySynth.Document.Format
import QuerySynth.Storage.Commit
import QuerySynth.Settings.Reader
import QuerySynth.Run.Basic
import QuerySynth.Logging
import QuerySynth.CommandLine.Outcome
import QuerySynth.Main
import QuerySynth.Proofs.Keyed
import QuerySynth.Proofs.Name.Canonical
import QuerySynth.Proofs.Parameter.Flatten
import QuerySynth.Proofs.Except
import QuerySynth.Proofs.Parameter.Object
import QuerySynth.Proofs.Endpoint.Rename
import QuerySynth.Proofs.Rest.Collect
import QuerySynth.Proofs.Rest.Normalize
import QuerySynth.Proofs.Rest.BasePath
import QuerySynth.Proofs.Endpoint.Build
import QuerySynth.Proofs.Endpoint.Normalized
import QuerySynth.Proofs.Endpoint.Binding
import QuerySynth.Proofs.Endpoint.Draft
import QuerySynth.Proofs.Endpoint.Sound
import QuerySynth.Proofs.Endpoint.Fate
import QuerySynth.Proofs.Endpoint.Finding
import QuerySynth.Proofs.Rest.Operations
import QuerySynth.Proofs.Endpoint.Account
import QuerySynth.Proofs.Endpoint.Groups
import QuerySynth.Proofs.Code.Parts
import QuerySynth.Proofs.Generate.Constructor
import QuerySynth.Proofs.Generate.Handler
import QuerySynth.Proofs.Schema.Named
import QuerySynth.Proofs.Generate.Agreement
import QuerySynth.Proofs.Name.Operator
import QuerySynth.Proofs.Document.Ordered
import QuerySynth.Proofs.Rest.Entries
import QuerySynth.Proofs.Rest.Schemas
import QuerySynth.Proofs.Parameter.Normal
import QuerySynth.Proofs.Rest.Report
import QuerySynth.Proofs.Rest.Ordered
import QuerySynth.Proofs.Rest.Again
import QuerySynth.Proofs.Code.Uses
import QuerySynth.Proofs.Generate.Reads
import QuerySynth.Proofs.Storage.Commit
import QuerySynth.Proofs.Storage.Files
import QuerySynth.Proofs.Storage.Directory
import QuerySynth.Proofs.Storage.DryRun
import QuerySynth.Proofs.Endpoint.Kind
import QuerySynth.Proofs.Rest.Templates
import QuerySynth.Proofs.Document.Follow
import QuerySynth.Proofs.Name.Marks
import QuerySynth.Proofs.Rest.Renamed
import QuerySynth.Proofs.Rest.Places
import QuerySynth.Proofs.Rest.Resolves
import QuerySynth.Proofs.Name.RoundTrip
import QuerySynth.Proofs.Code.Evaluation
import QuerySynth.Proofs.Generate.Meaning
import QuerySynth.Proofs.Generate.Success
import QuerySynth.Proofs.Code.Identifier
import QuerySynth.Proofs.Generate.Names
import QuerySynth.Proofs.Schema.Merge
import QuerySynth.Proofs.Schema.Loaded
import QuerySynth.Proofs.Schema.Lookup
import QuerySynth.Proofs.Schema.Session
import QuerySynth.Proofs.Document.Frame
import QuerySynth.Proofs.Document.Reference
import QuerySynth.Proofs.Rest.Frame
import QuerySynth.Proofs.Rest.SchemaNames
import QuerySynth.Proofs.Rest.Overriding
import QuerySynth.Proofs.Endpoint.Order
import QuerySynth.Proofs.Generate.Literal
import QuerySynth.Proofs.Schema.Comment
import QuerySynth.Proofs.Name.Settled
import QuerySynth.Proofs.Generate.Legal
