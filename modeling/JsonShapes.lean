import JsonShapes.Calendar
import JsonShapes.CommandLine.Commands
import JsonShapes.CommandLine.Grammar
import JsonShapes.CommandLine.Run
import JsonShapes.Conversion
import JsonShapes.DateText
import JsonShapes.Decimal.Nearest
import JsonShapes.Decimal.Shortest
import JsonShapes.Decimal.Text
import JsonShapes.Definitions.Generate
import JsonShapes.Definitions.Render
import JsonShapes.Exports
import JsonShapes.FileTree.Basic
import JsonShapes.FileTree.Operations
import JsonShapes.FileTree.PathText
import JsonShapes.Http.Body
import JsonShapes.Http.Exchange
import JsonShapes.Http.Fetch
import JsonShapes.Json.Fault
import JsonShapes.Json.Quoted
import JsonShapes.Json.Reader
import JsonShapes.Json.Scan
import JsonShapes.Log
import JsonShapes.Main
import JsonShapes.Naming
import JsonShapes.Proofs.Json.Strings
import JsonShapes.Proofs.Naming.FieldName
import JsonShapes.Proofs.Shape.Fitting
import JsonShapes.Proofs.Shape.Inferrer
import JsonShapes.Proofs.Shape.Nesting
import JsonShapes.Proofs.Shape.References
import JsonShapes.Proofs.Shape.Registry
import JsonShapes.Proofs.Shape.Walk
import JsonShapes.Rejection
import JsonShapes.Request.Basic
import JsonShapes.Request.Check
import JsonShapes.Request.Headers
import JsonShapes.Request.Process
import JsonShapes.Saving
import JsonShapes.Shape.Inference
import JsonShapes.Shape.Inferrer
import JsonShapes.Shape.Registry
import JsonShapes.Shape.TypeExpr
import JsonShapes.Text.Case
import JsonShapes.Text.CaseTable
import JsonShapes.Text.Cased
import JsonShapes.Text.CharClass
import JsonShapes.Text.CharSet
import JsonShapes.Text.Charset
import JsonShapes.Text.Letter
import JsonShapes.Text.Mark
import JsonShapes.Text.Numeral
import JsonShapes.Text.Quoted
import JsonShapes.Text.Symbol
import JsonShapes.Text.Utf8
import JsonShapes.Text.Words
import JsonShapes.Url.Basic
import JsonShapes.Url.Bracketed
import JsonShapes.Url.Guard
import JsonShapes.Url.Suggestion
import JsonShapes.Value
import JsonShapes.Proofs.Shape.Members
import JsonShapes.Proofs.Shape.Signature
import JsonShapes.Proofs.Shape.Renaming
import JsonShapes.Proofs.Shape.Skeleton
import JsonShapes.Proofs.Shape.Appending
import JsonShapes.Proofs.Text.CharSet
import JsonShapes.Proofs.Text.UpperCase
import JsonShapes.Proofs.Naming.TypeName
import JsonShapes.Proofs.Shape.Names
import JsonShapes.Proofs.Definitions.TypeText
import JsonShapes.Proofs.Text.Lines
import JsonShapes.Proofs.Definitions.Layout
import JsonShapes.Proofs.Except
import JsonShapes.Proofs.Text.Utf8
import JsonShapes.Proofs.Json.Reading
import JsonShapes.Proofs.Http.Gathering
import JsonShapes.Proofs.Http.Outcomes
import JsonShapes.Proofs.Http.Fetching
import JsonShapes.Proofs.Http.Chunking
import JsonShapes.Proofs.Http.Declaring
import JsonShapes.Proofs.Request.Checking
import JsonShapes.Proofs.Request.Retrieving
import JsonShapes.Proofs.FileTree.Growth
import JsonShapes.Proofs.FileTree.Changes
import JsonShapes.Proofs.Saving
import JsonShapes.Proofs.Request.Processing
import JsonShapes.Proofs.Text.Cutting
import JsonShapes.Proofs.Text.LowerCase
import JsonShapes.Proofs.Url.Decoration
import JsonShapes.Proofs.Url.LocalAddress
import JsonShapes.Proofs.Url.DottedQuad
import JsonShapes.Proofs.Url.PrivateHosts
import JsonShapes.Proofs.Url.Ipv6
import JsonShapes.Proofs.Url.LoopbackHosts
import JsonShapes.Proofs.FileTree.Leading
import JsonShapes.Proofs.Url.Suggesting
import JsonShapes.Proofs.Request.Containing
import JsonShapes.Proofs.FileTree.Replacing
import JsonShapes.Proofs.Conversion.Files
import JsonShapes.Proofs.Fresh
import JsonShapes.Proofs.Pairs
import JsonShapes.Proofs.FileTree.PlainPaths
import JsonShapes.Proofs.FileTree.Temporaries
import JsonShapes.Proofs.Conversion.Urls
import JsonShapes.Proofs.Definitions.Characters
import JsonShapes.Proofs.CommandLine.Files
import JsonShapes.Proofs.CommandLine.Leaving
import JsonShapes.Proofs.CommandLine.Arguments
import JsonShapes.Proofs.CommandLine.Routes
import JsonShapes.Proofs.Request.HeaderLines
import JsonShapes.Proofs.CommandLine.Headers
import JsonShapes.Proofs.Shape.Calls
import JsonShapes.Proofs.Shape.Recalling
import JsonShapes.Proofs.Text.Capitals
import JsonShapes.Proofs.Naming.Idempotence
import JsonShapes.Proofs.Calendar.Days
import JsonShapes.Proofs.Calendar.Instants
import JsonShapes.Proofs.Shape.Dating
import JsonShapes.Proofs.Calendar.Stamps
import JsonShapes.Proofs.Calendar.DateTexts
import JsonShapes.Proofs.Definitions.Failing
import JsonShapes.Proofs.Definitions.Generating
import JsonShapes.Proofs.Url.PathNames
import JsonShapes.Proofs.Request.HeaderReading
import JsonShapes.Proofs.FileTree.Ancestors
import JsonShapes.Proofs.FileTree.NormalPaths
import JsonShapes.Proofs.FileTree.Removing
import JsonShapes.Proofs.FileTree.Making
import JsonShapes.Proofs.Saving.Frame
import JsonShapes.Proofs.Saving.Probing
