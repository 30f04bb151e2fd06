import PluginBuild.Build.Run
import PluginBuild.Build.Run.Written
import PluginBuild.Build.Scripted
import PluginBuild.Build.World
import PluginBuild.CommandLine.Complaint
import PluginBuild.CommandLine.Help
import PluginBuild.CommandLine.Invocation
import PluginBuild.CommandLine.Options
import PluginBuild.CommandLine.Paths
import PluginBuild.CommandLine.Report
import PluginBuild.CommandLine.Run
import PluginBuild.Digest.Bytes
import PluginBuild.Digest.Md5
import PluginBuild.Digest.Sha
import PluginBuild.Error
import PluginBuild.Files.Action
import PluginBuild.Files.Archive
import PluginBuild.Files.Failure
import PluginBuild.Files.Path
import PluginBuild.Files.Store
import PluginBuild.Json.Value
import PluginBuild.Json.Printer
import PluginBuild.Json.Reader
import PluginBuild.Json.Token
import PluginBuild.Listing.ExportMarker
import PluginBuild.Listing.Item
import PluginBuild.Listing.Line
import PluginBuild.Listing.Malformed
import PluginBuild.Listing.MethodHeader
import PluginBuild.Listing.Outline
import PluginBuild.Listing.Outline.OfText
import PluginBuild.Listing.Outline.Removal
import PluginBuild.Listing.Token
import PluginBuild.Main
import PluginBuild.Metadata.Attribute
import PluginBuild.Metadata.AttributeBlob
import PluginBuild.Metadata.Dump
import PluginBuild.Metadata.Dump.Written
import PluginBuild.Metadata.Load
import PluginBuild.Metadata.Model
import PluginBuild.Metadata.OfListing
import PluginBuild.Metadata.ParamTypes
import PluginBuild.Metadata.TypeName
import PluginBuild.Metadata.Universe
import PluginBuild.Metadata.Visibility
import PluginBuild.Ordered
import PluginBuild.Package.Build
import PluginBuild.Package.Contents
import PluginBuild.Package.Manifest
import PluginBuild.Plugin.Analysis
import PluginBuild.Plugin.Analysis.Written
import PluginBuild.Plugin.Contract
import PluginBuild.Plugin.Decision
import PluginBuild.Plugin.Declaration
import PluginBuild.Plugin.Implemented
import PluginBuild.Plugin.Kind
import PluginBuild.Proofs.Build.Action
import PluginBuild.Proofs.Build.Calls
import PluginBuild.Proofs.Build.Confinement
import PluginBuild.Proofs.Build.Ending
import PluginBuild.Proofs.Build.Plan
import PluginBuild.Proofs.Build.Protocol
import PluginBuild.Proofs.Build.Publishing
import PluginBuild.Proofs.Build.Reassembly
import PluginBuild.Proofs.Build.Run
import PluginBuild.Proofs.Build.SdkReference
import PluginBuild.Proofs.Build.Steps
import PluginBuild.Proofs.Files.Target
import PluginBuild.Proofs.Json.RoundTrip
import PluginBuild.Proofs.Json.Token
import PluginBuild.Proofs.Listing.Apart
import PluginBuild.Proofs.Listing.Balance
import PluginBuild.Proofs.Listing.Blocks
import PluginBuild.Proofs.Listing.Comments
import PluginBuild.Proofs.Listing.Declaration
import PluginBuild.Proofs.Listing.DocumentOrder
import PluginBuild.Proofs.Listing.ExportMarker
import PluginBuild.Proofs.Listing.Extent
import PluginBuild.Proofs.Listing.Item
import PluginBuild.Proofs.Listing.Joining
import PluginBuild.Proofs.Listing.Line
import PluginBuild.Proofs.Listing.MethodBody
import PluginBuild.Proofs.Listing.MethodHeader
import PluginBuild.Proofs.Listing.Outline
import PluginBuild.Proofs.Listing.Change
import PluginBuild.Proofs.Listing.Printing
import PluginBuild.Proofs.Listing.Reading
import PluginBuild.Proofs.Listing.Removal
import PluginBuild.Proofs.Listing.Rereading
import PluginBuild.Proofs.Listing.Shape
import PluginBuild.Proofs.Listing.Spelling
import PluginBuild.Proofs.Listing.Token
import PluginBuild.Proofs.Metadata.AttributeBlob
import PluginBuild.Proofs.Metadata.AttributeForms
import PluginBuild.Proofs.Plugin.Bare
import PluginBuild.Proofs.Metadata.Dump
import PluginBuild.Proofs.Metadata.HexText
import PluginBuild.Proofs.Metadata.Hierarchy
import PluginBuild.Proofs.Metadata.NormalType
import PluginBuild.Proofs.Metadata.OfListing
import PluginBuild.Proofs.Metadata.ParamTypes
import PluginBuild.Proofs.Metadata.StatedArg
import PluginBuild.Proofs.Metadata.TypeHeader
import PluginBuild.Proofs.Metadata.TypeName
import PluginBuild.Proofs.Metadata.Universe
import PluginBuild.Proofs.Metadata.UserChain
import PluginBuild.Proofs.Ordered
import PluginBuild.Proofs.Package.Accounting
import PluginBuild.Proofs.Package.Build
import PluginBuild.Proofs.Package.Manifest
import PluginBuild.Proofs.Package.Required
import PluginBuild.Proofs.Plugin.Decision
import PluginBuild.Proofs.Plugin.Declaration
import PluginBuild.Proofs.Plugin.DeclaredClass
import PluginBuild.Proofs.Plugin.Hiding
import PluginBuild.Proofs.Plugin.Implemented
import PluginBuild.Proofs.Plugin.OrderIndependence
import PluginBuild.Proofs.Plugin.OverrideChain
import PluginBuild.Proofs.Plugin.Trim
import PluginBuild.Proofs.Plugin.WithoutReferences
import PluginBuild.Proofs.Settings.Layer
import PluginBuild.Proofs.Text.Utf8
import PluginBuild.Proofs.Tools.WorkingDirectory
import PluginBuild.Proofs.Walk
import PluginBuild.Settings.Layer
import PluginBuild.Settings.Load
import PluginBuild.Shell.Arguments
import PluginBuild.Shell.Arithmetic
import PluginBuild.Shell.Blocks
import PluginBuild.Shell.Bytes
import PluginBuild.Shell.Columns
import PluginBuild.Shell.Comparing
import PluginBuild.Shell.Condition
import PluginBuild.Shell.Control
import PluginBuild.Shell.Copying
import PluginBuild.Shell.Declarations
import PluginBuild.Shell.Doubles
import PluginBuild.Shell.EditorScript
import PluginBuild.Shell.Inspection
import PluginBuild.Shell.Expansion
import PluginBuild.Shell.FileTools
import PluginBuild.Shell.Interpreter
import PluginBuild.Shell.Joining
import PluginBuild.Shell.Pattern
import PluginBuild.Shell.Pieces
import PluginBuild.Shell.Printing
import PluginBuild.Shell.Programs
import PluginBuild.Shell.ReadLine
import PluginBuild.Shell.Reader
import PluginBuild.Shell.Reals
import PluginBuild.Shell.Record.BuiltIns
import PluginBuild.Shell.Record.Machine
import PluginBuild.Shell.Record.Pattern
import PluginBuild.Shell.Record.Program
import PluginBuild.Shell.Record.Reader
import PluginBuild.Shell.Record.Run
import PluginBuild.Shell.Record.Streams
import PluginBuild.Shell.Record.Syntax
import PluginBuild.Shell.Record.Table
import PluginBuild.Shell.Record.Token
import PluginBuild.Shell.Record.Value
import PluginBuild.Shell.Regex
import PluginBuild.Shell.Run
import PluginBuild.Shell.Runners
import PluginBuild.Shell.Script
import PluginBuild.Shell.Search
import PluginBuild.Shell.Signal
import PluginBuild.Shell.Sorting
import PluginBuild.Shell.Sources
import PluginBuild.Shell.State
import PluginBuild.Shell.StreamEditor
import PluginBuild.Shell.Streams
import PluginBuild.Shell.Sums
import PluginBuild.Shell.System
import PluginBuild.Shell.Tabs
import PluginBuild.Shell.Token
import PluginBuild.Shell.Traps
import PluginBuild.Shell.Utility
import PluginBuild.Shell.Values
import PluginBuild.Text.Blank
import PluginBuild.Text.ByteDigits
import PluginBuild.Text.Cut
import PluginBuild.Text.Lines
import PluginBuild.Text.LowerCase
import PluginBuild.Text.Names
import PluginBuild.Text.Numeral
import PluginBuild.Text.Unprintable
import PluginBuild.Text.Utf8
import PluginBuild.Toml.Document
import PluginBuild.Toml.Reader
import PluginBuild.Toml.Token
import PluginBuild.Toml.Value
import PluginBuild.Tools.Command
import PluginBuild.Tools.External
