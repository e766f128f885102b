import SizeHeader.CommandLine
import SizeHeader.DataType.Basic
import SizeHeader.DataType.Size
import SizeHeader.Definition
import SizeHeader.FileSystem.Basic
import SizeHeader.FileSystem.Operations
import SizeHeader.FileSystem.Path
import SizeHeader.Generation
import SizeHeader.Layout.Alignment
import SizeHeader.Layout.Basic
import SizeHeader.Layout.Specification
import SizeHeader.Main
import SizeHeader.Message.Access
import SizeHeader.Message.Argument
import SizeHeader.Message.Basic
import SizeHeader.Message.Catalog
import SizeHeader.Message.FieldFormat
import SizeHeader.Message.Internal
import SizeHeader.Message.Template
import SizeHeader.Numeral.Basic
import SizeHeader.Numeral.Rounding
import SizeHeader.Record
import SizeHeader.Report.Basic
import SizeHeader.Report.Fatal
import SizeHeader.Report.Terminal
import SizeHeader.Target.Layout
import SizeHeader.Target.Machine
import SizeHeader.Target.Platform
import SizeHeader.Text.Digits
import SizeHeader.Text.Latin1
import SizeHeader.Text.Printable
import SizeHeader.Text.Quoted
import SizeHeader.Text.Terminated
import SizeHeader.Toml.Document
import SizeHeader.Toml.Lexeme
import SizeHeader.Toml.Moment
import SizeHeader.Toml.Number
import SizeHeader.Toml.Value
import SizeHeader.Version
import SizeHeader.Proofs.CatalogText
import SizeHeader.Proofs.ExactSize
import SizeHeader.Proofs.ReportHistory
import SizeHeader.Proofs.HostLayout
import SizeHeader.Proofs.OpenedFile
import SizeHeader.Proofs.RunOutcome
import SizeHeader.Proofs.SizedRecords
import SizeHeader.Proofs.WrittenFile
import SizeHeader.Proofs.RepeatedGeneration
import SizeHeader.Proofs.FatalRecord
import SizeHeader.Proofs.Placement
import SizeHeader.Proofs.FieldOrder
import SizeHeader.Proofs.MemberLists
import SizeHeader.Proofs.TypeText
import SizeHeader.Proofs.NormalTriple
import SizeHeader.Proofs.NamedArguments
import SizeHeader.Proofs.TextReading
import SizeHeader.Proofs.DefinitionLines
import SizeHeader.Proofs.DiagnosticLines
import SizeHeader.Proofs.ColourRemoval
import SizeHeader.Proofs.LayoutOrder
import SizeHeader.Proofs.ReportLines
import SizeHeader.Proofs.VersionLookup
import SizeHeader.Proofs.LinuxTriples
import SizeHeader.Proofs.QuotedTexts
