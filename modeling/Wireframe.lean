import Wireframe.CommandLine.Flag
import Wireframe.CommandLine.Invocation
import Wireframe.CommandLine.Run
import Wireframe.Dart.Block
import Wireframe.Dart.Indent
import Wireframe.Dart.Literal
import Wireframe.Dart.Words
import Wireframe.Document.Basic
import Wireframe.Document.Checked
import Wireframe.Document.Conversion
import Wireframe.Document.Record
import Wireframe.Element.Detection
import Wireframe.Element.Kind
import Wireframe.Element.Rect
import Wireframe.Element.Sample
import Wireframe.Fault
import Wireframe.FileTree.Access
import Wireframe.FileTree.Basic
import Wireframe.FileTree.Path
import Wireframe.Json.Reader
import Wireframe.Json.Value
import Wireframe.Layout.ReadingOrder
import Wireframe.Layout.Tree
import Wireframe.Log.Basic
import Wireframe.Log.Channel
import Wireframe.Log.Format
import Wireframe.Log.Message
import Wireframe.Log.Value
import Wireframe.Main
import Wireframe.Number.Binary64
import Wireframe.Number.Decimal
import Wireframe.Number.Numeral
import Wireframe.Page.Generator
import Wireframe.Page.Name
import Wireframe.Page.Scaffold
import Wireframe.Proofs.CommandLine.Failure
import Wireframe.Proofs.CommandLine.Outputs
import Wireframe.Proofs.CommandLine.Reports
import Wireframe.Proofs.Dart.Blocks
import Wireframe.Proofs.Dart.Brackets
import Wireframe.Proofs.Dart.Contents
import Wireframe.Proofs.Dart.Display
import Wireframe.Proofs.Dart.FlushLeft
import Wireframe.Proofs.Dart.Indentation
import Wireframe.Proofs.Dart.Members
import Wireframe.Proofs.Dart.Outdent
import Wireframe.Proofs.Dart.Reading
import Wireframe.Proofs.Dart.Sealed
import Wireframe.Proofs.Dart.Spelling
import Wireframe.Proofs.Dart.TypeNames
import Wireframe.Proofs.Document.Detections
import Wireframe.Proofs.Document.RawLabels
import Wireframe.Proofs.Document.Reading
import Wireframe.Proofs.FileTree.Paths
import Wireframe.Proofs.FileTree.Writing
import Wireframe.Proofs.Json.Nesting
import Wireframe.Proofs.Layout.LineCount
import Wireframe.Proofs.Layout.Plan
import Wireframe.Proofs.Layout.Rendering
import Wireframe.Proofs.Layout.Source
import Wireframe.Proofs.Layout.Strays
import Wireframe.Proofs.Layout.Tree
import Wireframe.Proofs.Number.Order
import Wireframe.Proofs.Number.Rounding
import Wireframe.Proofs.Page.Confinement
import Wireframe.Proofs.Page.Existence
import Wireframe.Proofs.Page.Fidelity
import Wireframe.Proofs.Page.Freshness
import Wireframe.Proofs.Page.InputOrder
import Wireframe.Proofs.Page.LineCount
import Wireframe.Proofs.Page.Naming
import Wireframe.Proofs.Page.Preview
import Wireframe.Proofs.Page.Scaffold
import Wireframe.Proofs.Reading.Anchors
import Wireframe.Proofs.Reading.Bands
import Wireframe.Proofs.Reading.Components
import Wireframe.Proofs.Reading.Nearness
import Wireframe.Proofs.Reading.NormalForm
import Wireframe.Proofs.Reading.Order
import Wireframe.Proofs.Reading.Refinement
import Wireframe.Proofs.Reading.Rows
import Wireframe.Proofs.Reading.Stability
import Wireframe.Proofs.Settings.Check
import Wireframe.Proofs.Settings.Independence
import Wireframe.Proofs.Settings.Safety
import Wireframe.Proofs.Sorting
import Wireframe.Proofs.Steps
import Wireframe.Proofs.Storage.Loading
import Wireframe.Proofs.Storage.Saving
import Wireframe.Proofs.Table
import Wireframe.Proofs.Taxonomy.Aliases
import Wireframe.Proofs.Taxonomy.Classification
import Wireframe.Proofs.Taxonomy.Extension
import Wireframe.Proofs.Taxonomy.KindNames
import Wireframe.Proofs.Taxonomy.Listing
import Wireframe.Proofs.Taxonomy.NormalForm
import Wireframe.Proofs.Taxonomy.Words
import Wireframe.Proofs.Text.LineCount
import Wireframe.Proofs.Text.Lowercase
import Wireframe.Proofs.Text.Parts
import Wireframe.Proofs.Text.Passages
import Wireframe.Proofs.Widget.Fragment
import Wireframe.Proofs.Widget.LibraryTypes
import Wireframe.Proofs.Widget.Lines
import Wireframe.Proofs.Widget.Size
import Wireframe.Proofs.Widget.Template
import Wireframe.Settings.Basic
import Wireframe.Settings.Bindings
import Wireframe.Settings.InForce
import Wireframe.Settings.Sources
import Wireframe.Storage
import Wireframe.Table
import Wireframe.Taxonomy.Basic
import Wireframe.Taxonomy.NormalForm
import Wireframe.Taxonomy.Standard
import Wireframe.Text.Basic
import Wireframe.Text.Blank
import Wireframe.Text.CaseTable
import Wireframe.Text.DigitTable
import Wireframe.Text.Digits
import Wireframe.Text.Lines
import Wireframe.Text.Lowercase
import Wireframe.Text.PrintableTable
import Wireframe.Text.Quoted
import Wireframe.Text.Utf8
import Wireframe.Widget.Render
import Wireframe.Widget.Size
import Wireframe.Widget.Template
