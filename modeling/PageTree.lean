import PageTree.Table
import PageTree.Numeral
import PageTree.Binary64
import PageTree.Decimal
import PageTree.Decimal.Spelling
import PageTree.Value
import PageTree.Text.Blank
import PageTree.Text.Fence
import PageTree.Text.LineBreak
import PageTree.Text.Printable
import PageTree.Text.Quoted
import PageTree.Json.StringLiteral
import PageTree.Json.NumberLiteral
import PageTree.Json.Token
import PageTree.Json.Assembly
import PageTree.Json.Writer
import PageTree.Json.Document
import PageTree.Json.Repair
import PageTree.Defect
import PageTree.Event
import PageTree.Theme
import PageTree.Theme.File
import PageTree.Host
import PageTree.Node
import PageTree.Element
import PageTree.Catalogue
import PageTree.Settings.IntegerText
import PageTree.Settings
import PageTree.Settings.EnvFile.Reference
import PageTree.Settings.EnvFile
import PageTree.Settings.Source
import PageTree.Descriptor
import PageTree.Report
import PageTree.Renderer
import PageTree.Log.Context
import PageTree.Log.Setup
import PageTree.Response
import PageTree.Session
import PageTree.Proofs.Outcome
import PageTree.Proofs.Position
import PageTree.Proofs.Walk
import PageTree.Proofs.Failure
import PageTree.Proofs.Descent
import PageTree.Proofs.Substitution
import PageTree.Proofs.Digits
import PageTree.Proofs.Keys
import PageTree.Proofs.Addressing
import PageTree.Proofs.Rounding
import PageTree.Proofs.Json.NumberText
import PageTree.Proofs.Json.StringText
import PageTree.Proofs.Json.WrittenTokens
import PageTree.Proofs.Json.RoundTrip
import PageTree.Proofs.Course
import PageTree.Proofs.Records
import PageTree.Proofs.Encounters
import PageTree.Proofs.Defects
import PageTree.Proofs.DepthCut
import PageTree.Proofs.LookAhead
import PageTree.Proofs.Tables
import PageTree.Proofs.Scopes
import PageTree.Proofs.Requests
import PageTree.Proofs.Elements
import PageTree.Proofs.Json.Writable
import PageTree.Proofs.TreeData
import PageTree.Proofs.Triggers
import PageTree.Proofs.Transcripts
import PageTree.Proofs.Usage
import PageTree.Proofs.Sessions
import PageTree.Proofs.Images
import PageTree.Proofs.Appearance
import PageTree.Proofs.Fences
import PageTree.Proofs.Reading
import PageTree.Proofs.Canonical
import PageTree.Proofs.Styles
import PageTree.Proofs.Json.Closure
import PageTree.Proofs.Loading
import PageTree.Proofs.LineBreaks
import PageTree.Proofs.Json.LineBreaks
import PageTree.Proofs.ThemeFiles
import PageTree.Proofs.Registrations
import PageTree.Proofs.Locality
import PageTree.Proofs.Composition
import PageTree.Proofs.NestedScopes
import PageTree.Proofs.Json.Spacing
import PageTree.Proofs.TreeTexts
