import EntityForge.CSharp.Check
import EntityForge.CSharp.Emitter
import EntityForge.CSharp.Generator
import EntityForge.CSharp.Keyword
import EntityForge.CSharp.Member
import EntityForge.CSharp.Preset
import EntityForge.CSharp.Sheet
import EntityForge.CSharp.TypeName
import EntityForge.Charset.Big5
import EntityForge.Charset.CodePage
import EntityForge.Charset.Gb2312
import EntityForge.Charset.Japanese
import EntityForge.Charset.Ksx1001
import EntityForge.Charset.Runs
import EntityForge.Console.Arguments
import EntityForge.Console.CodeRun
import EntityForge.Console.Emoji
import EntityForge.Console.Handler
import EntityForge.Console.LogLevel
import EntityForge.Console.Markup
import EntityForge.Console.Program
import EntityForge.Console.Style
import EntityForge.Console.Table
import EntityForge.Console.Wrap
import EntityForge.Delivery.Run
import EntityForge.Delivery.Sink
import EntityForge.Entries
import EntityForge.Expression.Call
import EntityForge.Expression.Display
import EntityForge.Expression.Fault
import EntityForge.Expression.Grammar
import EntityForge.Expression.Literal
import EntityForge.Expression.Numeral
import EntityForge.Expression.Parameters
import EntityForge.Expression.Quoted
import EntityForge.Expression.Reader
import EntityForge.Expression.Scan
import EntityForge.Expression.Token
import EntityForge.Expression.Tree
import EntityForge.Failure
import EntityForge.Files.Glob
import EntityForge.Files.Machine
import EntityForge.Files.Path
import EntityForge.Files.Search
import EntityForge.Files.Tree
import EntityForge.Host
import EntityForge.Json.Fault
import EntityForge.Json.Key
import EntityForge.Json.Reader
import EntityForge.Json.Writer
import EntityForge.Layout
import EntityForge.Main
import EntityForge.Naming.Escaping
import EntityForge.Naming.Identifier
import EntityForge.Naming.Literal
import EntityForge.Naming.Name
import EntityForge.Number.Binary64
import EntityForge.Number.Shortest
import EntityForge.Proofs.Breaking
import EntityForge.Proofs.CSharp.Announcements
import EntityForge.Proofs.CSharp.Arrangement
import EntityForge.Proofs.CSharp.Checked
import EntityForge.Proofs.CSharp.ContextTypes
import EntityForge.Proofs.CSharp.Identifiers
import EntityForge.Proofs.CSharp.LineEndings
import EntityForge.Proofs.CSharp.NameGrammar
import EntityForge.Proofs.CSharp.Page
import EntityForge.Proofs.CSharp.PageLayout
import EntityForge.Proofs.CSharp.Recovery
import EntityForge.Proofs.CSharp.Remembered
import EntityForge.Proofs.CSharp.Renderings
import EntityForge.Proofs.CSharp.Scopes
import EntityForge.Proofs.CSharp.Shadowing
import EntityForge.Proofs.CSharp.SheetNodes
import EntityForge.Proofs.CSharp.Usable
import EntityForge.Proofs.CSharp.Verdict
import EntityForge.Proofs.Console.ExitCode
import EntityForge.Proofs.Console.Failing
import EntityForge.Proofs.Delivery.Atomicity
import EntityForge.Proofs.Delivery.Emission
import EntityForge.Proofs.Delivery.EntryPoints
import EntityForge.Proofs.Delivery.Escapes
import EntityForge.Proofs.Delivery.FileNames
import EntityForge.Proofs.Delivery.Interleaving
import EntityForge.Proofs.Delivery.Loosening
import EntityForge.Proofs.Delivery.OwnFiles
import EntityForge.Proofs.Delivery.Recording
import EntityForge.Proofs.Delivery.Session
import EntityForge.Proofs.Delivery.Writing
import EntityForge.Proofs.Entries
import EntityForge.Proofs.Files.Order
import EntityForge.Proofs.Files.Places
import EntityForge.Proofs.Files.Search
import EntityForge.Proofs.Files.Tree
import EntityForge.Proofs.FirstFault
import EntityForge.Proofs.Json.Blank
import EntityForge.Proofs.Json.Grammar
import EntityForge.Proofs.Json.Pieces
import EntityForge.Proofs.Later
import EntityForge.Proofs.Layout.LaidOut
import EntityForge.Proofs.Layout.NormalForm
import EntityForge.Proofs.Naming.Emitted
import EntityForge.Proofs.Naming.Literal
import EntityForge.Proofs.Naming.Memory
import EntityForge.Proofs.Naming.Safety
import EntityForge.Proofs.Naming.Scanning
import EntityForge.Proofs.Naming.Verbatim
import EntityForge.Proofs.Registry.History
import EntityForge.Proofs.Registry.Ownership
import EntityForge.Proofs.Repeated
import EntityForge.Proofs.Schema.Shape
import EntityForge.Proofs.Schema.Spelling
import EntityForge.Proofs.Schema.TypeNames
import EntityForge.Proofs.Schema.Writing
import EntityForge.Proofs.Settings.Clashes
import EntityForge.Proofs.Settings.Layers
import EntityForge.Proofs.Settings.Loading
import EntityForge.Proofs.Settings.Merging
import EntityForge.Proofs.Settings.Portable
import EntityForge.Proofs.Settings.Precedence
import EntityForge.Proofs.Settings.Saving
import EntityForge.Proofs.Source.Breaking
import EntityForge.Proofs.Source.Discovery
import EntityForge.Proofs.Template.Engine
import EntityForge.Proofs.Template.Rendering
import EntityForge.Proofs.Text.Lines
import EntityForge.Proofs.Text.Lower
import EntityForge.Proofs.Text.Numeral
import EntityForge.Proofs.Text.Stripped
import EntityForge.Proofs.Text.Utf8
import EntityForge.Proofs.Value.Rebuilt
import EntityForge.Proofs.Value.Same
import EntityForge.Registry
import EntityForge.Repeated
import EntityForge.Schema.Basic
import EntityForge.Schema.Document
import EntityForge.Schema.Problem
import EntityForge.Schema.ScalarType
import EntityForge.Settings.Basic
import EntityForge.Settings.Load
import EntityForge.Settings.Problem
import EntityForge.Source.Encoding
import EntityForge.Source.Encoding.Chinese
import EntityForge.Source.Encoding.Escape
import EntityForge.Source.Encoding.Japanese
import EntityForge.Source.Encoding.Korean
import EntityForge.Source.Encoding.Punycode
import EntityForge.Source.Encoding.Sequence
import EntityForge.Source.Encoding.Shifted
import EntityForge.Source.Encoding.Units
import EntityForge.Source.Encoding.Utf7
import EntityForge.Source.File
import EntityForge.Source.HostAddress
import EntityForge.Source.Project
import EntityForge.Source.Url
import EntityForge.Source.Web
import EntityForge.Template.Attribute
import EntityForge.Template.Datum
import EntityForge.Template.Engine
import EntityForge.Template.Kind
import EntityForge.Template.Library
import EntityForge.Template.Node
import EntityForge.Template.Piece
import EntityForge.Template.Render
import EntityForge.Template.Summary
import EntityForge.Template.Variable
import EntityForge.Text.Basic
import EntityForge.Text.Blank
import EntityForge.Text.Cells
import EntityForge.Text.CharacterName
import EntityForge.Text.CharacterName.Aliases
import EntityForge.Text.CharacterName.Ancient
import EntityForge.Text.CharacterName.Asian
import EntityForge.Text.CharacterName.Brahmic
import EntityForge.Text.CharacterName.Forms
import EntityForge.Text.CharacterName.Hieroglyphic
import EntityForge.Text.CharacterName.Ideographic
import EntityForge.Text.CharacterName.Letters
import EntityForge.Text.CharacterName.Notational
import EntityForge.Text.CharacterName.Pictographs
import EntityForge.Text.CharacterName.Playing
import EntityForge.Text.CharacterName.Positional
import EntityForge.Text.CharacterName.Run
import EntityForge.Text.CharacterName.Signs
import EntityForge.Text.CharacterName.Syllabic
import EntityForge.Text.Compatible
import EntityForge.Text.Escape
import EntityForge.Text.Fold
import EntityForge.Text.Letter
import EntityForge.Text.Lower
import EntityForge.Text.Numeral
import EntityForge.Text.Printable
import EntityForge.Text.Ranges
import EntityForge.Text.Shown
import EntityForge.Text.Utf8
import EntityForge.Text.Width
import EntityForge.Value.Basic
import EntityForge.Value.Shown
