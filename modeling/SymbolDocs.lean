import SymbolDocs.App
import SymbolDocs.CommandLine
import SymbolDocs.Description.Basic
import SymbolDocs.Description.Compose
import SymbolDocs.Description.OfMarkup
import SymbolDocs.Environment
import SymbolDocs.Error
import SymbolDocs.Extraction
import SymbolDocs.Files.FileSystem
import SymbolDocs.Files.OsError
import SymbolDocs.Files.Path
import SymbolDocs.Index
import SymbolDocs.Json.Basic
import SymbolDocs.Markup
import SymbolDocs.Number.Binary64
import SymbolDocs.Number.Operations
import SymbolDocs.Program.Basic
import SymbolDocs.Program.Launcher
import SymbolDocs.Program.Signal
import SymbolDocs.Script.Arithmetic
import SymbolDocs.Script.Awk.Grammar
import SymbolDocs.Script.Awk.Run
import SymbolDocs.Script.Awk.Syntax
import SymbolDocs.Script.Awk.Token
import SymbolDocs.Script.Awk.Value
import SymbolDocs.Script.BuiltIn
import SymbolDocs.Script.CharClass
import SymbolDocs.Script.Condition
import SymbolDocs.Script.Executable
import SymbolDocs.Script.Expand
import SymbolDocs.Script.FindFiles
import SymbolDocs.Script.Format
import SymbolDocs.Script.Glob
import SymbolDocs.Script.Grammar
import SymbolDocs.Script.Redirect
import SymbolDocs.Script.Regex.Basic
import SymbolDocs.Script.Regex.Parse
import SymbolDocs.Script.Run
import SymbolDocs.Script.Shell
import SymbolDocs.Script.Source
import SymbolDocs.Script.Syntax
import SymbolDocs.Script.Token
import SymbolDocs.Script.Tool.Basic
import SymbolDocs.Script.Tool.Files
import SymbolDocs.Script.Tool.Grep
import SymbolDocs.Script.Tool.Recode
import SymbolDocs.Script.Tool.Sed
import SymbolDocs.Script.Tool.Sort
import SymbolDocs.Script.Tool.Table
import SymbolDocs.Script.Tool.Text
import SymbolDocs.Script.Tool.Value
import SymbolDocs.Script.Word
import SymbolDocs.Script.Wrapper
import SymbolDocs.Settings.Basic
import SymbolDocs.Settings.Dotenv
import SymbolDocs.Settings.EnvValue
import SymbolDocs.Settings.Layers
import SymbolDocs.Settings.Toml
import SymbolDocs.Settings.TomlScalar
import SymbolDocs.Settings.TomlText
import SymbolDocs.Settings.Value
import SymbolDocs.Symbol.Basic
import SymbolDocs.Symbol.Json
import SymbolDocs.Symbol.OfDeclaration
import SymbolDocs.Symbol.Visibility
import SymbolDocs.Text.Alphanumeric
import SymbolDocs.Text.Blank
import SymbolDocs.Text.Cut
import SymbolDocs.Text.Digits
import SymbolDocs.Text.Octets
import SymbolDocs.Text.Quoted
import SymbolDocs.Text.Unprintable
import SymbolDocs.Text.Utf8
import SymbolDocs.Xml.Document
import SymbolDocs.Xml.Element
import SymbolDocs.Xml.Fault
import SymbolDocs.Xml.Tag
import SymbolDocs.Xml.Token
import SymbolDocs.Xml.Unescape
import SymbolDocs.Main
import SymbolDocs.Proofs.Description.Composition
import SymbolDocs.Proofs.Description.Nodes
import SymbolDocs.Proofs.Description.WellFormed
import SymbolDocs.Proofs.Description.Reading
import SymbolDocs.Proofs.Description.Pruning
import SymbolDocs.Proofs.Index.Lookup
import SymbolDocs.Proofs.Index.Loading
import SymbolDocs.Proofs.Symbol.Descriptions
import SymbolDocs.Proofs.Symbol.Pruning
import SymbolDocs.Proofs.Index.Identifier
import SymbolDocs.Proofs.Index.Resolution
import SymbolDocs.Proofs.Xml.Balance
import SymbolDocs.Proofs.Description.PlainText
import SymbolDocs.Proofs.Xml.Size
import SymbolDocs.Proofs.Description.Segments
import SymbolDocs.Proofs.Xml.Escape
import SymbolDocs.Proofs.Xml.Scan
import SymbolDocs.Proofs.Xml.Rendering
import SymbolDocs.Proofs.Index.Nesting
import SymbolDocs.Proofs.Index.Reading
import SymbolDocs.Proofs.Index.Caching
import SymbolDocs.Proofs.Index.Session
import SymbolDocs.Proofs.Markup.Grammar
import SymbolDocs.Proofs.Description.Grammar
import SymbolDocs.Proofs.Description.Wording
import SymbolDocs.Proofs.Description.Lossless
import SymbolDocs.Proofs.App.Collecting
import SymbolDocs.Proofs.Json.Layout
import SymbolDocs.Proofs.Symbol.Decoding
import SymbolDocs.Proofs.Description.Visible
import SymbolDocs.Proofs.Symbol.Hiding
import SymbolDocs.Proofs.Index.References
import SymbolDocs.Proofs.Symbol.Resolvers
import SymbolDocs.Proofs.Index.Order
import SymbolDocs.Proofs.Index.Unfolding
import SymbolDocs.Proofs.Symbol.Emptied
import SymbolDocs.Proofs.Markup.Translation
import SymbolDocs.Proofs.Text.Words
import SymbolDocs.Proofs.Description.Inline
import SymbolDocs.Proofs.Description.Canonical
import SymbolDocs.Proofs.Description.Invariant
import SymbolDocs.Proofs.Symbol.ParameterTypes
import SymbolDocs.Proofs.Symbol.ParameterLists
import SymbolDocs.Proofs.Text.Gaps
import SymbolDocs.Proofs.Markup.TypeSpacing
import SymbolDocs.Proofs.Markup.Links
import SymbolDocs.Proofs.Extraction.Reading
import SymbolDocs.Proofs.Files.Path
import SymbolDocs.Proofs.Extraction.Directories
import SymbolDocs.Proofs.Xml.Descendants
import SymbolDocs.Proofs.Xml.PathQuery
import SymbolDocs.Proofs.CommandLine.Spelling
import SymbolDocs.Proofs.CommandLine.Placement
import SymbolDocs.Proofs.Settings.Keys
import SymbolDocs.Proofs.Settings.Reading
import SymbolDocs.Proofs.Settings.Overlay
import SymbolDocs.Proofs.Settings.Leaves
import SymbolDocs.Proofs.Settings.OfTree
import SymbolDocs.Proofs.Settings.Precedence
import SymbolDocs.Proofs.Script.Glob
import SymbolDocs.Proofs.Script.Regex
import SymbolDocs.Proofs.Script.Substitution
import SymbolDocs.Proofs.Script.Frames
import SymbolDocs.Proofs.App.CurrentDirectory
import SymbolDocs.Proofs.Number.Rounding
import SymbolDocs.Proofs.Number.Shortest
