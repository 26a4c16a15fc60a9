import StoryExports.Addon
import StoryExports.Character.Category
import StoryExports.Character.CategoryTable
import StoryExports.Character.Fold
import StoryExports.Character.Property
import StoryExports.Character.PropertyTable
import StoryExports.Character.Script
import StoryExports.Character.ScriptTable
import StoryExports.Character.Table
import StoryExports.Decimal.Double
import StoryExports.Decimal.Shortest
import StoryExports.Edit.Apply
import StoryExports.Edit.Buffer
import StoryExports.Error
import StoryExports.Json.Decode
import StoryExports.Json.Quoted
import StoryExports.Json.Reader
import StoryExports.Json.Value
import StoryExports.Name.Derived
import StoryExports.Name.Identifier
import StoryExports.Options
import StoryExports.Outline.Basic
import StoryExports.Outline.Patch
import StoryExports.Pattern.Basic
import StoryExports.Pattern.CharSet
import StoryExports.Pattern.Class
import StoryExports.Pattern.Escape
import StoryExports.Pattern.Parser
import StoryExports.Pattern.Reader
import StoryExports.Plugin
import StoryExports.Script.Character
import StoryExports.Script.IdentifierTable
import StoryExports.Script.Lexer
import StoryExports.Script.Lexer.Escape
import StoryExports.Script.Lexer.Number
import StoryExports.Script.Lexer.Punctuator
import StoryExports.Script.Lexer.Quoted
import StoryExports.Script.Lexer.Scan
import StoryExports.Script.Lexer.Trivia
import StoryExports.Script.Lexer.Word
import StoryExports.Script.Module
import StoryExports.Script.Node
import StoryExports.Script.Parser.Cursor
import StoryExports.Script.Parser.Declaration
import StoryExports.Script.Parser.Expression
import StoryExports.Script.Parser.Function
import StoryExports.Script.Parser.Grammar
import StoryExports.Script.Parser.Pattern
import StoryExports.Script.Parser.Statement
import StoryExports.Script.Parser.Types
import StoryExports.Script.Token
import StoryExports.Story.Calls
import StoryExports.Story.Compiled
import StoryExports.Story.Correlation
import StoryExports.Story.Declaration
import StoryExports.Story.Note
import StoryExports.Story.Template
import StoryExports.Template.Decode
import StoryExports.Template.Offsets
import StoryExports.Template.Script
import StoryExports.Template.Tree
import StoryExports.Text.Basic
import StoryExports.Text.Blank
import StoryExports.Text.Dedent
import StoryExports.Text.DocComment
import StoryExports.Text.Units
import StoryExports.Text.UpperCase
import StoryExports.Transform
import StoryExports.Transform.Appendix
import StoryExports.Transform.Draft
import StoryExports.Proofs.Lists
import StoryExports.Proofs.Cuts
import StoryExports.Proofs.EditOrder
import StoryExports.Proofs.Recording
import StoryExports.Proofs.Overlaps
import StoryExports.Proofs.Rendering
import StoryExports.Proofs.Failures
import StoryExports.Proofs.Metadata
import StoryExports.Proofs.UniqueKeys
import StoryExports.Proofs.Untouched
import StoryExports.Proofs.Component
import StoryExports.Proofs.Redeclaration
import StoryExports.Proofs.TreeOffsets
import StoryExports.Proofs.ByteOrderMark
import StoryExports.Proofs.ImportStart
import StoryExports.Proofs.ImportBounds
import StoryExports.Proofs.QuotedTexts
import StoryExports.Proofs.ImportLine
import StoryExports.Proofs.LineEnds
import StoryExports.Proofs.LexedLines
import StoryExports.Proofs.AppendedImport
import StoryExports.Proofs.IssueOrder
import StoryExports.Proofs.VisitOrder
import StoryExports.Proofs.Identifiers
import StoryExports.Proofs.StoryNames
import StoryExports.Proofs.BraceLists
import StoryExports.Proofs.ListCopies
import StoryExports.Proofs.ListEdits
import StoryExports.Proofs.PatchedLists
import StoryExports.Proofs.LiteralEdits
import StoryExports.Proofs.Separation
import StoryExports.Proofs.FirstValue
import StoryExports.Proofs.RootedPatches
import StoryExports.Proofs.RemovedSpans
import StoryExports.Proofs.ClosingCommas
import StoryExports.Proofs.TakenOut
import StoryExports.Proofs.WrittenTokens
import StoryExports.Proofs.ParsedTokens
import StoryExports.Proofs.ParsedOperands
import StoryExports.Proofs.ParsedItems
import StoryExports.Proofs.AppendixItems
import StoryExports.Proofs.ParsedObjects
import StoryExports.Proofs.RenderedEntries
import StoryExports.Proofs.Pairing
import StoryExports.Proofs.StoryNotes
import StoryExports.Proofs.NodePlaces
import StoryExports.Proofs.ReadNodes
import StoryExports.Proofs.ParsedPlaces
import StoryExports.Proofs.TokenPlaces
import StoryExports.Proofs.OutermostCalls
import StoryExports.Proofs.ParsedStories
import StoryExports.Proofs.MovedSource
import StoryExports.Proofs.Occurrences
import StoryExports.Proofs.ScriptContent
import StoryExports.Proofs.LastImport
import StoryExports.Proofs.DefaultExports
import StoryExports.Proofs.Indentation
import StoryExports.Proofs.KeptContent
import StoryExports.Proofs.DocGutter
import StoryExports.Proofs.Capitals
import StoryExports.Proofs.ComponentNames
import StoryExports.Proofs.ExportNames
import StoryExports.Proofs.LexerRuns
import StoryExports.Proofs.RenderedParts
import StoryExports.Proofs.Sequels
import StoryExports.Proofs.SequelRules
import StoryExports.Proofs.SequelExpressions
import StoryExports.Proofs.SequelStatements
import StoryExports.Proofs.SequelItems
import StoryExports.Proofs.LexedAlike
import StoryExports.Proofs.TextsAlone
import StoryExports.Proofs.FunctionLine
import StoryExports.Proofs.JoinedTexts
import StoryExports.Proofs.HiddenComponent
import StoryExports.Proofs.Rerun
