import Songbook.Chord.Book
import Songbook.Chord.Builtin
import Songbook.Chord.Definition
import Songbook.Chord.Fingering
import Songbook.Chord.Name
import Songbook.Chord.Note
import Songbook.CommandLine.Arguments
import Songbook.CommandLine.LogFilter
import Songbook.CommandLine.LogLine
import Songbook.CommandLine.Path
import Songbook.CommandLine.Program
import Songbook.Decimal.Binary64
import Songbook.Decimal.Fixed
import Songbook.Decimal.Integer
import Songbook.Decimal.Numeral
import Songbook.Decimal.Shortest
import Songbook.Directive.Basic
import Songbook.Directive.Keyword
import Songbook.Drawing
import Songbook.Length
import Songbook.Line
import Songbook.Main
import Songbook.Markup.Reader
import Songbook.Markup.Sink
import Songbook.Markup.Token
import Songbook.Page.Cursor
import Songbook.Page.Geometry
import Songbook.Pattern.Basic
import Songbook.Pattern.Bracket
import Songbook.Pattern.ByteRanges
import Songbook.Pattern.CharSet
import Songbook.Pattern.Escape
import Songbook.Pattern.Expression
import Songbook.Pattern.Flaw
import Songbook.Pattern.Joining
import Songbook.Pattern.Look
import Songbook.Pattern.Marking
import Songbook.Pattern.Meaning
import Songbook.Pattern.Place
import Songbook.Pattern.Reader
import Songbook.Pattern.Reading
import Songbook.Pattern.Room
import Songbook.Pattern.Tree
import Songbook.PostScript.Code
import Songbook.PostScript.Diagram
import Songbook.PostScript.Document
import Songbook.PostScript.Machine
import Songbook.PostScript.Pen
import Songbook.PostScript.Quoted
import Songbook.PostScript.Spool
import Songbook.Problem
import Songbook.Proofs.Bookkeeping
import Songbook.Proofs.Gates
import Songbook.Proofs.Moves
import Songbook.Proofs.Outcome
import Songbook.Proofs.Paging
import Songbook.Proofs.Reading
import Songbook.Proofs.Runs
import Songbook.Proofs.Sheets
import Songbook.Proofs.Startup
import Songbook.Session.Basic
import Songbook.Session.Diagrams
import Songbook.Session.Directives
import Songbook.Session.Index
import Songbook.Session.Lines
import Songbook.Session.Log
import Songbook.Session.Pages
import Songbook.Session.Run
import Songbook.Settings
import Songbook.Style.Font
import Songbook.Style.Sheet
import Songbook.Text.Alphanumeric
import Songbook.Text.Blank
import Songbook.Text.Case
import Songbook.Text.ControlSequence
import Songbook.Text.Quoted
import Songbook.Text.Ranges
import Songbook.Text.Unprintable
import Songbook.Text.Utf8
import Songbook.Proofs.Protocol
import Songbook.Proofs.RowPairs
import Songbook.Proofs.Likeness
import Songbook.Proofs.Songs
import Songbook.Proofs.NextSong
import Songbook.Proofs.OwedSpace
import Songbook.Proofs.Sinks
import Songbook.Proofs.LineKinds
import Songbook.Proofs.Findings
import Songbook.Proofs.WholeLines
import Songbook.Proofs.LineByLine
import Songbook.Proofs.Switches
import Songbook.Proofs.SongSwitches
import Songbook.Proofs.DirectiveTexts
import Songbook.Proofs.PageEnds
import Songbook.Proofs.IndexPages
import Songbook.Proofs.Orders
import Songbook.Proofs.Deeds
import Songbook.Proofs.TextArea
import Songbook.Proofs.Outcomes
import Songbook.Proofs.ChorusBars
import Songbook.Proofs.Layout
import Songbook.Proofs.SongDefinitions
import Songbook.Proofs.Reports
import Songbook.Proofs.Gathered
import Songbook.Proofs.Configuring
import Songbook.Proofs.Printouts
import Songbook.Proofs.PageNumbers
import Songbook.Proofs.Register
import Songbook.Proofs.Tellings
import Songbook.Proofs.IndexMarks
import Songbook.Proofs.SongDiagrams
import Songbook.Proofs.FontSizes
import Songbook.Proofs.PaperExtents
import Songbook.Proofs.Placements
import Songbook.Proofs.Sight
import Songbook.Proofs.Interruptions
import Songbook.Proofs.Refusals
import Songbook.Proofs.ChordNames
import Songbook.Proofs.LyricsAlone
import Songbook.Proofs.LyricsLines
import Songbook.Proofs.SongRows
import Songbook.Proofs.NameParts
import Songbook.Proofs.Transposition
import Songbook.Proofs.FontCode
import Songbook.Proofs.FontSelection
import Songbook.Proofs.ClosedChords
import Songbook.Proofs.DiagramFit
import Songbook.Proofs.Words
import Songbook.Proofs.DefinitionForms
import Songbook.Proofs.PrintedDefinitions
import Songbook.Proofs.KnownChords
import Songbook.Proofs.StyleLinks
import Songbook.Proofs.Descent
import Songbook.Proofs.ColumnRoom
import Songbook.Proofs.ConditionalBreaks
import Songbook.Proofs.ColumnBreaks
import Songbook.Proofs.ColumnChanges
import Songbook.Proofs.DiagramCells
import Songbook.Proofs.Appendix
import Songbook.Proofs.StringLiterals
import Songbook.Proofs.CodeReading
import Songbook.Proofs.FontNames
import Songbook.Proofs.ChordRows
import Songbook.Proofs.LyricsSteps
import Songbook.Proofs.MarkedLines
import Songbook.Proofs.Brackets
import Songbook.Proofs.LeadingIntegers
import Songbook.Proofs.Deliveries
import Songbook.Proofs.DiagramMarks
