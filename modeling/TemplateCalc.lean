import TemplateCalc.Calculator
import TemplateCalc.Calendar.Date
import TemplateCalc.Calendar.DayCount
import TemplateCalc.Calendar.Pattern
import TemplateCalc.Calendar.Read
import TemplateCalc.CommandLine
import TemplateCalc.Console.Dialog
import TemplateCalc.Console.Files
import TemplateCalc.Console.Run
import TemplateCalc.Dialog
import TemplateCalc.Double.Bits
import TemplateCalc.Double.Digits
import TemplateCalc.Double.Read
import TemplateCalc.Double.Text
import TemplateCalc.Ebcdic
import TemplateCalc.Error
import TemplateCalc.Function.Apply
import TemplateCalc.Function.Basic
import TemplateCalc.Function.Bits
import TemplateCalc.Function.Numeric
import TemplateCalc.Function.Strings
import TemplateCalc.Grouping
import TemplateCalc.Journal
import TemplateCalc.Main
import TemplateCalc.Numeral
import TemplateCalc.Operator
import TemplateCalc.Printf
import TemplateCalc.Proofs.Acceptance
import TemplateCalc.Proofs.Arguments
import TemplateCalc.Proofs.Branch
import TemplateCalc.Proofs.Bytes
import TemplateCalc.Proofs.Calendar.Grammar
import TemplateCalc.Proofs.Calendar.Matching
import TemplateCalc.Proofs.Calendar.Numbers
import TemplateCalc.Proofs.Calendar.WholeCounts
import TemplateCalc.Proofs.CharacterCodes
import TemplateCalc.Proofs.Console.Exchange
import TemplateCalc.Proofs.Console.Rounds
import TemplateCalc.Proofs.Contract.Basic
import TemplateCalc.Proofs.Contract.Level
import TemplateCalc.Proofs.Contract.Operand
import TemplateCalc.Proofs.Conversions
import TemplateCalc.Proofs.Cursor.Agreement
import TemplateCalc.Proofs.Cursor.Constants
import TemplateCalc.Proofs.Cursor.Numerals
import TemplateCalc.Proofs.Cursor.Progress
import TemplateCalc.Proofs.Cursor.Reader
import TemplateCalc.Proofs.Depth
import TemplateCalc.Proofs.EffectFree
import TemplateCalc.Proofs.Elements
import TemplateCalc.Proofs.ElseBranch
import TemplateCalc.Proofs.FallBacks
import TemplateCalc.Proofs.FieldLines
import TemplateCalc.Proofs.FieldPaths
import TemplateCalc.Proofs.FileBytes
import TemplateCalc.Proofs.Frame
import TemplateCalc.Proofs.Groups
import TemplateCalc.Proofs.Hexadecimal
import TemplateCalc.Proofs.Introspection
import TemplateCalc.Proofs.LeadingInteger
import TemplateCalc.Proofs.LeadingReal
import TemplateCalc.Proofs.Literals
import TemplateCalc.Proofs.Locality
import TemplateCalc.Proofs.Lockstep.Basic
import TemplateCalc.Proofs.Lockstep.Level
import TemplateCalc.Proofs.Lockstep.Operand
import TemplateCalc.Proofs.Lockstep.Parallel
import TemplateCalc.Proofs.Loops
import TemplateCalc.Proofs.MatchingColon
import TemplateCalc.Proofs.Nesting
import TemplateCalc.Proofs.Overflow
import TemplateCalc.Proofs.Passage.Basic
import TemplateCalc.Proofs.Passage.Level
import TemplateCalc.Proofs.Passage.Operand
import TemplateCalc.Proofs.Path.Basic
import TemplateCalc.Proofs.Path.Inquiry
import TemplateCalc.Proofs.Path.Table
import TemplateCalc.Proofs.Path.Value
import TemplateCalc.Proofs.Placeholders
import TemplateCalc.Proofs.Positional
import TemplateCalc.Proofs.Positions
import TemplateCalc.Proofs.Power
import TemplateCalc.Proofs.Progress
import TemplateCalc.Proofs.Reading
import TemplateCalc.Proofs.RealNumeral
import TemplateCalc.Proofs.Rendered
import TemplateCalc.Proofs.Reversal
import TemplateCalc.Proofs.Rotation
import TemplateCalc.Proofs.Scanning
import TemplateCalc.Proofs.Sequence
import TemplateCalc.Proofs.Settled
import TemplateCalc.Proofs.Shadowing
import TemplateCalc.Proofs.SignificantBits
import TemplateCalc.Proofs.Single
import TemplateCalc.Proofs.Slices
import TemplateCalc.Proofs.Spelling
import TemplateCalc.Proofs.SquareRoot
import TemplateCalc.Proofs.Steps
import TemplateCalc.Proofs.Suppression
import TemplateCalc.Proofs.Toml.Drafts
import TemplateCalc.Proofs.Toml.Entries
import TemplateCalc.Proofs.Toml.Passing
import TemplateCalc.Proofs.Toml.SameLine
import TemplateCalc.Proofs.Toml.Statements
import TemplateCalc.Proofs.Toml.Values
import TemplateCalc.Proofs.Tree.Basic
import TemplateCalc.Proofs.Tree.Climb
import TemplateCalc.Proofs.Tree.Evaluation
import TemplateCalc.Proofs.Tree.Names
import TemplateCalc.Proofs.TypedReading
import TemplateCalc.Proofs.Variables
import TemplateCalc.Proofs.Walk
import TemplateCalc.Proofs.WholeDoubles
import TemplateCalc.Proofs.Written
import TemplateCalc.Random
import TemplateCalc.Render
import TemplateCalc.Session.Basic
import TemplateCalc.Session.Level
import TemplateCalc.Session.Operand
import TemplateCalc.Session.Skip
import TemplateCalc.Settings.Basic
import TemplateCalc.Settings.Load
import TemplateCalc.Store
import TemplateCalc.Symbol
import TemplateCalc.Text.Blank
import TemplateCalc.Text.CaseTable
import TemplateCalc.Text.Letter
import TemplateCalc.Text.LetterTable
import TemplateCalc.Text.Lowercase
import TemplateCalc.Text.PrintableTable
import TemplateCalc.Text.Quoted
import TemplateCalc.Token
import TemplateCalc.Token.Scan
import TemplateCalc.Toml.Document
import TemplateCalc.Toml.Lexeme
import TemplateCalc.Toml.Node
import TemplateCalc.Value.Basic
import TemplateCalc.Value.Display
import TemplateCalc.Value.Operation
