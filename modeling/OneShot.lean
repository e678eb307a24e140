import OneShot.Binary64.Arithmetic
import OneShot.Decimal.Reader
import OneShot.Decimal.Shortest
import OneShot.Bytes
import OneShot.Number.Basic
import OneShot.Number.Order
import OneShot.Number.Text
import OneShot.Text.Utf8
import OneShot.Text.Blank
import OneShot.Text.Invisible
import OneShot.Text.Alphanumeric
import OneShot.Text.Terminal
import OneShot.Text.Lowercase
import OneShot.Text.Uppercase
import OneShot.Calculation
import OneShot.Greeting
import OneShot.Sorting.Short
import OneShot.Sorting.Runs
import OneShot.Sorting.Quicksort
import OneShot.Sorting
import OneShot.Summary
import OneShot.Text.Analysis
import OneShot.Json.Fault
import OneShot.Json.Reader
import OneShot.Json.Literal
import OneShot.Json.Quoted
import OneShot.Json.Skip
import OneShot.Json.Record
import OneShot.Number.Json
import OneShot.Number.List
import OneShot.Response.Basic
import OneShot.Response.Reader
import OneShot.Json.Tag
import OneShot.Request.Basic
import OneShot.Request.Reader
import OneShot.Calculation.Json
import OneShot.CommandLine.Help
import OneShot.Pattern.Basic
import OneShot.Pattern.Atom
import OneShot.Pattern.CharClass
import OneShot.Pattern.Reader
import OneShot.Log
import OneShot.Program
import OneShot.Client
import OneShot.Main
import OneShot.Proofs.Text.Utf8
import OneShot.Proofs.CommandLine.Grammar
import OneShot.Proofs.Binary64.Rounding
import OneShot.Proofs.Binary64.Arithmetic
import OneShot.Proofs.Decimal.Nearest
import OneShot.Proofs.Decimal.Shortest
import OneShot.Proofs.Decimal.Layout
import OneShot.Proofs.Decimal.Reader
import OneShot.Proofs.Json.Reader
import OneShot.Proofs.Json.Literal
import OneShot.Proofs.Json.Quoted
import OneShot.Proofs.Json.Scaling
import OneShot.Proofs.Json.Value
import OneShot.Proofs.Json.Numeral
import OneShot.Proofs.Json.Exact
import OneShot.Proofs.Json.Grammar
import OneShot.Proofs.Json.Sequence
import OneShot.Proofs.Json.Series
import OneShot.Proofs.Json.Spelling
import OneShot.Proofs.Json.Bracket
import OneShot.Proofs.Json.Array
import OneShot.Proofs.Json.ValueText
import OneShot.Proofs.Json.Record
import OneShot.Proofs.Json.Typed
import OneShot.Proofs.Json.Skip
import OneShot.Proofs.Json.Whole
import OneShot.Proofs.Json.Layout
import OneShot.Proofs.Json.Spacing
import OneShot.Proofs.Json.Members
import OneShot.Proofs.Json.Extension
import OneShot.Proofs.Number.Order
import OneShot.Proofs.Number.Json
import OneShot.Proofs.Json.Written
import OneShot.Proofs.Number.List
import OneShot.Proofs.Number.Value
import OneShot.Proofs.Number.Decoders
import OneShot.Proofs.Number.Rational
import OneShot.Proofs.Number.Exactness
import OneShot.Proofs.Number.Grammar
import OneShot.Proofs.Number.Report
import OneShot.Proofs.Number.Shape
import OneShot.Proofs.Sorting.Arrangement
import OneShot.Proofs.Sorting.Short
import OneShot.Proofs.Sorting.Runs
import OneShot.Proofs.Sorting.Quicksort
import OneShot.Proofs.Sorting.Natural
import OneShot.Proofs.Sorting
import OneShot.Proofs.Summary
import OneShot.Proofs.Summary.Tame
import OneShot.Proofs.Summary.Order
import OneShot.Proofs.Summary.Stability
import OneShot.Proofs.Summary.Total
import OneShot.Proofs.Summary.Comparisons
import OneShot.Proofs.Response.Summary
import OneShot.Proofs.Request.Words
import OneShot.Proofs.Request.Operands
import OneShot.Proofs.Request.Json
import OneShot.Proofs.Request.Order
import OneShot.Proofs.Program
import OneShot.Proofs.Program.Unreached
import OneShot.Proofs.Text.CodeRange
import OneShot.Proofs.Text.Words
import OneShot.Proofs.Text.Analysis
import OneShot.Proofs.Text.Joined
import OneShot.Proofs.Response.Line
import OneShot.Proofs.Response.Order
import OneShot.Proofs.Response.Calculation
import OneShot.Proofs.Client
import OneShot.Proofs.Client.Output
