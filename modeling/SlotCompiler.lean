import SlotCompiler.Assembly.Generator
import SlotCompiler.Assembly.Instruction
import SlotCompiler.Assembly.Session
import SlotCompiler.Atom
import SlotCompiler.Build
import SlotCompiler.Build.FileTree
import SlotCompiler.Build.Path
import SlotCompiler.Build.Tool
import SlotCompiler.CommandLine
import SlotCompiler.CommandLine.Argument
import SlotCompiler.CommandLine.Settings
import SlotCompiler.Compile
import SlotCompiler.Diagnostic
import SlotCompiler.Fault
import SlotCompiler.Json.Basic
import SlotCompiler.Json.Reader
import SlotCompiler.Json.Shown
import SlotCompiler.Json.Writer
import SlotCompiler.Log
import SlotCompiler.Main
import SlotCompiler.Number.Binary64
import SlotCompiler.Number.Limit
import SlotCompiler.Number.Shortest
import SlotCompiler.Program
import SlotCompiler.Program.Parser
import SlotCompiler.Program.Session
import SlotCompiler.Service
import SlotCompiler.Service.Address
import SlotCompiler.Service.Compilation
import SlotCompiler.Service.Config
import SlotCompiler.Service.Host.Fold
import SlotCompiler.Service.Host.Name
import SlotCompiler.Service.Host.Punycode
import SlotCompiler.Service.Reference
import SlotCompiler.Service.Refusal
import SlotCompiler.Service.Route
import SlotCompiler.Service.Target
import SlotCompiler.Service.Trust
import SlotCompiler.Span
import SlotCompiler.Step
import SlotCompiler.Text
import SlotCompiler.Text.Blank
import SlotCompiler.Text.Case
import SlotCompiler.Text.Direction
import SlotCompiler.Text.Letter
import SlotCompiler.Text.Lines
import SlotCompiler.Text.Normal
import SlotCompiler.Text.Normal.Combining
import SlotCompiler.Text.Normal.Composition
import SlotCompiler.Text.Normal.Decomposition
import SlotCompiler.Text.Numeral
import SlotCompiler.Text.Printable
import SlotCompiler.Text.Quoted
import SlotCompiler.Text.Ranges
import SlotCompiler.Text.Table
import SlotCompiler.Text.Utf8
import SlotCompiler.Text.Wide
import SlotCompiler.Text.Word
import SlotCompiler.Token
import SlotCompiler.Token.Lexeme
import SlotCompiler.Token.Scanner
import SlotCompiler.Tree
import SlotCompiler.Tree.Json
import SlotCompiler.Proofs.Atom
import SlotCompiler.Proofs.Text.Classes
import SlotCompiler.Proofs.Text.Place
import SlotCompiler.Proofs.Token.Lexeme
import SlotCompiler.Proofs.Token.Layout
import SlotCompiler.Proofs.Token.Scan
import SlotCompiler.Proofs.Program.Grammar
import SlotCompiler.Proofs.Program.Walk
import SlotCompiler.Proofs.Token.Tokenize
import SlotCompiler.Proofs.Program.Parser
import SlotCompiler.Proofs.Assembly.Machine
import SlotCompiler.Proofs.Program.Viable
import SlotCompiler.Proofs.Program.Failure
import SlotCompiler.Proofs.Program.Meaning
import SlotCompiler.Proofs.Program.Scope
import SlotCompiler.Proofs.Assembly.Generator
import SlotCompiler.Proofs.Assembly.Scope
import SlotCompiler.Proofs.Assembly.Simulation
import SlotCompiler.Proofs.Compile
import SlotCompiler.Proofs.Outcome
import SlotCompiler.Proofs.Token.Failure
import SlotCompiler.Proofs.Diagnostic
import SlotCompiler.Proofs.Assembly.Moves
import SlotCompiler.Proofs.Assembly.Processor
import SlotCompiler.Proofs.Assembly.Addressing
import SlotCompiler.Proofs.Text.Lines
import SlotCompiler.Proofs.Assembly.Listing
import SlotCompiler.Proofs.Report
import SlotCompiler.Proofs.Fault
import SlotCompiler.Proofs.Program.Renaming
import SlotCompiler.Proofs.Assembly.Renaming
import SlotCompiler.Proofs.Program.Alike
import SlotCompiler.Proofs.Independence
import SlotCompiler.Proofs.Immediate
import SlotCompiler.Proofs.Build.Path
import SlotCompiler.Proofs.Build.Targets
import SlotCompiler.Proofs.Build.FileTree
import SlotCompiler.Proofs.Build.Effects
import SlotCompiler.Proofs.Text.Utf8
import SlotCompiler.Proofs.Build.Source
import SlotCompiler.Proofs.Json.Shown
import SlotCompiler.Proofs.Service.Answer
import SlotCompiler.Proofs.Token.Boundary
import SlotCompiler.Proofs.Token.Lines
import SlotCompiler.Proofs.Text.Ends
import SlotCompiler.Proofs.Token.Ends
import SlotCompiler.Proofs.LineEnds
import SlotCompiler.Proofs.Excerpt
import SlotCompiler.Proofs.Assembly.Increment
import SlotCompiler.Proofs.Assembly.Settled
import SlotCompiler.Proofs.Program.Confined
import SlotCompiler.Proofs.Program.Misfit
import SlotCompiler.Proofs.Token.Reuse
import SlotCompiler.Proofs.Tree.Json
import SlotCompiler.Proofs.CommandLine
