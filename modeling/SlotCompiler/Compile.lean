import SlotCompiler.Assembly.Generator
import SlotCompiler.Json.Shown
import SlotCompiler.Log
import SlotCompiler.Program.Parser
import SlotCompiler.Token.Scanner

namespace SlotCompiler

-- Compilation with its log, which is kept when it stops.
abbrev Logged := Step Fault (List Log)

def Logged.debug (message : Text) : Logged Unit :=
  modify fun logs => logs ++ [⟨.debug, message⟩]

def countLineFeeds (t : Text) : Nat := t.count (.char '\n')

def compile (code : Text) : Logged Text := do
  let tokens ← Step.ofExcept (Token.tokenize code)
  Logged.debug ("lexed " ++ toString tokens.length ++ " tokens")
  let program ← Step.ofExcept (Program.ofTokens tokens)
  Logged.debug ("parsed " ++ toString program.length ++ " statements")
  let assembly ← Step.ofExcept (Assembly.generate program.tree).1
  Logged.debug ("generated " ++ toString (countLineFeeds assembly) ++ " lines of assembly")
  return assembly

def runCompile (code : Text) : Except Fault Text × List Log := (compile code).runFrom []

structure Report where
  tokens : List Token := []
  program : Option Program := none
  assembly : List Text := []
  errors : List Text := []
  diagnostic : Option Diagnostic := none
  symbols : Assembly.Scope := []

-- A diagnostic is part of the report; any other fault is not.
def Report.stop (r : Report) (source : Diagnostic.Source) : Fault → Except Fault Report
  | .diagnostic d => .ok { r with errors := [d.render source], diagnostic := some d }
  | fault => .error fault

def report (source : Diagnostic.Source) : Except Fault Report :=
  match Token.tokenize source.code with
  | .error fault => Report.stop {} source fault
  | .ok tokens =>
    match Program.ofTokens tokens with
    | .error fault => Report.stop { tokens } source fault
    | .ok program =>
      match Assembly.generate program.tree with
      | (.error fault, _) => Report.stop { tokens, program } source fault
      | (.ok assembly, generator) =>
        .ok { tokens, program, assembly := Text.splitLines assembly
              symbols := generator.scope }

-- The report on a text that goes by any value; there is room for this many values in its name.
def reportNamed (room : Nat) (code : Text) (name : Json) : Except Fault Report := do
  report ⟨code, ← name.shown room⟩

end SlotCompiler
