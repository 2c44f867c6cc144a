import SlotCompiler.Assembly.Generator
import SlotCompiler.Program.Parser
import SlotCompiler.Token.Scanner

namespace SlotCompiler.Assembly

inductive Request where
  | program (tree : Tree)
  | compile (code : Text)
  -- The statements of a source text, after the lines so far.
  | source (code : Text)
  | statement (tree : Tree)
  | expr (tree : Tree)
  | exit (tree : Tree)
  | push (operand : Text)
  | pop (register : Text)
  | emit (line : Text)
  | describe (name : Text)

namespace Request

def parsed (code : Text) : Generate Program :=
  Step.ofExcept (Token.tokenize code >>= Program.ofTokens)

def run (table : Builtins) : Request → Generate (Option Text)
  | program tree => return some (← Generate.program table tree)
  | compile code => do return some (← Generate.program table (← parsed code).tree)
  | source code => do
    (← parsed code).forM fun s => Generate.statement table s.tree
    return none
  | statement tree => do Generate.statement table tree; return none
  | expr tree => do Generate.expr tree; return none
  | exit tree => do Generate.exitCall tree; return none
  | push operand => do Generate.push (.raw operand); return none
  | pop register => do Generate.pop register; return none
  | emit line => do Generate.emit (.raw line); return none
  | describe name => return some (← Generate.showVariable (.text name))

end Request

def session (table : Builtins) (g : Generator) :
    List Request → List (Except Fault (Option Text) × Generator)
  | [] => []
  | request :: rest =>
    let (reply, next) := (request.run table).runFrom g
    (reply, next) :: session table next rest

end SlotCompiler.Assembly
