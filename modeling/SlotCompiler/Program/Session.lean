import SlotCompiler.Program.Parser
import SlotCompiler.Tree

namespace SlotCompiler.Parser

inductive Request where
  | peek
  | advance
  -- Expects a kind; without a wording of its own, or with an empty one, it is expected by its
  -- spelling.
  | expect (kind : Token.Kind) (expected : Option Text)
  | program
  | statement
  | call
  | binding
  | name
  | expr

inductive Reply where
  | token (t : Token)
  | tree (t : Tree)

def Request.run : Request → Parser Reply
  | peek => return .token (← Parser.peek)
  | advance => return .token (← Parser.advance)
  | expect kind expected =>
    let wording := (expected.filter fun t => !t.isEmpty).getD kind.expectation
    return .token (← Parser.expect kind wording)
  | program => return .tree (← Parser.program).tree
  | statement => return .tree (← Parser.statement).tree
  | call => return .tree (← Parser.call).tree
  | binding => return .tree (← Parser.binding).tree
  | name => return .tree (← Parser.name).tree
  | expr => return .tree (← Parser.expr).tree

def session (cursor : Cursor) : List Request → List (Except Fault Reply × Cursor)
  | [] => []
  | request :: rest =>
    let (reply, next) := request.run.runFrom cursor
    (reply, next) :: session next rest

end SlotCompiler.Parser
