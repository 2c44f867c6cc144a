import SlotCompiler.Program

namespace SlotCompiler

inductive Tree where
  | program (statements : List Tree)
  | binding (name value : Tree)
  | call (callee argument : Tree)
  | identifier (name : Atom) (span : Span)
  | literal (value : Option Atom) (type : Text) (span : Span)
  -- A node without content.
  | bare
  -- No node.
  | absent

namespace Tree

def typeName : Tree → Text
  | program _ => "Program"
  | binding _ _ => "Let"
  | call _ _ => "Call"
  | identifier _ _ => "Identifier"
  | literal _ _ _ => "Literal"
  | bare => "Node"
  | absent => "NoneType"

end Tree

def Name.tree (n : Name) : Tree := .identifier n.value n.span

def Expr.tree : Expr → Tree
  | literal value type span => .literal (some value) type.name span
  | name n => n.tree

def Statement.tree : Statement → Tree
  | binding name value => .binding name.tree value.tree
  | call callee argument => .call callee.tree argument.tree

def Program.tree (p : Program) : Tree := .program (p.map Statement.tree)

end SlotCompiler
