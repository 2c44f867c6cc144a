import SlotCompiler.Atom
import SlotCompiler.Span

namespace SlotCompiler

structure Name where
  value : Atom
  span : Span
deriving DecidableEq, Repr

inductive LiteralType where
  | int
  | string
deriving DecidableEq, Repr

def LiteralType.name : LiteralType → Text
  | int => "int"
  | string => "string"

inductive Expr where
  | literal (value : Atom) (type : LiteralType) (span : Span)
  | name (name : Name)
deriving DecidableEq, Repr

inductive Statement where
  | binding (name : Name) (value : Expr)
  | call (callee : Name) (argument : Expr)
deriving DecidableEq, Repr

abbrev Program := List Statement

end SlotCompiler
