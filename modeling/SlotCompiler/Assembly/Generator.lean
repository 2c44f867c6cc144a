import SlotCompiler.Assembly.Instruction
import SlotCompiler.Fault
import SlotCompiler.Step
import SlotCompiler.Tree

namespace SlotCompiler.Assembly

def slotSize : Int := 8

-- Declared variables in order of declaration, each with the size of the stack right after its push.
abbrev Scope := List (Atom × Int)

structure Generator where
  lines : Array Instruction := #[]
  scope : Scope := []
  stackSize : Int := 0
deriving DecidableEq

-- A step that fails keeps what it has emitted so far.
abbrev Generate := Step Fault Generator

inductive Action where
  | argument
  | push (operand : Operand)
  | pop (register : Text)
  | emit (line : Instruction)
deriving DecidableEq, Repr

abbrev Builtin := List Action

abbrev Builtins := List (Text × Builtin)

def exitNumber : Nat := 60

def Builtin.exit : Builtin :=
  [.argument, .emit (.move "rax" exitNumber), .pop "rdi", .emit .syscall]

def Builtins.standard : Builtins := [("exit", .exit)]

def Builtins.find? (table : Builtins) (name : Atom) : Option Builtin :=
  match name with
  | .text t => table.lookup t
  | .int _ => none

def Builtins.insert (table : Builtins) (name : Text) (builtin : Builtin) : Builtins :=
  (name, builtin) :: table

namespace Generate

def emit (line : Instruction) : Generate Unit :=
  modify fun g => { g with lines := g.lines.push line }

def push (operand : Operand) : Generate Unit := do
  emit (.push operand)
  modify fun g => { g with stackSize := g.stackSize + slotSize }

def pop (register : Text) : Generate Unit := do
  emit (.pop register)
  modify fun g => { g with stackSize := g.stackSize - slotSize }

-- Only literals and identifiers have a value; other nodes push nothing.
def expr : Tree → Generate Unit
  | .literal value type span => do
    if type != LiteralType.int.name then
      throw (.report .unsupportedExpression span [.text type])
    if ∀ v ∈ value, v.Short then push (.literal value) else throw .longNumber
  | .identifier name span => do
    let g ← get
    match g.scope.lookup name with
    | some location => push (.slot (g.stackSize - location))
    | none => throw (.report .notFound span [name])
  | _ => return ()

def act (argument : Tree) : Action → Generate Unit
  | .argument => expr argument
  | .push operand => push operand
  | .pop register => pop register
  | .emit line => emit line

def builtin (b : Builtin) (argument : Tree) : Generate Unit :=
  b.forM (act argument)

def nameOf : Tree → Generate Name
  | .identifier name span => return ⟨name, span⟩
  | node => throw (.missingPart node.typeName "name")

-- Bindings and calls are statements; other nodes do nothing.
def statement (table : Builtins) : Tree → Generate Unit
  | .binding bound value => do
    let name ← nameOf bound
    if ((← get).scope.lookup name.value).isSome then
      throw (.report .alreadyDeclared name.span [name.value])
    expr value
    modify fun g => { g with scope := g.scope ++ [(name.value, g.stackSize)] }
  | .call callee argument => do
    let name ← nameOf callee
    match table.find? name.value with
    | some b => builtin b argument
    | none => throw (.report .notFound name.span [name.value])
  | _ => return ()

def exitCall : Tree → Generate Unit
  | .call _ argument => builtin .exit argument
  | node => throw (.missingPart node.typeName "argument")

-- A whole program. The lines start anew; variables and the stack stay as they are.
def program (table : Builtins) (tree : Tree) : Generate Text := do
  modify fun g => { g with lines := preamble.toArray }
  match tree with
  | .program statements => statements.forM (statement table)
  | node => throw (.missingPart node.typeName "statements")
  return listing (← get).lines.toList

def showVariable (name : Atom) : Generate Text := do
  match (← get).scope.lookup name with
  | some location => return "Variable(" ++ toString location ++ ")"
  | none => throw (.undeclared name)

end Generate

def generate (tree : Tree) : Except Fault Text × Generator :=
  (Generate.program .standard tree).runFrom {}

end SlotCompiler.Assembly
