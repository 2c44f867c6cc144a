import SlotCompiler.Atom

namespace SlotCompiler.Assembly

inductive Operand where
  | literal (value : Option Atom)
  -- The slot this many bytes above the top of the stack.
  | slot (offset : Int)
  | raw (text : Text)
deriving DecidableEq, Repr

inductive Instruction where
  | global (symbol : Text)
  | label (symbol : Text)
  | push (operand : Operand)
  | pop (register : Text)
  | move (register : Text) (value : Nat)
  | syscall
  | raw (line : Text)
deriving DecidableEq, Repr

def Operand.text : Operand → Text
  | literal value => (value.map Atom.display).getD "None"
  | slot offset => "QWORD [rsp+" ++ toString offset ++ "]"
  | raw text => text

def Instruction.text : Instruction → Text
  | global symbol => "global " ++ symbol
  | label symbol => symbol ++ ":"
  | push operand => "push " ++ operand.text
  | pop register => "pop " ++ register
  | move register value => "mov " ++ register ++ ", " ++ toString value
  | syscall => "syscall"
  | raw line => line

-- The text of a file: every line ends with a line feed.
def listing (code : List Instruction) : Text := Text.join "\n" (code.map (·.text)) ++ "\n"

def preamble : List Instruction := [.global "_start", .label "_start"]

end SlotCompiler.Assembly
