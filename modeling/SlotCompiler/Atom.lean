import SlotCompiler.Number.Limit
import SlotCompiler.Text.Quoted

namespace SlotCompiler

inductive Atom where
  | text (t : Text)
  | int (n : Int)
deriving DecidableEq, Repr

namespace Atom

def display : Atom → Text
  | text t => t
  | int n => .ofInt n

def quoted : Atom → Text
  | text t => t.quoted
  | int n => .ofInt n

def Short : Atom → Prop
  | text _ => True
  | int n => Number.Short n

instance : DecidablePred Short
  | text _ => .isTrue trivial
  | int n => inferInstanceAs (Decidable (Number.Short n))

end Atom

end SlotCompiler
