import SlotCompiler.Atom
import SlotCompiler.Diagnostic
import SlotCompiler.Number.Limit

namespace SlotCompiler

inductive Fault where
  | diagnostic (d : Diagnostic)
  | digitRun (length : Nat)
  | longNumber
  | outOfTokens
  | unknownKind (name : Text)
  -- A message lacks the detail with this index.
  | missingDetail (index : Nat)
  | undeclared (name : Atom)
  -- A tree node of this type stands where one with that part is needed.
  | missingPart (node part : Text)
  | deepValue
deriving DecidableEq

namespace Fault

-- The fault for a diagnostic: the diagnostic itself, if the details that its message tells can be
-- written and are there.
def report (kind : Diagnostic.Kind) (span : Span) (details : List Atom) : Fault :=
  if ∀ detail ∈ details.take kind.arity, detail.Short then
    if enough : kind.arity ≤ (details.map Atom.display).length then
      diagnostic ⟨kind, span, details.map Atom.display, enough⟩
    else missingDetail details.length
  else longNumber

def message : Fault → Text
  | diagnostic d => d.message
  | digitRun length =>
    "Exceeds the limit (" ++ toString Number.digitLimit ++
      " digits) for integer string conversion: value has " ++ toString length ++
      " digits; use sys.set_int_max_str_digits() to increase the limit"
  | longNumber => Diagnostic.Unshowable.longNumber.message
  | outOfTokens => "list index out of range"
  | unknownKind name => name.quoted
  | missingDetail index =>
    "Replacement index " ++ toString index ++ " out of range for positional args tuple"
  | undeclared name => name.quoted
  | missingPart node part =>
    node.quoted ++ " object has no attribute " ++ part.quoted
  | deepValue => "maximum recursion depth exceeded while getting the repr of an object"

end Fault

def Atom.shown (a : Atom) : Except Fault Text :=
  if a.Short then .ok a.display else .error .longNumber

end SlotCompiler
