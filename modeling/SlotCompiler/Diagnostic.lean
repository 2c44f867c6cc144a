import SlotCompiler.Number.Limit
import SlotCompiler.Span
import SlotCompiler.Text.Lines

namespace SlotCompiler

namespace Diagnostic

inductive Kind where
  | invalidToken
  | expectedToken
  | notFound
  | unsupportedExpression
  | unmatched
  | alreadyDeclared
deriving DecidableEq, Repr

namespace Kind

def all : List Kind :=
  [invalidToken, expectedToken, notFound, unsupportedExpression, unmatched, alreadyDeclared]

def name : Kind → Text
  | invalidToken => "INVALID_TOKEN"
  | expectedToken => "EXPECTED_TOKEN"
  | notFound => "NOT_FOUND"
  | unsupportedExpression => "UNSUPPORTED_EXPRESSION"
  | unmatched => "UNMATCHED"
  | alreadyDeclared => "ALREADY_DECLARED"

def ofName? (t : Text) : Option Kind := all.find? (·.name == t)

-- The wording of a message: the text before the first detail, then the text after each detail.
def wording : Kind → Text × List Text
  | invalidToken => ("Invalid token '", ["'"])
  | expectedToken => ("Expected ", [" got ", ""])
  | notFound => ("Could not find '", ["'"])
  | unsupportedExpression => ("Unsupported expression type '", ["'"])
  | unmatched => ("Unmatched '", ["'"])
  | alreadyDeclared => ("'", ["' is already declared"])

def arity (k : Kind) : Nat := k.wording.2.length

end Kind

def fill : List Text → List Text → Text
  | text :: texts, detail :: details => detail ++ text ++ fill texts details
  | _, _ => []

end Diagnostic

-- Details beyond the ones that the message tells are allowed and not shown.
structure Diagnostic where
  kind : Diagnostic.Kind
  span : Span
  details : List Text
  enough : kind.arity ≤ details.length
deriving DecidableEq

namespace Diagnostic

def message (d : Diagnostic) : Text :=
  d.kind.wording.1 ++ fill d.kind.wording.2 d.details

structure Source where
  code : Text
  path : Text

def sourceLine? (code : Text) (line : Int) : Option Text :=
  if line < 0 then none else code.sourceLines[line.toNat]?

def spaces (n : Nat) : Text := List.replicate n (.char ' ')

def marks (n : Nat) : Text := List.replicate n (.char '^')

-- The line with the marks under the span. The marks stand under the text of the line, which starts
-- after its number, a bar and three spaces.
def excerpt (d : Diagnostic) (number : Text) (line : Text) : List Text :=
  [" " ++ number ++ " | " ++ line.dropReturns,
   spaces number.length ++ "    " ++ spaces d.span.column.toNat ++
     marks d.span.length.toNat]

def render (d : Diagnostic) (source : Source) : Text :=
  let number := Text.ofInt (d.span.line + 1)
  let place := spaces number.length ++ "--> " ++ source.path ++ ":" ++ number ++ ":" ++
    Text.ofInt (d.span.column + 1)
  Text.join "\n" (d.message :: place ::
    match sourceLine? source.code d.span.line with
    | some line => d.excerpt number line
    | none => [])

inductive Unshowable where
  | longNumber
  -- A row of blanks or marks has a length that is no index.
  | noIndex
  | noMemory
deriving DecidableEq, Repr

def Unshowable.message : Unshowable → Text
  | longNumber =>
    "Exceeds the limit (" ++ toString Number.digitLimit ++ " digits) for integer string " ++
      "conversion; use sys.set_int_max_str_digits() to increase the limit"
  | noIndex => "cannot fit 'int' into an index-sized integer"
  | noMemory => ""

def rowLimit : Int := 1000000000

def checkNumber (n : Int) : Except Unshowable Unit :=
  if Number.Short n then .ok () else .error .longNumber

-- The length of a row. A negative length stands for an empty row, as long as it is an index.
def checkRow (n : Int) : Except Unshowable Unit :=
  if n < -9223372036854775808 ∨ 9223372036854775807 < n then .error .noIndex
  else if rowLimit < n then .error .noMemory
  else .ok ()

def render? (d : Diagnostic) (source : Source) : Except Unshowable Text := do
  checkNumber (d.span.line + 1)
  checkNumber (d.span.column + 1)
  if (sourceLine? source.code d.span.line).isSome then
    checkRow d.span.column
    checkRow d.span.length
  return d.render source

end Diagnostic

end SlotCompiler
