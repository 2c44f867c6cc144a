import SlotCompiler.Text.Numeral
import SlotCompiler.Text.Quoted

namespace SlotCompiler.CommandLine

open CodePoint (char)

inductive Flag where
  | help
  | output
  | asmOnly
  | assembler
  | linker
  | verbose
deriving DecidableEq, Repr

namespace Flag

def all : List Flag := [help, output, asmOnly, assembler, linker, verbose]

def spellings : Flag → List Text
  | help => ["-h", "--help"]
  | output => ["-o", "--output"]
  | asmOnly => ["--asm-only"]
  | assembler => ["--assembler"]
  | linker => ["--linker"]
  | verbose => ["-v", "--verbose"]

def takesValue : Flag → Bool
  | output | assembler | linker => true
  | help | asmOnly | verbose => false

def name (f : Flag) : Text := Text.join "/" f.spellings

def table : List (Text × Flag) := all.flatMap fun f => f.spellings.map (·, f)

def ofSpelling? (t : Text) : Option Flag := table.lookup t

end Flag

inductive UsageFault where
  | ambiguous (argument : Text) (candidates : List Text)
  | missingValue (flag : Flag)
  | unusedValue (flag : Flag) (value : Text)
  | missingInput
  | unrecognized (arguments : List Text)
deriving DecidableEq, Repr

def UsageFault.message : UsageFault → Text
  | ambiguous argument candidates =>
    "ambiguous option: " ++ argument ++ " could match " ++ Text.join ", " candidates
  | missingValue flag => "argument " ++ flag.name ++ ": expected one argument"
  | unusedValue flag value =>
    "argument " ++ flag.name ++ ": ignored explicit argument " ++ value.quoted
  | missingInput => "the following arguments are required: input"
  | unrecognized arguments => "unrecognized arguments: " ++ Text.join " " arguments

inductive Argument where
  | value (t : Text)
  -- The first `--`.
  | separator
  -- An option: whether it was spelled with one dash, and what is joined to it.
  | option (flag : Flag) (short : Bool) (joined : Option Text)
  | unknown (t : Text)
deriving DecidableEq, Repr

namespace Argument

def splitEquals (t : Text) : Text × Option Text :=
  let left := t.takeWhile (· != char '=')
  (left, if left.length < t.length then some (t.drop (left.length + 1)) else none)

def digitsOnly (t : Text) : Bool := !t.isEmpty && t.all Text.isDecimalDigit

-- A minus sign and a decimal number; one line feed may follow.
def isNegativeNumber (t : Text) : Bool :=
  match t with
  | char '-' :: number =>
    let number := if number.getLast? == some (char '\n') then number.dropLast else number
    let whole := number.takeWhile Text.isDecimalDigit
    digitsOnly number ||
      match number.drop whole.length with
      | char '.' :: fraction => digitsOnly fraction
      | _ => false
  | _ => false

-- The options that a dashed argument may mean, with their spellings. After two dashes the part up
-- to an equals sign abbreviates a spelling; after one dash the first letter is the option and the
-- rest is joined to it.
def candidates (t : Text) : List (Text × Argument) :=
  match t with
  | char '-' :: char '-' :: _ =>
    let (name, joined) := splitEquals t
    Flag.table.filterMap fun (spelling, flag) =>
      if name.isPrefixOf spelling then some (spelling, option flag false joined) else none
  | char '-' :: c :: rest =>
    Flag.table.filterMap fun (spelling, flag) =>
      if spelling == [char '-', c] then some (spelling, option flag true (some rest)) else none
  | _ => []

def isShort (spelling : Text) : Bool := spelling.drop 1 |>.head? |>.any (· != char '-')

def spelledOut? (t : Text) : Option Argument :=
  match Flag.ofSpelling? t with
  | some flag => some (option flag (isShort t) none)
  | none =>
    match splitEquals t with
    | (name, some joined) =>
      (Flag.ofSpelling? name).map fun flag =>
        option flag (isShort name) (some joined)
    | (_, none) => none

def classify (t : Text) : Except UsageFault Argument :=
  match t with
  | char '-' :: _ :: _ =>
    match spelledOut? t with
    | some argument => .ok argument
    | none =>
      match candidates t with
      | [(_, argument)] => .ok argument
      | [] =>
        if isNegativeNumber t || t.contains (char ' ') then .ok (value t)
        else .ok (unknown t)
      | several => .error (.ambiguous t (several.map (·.1)))
  | _ => .ok (value t)

def classifyAll : List Text → Except UsageFault (List Argument)
  | [] => .ok []
  | t :: rest =>
    if t = "--" then .ok (separator :: rest.map value)
    else do
      let argument ← classify t
      return argument :: (← classifyAll rest)

end Argument

end SlotCompiler.CommandLine
