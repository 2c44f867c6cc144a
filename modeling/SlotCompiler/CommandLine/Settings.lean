import SlotCompiler.CommandLine.Argument

namespace SlotCompiler.CommandLine

structure Settings where
  input : Option Text := none
  output : Option Text := none
  assembler : Option Text := some "nasm"
  linker : Option Text := some "ld"
  asmOnly : Bool := false
  verbose : Bool := false
  leftOver : List Text := []
deriving DecidableEq, Repr

inductive Stop where
  | help
  | usage (fault : UsageFault)
deriving DecidableEq, Repr

-- Options joined in one argument: those without a value, and what the last one needs.
inductive Joined where
  | complete (flags : List Flag)
  | valued (flags : List Flag) (flag : Flag) (value : Text)
  | awaiting (flags : List Flag) (flag : Flag)
  | refused (flag : Flag) (value : Text)
deriving DecidableEq, Repr

def Joined.ofFlag (flags : List Flag) (flag : Flag) : Joined :=
  if flag.takesValue then .awaiting flags flag else .complete (flags ++ [flag])

-- What is joined to a one-letter option is its value, or further one-letter options.
def Joined.short (flags : List Flag) (flag : Flag) : Text → Joined
  | [] => if flag.takesValue then .valued flags flag [] else .refused flag []
  | c :: rest =>
    if flag.takesValue then .valued flags flag (c :: rest)
    else
      match Flag.ofSpelling? ([.char '-', c]) with
      | none => .refused flag (c :: rest)
      | some next =>
        if rest.isEmpty then .ofFlag (flags ++ [flag]) next
        else .short (flags ++ [flag]) next rest

def Joined.ofOption (flag : Flag) (short : Bool) (joined : Option Text) : Joined :=
  match joined with
  | none => .ofFlag [] flag
  | some value =>
    if short then .short [] flag value
    else if flag.takesValue then .valued [] flag value else .refused flag value

namespace Settings

def setFlag (s : Settings) : Flag → Except Stop Settings
  | .help => .error .help
  | .asmOnly => .ok { s with asmOnly := true }
  | .verbose => .ok { s with verbose := true }
  | _ => .ok s

def setFlags (s : Settings) (flags : List Flag) : Except Stop Settings :=
  flags.foldlM setFlag s

def setValue (s : Settings) (flag : Flag) (value : Option Text) : Settings :=
  match flag with
  | .output => { s with output := value }
  | .assembler => { s with assembler := value }
  | .linker => { s with linker := value }
  | _ => s

-- A joined value `--` is dropped, which leaves the option without any.
def setJoined (s : Settings) (flag : Flag) (value : Text) : Settings :=
  s.setValue flag (if value = "--" then none else some value)

def leave (s : Settings) (argument : Text) : Settings :=
  { s with leftOver := s.leftOver ++ [argument] }

-- `pending` are options that take effect once the last of them has got its value from the next
-- argument. A separator goes unnoticed before the input and directly after it (`fresh`).
def readFrom (pending : Option (List Flag × Flag)) (fresh : Bool) (s : Settings) :
    List Argument → Except Stop Settings
  | [] =>
    match pending with
    | some (_, flag) => .error (.usage (.missingValue flag))
    | none => .ok s
  | argument :: rest =>
    match pending, argument with
    | some (flags, flag), .value v => do
      readFrom none false ((← s.setFlags flags).setValue flag (some v)) rest
    | some (_, flag), _ => .error (.usage (.missingValue flag))
    | none, .option flag short joined =>
      match Joined.ofOption flag short joined with
      | .complete flags => do readFrom none false (← s.setFlags flags) rest
      | .valued flags flag value => do
        readFrom none false ((← s.setFlags flags).setJoined flag value) rest
      | .awaiting flags flag => readFrom (some (flags, flag)) false s rest
      | .refused flag value => .error (.usage (.unusedValue flag value))
    | none, .unknown a => readFrom none false (s.leave a) rest
    | none, .value v =>
      if s.input.isNone then readFrom none true { s with input := some v } rest
      else readFrom none false (s.leave v) rest
    | none, .separator =>
      if s.input.isNone || fresh then readFrom none false s rest
      else readFrom none false (s.leave "--") rest

def ofArguments (argv : List Text) : Except Stop (Text × Settings) := do
  let arguments ← (Argument.classifyAll argv).mapError .usage
  let s ← readFrom none false {} arguments
  match s.input with
  | none => .error (.usage .missingInput)
  | some input =>
    if s.leftOver.isEmpty then .ok (input, s) else .error (.usage (.unrecognized s.leftOver))

end Settings

end SlotCompiler.CommandLine
