import SlotCompiler.Build.Tool
import SlotCompiler.Compile
import SlotCompiler.Text.Utf8

namespace SlotCompiler

namespace Build

inductive Event where
  | printed (text : Text)
  | logged (log : Log)
deriving DecidableEq, Repr

inductive Fault where
  | access (fault : AccessFault)
  | encoding (fault : Text.Utf8.Fault)
  | compile (fault : SlotCompiler.Fault)
  | unnamed (u : Path.Unnamed)
  -- A command has no tool.
  | noTool
deriving DecidableEq

def encodingMessage (f : Text.Utf8.Fault) : Text :=
  let place := match f.bytes with
    | [b] => "byte 0x" ++ Text.hexDigits 2 b.toNat ++ " in position " ++ toString f.start
    | bytes => "bytes in position " ++ toString f.start ++ "-" ++
        toString (f.start + bytes.length - 1)
  "'utf-8' codec can't decode " ++ place ++ ": " ++ f.reason.text

def Fault.message : Fault → Text
  | access fault => fault.message
  | encoding fault => encodingMessage fault
  | compile fault => fault.message
  | unnamed u => u.message
  | noTool => "unhashable type: 'list'"

structure Options where
  output : Option Path := none
  assembler : Option Text := some "nasm"
  linker : Option Text := some "ld"
  asmOnly : Bool := false
deriving DecidableEq, Repr

-- An output that is empty counts as none.
def Options.ofTexts (output assembler linker : Option Text) (asmOnly : Bool) : Options :=
  { output := (output.filter fun t => !t.isEmpty).map Path.ofText
    assembler := some (assembler.getD "nasm")
    linker := some (linker.getD "ld")
    asmOnly }

structure State where
  files : FileTree
  events : List Event := []
  commands : List Command := []
deriving DecidableEq

end Build

-- What was done before a build stops stays done.
abbrev Build := Step Build.Fault Build.State

namespace Build

def print (text : Text) : Build Unit :=
  modify fun s => { s with events := s.events ++ [.printed text] }

def log (l : Log) : Build Unit :=
  modify fun s => { s with events := s.events ++ [.logged l] }

def info (message : Text) : Build Unit := log ⟨.info, message⟩

structure Targets where
  assembly : Path
  object : Path
  executable : Path
deriving DecidableEq, Repr

-- The executable is named like the source without its suffix; a source without a suffix gets an
-- executable with one.
def targets (path : Path) (output : Option Path) : Except Path.Unnamed Targets := do
  let base ← match output with
    | some p => pure p
    | none => path.withSuffix []
  let executable ← if base = path then path.withSuffix ".out" else pure base
  let assembly ← base.withName (base.name ++ ".asm")
  let object ← base.withName (base.name ++ ".o")
  return ⟨assembly, object, executable⟩

def assemble (o : Options) (t : Targets) : Command :=
  ⟨o.assembler, ["-felf64", t.assembly.text, "-o", t.object.text]⟩

def link (o : Options) (t : Targets) : Command :=
  ⟨o.linker, [t.object.text, "-o", t.executable.text]⟩

-- Runs commands up to the first that fails, whose message it gives.
def runAll (tools : Toolchain) : List Command → Build (Option Text)
  | [] => return none
  | command :: rest => do
    info ("[ " ++ command.text ++ " ]")
    modify fun s => { s with commands := s.commands ++ [command] }
    match command.tool with
    | none => throw .noTool
    | some tool =>
      match Tool.failure? tools tool command.arguments with
      | .error fault => throw (.access fault)
      | .ok (some message) => return some message
      | .ok none => runAll tools rest

def runTools (tools : Toolchain) (o : Options) (t : Targets) : Build Nat := do
  info ("wrote " ++ t.assembly.text)
  if o.asmOnly then return 0
  match ← runAll tools [assemble o t, link o t] with
  | some message =>
    log ⟨.error, "build failed: " ++ message⟩
    return 1
  | none =>
    info ("wrote " ++ t.executable.text)
    return 0

-- Writes the assembly and runs the tools. A source that would be overwritten is left alone.
def finish (tools : Toolchain) (path : Path) (o : Options) (assembly : Text) : Build Nat := do
  match targets path o.output with
  | .error u => throw (.unnamed u)
  | .ok t =>
    if path = t.assembly ∨ path = t.object then
      print ("error: " ++ path.text ++
        " would be overwritten by the build, rename it or pass -o")
      return 1
    match (← get).files.write t.assembly (Text.Utf8.encode assembly) with
    | .error fault => throw (.access fault)
    | .ok files =>
      modify fun s => { s with files }
      runTools tools o t

-- The text of a file; none if the system refuses to open it, which is then told.
def readSource (path : Path) : Build (Option Text) := do
  match (← get).files.read path with
  | .error (.refused reason p) =>
    print ("error: cannot read " ++ path.text ++ ": " ++ (AccessFault.refused reason p).message)
    return none
  | .error fault => throw (.access fault)
  | .ok bytes =>
    match Text.Utf8.decode bytes with
    | .error fault => throw (.encoding fault)
    | .ok code => return some code.lineFeeds

def makeFrom (tools : Toolchain) (path : Path) (o : Options) (code : Text) : Build Nat := do
  let (result, logs) := runCompile code
  logs.forM log
  match result with
  | .ok assembly => finish tools path o assembly
  | .error (.diagnostic d) =>
    print (d.render ⟨code, path.text⟩)
    return 1
  | .error fault => throw (.compile fault)

def make (tools : Toolchain) (path : Path) (o : Options) : Build Nat := do
  match ← readSource path with
  | none => return 1
  | some code => makeFrom tools path o code

end Build

def build (files : FileTree) (tools : Toolchain) (path : Path) (o : Build.Options) :
    Except Build.Fault Nat × Build.State :=
  (Build.make tools path o).runFrom { files }

end SlotCompiler
