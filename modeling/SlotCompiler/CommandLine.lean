import SlotCompiler.Build
import SlotCompiler.CommandLine.Settings

namespace SlotCompiler

namespace CommandLine

structure Identity where
  program : Text := "slm"
  logger : Text := "slm"

def usage (program : Text) : Text :=
  let start : Text := "usage: " ++ program ++ " "
  let indent := Diagnostic.spaces start.length
  start ++ "[-h] [-o OUTPUT] [--asm-only] [--assembler ASSEMBLER]\n" ++
    indent ++ "[--linker LINKER] [-v]\n" ++
    indent ++ "input\n"

def help (program : Text) : Text :=
  usage program ++ "\n" ++ Text.join "\n"
    ["slm compiler (x86-64 Linux)",
     "",
     "positional arguments:",
     "  input                 Source file to compile",
     "",
     "options:",
     "  -h, --help            show this help message and exit",
     "  -o OUTPUT, --output OUTPUT",
     "                        Executable path (default: input without suffix)",
     "  --asm-only            Only write the .asm file",
     "  --assembler ASSEMBLER",
     "                        Assembler to run (default: nasm)",
     "  --linker LINKER       Linker to run (default: ld)",
     "  -v, --verbose         Log every stage",
     ""]

def usageError (program : Text) (fault : UsageFault) : Text :=
  usage program ++ program ++ ": error: " ++ fault.message ++ "\n"

-- An output that is given counts as given, even when it is empty.
def Settings.options (s : Settings) : Build.Options :=
  { output := s.output.map Path.ofText
    assembler := s.assembler
    linker := s.linker
    asmOnly := s.asmOnly }

-- Debug messages are shown on request only.
def eventText (logger : Text) (verbose : Bool) : Build.Event → Text
  | .printed text => text ++ "\n"
  | .logged l =>
    if l.level == .debug && !verbose then []
    else l.level.name ++ " " ++ logger ++ ": " ++ l.message ++ "\n"

structure Result where
  exit : Except Build.Fault Nat
  stdout : Text := []
  stderr : Text := []
  commands : List Command := []
  files : FileTree

end CommandLine

open CommandLine in
def commandLine (who : CommandLine.Identity) (files : FileTree) (tools : Toolchain)
    (argv : List Text) : CommandLine.Result :=
  match Settings.ofArguments argv with
  | .error .help => { exit := .ok 0, stdout := help who.program, files }
  | .error (.usage fault) => { exit := .ok 2, stderr := usageError who.program fault, files }
  | .ok (input, s) =>
    let (exit, state) := build files tools (.ofText input) s.options
    { exit
      stderr := state.events.flatMap (eventText who.logger s.verbose)
      commands := state.commands
      files := state.files }

end SlotCompiler
