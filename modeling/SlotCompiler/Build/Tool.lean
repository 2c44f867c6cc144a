import SlotCompiler.Build.FileTree

namespace SlotCompiler

namespace Tool

-- A negative status is the number of the signal that ended the tool.
inductive Outcome where
  | finished (status : Int)
  | missing
  | denied
  -- The name has a null character, so that nothing can be run.
  | nullCharacter
deriving DecidableEq, Repr

end Tool

structure Toolchain where
  outcome : (tool : Text) → (arguments : List Text) → Tool.Outcome

-- Outcomes by the name of the tool; a tool that is not listed succeeds.
abbrev Tools := List (Text × Tool.Outcome)

instance : Coe Tools Toolchain :=
  ⟨fun tools => ⟨fun tool _ => (tools.lookup tool).getD (.finished 0)⟩⟩

-- A tool and its arguments. Settings may take the name of a tool away; then it cannot be run.
structure Command where
  tool : Option Text
  arguments : List Text
deriving DecidableEq, Repr

namespace Command

-- A name that was taken away is shown as an empty list.
def toolText (c : Command) : Text := c.tool.getD "[]"

def text (c : Command) : Text := Text.join " " (c.toolText :: c.arguments)

end Command

namespace Tool

def signalNames : List (Nat × String) :=
  [(1, "SIGHUP"), (2, "SIGINT"), (3, "SIGQUIT"), (4, "SIGILL"), (5, "SIGTRAP"), (6, "SIGABRT"),
   (7, "SIGBUS"), (8, "SIGFPE"), (9, "SIGKILL"), (10, "SIGUSR1"), (11, "SIGSEGV"), (12, "SIGUSR2"),
   (13, "SIGPIPE"), (14, "SIGALRM"), (15, "SIGTERM"), (16, "SIGSTKFLT"), (17, "SIGCHLD"),
   (18, "SIGCONT"), (19, "SIGSTOP"), (20, "SIGTSTP"), (21, "SIGTTIN"), (22, "SIGTTOU"),
   (23, "SIGURG"), (24, "SIGXCPU"), (25, "SIGXFSZ"), (26, "SIGVTALRM"), (27, "SIGPROF"),
   (28, "SIGWINCH"), (29, "SIGIO"), (30, "SIGPWR"), (31, "SIGSYS"), (34, "SIGRTMIN"),
   (64, "SIGRTMAX")]

def signalText (n : Nat) : Text :=
  match signalNames.lookup n with
  | some name => "<Signals." ++ name ++ ": " ++ toString n ++ ">"
  | none => "unknown signal " ++ toString n

def failure? (tools : Toolchain) (tool : Text) (arguments : List Text) :
    Except AccessFault (Option Text) :=
  match tools.outcome tool arguments with
  | .nullCharacter => .error .nullCharacter
  | .missing => .ok (some (Refusal.missing.message tool))
  | .denied => .ok (some (Refusal.denied.message tool))
  | .finished status =>
    let told := "Command '" ++ Text.quotedList (tool :: arguments) ++ "' "
    if status == 0 then .ok none
    else if status < 0 then
      .ok (some (told ++ "died with " ++ signalText status.natAbs ++ "."))
    else .ok (some (told ++ "returned non-zero exit status " ++ toString status ++ "."))

end Tool

end SlotCompiler
