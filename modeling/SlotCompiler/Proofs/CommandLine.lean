import Mathlib.Data.List.Nodup
import SlotCompiler.CommandLine

namespace SlotCompiler

open CodePoint (char)

namespace CommandLine

-- What belongs together on a command line. Two of the options have a long and a short spelling.
inductive Group where
  | input (path : Text)
  | output (long : Bool) (path : Text)
  | asmOnly
  | assembler (tool : Text)
  | linker (tool : Text)
  | verbose (long : Bool)
deriving DecidableEq, Repr

namespace Group

def words : Group → List Text
  | input path => [path]
  | output long path => [if long then "--output" else "-o", path]
  | asmOnly => ["--asm-only"]
  | assembler tool => ["--assembler", tool]
  | linker tool => ["--linker", tool]
  | verbose long => [if long then "--verbose" else "-v"]

def flag? : Group → Option Flag
  | input _ => none
  | output _ _ => some .output
  | asmOnly => some .asmOnly
  | assembler _ => some .assembler
  | linker _ => some .linker
  | verbose _ => some .verbose

def value? : Group → Option Text
  | input path => some path
  | output _ path => some path
  | assembler tool => some tool
  | linker tool => some tool
  | asmOnly | verbose _ => none

def arguments : Group → List Argument
  | input path => [.value path]
  | output long path => [.option .output (!long) none, .value path]
  | asmOnly => [.option .asmOnly false none]
  | assembler tool => [.option .assembler false none, .value tool]
  | linker tool => [.option .linker false none, .value tool]
  | verbose long => [.option .verbose (!long) none]

-- A second input is left over.
def apply (s : Settings) : Group → Settings
  | input path => if s.input.isNone then { s with input := some path } else s.leave path
  | output _ path => { s with output := some path }
  | asmOnly => { s with asmOnly := true }
  | assembler tool => { s with assembler := some tool }
  | linker tool => { s with linker := some tool }
  | verbose _ => { s with verbose := true }

end Group

structure Invocation where
  input : Text
  output : Option Text := none
  assembler : Option Text := none
  linker : Option Text := none
  asmOnly : Bool := false
  verbose : Bool := false

namespace Invocation

def values (i : Invocation) : List Text :=
  i.input :: (i.output.toList ++ i.assembler.toList ++ i.linker.toList)

def groups (i : Invocation) (longOutput longVerbose : Bool) : List Group :=
  .input i.input :: (i.output.toList.map (.output longOutput) ++
    (if i.asmOnly then [.asmOnly] else []) ++ i.assembler.toList.map .assembler ++
    i.linker.toList.map .linker ++ if i.verbose then [.verbose longVerbose] else [])

def WrittenAs (i : Invocation) (argv : List Text) : Prop :=
  ∃ (longOutput longVerbose : Bool) (groups : List Group),
    groups.Perm (i.groups longOutput longVerbose) ∧ argv = groups.flatMap Group.words

def settings (i : Invocation) : Settings :=
  { input := some i.input
    output := i.output
    assembler := some (i.assembler.getD "nasm")
    linker := some (i.linker.getD "ld")
    asmOnly := i.asmOnly
    verbose := i.verbose }

end Invocation

namespace Argument

theorem classify_of_head? {t : Text} (h : t.head? ≠ some (char '-')) :
    classify t = .ok (value t) := by
  unfold classify
  split
  next => exact absurd rfl h
  next => rfl

theorem classifyAll_cons {t : Text} {argument : Argument} (hne : t ≠ "--")
    (h : classify t = .ok argument) (rest : List Text) :
    classifyAll (t :: rest) = (classifyAll rest).map (argument :: ·) := by
  rw [classifyAll, if_neg hne, h]
  rfl

theorem classifyAll_value {t : Text} (h : t.head? ≠ some (char '-')) (rest : List Text) :
    classifyAll (t :: rest) = (classifyAll rest).map (value t :: ·) := by
  refine classifyAll_cons ?_ (classify_of_head? h) rest
  rintro rfl
  exact h rfl

theorem classifyAll_pair {t v : Text} {argument : Argument} (hne : t ≠ "--")
    (h : classify t = .ok argument) (hv : v.head? ≠ some (char '-')) (rest : List Text) :
    classifyAll (t :: v :: rest) = (classifyAll rest).map ([argument, value v] ++ ·) := by
  rw [classifyAll_cons hne h, classifyAll_value hv]
  cases classifyAll rest <;> rfl

theorem classifyAll_words {g : Group} (h : ∀ t ∈ g.value?, t.head? ≠ some (char '-'))
    (rest : List Text) :
    classifyAll (g.words ++ rest) = (classifyAll rest).map (g.arguments ++ ·) := by
  cases g with
  | input path => exact classifyAll_value (h path rfl) rest
  | output long path =>
      cases long <;> exact classifyAll_pair (by decide) (by decide) (h path rfl) rest
  | asmOnly => exact classifyAll_cons (by decide) (by decide) rest
  | assembler tool => exact classifyAll_pair (by decide) (by decide) (h tool rfl) rest
  | linker tool => exact classifyAll_pair (by decide) (by decide) (h tool rfl) rest
  | verbose long => cases long <;> exact classifyAll_cons (by decide) (by decide) rest

theorem classifyAll_groups {groups : List Group}
    (h : ∀ g ∈ groups, ∀ t ∈ g.value?, t.head? ≠ some (char '-')) :
    classifyAll (groups.flatMap Group.words) = .ok (groups.flatMap Group.arguments) := by
  induction groups with
  | nil => rfl
  | cons g rest ih =>
      obtain ⟨hg, hrest⟩ := List.forall_mem_cons.mp h
      rw [List.flatMap_cons, classifyAll_words hg, ih hrest]
      rfl

end Argument

namespace Settings

theorem readFrom_arguments (g : Group) (fresh : Bool) (s : Settings) (rest : List Argument) :
    ∃ fresh', readFrom none fresh s (g.arguments ++ rest) =
      readFrom none fresh' (g.apply s) rest := by
  cases g with
  | input path =>
      cases hinput : s.input.isNone with
      | true => exact ⟨true, by simp [Group.arguments, Group.apply, readFrom, hinput]⟩
      | false => exact ⟨false, by simp [Group.arguments, Group.apply, readFrom, hinput]⟩
  | _ => exact ⟨false, rfl⟩

theorem readFrom_groups (groups : List Group) (fresh : Bool) (s : Settings) :
    readFrom none fresh s (groups.flatMap Group.arguments) = .ok (groups.foldl Group.apply s) := by
  induction groups generalizing fresh s with
  | nil => rfl
  | cons g rest ih =>
      obtain ⟨fresh', hg⟩ := readFrom_arguments g fresh s (rest.flatMap Group.arguments)
      rw [List.flatMap_cons, hg, ih, List.foldl_cons]

end Settings

-- Groups with different flags settle different things.
theorem Group.apply_comm {g g' : Group} (h : g.flag? ≠ g'.flag?) (s : Settings) :
    g'.apply (g.apply s) = g.apply (g'.apply s) := by
  cases g <;> cases g' <;> grind [flag?, apply, Settings.leave]

namespace Invocation

theorem nodup_flags (i : Invocation) (longOutput longVerbose : Bool) :
    ((i.groups longOutput longVerbose).map Group.flag?).Nodup := by
  obtain ⟨input, output, assembler, linker, asmOnly, verbose⟩ := i
  cases output <;> cases assembler <;> cases linker <;> cases asmOnly <;> cases verbose <;>
    simp [groups, Group.flag?]

theorem foldl_groups (i : Invocation) (longOutput longVerbose : Bool) :
    (i.groups longOutput longVerbose).foldl Group.apply {} = i.settings := by
  obtain ⟨input, output, assembler, linker, asmOnly, verbose⟩ := i
  cases output <;> cases assembler <;> cases linker <;> cases asmOnly <;> cases verbose <;> rfl

theorem foldl_perm {i : Invocation} {longOutput longVerbose : Bool} {groups : List Group}
    (h : groups.Perm (i.groups longOutput longVerbose)) :
    groups.foldl Group.apply {} = i.settings := by
  rw [← i.foldl_groups longOutput longVerbose]
  refine (h.symm.foldl_eq' ?_ _).symm
  intro g hg g' hg' s
  by_cases hflag : g.flag? = g'.flag?
  · rw [List.inj_on_of_nodup_map (i.nodup_flags longOutput longVerbose) hg hg' hflag]
  · exact Group.apply_comm hflag s

theorem mem_values {i : Invocation} {longOutput longVerbose : Bool} {g : Group} {t : Text}
    (hg : g ∈ i.groups longOutput longVerbose) (ht : t ∈ g.value?) : t ∈ i.values := by
  cases g <;> simp_all [groups, values, Group.value?]

theorem WrittenAs.ofArguments_eq {i : Invocation} {argv : List Text} (h : i.WrittenAs argv)
    (hvalues : ∀ t ∈ i.values, t.head? ≠ some (char '-')) :
    Settings.ofArguments argv = .ok (i.input, i.settings) := by
  obtain ⟨longOutput, longVerbose, groups, hperm, rfl⟩ := h
  have hclassify : Argument.classifyAll (groups.flatMap Group.words) =
      .ok (groups.flatMap Group.arguments) := by
    apply Argument.classifyAll_groups
    intro g hg t ht
    exact hvalues t (mem_values (hperm.mem_iff.mp hg) ht)
  have hread := Settings.readFrom_groups groups false {}
  rw [foldl_perm hperm] at hread
  rw [Settings.ofArguments, hclassify]
  simp only [Except.mapError, bind, Except.bind, hread]
  rfl

theorem options_settings {i : Invocation} (h : i.output ≠ some []) :
    i.settings.options = .ofTexts i.output i.assembler i.linker i.asmOnly := by
  obtain ⟨input, output, assembler, linker, asmOnly, verbose⟩ := i
  cases output with
  | none => rfl
  | some t =>
      cases t with
      | nil => exact absurd rfl h
      | cons c t => rfl

end Invocation

end CommandLine

open CommandLine in
-- A run from the command line ends like the build that is asked for on it, runs the same commands
-- and leaves the same files, in whatever order the groups are written and whether or not debug
-- messages are shown.
theorem commandLine_builds (who : Identity) (files : FileTree) (tools : Toolchain) {i : Invocation}
    (hvalues : ∀ t ∈ i.values, t.head? ≠ some (char '-')) (houtput : i.output ≠ some [])
    {argv : List Text} (h : i.WrittenAs argv) :
    let run := commandLine who files tools argv
    let direct := build files tools (.ofText i.input)
      (.ofTexts i.output i.assembler i.linker i.asmOnly)
    run.exit = direct.1 ∧ run.commands = direct.2.commands ∧ run.files = direct.2.files := by
  rw [commandLine, h.ofArguments_eq hvalues, ← Invocation.options_settings houtput]
  exact ⟨rfl, rfl, rfl⟩

open CommandLine in
-- The input stands between the options, and the linker fails.
theorem commandLine_builds_failing_linker :
    let files := (FileTree.empty ["w"]).putFile (.ofText "a.slm") (Text.Utf8.encode "exit(7);")
    let tools : Tools := [("gold", .finished 1)]
    let i : Invocation :=
      { input := "a.slm", output := some "./b", linker := some "gold", verbose := true }
    let run := commandLine {} files tools
      ["--linker", "gold", "-v", "a.slm", "--output", "./b"]
    (∀ t ∈ i.values, t.head? ≠ some (char '-')) ∧ i.output ≠ some [] ∧
      i.WrittenAs ["--linker", "gold", "-v", "a.slm", "--output", "./b"] ∧
      run.exit = .ok 1 ∧
      run.commands =
        [⟨some "nasm", ["-felf64", "b.asm", "-o", "b.o"]⟩, ⟨some "gold", ["b.o", "-o", "b"]⟩] ∧
      run.files.read (.ofText "b.asm") = .ok (Text.Utf8.encode
        "global _start\n_start:\npush 7\nmov rax, 60\npop rdi\nsyscall\n") := by
  intro files tools i run
  have hvalues : ∀ t ∈ i.values, t.head? ≠ some (char '-') := by decide
  have houtput : i.output ≠ some [] := by decide
  have hwritten : i.WrittenAs ["--linker", "gold", "-v", "a.slm", "--output", "./b"] :=
    ⟨true, false, [.linker "gold", .verbose false, .input "a.slm", .output true "./b"],
      by decide, rfl⟩
  obtain ⟨hexit, hcommands, hfiles⟩ := commandLine_builds {} files tools hvalues houtput hwritten
  refine ⟨hvalues, houtput, hwritten, hexit.trans ?_, hcommands.trans ?_, ?_⟩
  · decide +kernel
  · decide +kernel
  · rw [hfiles]
    decide +kernel

end SlotCompiler
