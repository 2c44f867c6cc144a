import Mathlib.Data.List.Basic
import SlotCompiler.Build
import SlotCompiler.Proofs.Build.FileTree
import SlotCompiler.Proofs.Text.Ends

namespace SlotCompiler

def Toolchain.succeeds (tools : Toolchain) (c : Command) : Bool :=
  c.tool.any fun tool => tools.outcome tool c.arguments == .finished 0

theorem Tool.failure?_eq_none_iff {tools : Toolchain} {tool : Text} {arguments : List Text} :
    failure? tools tool arguments = .ok none ↔ tools.succeeds ⟨some tool, arguments⟩ = true := by
  rw [failure?, Toolchain.succeeds, Option.any_some, beq_iff_eq]
  cases tools.outcome tool arguments with
  | missing => simp
  | denied => simp
  | nullCharacter => simp
  | finished status =>
      by_cases hzero : status = 0
      · simp [hzero]
      · simp only [beq_false_of_ne hzero, Bool.false_eq_true, if_false, Outcome.finished.injEq,
          hzero, iff_false]
        split <;> simp

namespace Build

-- What the files of a build are named after: the output, or else the source without its suffix.
def IsBase (path : Path) (output : Option Path) (base : Path) : Prop :=
  output = some base ∨
    output = none ∧ path.names ≠ [] ∧ base = path.sibling (Path.splitSuffix path.name).1

theorem targets_none {path : Path} (h : path.names ≠ []) :
    targets path none = targets path (some (path.sibling (Path.splitSuffix path.name).1)) := by
  have hstem := Path.withName_of_ne_nil h ((Path.splitSuffix path.name).1 ++ [])
  rw [List.append_nil] at hstem
  simp only [targets, Path.withSuffix, List.append_nil, hstem]
  rfl

theorem targets_some_cases {path base : Path} {t : Targets}
    (h : targets path (some base) = .ok t) :
    base.names ≠ [] ∧ t.assembly = base.sibling (base.name ++ ".asm") ∧
      t.object = base.sibling (base.name ++ ".o") ∧
      t.executable = if base = path then path.sibling ((Path.splitSuffix path.name).1 ++ ".out")
        else base := by
  simp only [targets, pure_bind] at h
  by_cases hnames : base.names = []
  · have hname := Path.withName_of_eq_nil hnames
    by_cases hpath : base = path
    · subst hpath
      rw [if_pos rfl, Path.withSuffix, hname] at h
      cases h
    · rw [if_neg hpath, hname] at h
      cases h
  · have hname := Path.withName_of_ne_nil hnames
    by_cases hpath : base = path
    · subst hpath
      rw [if_pos rfl, Path.withSuffix, hname, hname, hname] at h
      obtain rfl := Except.ok.inj h
      exact ⟨hnames, rfl, rfl, (if_pos rfl).symm⟩
    · rw [if_neg hpath, hname, hname] at h
      obtain rfl := Except.ok.inj h
      exact ⟨hnames, rfl, rfl, (if_neg hpath).symm⟩

theorem targets_cases {path : Path} {output : Option Path} {t : Targets}
    (h : targets path output = .ok t) :
    ∃ base, IsBase path output base ∧ base.names ≠ [] ∧
      t.assembly = base.sibling (base.name ++ ".asm") ∧
      t.object = base.sibling (base.name ++ ".o") ∧
      t.executable = if base = path then path.sibling ((Path.splitSuffix path.name).1 ++ ".out")
        else base := by
  cases output with
  | none =>
      by_cases hnames : path.names = []
      · simp only [targets, Path.withSuffix, Path.withName_of_eq_nil hnames] at h
        cases h
      · rw [targets_none hnames] at h
        exact ⟨_, .inr ⟨rfl, hnames, rfl⟩, targets_some_cases h⟩
  | some base => exact ⟨base, .inl rfl, targets_some_cases h⟩

-- Nothing has changed but what was shown.
structure Still (s s' : State) : Prop where
  files : s'.files = s.files
  commands : s'.commands = s.commands

@[simp] theorem runFrom_log (l : Log) (s : State) :
    Step.runFrom (log l) s = (.ok (), { s with events := s.events ++ [.logged l] }) := rfl

@[simp] theorem runFrom_info (message : Text) (s : State) :
    Step.runFrom (info message) s =
      (.ok (), { s with events := s.events ++ [.logged ⟨.info, message⟩] }) := rfl

theorem exists_runFrom_logs (logs : List Log) (s : State) :
    ∃ s', Step.runFrom (logs.forM log) s = (.ok (), s') ∧ Still s s' := by
  induction logs generalizing s with
  | nil => exact ⟨s, rfl, rfl, rfl⟩
  | cons l rest ih =>
      obtain ⟨s', hrun, hfiles, hcommands⟩ :=
        ih { s with events := s.events ++ [.logged l] }
      refine ⟨s', ?_, hfiles, hcommands⟩
      rw [List.forM, Step.runFrom_bind, runFrom_log]
      exact hrun

def started (tools : Toolchain) : List Command → List Command
  | [] => []
  | c :: rest => c :: if tools.succeeds c then started tools rest else []

theorem mem_of_mem_started {tools : Toolchain} {commands : List Command} {c : Command}
    (h : c ∈ started tools commands) : c ∈ commands := by
  induction commands with
  | nil => exact h
  | cons first rest ih =>
      rcases List.mem_cons.mp h with rfl | hlater
      · exact List.mem_cons_self
      · split at hlater
        · exact List.mem_cons_of_mem _ (ih hlater)
        · cases hlater

-- A command is noted before it is run; if it fails, nothing is run after it.
theorem runFrom_runAll_cons (tools : Toolchain) (c : Command) (rest : List Command) (s : State) :
    ∃ s', s'.files = s.files ∧ s'.commands = s.commands ++ [c] ∧
      if tools.succeeds c then
        Step.runFrom (runAll tools (c :: rest)) s = Step.runFrom (runAll tools rest) s'
      else ∃ result, Step.runFrom (runAll tools (c :: rest)) s = (result, s') ∧
        result ≠ .ok none := by
  refine ⟨{ s with
    events := s.events ++ [.logged ⟨.info, "[ " ++ c.text ++ " ]"⟩]
    commands := s.commands ++ [c] }, rfl, rfl, ?_⟩
  simp only [runAll, Step.runFrom_bind, runFrom_info, Step.runFrom_modify]
  obtain ⟨tool, arguments⟩ := c
  cases tool with
  | none => exact ⟨.error .noTool, rfl, by simp⟩
  | some tool =>
      have hends : Tool.failure? tools tool arguments = .ok none ↔ _ := Tool.failure?_eq_none_iff
      dsimp only
      generalize Tool.failure? tools tool arguments = failure at hends
      rcases failure with fault | _ | message
      · rw [if_neg (by simp [← hends])]
        exact ⟨.error (.access fault), rfl, by simp⟩
      · rw [if_pos (hends.mp rfl)]
      · rw [if_neg (by simp [← hends])]
        exact ⟨.ok (some message), rfl, by simp⟩

theorem exists_runFrom_runAll (tools : Toolchain) (commands : List Command) (s : State) :
    ∃ result s', Step.runFrom (runAll tools commands) s = (result, s') ∧ s'.files = s.files ∧
      s'.commands = s.commands ++ started tools commands ∧
      (result = .ok none ↔ ∀ c ∈ commands, tools.succeeds c = true) := by
  induction commands generalizing s with
  | nil => exact ⟨.ok none, s, rfl, rfl, by simp [started], by simp⟩
  | cons c rest ih =>
      obtain ⟨s₁, hfiles₁, hcommands₁, hstep⟩ := runFrom_runAll_cons tools c rest s
      by_cases hc : tools.succeeds c = true
      · rw [if_pos hc] at hstep
        obtain ⟨result, s', hrun, hfiles, hcommands, hresult⟩ := ih s₁
        refine ⟨result, s', hstep.trans hrun, hfiles.trans hfiles₁, ?_, ?_⟩
        · rw [hcommands, hcommands₁, started, if_pos hc, List.append_assoc, List.singleton_append]
        · rw [hresult, List.forall_mem_cons]
          exact ⟨fun h => ⟨hc, h⟩, And.right⟩
      · rw [if_neg hc] at hstep
        obtain ⟨result, hrun, hne⟩ := hstep
        refine ⟨result, s₁, hrun, hfiles₁, ?_, ?_⟩
        · rw [hcommands₁, started, if_neg hc]
        · exact iff_of_false hne fun h => hc (h c List.mem_cons_self)

def Compiles (files : FileTree) (path : Path) (assembly : Text) : Prop :=
  ∃ bytes code, files.read path = .ok bytes ∧ Text.Utf8.decode bytes = .ok code ∧
    (runCompile code.lineFeeds).1 = .ok assembly

-- However its lines are ended, the source is compiled as if they were ended by line feeds.
theorem compiles_iff_of_ended {files : FileTree} {path : Path} {bytes : List UInt8}
    {code assembly : Text} {e : Text.LineEnd} (hread : files.read path = .ok bytes)
    (hdecode : Text.Utf8.decode bytes = .ok (code.ended e)) (hcode : .char '\r' ∉ code) :
    Compiles files path assembly ↔ (runCompile code).1 = .ok assembly := by
  simp only [Compiles, hread, Except.ok.injEq, exists_and_left, exists_eq_left', hdecode,
    Text.lineFeeds_ended e hcode]

-- The assembly can be written beside the executable, which leaves this tree, and neither it nor the
-- object file is the source.
structure Places (files : FileTree) (path : Path) (output : Option Path) (assembly : Text)
    (t : Targets) (written : FileTree) : Prop where
  named : targets path output = .ok t
  assembly_ne : path ≠ t.assembly
  object_ne : path ≠ t.object
  write : files.write t.assembly (Text.Utf8.encode assembly) = .ok written

theorem exists_runFrom_runTools (tools : Toolchain) (o : Options) (t : Targets) (s : State) :
    ∃ result s', Step.runFrom (runTools tools o t) s = (result, s') ∧ s'.files = s.files ∧
      s'.commands = s.commands ++
        (if o.asmOnly then [] else started tools [assemble o t, link o t]) ∧
      (result = .ok 0 ↔ o.asmOnly = true ∨
        tools.succeeds (assemble o t) = true ∧ tools.succeeds (link o t) = true) := by
  simp only [runTools, Step.runFrom_bind, runFrom_info]
  by_cases honly : o.asmOnly = true
  · simp only [honly, if_true]
    exact ⟨.ok 0, _, rfl, rfl, by simp, by simp⟩
  · obtain ⟨ended, s', hrun, hfiles, hcommands, hended⟩ :=
      exists_runFrom_runAll tools [assemble o t, link o t]
        { s with events := s.events ++ [.logged ⟨.info, "wrote " ++ t.assembly.text⟩] }
    simp only [List.forall_mem_cons, List.not_mem_nil, false_imp_iff, implies_true, and_true]
      at hended
    simp only [honly, Bool.false_eq_true, if_false, false_or, ← hended, Step.runFrom_bind, hrun]
    rcases ended with fault | _ | message
    · exact ⟨.error fault, s', rfl, hfiles, hcommands, by simp⟩
    · exact ⟨.ok 0, _, rfl, hfiles, hcommands, by simp⟩
    · exact ⟨.ok 1, _, rfl, hfiles, hcommands, by simp⟩

theorem runFrom_finish {path : Path} {o : Options} {assembly : Text} {t : Targets}
    {written : FileTree} (tools : Toolchain) {s : State}
    (h : Places s.files path o.output assembly t written) :
    Step.runFrom (finish tools path o assembly) s =
      Step.runFrom (runTools tools o t) { s with files := written } := by
  have hcheck := not_or.mpr ⟨h.assembly_ne, h.object_ne⟩
  simp only [finish, h.named, if_neg hcheck, Step.runFrom_bind, Step.runFrom_get, h.write,
    Step.runFrom_modify]

theorem exists_runFrom_finish_of_not {path : Path} {o : Options} {assembly : Text}
    (tools : Toolchain) {s : State}
    (h : ¬∃ t written, Places s.files path o.output assembly t written) :
    ∃ result s', Step.runFrom (finish tools path o assembly) s = (result, s') ∧ Still s s' ∧
      result ≠ .ok 0 := by
  unfold finish
  cases htargets : targets path o.output with
  | error u => exact ⟨.error (.unnamed u), s, rfl, ⟨rfl, rfl⟩, by simp⟩
  | ok t =>
      dsimp only
      by_cases hcheck : path = t.assembly ∨ path = t.object
      · rw [if_pos hcheck]
        exact ⟨.ok 1, _, rfl, ⟨rfl, rfl⟩, by simp⟩
      · rw [if_neg hcheck]
        cases hwrite : s.files.write t.assembly (Text.Utf8.encode assembly) with
        | error fault =>
            refine ⟨.error (.access fault), s, ?_, ⟨rfl, rfl⟩, by simp⟩
            simp only [Step.runFrom_bind, Step.runFrom_get, hwrite]
            rfl
        | ok written =>
            exact absurd ⟨t, written, htargets, fun h => hcheck (.inl h), fun h => hcheck (.inr h),
              hwrite⟩ h

theorem runFrom_readSource {path : Path} {s : State} {bytes : List UInt8} {code : Text}
    (hread : s.files.read path = .ok bytes) (hdecode : Text.Utf8.decode bytes = .ok code) :
    Step.runFrom (readSource path) s = (.ok (some code.lineFeeds), s) := by
  simp only [readSource, Step.runFrom_bind, Step.runFrom_get, hread, hdecode, Step.runFrom_pure]

theorem runFrom_make {path : Path} {code : Text} {s : State} (tools : Toolchain) (o : Options)
    (h : Step.runFrom (readSource path) s = (.ok (some code), s)) :
    Step.runFrom (make tools path o) s = Step.runFrom (makeFrom tools path o code) s :=
  Step.runFrom_bind_ok _ h

theorem exists_runFrom_readSource_of_not {path : Path} {s : State}
    (h : ¬∃ bytes code, s.files.read path = .ok bytes ∧ Text.Utf8.decode bytes = .ok code) :
    ∃ result s', Step.runFrom (readSource path) s = (result, s') ∧ Still s s' ∧
      ∀ code, result ≠ .ok (some code) := by
  simp only [readSource, Step.runFrom_bind, Step.runFrom_get]
  cases hread : s.files.read path with
  | error fault =>
      cases fault with
      | refused reason p => exact ⟨.ok none, _, rfl, ⟨rfl, rfl⟩, by simp⟩
      | nullCharacter => exact ⟨.error (.access .nullCharacter), s, rfl, ⟨rfl, rfl⟩, by simp⟩
  | ok bytes =>
      dsimp only
      cases hdecode : Text.Utf8.decode bytes with
      | error fault => exact ⟨.error (.encoding fault), s, rfl, ⟨rfl, rfl⟩, by simp⟩
      | ok code => exact absurd ⟨bytes, code, hread, hdecode⟩ h

theorem exists_runFrom_make {path : Path} {s : State} {assembly : Text} (tools : Toolchain)
    (o : Options) (h : Compiles s.files path assembly) :
    ∃ s', Still s s' ∧
      Step.runFrom (make tools path o) s = Step.runFrom (finish tools path o assembly) s' := by
  obtain ⟨bytes, code, hread, hdecode, hcompile⟩ := h
  obtain ⟨s', hlogs, hstill⟩ := exists_runFrom_logs (runCompile code.lineFeeds).2 s
  refine ⟨s', hstill, ?_⟩
  rw [runFrom_make tools o (runFrom_readSource hread hdecode)]
  simp only [makeFrom, Step.runFrom_bind, hlogs, hcompile]

theorem exists_runFrom_make_of_not {path : Path} {s : State} (tools : Toolchain) (o : Options)
    (h : ¬∃ assembly, Compiles s.files path assembly) :
    ∃ result s', Step.runFrom (make tools path o) s = (result, s') ∧ Still s s' ∧
      result ≠ .ok 0 := by
  by_cases hsource : ∃ bytes code, s.files.read path = .ok bytes ∧
      Text.Utf8.decode bytes = .ok code
  · obtain ⟨bytes, code, hread, hdecode⟩ := hsource
    obtain ⟨s', hlogs, hstill⟩ := exists_runFrom_logs (runCompile code.lineFeeds).2 s
    rw [runFrom_make tools o (runFrom_readSource hread hdecode)]
    simp only [makeFrom, Step.runFrom_bind, hlogs]
    cases hcompile : (runCompile code.lineFeeds).1 with
    | ok assembly => exact absurd ⟨assembly, bytes, code, hread, hdecode, hcompile⟩ h
    | error fault =>
        cases fault with
        | diagnostic d => exact ⟨.ok 1, _, rfl, ⟨hstill.files, hstill.commands⟩, by simp⟩
        | _ => exact ⟨_, s', rfl, hstill, by simp⟩
  · obtain ⟨result, s', hrun, hstill, hnone⟩ := exists_runFrom_readSource_of_not hsource
    simp only [make, Step.runFrom_bind, hrun]
    rcases result with fault | _ | code
    · exact ⟨.error fault, s', rfl, hstill, by simp⟩
    · exact ⟨.ok 1, s', rfl, hstill, by simp⟩
    · exact absurd rfl (hnone code)

def Writes (files : FileTree) (path : Path) (o : Options) (assembly : Text) (t : Targets)
    (written : FileTree) : Prop :=
  Compiles files path assembly ∧ Places files path o.output assembly t written

variable {files written : FileTree} {path : Path} {o : Options} {assembly : Text} {t : Targets}

theorem build_of_writes (tools : Toolchain) (h : Writes files path o assembly t written) :
    (build files tools path o).2.files = written ∧
    (build files tools path o).2.commands =
      (if o.asmOnly then [] else started tools [assemble o t, link o t]) ∧
    ((build files tools path o).1 = .ok 0 ↔ o.asmOnly = true ∨
      tools.succeeds (assemble o t) = true ∧ tools.succeeds (link o t) = true) := by
  obtain ⟨hcompiles, hplaces⟩ := h
  obtain ⟨s, hstill, hmake⟩ := exists_runFrom_make (s := { files }) tools o hcompiles
  have hplaces' : Places s.files path o.output assembly t written := by
    rw [hstill.files]
    exact hplaces
  obtain ⟨result, s', hrun, hfiles, hcommands, hresult⟩ :=
    exists_runFrom_runTools tools o t { s with files := written }
  rw [build, hmake, runFrom_finish tools hplaces', hrun]
  rw [hstill.commands] at hcommands
  exact ⟨hfiles, hcommands, hresult⟩

theorem build_of_not_writes (tools : Toolchain)
    (h : ¬∃ assembly t written, Writes files path o assembly t written) :
    (build files tools path o).2.files = files ∧ (build files tools path o).2.commands = [] ∧
      (build files tools path o).1 ≠ .ok 0 := by
  by_cases hcompiles : ∃ assembly, Compiles files path assembly
  · obtain ⟨assembly, hcompiles⟩ := hcompiles
    obtain ⟨s, hstill, hmake⟩ := exists_runFrom_make (s := { files }) tools o hcompiles
    have hplaces : ¬∃ t written, Places s.files path o.output assembly t written := by
      rintro ⟨t, written, hplaces⟩
      rw [hstill.files] at hplaces
      exact h ⟨assembly, t, written, hcompiles, hplaces⟩
    obtain ⟨result, s', hrun, hstill', hresult⟩ := exists_runFrom_finish_of_not tools hplaces
    rw [build, hmake, hrun]
    exact ⟨hstill'.files.trans hstill.files, hstill'.commands.trans hstill.commands, hresult⟩
  · obtain ⟨result, s', hrun, hstill, hresult⟩ :=
      exists_runFrom_make_of_not (s := { files }) tools o hcompiles
    rw [build, hrun]
    exact ⟨hstill.files, hstill.commands, hresult⟩

-- A build writes one file at most, the assembly, and does so when the source compiles, is not one
-- of the files to be made, and the file can be written. Then it runs the assembler, and the linker
-- if the assembler ends well, unless only the assembly is wanted. It succeeds when all of this
-- does. What the source compiles to does not depend on how its lines are ended.
theorem build_effects (files : FileTree) (tools : Toolchain) (path : Path) (o : Options) :
    (∀ l, (build files tools path o).2.files.find? l ≠ files.find? l →
      ∃ base, IsBase path o.output base ∧
        files.open? (base.sibling (base.name ++ ".asm")) = .ok l) ∧
    (∀ assembly t written, Writes files path o assembly t written →
      let assembler : Command := ⟨o.assembler, ["-felf64", t.assembly.text, "-o", t.object.text]⟩
      let linker : Command := ⟨o.linker, [t.object.text, "-o", t.executable.text]⟩
      (∃ base, IsBase path o.output base ∧ t.assembly = base.sibling (base.name ++ ".asm") ∧
        t.object = base.sibling (base.name ++ ".o")) ∧
      (build files tools path o).2.files = written ∧
      written.read t.assembly = .ok (Text.Utf8.encode assembly) ∧
      (build files tools path o).2.commands =
        (if o.asmOnly then []
        else assembler :: if tools.succeeds assembler then [linker] else []) ∧
      ((build files tools path o).1 = .ok 0 ↔ o.asmOnly = true ∨
        tools.succeeds assembler = true ∧ tools.succeeds linker = true)) ∧
    ((¬∃ assembly t written, Writes files path o assembly t written) →
      (build files tools path o).2.files = files ∧ (build files tools path o).2.commands = [] ∧
      (build files tools path o).1 ≠ .ok 0) ∧
    (∀ bytes code e assembly, files.read path = .ok bytes →
      Text.Utf8.decode bytes = .ok (code.ended e) → .char '\r' ∉ code →
      (Compiles files path assembly ↔ (runCompile code).1 = .ok assembly)) := by
  refine ⟨?_, ?_, build_of_not_writes tools, fun _ _ _ _ => compiles_iff_of_ended⟩
  · intro l hne
    by_cases hwrites : ∃ assembly t written, Writes files path o assembly t written
    · obtain ⟨assembly, t, written, hwrites⟩ := hwrites
      rw [(build_of_writes tools hwrites).1] at hne
      obtain ⟨base, hbase, -, hassembly, -⟩ := targets_cases hwrites.2.named
      refine ⟨base, hbase, ?_⟩
      rw [← hassembly]
      exact FileTree.open?_of_find?_write_ne hwrites.2.write hne
    · rw [(build_of_not_writes tools hwrites).1] at hne
      exact absurd rfl hne
  · intro assembly t written hwrites assembler linker
    obtain ⟨base, hbase, -, hassembly, hobject, -⟩ := targets_cases hwrites.2.named
    obtain ⟨hfiles, hcommands, hresult⟩ := build_of_writes tools hwrites
    refine ⟨⟨base, hbase, hassembly, hobject⟩, hfiles, FileTree.read_write hwrites.2.write, ?_,
      hresult⟩
    have hlast : started tools [link o t] = [link o t] := by simp [started]
    rw [hcommands, started, hlast]
    rfl

-- The linker fails after the assembler has run: the assembly stays written.
theorem build_effects_failing_linker :
    let files := (FileTree.empty ["w"]).putFile (.ofText "a.slm") (Text.Utf8.encode "exit(7);\r\n")
    let tools : Tools := [("ld", .finished 1)]
    ∃ assembly t written, Writes files (.ofText "a.slm") {} assembly t written ∧
      written.read (.ofText "a.asm") = .ok (Text.Utf8.encode assembly) ∧
      (build files tools (.ofText "a.slm") {}).2.commands =
        [⟨some "nasm", ["-felf64", "a.asm", "-o", "a.o"]⟩, ⟨some "ld", ["a.o", "-o", "a"]⟩] ∧
      (build files tools (.ofText "a.slm") {}).1 ≠ .ok 0 := by
  intro files tools
  have hwrites : Writes files (.ofText "a.slm") {}
      "global _start\n_start:\npush 7\nmov rax, 60\npop rdi\nsyscall\n"
      ⟨.ofText "a.asm", .ofText "a.o", .ofText "a"⟩
      (files.insert ["w", "a.asm"] (.file (Text.Utf8.encode
        "global _start\n_start:\npush 7\nmov rax, 60\npop rdi\nsyscall\n"))) := by
    refine ⟨⟨Text.Utf8.encode "exit(7);\r\n", "exit(7);\r\n", ?_, ?_, ?_⟩, ?_, ?_, ?_, ?_⟩
    all_goals decide +kernel
  obtain ⟨-, -, hread, hcommands, hresult⟩ :=
    (build_effects files tools (.ofText "a.slm") {}).2.1 _ _ _ hwrites
  refine ⟨_, _, _, hwrites, hread, ?_, ?_⟩
  · rw [hcommands]
    decide +kernel
  · rw [Ne, hresult]
    decide +kernel

end Build

end SlotCompiler
