import SlotCompiler.Compile
import SlotCompiler.Proofs.Assembly.Simulation

namespace SlotCompiler

open Assembly (Machine decodeListing)

theorem fst_runCompile (code : Text) :
    (runCompile code).1 =
      (Token.tokenize code).bind fun tokens =>
        (Program.ofTokens tokens).bind fun program => (Assembly.generate program.tree).1 := by
  simp only [runCompile, compile, Logged.debug, Step.runFrom_bind, Step.runFrom_ofExcept,
    Step.runFrom_modify, Step.runFrom_pure]
  cases Token.tokenize code with
  | error fault => rfl
  | ok tokens =>
      simp only [Except.bind]
      cases Program.ofTokens tokens with
      | error fault => rfl
      | ok program =>
          dsimp only
          cases (Assembly.generate program.tree).1 <;> rfl

theorem runCompile_eq_ok_iff {code asm : Text} :
    (runCompile code).1 = .ok asm ↔
      ∃ tokens program, Token.tokenize code = .ok tokens ∧ Program.ofTokens tokens = .ok program ∧
        (Assembly.generate program.tree).1 = .ok asm := by
  rw [fst_runCompile]
  cases Token.tokenize code with
  | error fault => simp [Except.bind]
  | ok tokens => cases hprogram : Program.ofTokens tokens <;> simp [Except.bind, hprogram]

-- A machine that loads numbers in any way runs the compiled text to its end, and hands over the
-- values that the program means as it loads them.
theorem runs_of_compile {code asm : Text} (h : (runCompile code).1 = .ok asm) :
    ∃ tokens program values ops, Token.tokenize code = .ok tokens ∧
      Program.ofTokens tokens = .ok program ∧ program.exits? [] = some values ∧
      decodeListing asm = some ops ∧ (∀ v ∈ values, v < UInt64.size) ∧
      ∀ {α : Type} (load : Nat → α) (m : Machine α), m.stack = [] → m.calls = [] →
        ∃ m', m.run load ops = some m' ∧ m'.calls = values.map fun v => (60, load v) := by
  obtain ⟨tokens, program, htokens, hprogram, hasm⟩ := runCompile_eq_ok_iff.mp h
  obtain ⟨g, hsteps, rfl⟩ := Assembly.generate_eq_ok_iff.mp hasm
  have hfits := Program.fits_of_tokenize htokens hprogram
  obtain ⟨env, values, added, ops, hvalues, -, hlines, hadded, hsim⟩ :=
    Assembly.Generator.tracks_start.run hfits hsteps
  refine ⟨tokens, program, values, ops, htokens, hprogram, hvalues, ?_, ?_, ?_⟩
  · rw [hlines]
    exact Assembly.decodeListing_listing hadded
  · exact Program.lt_of_exits? (by simp [Env.Fits]) hfits hvalues
  · intro α load m hstack hcalls
    obtain ⟨m', hrun, -, hcalls'⟩ := hsim load m hstack
    exact ⟨m', hrun, by rw [hcalls', hcalls, List.nil_append]⟩

-- Every line of the compiled text is an operation of the machine, the machine never gets stuck, and
-- it hands over the values that the program means.
theorem compile_correct {code asm : Text} (h : (runCompile code).1 = .ok asm) :
    ∃ tokens program values ops, Token.tokenize code = .ok tokens ∧
      Program.ofTokens tokens = .ok program ∧ program.exits? [] = some values ∧
      decodeListing asm = some ops ∧
      ∀ m : Machine Nat, m.stack = [] → m.calls = [] →
        ∃ m', m.run id ops = some m' ∧ m'.calls = values.map fun v => (60, v) := by
  obtain ⟨tokens, program, values, ops, htokens, hprogram, hvalues, hops, -, hrun⟩ :=
    runs_of_compile h
  exact ⟨tokens, program, values, ops, htokens, hprogram, hvalues, hops, hrun id⟩

-- A variable is copied, and the copy is read after an exit has come and gone.
theorem compile_correct_copy :
    ∃ asm, (runCompile "let a = 7; let b = a; exit(12); exit(b);").1 = .ok asm ∧
      ∃ tokens program values ops,
        Token.tokenize "let a = 7; let b = a; exit(12); exit(b);" = .ok tokens ∧
        Program.ofTokens tokens = .ok program ∧ program.exits? [] = some values ∧
        decodeListing asm = some ops ∧
        ∀ m : Machine Nat, m.stack = [] → m.calls = [] →
          ∃ m', m.run id ops = some m' ∧ m'.calls = values.map fun v => (60, v) := by
  have h : (runCompile "let a = 7; let b = a; exit(12); exit(b);").1 =
      .ok ("global _start\n_start:\npush 7\npush QWORD [rsp+0]\n" ++
        "push 12\nmov rax, 60\npop rdi\nsyscall\n" ++
        "push QWORD [rsp+0]\nmov rax, 60\npop rdi\nsyscall\n") := by
    decide +kernel
  exact ⟨_, h, compile_correct h⟩

end SlotCompiler
