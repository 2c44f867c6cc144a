import SlotCompiler.Proofs.Outcome
import SlotCompiler.Proofs.Program.Failure
import SlotCompiler.Proofs.Token.Failure

namespace SlotCompiler

theorem Token.tokenize_fault_cases {code : Text} {fault : Fault}
    (h : tokenize code = .error fault) :
    (∃ d, fault = .diagnostic d) ∨ ∃ n, fault = .digitRun n := by
  obtain ⟨before, lexeme, c, more, rest, -, -, htakes, hfault⟩ := exists_of_tokenize_eq_error h
  rcases ofLexeme_eq_error_cases htakes hfault with
    ⟨-, -, -, rfl⟩ | ⟨-, -, rfl⟩ | ⟨-, -, -, rfl⟩ | rfl
  · exact .inl ⟨_, rfl⟩
  · exact .inl ⟨_, rfl⟩
  · exact .inr ⟨_, rfl⟩
  · exact .inl ⟨_, rfl⟩

-- The later stages have diagnostics only: the tokens of a text have an end and can be described,
-- and every message is given the details that it tells.
theorem runCompile_fault_cases {code : Text} {fault : Fault}
    (h : (runCompile code).1 = .error fault) :
    (∃ d, fault = .diagnostic d) ∨
      Token.tokenize code = .error fault ∧ ∃ n, fault = .digitRun n := by
  rcases runCompile_eq_error_cases h with htokens | ⟨tokens, htokens, hp⟩ | ⟨_, _, v, -, -, -, hv⟩
  · exact (Token.tokenize_fault_cases htokens).imp_right fun hrun => ⟨htokens, hrun⟩
  · have hparse : Step.runFrom Parser.program { rest := tokens } =
        (.error fault, (Step.runFrom Parser.program { rest := tokens }).2) := Prod.ext hp rfl
    obtain ⟨_, _, _, _, _, -, -, -, -, -, hd⟩ := Parser.exists_misfit htokens hparse
    exact .inl ⟨_, hd⟩
  · exact .inl ⟨v.diagnostic, hv⟩

theorem runCompile_eq_digitRun_iff {code : Text} {n : Nat} :
    (runCompile code).1 = .error (.digitRun n) ↔
      Token.tokenize code = .error (.digitRun n) := by
  constructor
  · intro h
    rcases runCompile_fault_cases h with ⟨d, hd⟩ | ⟨htokens, -⟩
    · cases hd
    · exact htokens
  · intro h
    rw [fst_runCompile, h]
    rfl

-- Compilation gives a text or a diagnostic, unless a scan comes to a number of more than 4300
-- digits before it comes to anything else that makes no token.
theorem compile_fault_cases (code : Text) :
    ((∃ asm, (runCompile code).1 = .ok asm) ∨ (∃ d, (runCompile code).1 = .error (.diagnostic d)) ∨
      ∃ n, (runCompile code).1 = .error (.digitRun n)) ∧
    (∀ n, (runCompile code).1 = .error (.digitRun n) ↔
      ∃ before digits rest, code = before ++ (digits ++ rest) ∧
        Token.Passed before (digits ++ rest) ∧ Token.DigitRun before digits rest ∧
        4300 < digits.length ∧ digits.length = n) ∧
    (runCompile code).1 ≠ .error .outOfTokens ∧
    (∀ name, (runCompile code).1 ≠ .error (.unknownKind name)) ∧
    ∀ index, (runCompile code).1 ≠ .error (.missingDetail index) := by
  have hcases : (∃ asm, (runCompile code).1 = .ok asm) ∨
      (∃ d, (runCompile code).1 = .error (.diagnostic d)) ∨
      ∃ n, (runCompile code).1 = .error (.digitRun n) := by
    cases hrun : (runCompile code).1 with
    | ok asm => exact .inl ⟨asm, rfl⟩
    | error fault =>
        rcases runCompile_fault_cases hrun with ⟨d, rfl⟩ | ⟨-, n, rfl⟩
        · exact .inr (.inl ⟨d, rfl⟩)
        · exact .inr (.inr ⟨n, rfl⟩)
  refine ⟨hcases, ?_, ?_, ?_, ?_⟩
  · intro n
    rw [runCompile_eq_digitRun_iff, Token.tokenize_eq_digitRun_iff]
    rfl
  all_goals
    rcases hcases with ⟨asm, hrun⟩ | ⟨d, hrun⟩ | ⟨n, hrun⟩ <;> simp [hrun]

-- Zeros count. What would be wrong with the program is not looked at before the number is read.
theorem compile_fault_cases_zeros :
    (runCompile (Text.ofString "= " ++ List.replicate 4301 (.char '0'))).1 =
      .error (.digitRun 4301) := by
  have hassign : Token.Passed "=" (Text.ofString " " ++ List.replicate 4301 (.char '0')) :=
    .piece .assign .start trivial
  have hpassed : Token.Passed "= " (List.replicate 4301 (.char '0')) :=
    .blank hassign (by decide)
  refine ((compile_fault_cases _).2.1 4301).mpr ⟨"= ", List.replicate 4301 (.char '0'), [], ?_, ?_,
    ⟨?_, by decide, by simp [Text.Stops]⟩, ?_, List.length_replicate⟩
  · rw [List.append_nil]
  · rwa [List.append_nil]
  · intro c hc
    rw [List.eq_of_mem_replicate hc]
    rfl
  · rw [List.length_replicate]
    decide

end SlotCompiler
