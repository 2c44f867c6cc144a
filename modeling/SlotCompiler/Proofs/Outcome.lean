import SlotCompiler.Proofs.Assembly.Scope
import SlotCompiler.Proofs.Compile

namespace SlotCompiler

-- A program that was read from a text has its violations in the order of the text.
theorem Program.pairwise_of_tokenize {code : Text} {tokens : List Token} {p : Program}
    (htokens : Token.tokenize code = .ok tokens) (hp : Program.ofTokens tokens = .ok p) :
    (p.violations []).Pairwise fun v w => v.diagnostic.span.Precedes w.diagnostic.span := by
  obtain ⟨front, hstand, rfl⟩ := Token.exists_standIn_of_tokenize htokens
  exact pairwise_violations [] (matches_of_ofTokens hstand.kind_ne hp) hstand.ordered

theorem reports_runCompile {code : Text} {tokens : List Token} {p : Program}
    (htokens : Token.tokenize code = .ok tokens) (hp : Program.ofTokens tokens = .ok p) :
    Assembly.Reports (p.violations []) (runCompile code).1 := by
  rw [fst_runCompile, htokens]
  simp only [Except.bind, hp]
  exact Assembly.reports_generate (Program.short_of_tokenize htokens hp)

theorem runCompile_eq_error_cases {code : Text} {fault : Fault}
    (h : (runCompile code).1 = .error fault) :
    Token.tokenize code = .error fault ∨
    (∃ tokens, Token.tokenize code = .ok tokens ∧ Program.ofTokens tokens = .error fault) ∨
    ∃ tokens p v, Token.tokenize code = .ok tokens ∧ Program.ofTokens tokens = .ok p ∧
      v ∈ p.violations [] ∧ fault = .diagnostic v.diagnostic := by
  cases htokens : Token.tokenize code with
  | error fault' =>
      rw [fst_runCompile, htokens] at h
      obtain rfl := Except.error.inj h
      exact .inl rfl
  | ok tokens =>
      cases hp : Program.ofTokens tokens with
      | error fault' =>
          rw [fst_runCompile, htokens] at h
          simp only [Except.bind, hp, Except.error.injEq] at h
          exact .inr (.inl ⟨tokens, rfl, h ▸ hp⟩)
      | ok p =>
          have hreports := reports_runCompile htokens hp
          cases hviolations : p.violations [] with
          | nil =>
              rw [hviolations, h] at hreports
              obtain ⟨asm, hasm⟩ := hreports
              cases hasm
          | cons v vs =>
              rw [hviolations, h] at hreports
              exact .inr (.inr ⟨tokens, p, v, rfl, hp, by simp [hviolations],
                Except.error.inj hreports⟩)

-- A text compiles when it has tokens, these are a program, and the program is legal. If not, the
-- fault of the first of these stages is reported; of the violations of a program, the one that
-- comes first in the text.
theorem compile_reports_first (code : Text) :
    ((∃ asm, (runCompile code).1 = .ok asm) ↔
      ∃ tokens p, Token.tokenize code = .ok tokens ∧ Program.ofTokens tokens = .ok p ∧ p.Legal) ∧
    (∀ fault, Token.tokenize code = .error fault → (runCompile code).1 = .error fault) ∧
    (∀ tokens fault, Token.tokenize code = .ok tokens → Program.ofTokens tokens = .error fault →
      (runCompile code).1 = .error fault) ∧
    ∀ tokens p, Token.tokenize code = .ok tokens → Program.ofTokens tokens = .ok p → ¬p.Legal →
      ∃ v, p.Violates v ∧ (runCompile code).1 = .error (.diagnostic v.diagnostic) ∧
        ∀ w, p.Violates w → w = v ∨ v.diagnostic.span.Precedes w.diagnostic.span := by
  refine ⟨⟨?_, ?_⟩, ?_, ?_, ?_⟩
  · rintro ⟨asm, hasm⟩
    obtain ⟨tokens, p, htokens, hp, -⟩ := runCompile_eq_ok_iff.mp hasm
    refine ⟨tokens, p, htokens, hp, Program.legal_iff.mpr ?_⟩
    have hreports := reports_runCompile htokens hp
    cases hviolations : p.violations [] with
    | nil => rfl
    | cons v vs =>
        rw [hviolations, hasm] at hreports
        cases hreports
  · rintro ⟨tokens, p, htokens, hp, hlegal⟩
    have hreports := reports_runCompile htokens hp
    rw [Program.legal_iff.mp hlegal] at hreports
    exact hreports
  · intro fault htokens
    rw [fst_runCompile, htokens]
    rfl
  · intro tokens fault htokens hp
    rw [fst_runCompile, htokens]
    simp only [Except.bind, hp]
  · intro tokens p htokens hp hlegal
    have hreports := reports_runCompile htokens hp
    have horder := Program.pairwise_of_tokenize htokens hp
    cases hviolations : p.violations [] with
    | nil => exact absurd (Program.legal_iff.mpr hviolations) hlegal
    | cons v vs =>
        rw [hviolations] at hreports horder
        refine ⟨v, Program.violates_iff.mpr (by simp [hviolations]), hreports, ?_⟩
        intro w hw
        rw [Program.violates_iff, hviolations] at hw
        rcases List.mem_cons.mp hw with rfl | hlater
        · exact .inl rfl
        · exact .inr ((List.pairwise_cons.mp horder).1 w hlater)

-- A name is declared again with a value that is not declared: the name comes first. A variable may
-- have the name of a callee.
theorem compile_reports_first_redeclared :
    ∃ tokens p, Token.tokenize "let exit = 1;\nlet exit = b;" = .ok tokens ∧
      Program.ofTokens tokens = .ok p ∧ ¬p.Legal ∧
      ∃ v, p.Violates v ∧
        (runCompile "let exit = 1;\nlet exit = b;").1 = .error (.diagnostic v.diagnostic) ∧
        ∀ w, p.Violates w → w = v ∨ v.diagnostic.span.Precedes w.diagnostic.span := by
  have htokens : Token.tokenize "let exit = 1;\nlet exit = b;" = .ok
      [⟨.letKeyword, .text "let", ⟨0, 0, 3⟩⟩, ⟨.identifier, .text "exit", ⟨0, 4, 4⟩⟩,
        ⟨.assign, .text "=", ⟨0, 9, 1⟩⟩, ⟨.number, .int 1, ⟨0, 11, 1⟩⟩,
        ⟨.semicolon, .text ";", ⟨0, 12, 1⟩⟩,
        ⟨.letKeyword, .text "let", ⟨1, 0, 3⟩⟩, ⟨.identifier, .text "exit", ⟨1, 4, 4⟩⟩,
        ⟨.assign, .text "=", ⟨1, 9, 1⟩⟩, ⟨.identifier, .text "b", ⟨1, 11, 1⟩⟩,
        ⟨.semicolon, .text ";", ⟨1, 12, 1⟩⟩, ⟨.endOfInput, .text [], ⟨1, 12, 1⟩⟩] := by
    decide +kernel
  have hlegal : ¬Program.Legal
      [.binding ⟨.text "exit", ⟨0, 4, 4⟩⟩ (.literal (.int 1) .int ⟨0, 11, 1⟩),
        .binding ⟨.text "exit", ⟨1, 4, 4⟩⟩ (.name ⟨.text "b", ⟨1, 11, 1⟩⟩)] := by
    rw [Program.legal_iff]
    decide +kernel
  exact ⟨_, _, htokens, rfl, hlegal,
    (compile_reports_first "let exit = 1;\nlet exit = b;").2.2.2 _ _ htokens rfl hlegal⟩

end SlotCompiler
