import SlotCompiler.Proofs.Outcome
import SlotCompiler.Proofs.Program.Failure
import SlotCompiler.Proofs.Token.Failure

namespace SlotCompiler

open CodePoint (char)

-- The span is a piece of a line of the code, not an empty one: it marks this text, with `back`
-- after it on the line.
def Span.Marks (s : Span) (code text back : Text) : Prop :=
  ∃ line, Diagnostic.sourceLine? code s.line = some line ∧ 0 ≤ s.column ∧ 1 ≤ s.length ∧
    s.column + s.length ≤ line.length ∧
    (line.drop s.column.toNat).take s.length.toNat = text ∧
    line.drop (s.column.toNat + s.length.toNat) = back

def Diagnostic.Blames (d : Diagnostic) (code text back : Text) : Prop :=
  match d.kind with
  | .invalidToken => d.message = "Invalid token '" ++ text ++ "'"
  | .unmatched => ∃ more, text = char '\x22' :: more ∧ char '\x22' ∉ more ∧ back = []
  | .notFound => d.message = "Could not find '" ++ text ++ "'"
  | .alreadyDeclared => d.message = "'" ++ text ++ "' is already declared"
  | .unsupportedExpression =>
    ∃ tokens t, Token.tokenize code = .ok tokens ∧ t ∈ tokens ∧ t.kind = .string ∧
      t.span = d.span ∧ ∃ body, text = char '\x22' :: body ++ [char '\x22'] ∧ char '\x22' ∉ body
  -- The token where the parser stops, or the last token if that is the end of input.
  | .expectedToken =>
    ∃ tokens c t rest expected found, Token.tokenize code = .ok tokens ∧
      Step.runFrom Parser.program { rest := tokens } = (.error (.diagnostic d), c) ∧
      c.rest = t :: rest ∧ t.describe = .ok found ∧
      d.message = "Expected " ++ expected ++ " got " ++ found ∧
      (t.kind ≠ .endOfInput ∧ t.Spells text ∨
        t.kind = .endOfInput ∧ ∃ front last, tokens = front ++ [last, t] ∧ last.Spells text)

namespace Span

theorem marks_of_line {code front text back : Text} {n : Nat}
    (h : code.sourceLines[n]? = some (front ++ text ++ back)) (hne : text ≠ []) :
    Span.Marks ⟨n, front.length, text.length⟩ code text back := by
  have hpos := List.length_pos_iff.mpr hne
  have hline : Diagnostic.sourceLine? code n = some (front ++ text ++ back) := by
    rw [Diagnostic.sourceLine?, if_neg (by omega), Int.toNat_natCast, h]
  refine ⟨front ++ text ++ back, hline, Int.natCast_nonneg _, Int.ofNat_le.mpr hpos, ?_, ?_, ?_⟩
  · simp only [List.length_append]
    omega
  · simp
  · simp

theorem Covers.exists_marks {s : Span} {code text : Text} (h : s.Covers code text)
    (hne : text ≠ []) : ∃ back, s.Marks code text back := by
  obtain ⟨n, front, back, hline, rfl⟩ := h
  exact ⟨back, marks_of_line hline hne⟩

theorem marks_past (before after : Text) {w : Text} (hne : w ≠ []) (hw : char '\n' ∉ w) :
    (past before w.length).Marks (before ++ w ++ after) w (after.takeWhile (· != char '\n')) :=
  marks_of_line (Text.getElem?_sourceLines before after hw) hne

end Span

theorem Diagnostic.exists_marks_of_tokenize {code : Text} {d : Diagnostic}
    (h : Token.tokenize code = .error (.diagnostic d)) :
    ∃ text back, d.span.Marks code text back ∧ d.Blames code text back := by
  obtain ⟨before, lexeme, c, more, rest, rfl, -, htakes, hfault⟩ :=
    Token.exists_of_tokenize_eq_error h
  have hfeed : char '\n' ∉ c :: more := by
    apply htakes.not_mem
    rintro rfl
    cases hfault
  have hmarks := Span.marks_past before rest (List.cons_ne_nil c more) hfeed
  rw [List.append_assoc] at hmarks
  rcases Token.ofLexeme_eq_error_cases htakes hfault with
    ⟨rfl, hquote, hstops, hd⟩ | ⟨-, -, hd⟩ | ⟨-, -, -, hd⟩ | hd
  · obtain rfl := Fault.diagnostic.inj hd
    have hback := Text.takeWhile_append (w := []) (by simp) hstops
    rw [List.nil_append] at hback
    exact ⟨_, _, hmarks, more, rfl, hquote, hback⟩
  · obtain rfl := Fault.diagnostic.inj hd
    have hfirst : char '\n' ∉ [c] := fun hmem => hfeed (by simp_all)
    have hmarks := Span.marks_past before (more ++ rest) (List.cons_ne_nil c []) hfirst
    rw [List.append_assoc] at hmarks
    refine ⟨[c], _, hmarks, ?_⟩
    simp [Blames, message, Kind.wording, fill, Atom.display]
  · cases hd
  · obtain rfl := Fault.diagnostic.inj hd
    refine ⟨c :: more, _, hmarks, ?_⟩
    simp [Blames, message, Kind.wording, fill, Atom.display]

-- The token where the parser stops. The end of input has the place of the token before it.
theorem Diagnostic.exists_marks_of_ofTokens {code : Text} {tokens : List Token} {d : Diagnostic}
    (htokens : Token.tokenize code = .ok tokens)
    (h : Program.ofTokens tokens = .error (.diagnostic d)) :
    ∃ text back, d.span.Marks code text back ∧ d.Blames code text back := by
  obtain ⟨c, hrun⟩ : ∃ c, Step.runFrom Parser.program { rest := tokens } =
      (.error (.diagnostic d), c) := ⟨_, Prod.ext h rfl⟩
  obtain ⟨front, t, rest, e, found, hsplit, rfl, hawaits, hnot, hfound, hd⟩ :=
    Parser.exists_misfit htokens hrun
  obtain rfl := Fault.diagnostic.inj hd
  have hmessage : message ⟨.expectedToken, t.span, [e.wording, found], Nat.le_refl 2⟩ =
      "Expected " ++ e.wording ++ " got " ++ found := by
    simp [message, Kind.wording, fill, Text.ofString]
  obtain ⟨written, hstand, rfl⟩ := Token.exists_standIn_of_tokenize htokens
  by_cases hend : t.kind = .endOfInput
  · obtain ⟨rfl, rfl, rfl⟩ := eq_of_append_end hsplit fun hmem => hstand.kind_ne t hmem hend
    rcases front.eq_nil_or_concat' with rfl | ⟨before, last, rfl⟩
    · -- Where nothing was read, the program may end.
      exact absurd ((hawaits.viable_iff .endOfInput).mp ⟨[], .done⟩) hnot
    obtain ⟨p, hp, hcovers⟩ := hstand.exists_piece last (by simp)
    obtain ⟨back, hmarks⟩ := hcovers.exists_marks p.text_ne_nil
    have hspan : (Token.endToken (before ++ [last])).span = last.span := by
      simp [Token.endToken]
    refine ⟨p.text, back, by rwa [hspan], _, _, _, [], _, found, htokens, hrun, rfl, hfound,
      hmessage, .inr ⟨rfl, before, last, by simp, hp ▸ p.spells_token last.span⟩⟩
  · have ht : t ∈ written := by
      have hmem : t ∈ written ++ [Token.endToken written] := by rw [hsplit]; simp
      rcases List.mem_append.mp hmem with hwritten | hlast
      · exact hwritten
      · exact absurd (congrArg Token.kind (List.mem_singleton.mp hlast)) hend
    obtain ⟨p, hp, hcovers⟩ := hstand.exists_piece t ht
    obtain ⟨back, hmarks⟩ := hcovers.exists_marks p.text_ne_nil
    exact ⟨p.text, back, hmarks, _, _, t, rest, _, found, htokens, hrun, rfl, hfound, hmessage,
      .inl ⟨hend, hp ▸ p.spells_token t.span⟩⟩

theorem Token.Piece.eq_quoted {p : Piece} (h : p.kind = .string) :
    ∃ body, p.text = char '\x22' :: body ++ [char '\x22'] ∧ char '\x22' ∉ body := by
  cases p with
  | quoted body hbody => exact ⟨body, rfl, hbody.1⟩
  | word first more =>
      simp only [kind] at h
      split at h
      · cases h
      · split at h <;> cases h
  | _ => cases h

theorem Violation.exists_piece {code : Text} {tokens : List Token} {p : Program} {v : Violation}
    (htokens : Token.tokenize code = .ok tokens) (hp : Program.ofTokens tokens = .ok p)
    (hv : v ∈ p.violations []) :
    ∃ t ∈ tokens, v.At t ∧ ∃ q : Token.Piece, t = q.token t.span ∧ t.span.Covers code q.text := by
  obtain ⟨front, hstand, rfl⟩ := Token.exists_standIn_of_tokenize htokens
  obtain ⟨us, hus, hat⟩ := Program.exists_at [] (Program.matches_of_ofTokens hstand.kind_ne hp)
  obtain ⟨t, ht, hvt⟩ := exists_at_of_mem hat hv
  exact ⟨t, List.mem_append_left _ (hus.mem ht), hvt, hstand.exists_piece t (hus.mem ht)⟩

theorem Diagnostic.exists_marks_of_violation {code : Text} {tokens : List Token} {p : Program}
    {v : Violation} (htokens : Token.tokenize code = .ok tokens)
    (hp : Program.ofTokens tokens = .ok p) (hv : v ∈ p.violations []) :
    ∃ text back, v.diagnostic.span.Marks code text back ∧ v.diagnostic.Blames code text back := by
  obtain ⟨t, ht, hvt, q, hq, hcovers⟩ := Violation.exists_piece htokens hp hv
  obtain ⟨back, hmarks⟩ := hcovers.exists_marks q.text_ne_nil
  rw [← hvt.span_eq] at hmarks
  refine ⟨q.text, back, hmarks, ?_⟩
  have hspells : t.Spells q.text := hq ▸ q.spells_token t.span
  -- A name is displayed as it is written.
  have hname : ∀ n, t.kind = .identifier ∧ n = Name.ofToken t → n.value.display = q.text := by
    rintro n ⟨hkind, rfl⟩
    simp only [Token.Spells, hkind] at hspells
    rw [Name.ofToken, hspells.1]
    rfl
  cases v with
  | redeclared n => simp [Violation.diagnostic, Blames, message, Kind.wording, fill, hname n hvt]
  | unknownCallee n => simp [Violation.diagnostic, Blames, message, Kind.wording, fill, hname n hvt]
  | undeclared n => simp [Violation.diagnostic, Blames, message, Kind.wording, fill, hname n hvt]
  | textOperand span =>
      obtain ⟨hkind, rfl⟩ := hvt
      rw [hq] at hkind
      obtain ⟨body, htext, hbody⟩ := Token.Piece.eq_quoted hkind
      exact ⟨_, t, htokens, ht, by rw [hq]; exact hkind, rfl, body, htext, hbody⟩

-- The parser and the generator have nothing to say about quotes.
theorem Program.kind_of_ofTokens {code : Text} {tokens : List Token} {d : Diagnostic}
    (htokens : Token.tokenize code = .ok tokens)
    (h : Program.ofTokens tokens = .error (.diagnostic d)) : d.kind = .expectedToken := by
  obtain ⟨c, hrun⟩ : ∃ c, Step.runFrom Parser.program { rest := tokens } =
      (.error (.diagnostic d), c) := ⟨_, Prod.ext h rfl⟩
  obtain ⟨-, t, -, e, found, -, -, -, -, -, hd⟩ := Parser.exists_misfit htokens hrun
  obtain rfl := Fault.diagnostic.inj hd
  rfl

theorem Violation.kind_ne (v : Violation) : v.diagnostic.kind ≠ .unmatched := by
  cases v <;> simp [diagnostic]

theorem tokenize_of_unmatched {code : Text} {d : Diagnostic}
    (h : (runCompile code).1 = .error (.diagnostic d)) (hkind : d.kind = .unmatched) :
    Token.tokenize code = .error (.diagnostic d) := by
  rcases runCompile_eq_error_cases h with
    htokens | ⟨tokens, htokens, hp⟩ | ⟨tokens, p, v, -, -, -, hv⟩
  · exact htokens
  · rw [Program.kind_of_ofTokens htokens hp] at hkind
    cases hkind
  · obtain rfl := Fault.diagnostic.inj hv
    exact absurd hkind v.kind_ne

-- Every diagnostic of a compilation marks a piece of a source line, and blames what is written
-- there.
theorem compile_diagnostic_marks {code : Text} {d : Diagnostic}
    (h : (runCompile code).1 = .error (.diagnostic d)) :
    ∃ text back, d.span.Marks code text back ∧ d.Blames code text back := by
  cases htokens : Token.tokenize code with
  | error fault =>
      rw [fst_runCompile, htokens] at h
      obtain rfl := Except.error.inj h
      exact Diagnostic.exists_marks_of_tokenize htokens
  | ok tokens =>
      cases hp : Program.ofTokens tokens with
      | error fault =>
          rw [fst_runCompile, htokens] at h
          simp only [Except.bind, hp, Except.error.injEq] at h
          subst h
          exact Diagnostic.exists_marks_of_ofTokens htokens hp
      | ok p =>
          have hreports := reports_runCompile htokens hp
          cases hviolations : p.violations [] with
          | nil =>
              rw [hviolations, h] at hreports
              obtain ⟨asm, hasm⟩ := hreports
              cases hasm
          | cons v vs =>
              rw [hviolations, h] at hreports
              obtain rfl : d = v.diagnostic := Fault.diagnostic.inj (Except.error.inj hreports)
              exact Diagnostic.exists_marks_of_violation htokens hp (by simp [hviolations])

-- The text ends inside a call: the last mark of the text is blamed.
theorem compile_diagnostic_marks_unfinished :
    ∃ d : Diagnostic, (runCompile "let s = 1;\nexit(").1 = .error (.diagnostic d) ∧
      d.span = ⟨1, 4, 1⟩ ∧ ∃ text back, d.span.Marks "let s = 1;\nexit(" text back ∧
        d.Blames "let s = 1;\nexit(" text back := by
  have h : (runCompile "let s = 1;\nexit(").1 = .error (.diagnostic
      ⟨.expectedToken, ⟨1, 4, 1⟩, ["literal or identifier", "end of input"], Nat.le_refl 2⟩) := by
    decide +kernel
  exact ⟨_, h, rfl, compile_diagnostic_marks h⟩

end SlotCompiler
