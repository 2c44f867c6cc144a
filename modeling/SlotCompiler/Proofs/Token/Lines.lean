import SlotCompiler.Proofs.Token.Boundary

namespace SlotCompiler

open CodePoint (char)

def Span.down (n : Nat) (s : Span) : Span := { s with line := s.line + n }

def Token.moved (f : Span → Span) (t : Token) : Token := { t with span := f t.span }

-- A fault that tells no place stays as it is.
def Fault.moved (f : Span → Span) : Fault → Fault
  | .diagnostic d => .diagnostic { d with span := f d.span }
  | fault => fault

theorem Text.lastLine_append_cons (front t : Text) :
    lastLine (front ++ char '\n' :: t) = lastLine t := by
  rcases not_mem_or_append t with h | ⟨before, line, rfl, hline⟩
  · rw [lastLine_append_lineFeed front h, lastLine_of_not_mem h]
  · have hsplit : front ++ char '\n' :: (before ++ char '\n' :: line) =
        (front ++ char '\n' :: before) ++ char '\n' :: line := by simp
    rw [hsplit, lastLine_append_lineFeed _ hline, lastLine_append_lineFeed _ hline]

theorem Span.past_append_cons (front before : Text) (length : Nat) :
    past (front ++ char '\n' :: before) length =
      down (front.count (char '\n') + 1) (past before length) := by
  simp only [past, down, Text.lastLine_append_cons, List.count_append, List.count_cons_self,
    Span.mk.injEq, and_true]
  omega

namespace Token

open Lexeme (Takes)
open Text (Stops)

theorem ofLexeme_moved {f : Span → Span}
    (hf : ∀ s : Span, f { s with length := 1 } = { f s with length := 1 }) (lexeme : Lexeme)
    (c : CodePoint) (more : Text) (span : Span) :
    ofLexeme lexeme c more (f span) =
      match ofLexeme lexeme c more span with
      | .ok token => .ok (token.map (moved f))
      | .error fault => .error (fault.moved f) := by
  cases lexeme with
  | word =>
      simp only [ofLexeme]
      split
      · rfl
      · rw [← hf]
        rfl
  | digits =>
      simp only [ofLexeme]
      split
      · rfl
      · split <;> rfl
  | _ => rfl

theorem scanAfter_append_cons (front before text : Text) :
    (scanAfter (front ++ char '\n' :: before) text).tokens =
      (scanAfter before text).tokens.map (moved (.down (front.count (char '\n') + 1))) ∧
    (scanAfter (front ++ char '\n' :: before) text).fault =
      (scanAfter before text).fault.map (.moved (.down (front.count (char '\n') + 1))) := by
  induction text using Lexeme.takes_induction generalizing before with
  | nil => exact ⟨rfl, rfl⟩
  | @lexeme lexeme c more rest htakes ih =>
      have hrest := ih (before ++ c :: more)
      have hbefore : front ++ char '\n' :: before ++ c :: more =
          front ++ char '\n' :: (before ++ c :: more) := by simp
      rw [scanAfter_takes htakes, scanAfter_takes htakes, Span.past_append_cons,
        ofLexeme_moved fun _ => rfl, hbefore]
      cases ofLexeme lexeme c more (Span.past before (more.length + 1)) with
      | error fault => exact ⟨rfl, rfl⟩
      | ok token =>
          refine ⟨?_, hrest.2⟩
          simp only [Scanned.prepend, hrest.1, List.map_append]
          cases token <;> rfl

-- A line feed ends every lexeme; other blanks may still belong to a comment or to a quote.
theorem Lexeme.Takes.append_blank {lexeme : Lexeme} {c d : CodePoint} {more rest : Text}
    (h : Takes lexeme c more rest) (hd : Text.isBlank d = true)
    (hends : d = char '\n' ∨ lexeme ≠ .comment ∧ lexeme ≠ .openQuote) (b : Text) :
    Takes lexeme c more (rest ++ d :: b) := by
  have hword : Stops Text.isWord (d :: b) := by
    simpa [Stops] using Text.isWord_eq_false_of_isBlank hd
  have hdigit : Stops CodePoint.isAsciiDigit (d :: b) := by
    simpa [Stops] using Text.isAsciiDigit_eq_false_of_isBlank hd
  cases h with
  | comment hmore hrest =>
      obtain rfl : d = char '\n' := by simpa using hends
      exact .comment hmore (hrest.append (by simp [Stops]))
  | newline => exact .newline
  | string hbody => exact .string hbody
  | openQuote hmore hrest =>
      obtain rfl : d = char '\n' := by simpa using hends
      exact .openQuote hmore (hrest.append (by simp [Stops]))
  | word hc hmore hrest => exact .word hc hmore (hrest.append hword)
  | digits hc hmore hrest => exact .digits hc hmore (hrest.append hdigit)
  | punctuation hc => exact .punctuation hc
  | blank hc hfeed => exact .blank hc hfeed
  | stray hhash hfeed hquote hstart hnumber hmark hblank =>
      exact .stray hhash hfeed hquote hstart hnumber hmark hblank

theorem boundary_lineFeed (a b : Text) : Boundary a (char '\n' :: b) := by
  induction a using Lexeme.takes_induction with
  | nil => exact .start
  | lexeme htakes ih => exact .lexeme (htakes.append_blank (by decide) (.inl rfl) b) ih

theorem scanAfter_lines (a b : Text) :
    scanAfter [] (a ++ char '\n' :: b) =
      (scanAfter [] a).andThen (scanAfter (a ++ [char '\n']) b) := by
  rw [(boundary_lineFeed a b).scanAfter_append, List.nil_append, scanAfter_blank (by decide)]

-- Of two texts with a line feed between them, the first is tokenized as if it stood alone, and the
-- second as if it stood alone as many lines further down as the first has lines.
theorem tokenize_lines (a b : Text) :
    (∀ fault, tokenize a = .error fault → tokenize (a ++ char '\n' :: b) = .error fault) ∧
    (∀ tokens fault, tokenize a = .ok tokens → tokenize b = .error fault →
      tokenize (a ++ char '\n' :: b) =
        .error (fault.moved (.down (1 + a.count (char '\n'))))) ∧
    ∀ tokens tokens', tokenize a = .ok tokens → tokenize b = .ok tokens' →
      let found := tokens.dropLast ++
        tokens'.dropLast.map (moved (.down (1 + a.count (char '\n'))))
      tokenize (a ++ char '\n' :: b) = .ok (found ++
        [⟨.endOfInput, .text [], (found.getLast?.map (·.span)).getD ⟨0, 0, 0⟩⟩]) := by
  obtain ⟨hbelow, hfault⟩ := scanAfter_append_cons a [] b
  rw [Nat.add_comm] at hbelow hfault
  refine ⟨?_, ?_, ?_⟩
  · intro fault ha
    rw [tokenize_eq_error_iff] at ha ⊢
    rw [scanAfter_lines, Scanned.andThen_of_some ha, ha]
  · intro tokens fault ha hb
    obtain ⟨hnone, -⟩ := tokenize_eq_ok_iff.mp ha
    rw [tokenize_eq_error_iff] at hb ⊢
    rw [scanAfter_lines, Scanned.andThen_of_none hnone, hfault, hb, Option.map_some]
  · intro tokens tokens' ha hb found
    obtain ⟨hnone, rfl⟩ := tokenize_eq_ok_iff.mp ha
    obtain ⟨hnone', rfl⟩ := tokenize_eq_ok_iff.mp hb
    have hfound : found = (scanAfter [] (a ++ char '\n' :: b)).tokens := by
      rw [scanAfter_lines, Scanned.andThen_of_none hnone, hbelow]
      simp only [found, List.dropLast_concat]
    rw [tokenize_eq_ok_iff, hfound]
    refine ⟨?_, rfl⟩
    rw [scanAfter_lines, Scanned.andThen_of_none hnone, hfault, hnone', Option.map_none]

-- A quote that is not closed on its line, a fault on a later line, and a comment that ends its
-- line.
theorem tokenize_lines_comment :
    (∃ fault, tokenize "a \"b" = .error fault ∧ tokenize "a \"b\n\"" = .error fault) ∧
    (∃ fault, tokenize "\n (²" = .error fault ∧
      tokenize "a\n;\n\n (²" = .error (fault.moved (.down 2))) ∧
    ∃ tokens, tokenize "a # \"\n;" = .ok (tokens ++ [⟨.endOfInput, .text [], ⟨1, 0, 1⟩⟩]) ∧
      tokens = [⟨.identifier, .text "a", ⟨0, 0, 1⟩⟩, ⟨.semicolon, .text ";", ⟨1, 0, 1⟩⟩] := by
  have hopen : tokenize "a \"b" =
      .error (.diagnostic ⟨.unmatched, ⟨0, 2, 2⟩, ["\""], Nat.le_refl 1⟩) := by
    decide +kernel
  have htwo : tokenize "a\n;" = .ok [⟨.identifier, .text "a", ⟨0, 0, 1⟩⟩,
      ⟨.semicolon, .text ";", ⟨1, 0, 1⟩⟩, ⟨.endOfInput, .text [], ⟨1, 0, 1⟩⟩] := by
    decide +kernel
  have hnumeral : tokenize "\n (²" =
      .error (.diagnostic ⟨.invalidToken, ⟨1, 2, 1⟩, ["²"], Nat.le_refl 1⟩) := by
    decide +kernel
  have hcomment : tokenize "a # \"" = .ok [⟨.identifier, .text "a", ⟨0, 0, 1⟩⟩,
      ⟨.endOfInput, .text [], ⟨0, 0, 1⟩⟩] := by
    decide +kernel
  have hmark : tokenize ";" = .ok [⟨.semicolon, .text ";", ⟨0, 0, 1⟩⟩,
      ⟨.endOfInput, .text [], ⟨0, 0, 1⟩⟩] := by
    decide +kernel
  exact ⟨⟨_, hopen, (tokenize_lines "a \"b" "\"").1 _ hopen⟩,
    ⟨_, hnumeral, (tokenize_lines "a\n;" "\n (²").2.1 _ _ htwo hnumeral⟩,
    _, (tokenize_lines "a # \"" ";").2.2 _ _ hcomment hmark, rfl⟩

end Token

end SlotCompiler
