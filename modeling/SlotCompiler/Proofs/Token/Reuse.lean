import SlotCompiler.Proofs.Token.BadLexeme
import SlotCompiler.Proofs.Token.Lines

namespace SlotCompiler

open CodePoint (char)

theorem Fault.message_moved (f : Span → Span) (fault : Fault) :
    (fault.moved f).message = fault.message := by
  cases fault <;> rfl

namespace Token

-- A place in a text, counted on from a line that was reached before. The columns of the first line
-- are still counted from where that line has started.
def Mark.shift (m : Mark) (s : Span) : Span :=
  ⟨s.line + m.line, if s.line = 0 then s.column - m.start else s.column, s.length⟩

def Mark.resume (m fresh : Mark) : Mark :=
  ⟨m.line + fresh.line, if fresh.line = 0 then m.start else fresh.start⟩

def Scanned.shifted (m : Mark) (s : Scanned) : Scanned :=
  ⟨s.tokens.map (moved m.shift), m.resume s.mark, s.fault.map (.moved m.shift)⟩

theorem Mark.resume_fresh (m : Mark) : m.resume {} = m := rfl

-- On its first line, a fresh scanner counts the columns from the start of the text.
theorem Mark.span_resume {k : Mark} (hk : k.line = 0 → k.start = 0) (m : Mark)
    (offset length : Nat) :
    (m.resume k).span offset length = m.shift (k.span offset length) := by
  have hcolumn : (offset : Int) - (if k.line = 0 then m.start else k.start : Nat) =
      if (k.line : Int) = 0 then (offset : Int) - k.start - m.start
      else (offset : Int) - k.start := by
    by_cases hline : k.line = 0
    · rw [if_pos hline, if_pos (by omega), hk hline]
      omega
    · rw [if_neg hline, if_neg (by omega)]
  have hline : ((m.line + k.line : Nat) : Int) = k.line + m.line := by omega
  rw [Mark.span, resume, shift, Mark.span, hcolumn, hline]

theorem Mark.after_resume (m k : Mark) (lexeme : Lexeme) (offset : Nat) :
    (m.resume k).after lexeme offset = m.resume (k.after lexeme offset) := by
  by_cases hfeed : lexeme = .newline
  · simp only [after, if_pos hfeed, resume, if_neg (Nat.succ_ne_zero k.line), Nat.add_assoc]
  · simp only [after, if_neg hfeed]

theorem Mark.start_after {k : Mark} (hk : k.line = 0 → k.start = 0) (lexeme : Lexeme)
    (offset : Nat) :
    (k.after lexeme offset).line = 0 → (k.after lexeme offset).start = 0 := by
  rw [after]
  split
  · intro h
    exact absurd h (Nat.succ_ne_zero k.line)
  · exact hk

-- The two scans go side by side, lexeme by lexeme, and stop at the same one.
theorem scan_resume (m : Mark) {k : Mark} (hk : k.line = 0 → k.start = 0) (offset skip : Nat)
    (text : Text) : scan (m.resume k) offset skip text = (scan k offset skip text).shifted m := by
  induction text generalizing k offset skip with
  | nil => rw [scan, scan]; rfl
  | cons c rest ih =>
      cases skip with
      | succ skip => rw [scan, scan, ih hk]
      | zero =>
          rcases hfirst : Lexeme.first c rest with ⟨lexeme, more⟩
          have hrest := ih (Mark.start_after hk lexeme (offset + 1)) (offset + 1) more.length
          simp only [scan, hfirst, Mark.span_resume hk]
          rw [ofLexeme_moved fun _ => rfl]
          cases ofLexeme lexeme c more (k.span offset (more.length + 1)) with
          | error fault => rfl
          | ok token =>
              simp only [Mark.after_resume, hrest, Scanned.shifted, Scanned.prepend,
                List.map_append]
              cases token <;> rfl

theorem mark_scanAfter {before text : Text} (h : (scanAfter before text).fault = none) :
    (scanAfter before text).mark = .past (before ++ text) := by
  induction text using Lexeme.takes_induction generalizing before with
  | nil => rw [List.append_nil]; rfl
  | @lexeme lexeme c more rest htakes ih =>
      have hstep := scanAfter_takes htakes before
      cases hlexeme : ofLexeme lexeme c more (Span.past before (more.length + 1)) with
      | error fault =>
          rw [hstep, hlexeme] at h
          cases h
      | ok token =>
          simp only [hlexeme] at hstep
          rw [hstep] at h ⊢
          have hmark : (scanAfter (before ++ c :: more) rest).mark = _ := ih h
          rw [List.append_assoc] at hmark
          exact hmark

theorem Mark.resume_past (m : Mark) (scanned : Text) :
    m.resume (.past scanned) = ⟨m.line + scanned.count (char '\n'),
      if char '\n' ∈ scanned then (Mark.past scanned).start else m.start⟩ := by
  by_cases hfeed : char '\n' ∈ scanned
  · have hline : (Mark.past scanned).line ≠ 0 := by
      have hpos := List.count_pos_iff.mpr hfeed
      simp only [past]
      omega
    rw [resume, if_neg hline, if_pos hfeed]
    rfl
  · have hline : (Mark.past scanned).line = 0 := List.count_eq_zero.mpr hfeed
    rw [resume, if_pos hline, if_neg hfeed]
    rfl

namespace Scanner

def take (s : Scanner) (found : Scanned) : Except Fault Unit × Scanner :=
  let tokens := s.tokens ++ found.tokens
  match found.fault with
  | some fault => (.error fault, ⟨found.mark, tokens⟩)
  | none => (.ok (), ⟨found.mark, tokens ++ [endToken tokens]⟩)

theorem take_of_some {found : Scanned} {fault : Fault} (h : found.fault = some fault)
    (s : Scanner) : s.take found = (.error fault, ⟨found.mark, s.tokens ++ found.tokens⟩) := by
  simp only [take, h]

theorem take_of_none {found : Scanned} (h : found.fault = none) (s : Scanner) :
    s.take found = (.ok (), ⟨found.mark,
      s.tokens ++ found.tokens ++ [endToken (s.tokens ++ found.tokens)]⟩) := by
  simp only [take, h]

theorem read_fresh (code : Text) : read {} code = take {} (scanAfter [] code) := rfl

theorem read_eq_take (s : Scanner) (code : Text) :
    s.read code = s.take ((scanAfter [] code).shifted s.mark) := by
  have hscan := scan_resume s.mark (k := {}) (fun _ => rfl) 0 0 code
  rw [Mark.resume_fresh] at hscan
  exact congrArg s.take hscan

-- A scanner that is used again finds what a fresh one finds, and stops where a fresh one stops with
-- the same message. All of it is as many lines further down as were counted before, and the first
-- line counts its columns from where the line before the text has started. The end of input stands
-- at the last of all tokens, which may be one of an earlier text.
theorem read_shifts (s : Scanner) (code : Text) :
    ∃ scanned rest mark found, code = scanned ++ rest ∧
      (s.read code).2.mark = ⟨s.mark.line + scanned.count (char '\n'),
        if char '\n' ∈ scanned then mark.start else s.mark.start⟩ ∧
      ((rest = [] ∧ read {} code = (.ok (), ⟨mark, found ++ [endToken found]⟩) ∧
        (s.read code).1 = .ok () ∧
        let tokens := s.tokens ++ found.map (moved s.mark.shift)
        (s.read code).2.tokens = tokens ++
          [⟨.endOfInput, .text [], (tokens.getLast?.map (·.span)).getD ⟨0, 0, 0⟩⟩]) ∨
      ∃ fault, FailsAt code scanned rest fault ∧
        read {} code = (.error fault, ⟨mark, found⟩) ∧
        (s.read code).1 = .error (fault.moved s.mark.shift) ∧
        (fault.moved s.mark.shift).message = fault.message ∧
        (s.read code).2.tokens = s.tokens ++ found.map (moved s.mark.shift)) := by
  cases hfault : (scanAfter [] code).fault with
  | none =>
      have hfresh := (read_fresh code).trans (take_of_none hfault {})
      have hshifted : ((scanAfter [] code).shifted s.mark).fault = none := by
        rw [Scanned.shifted, hfault, Option.map_none]
      have hagain := (s.read_eq_take code).trans (take_of_none hshifted s)
      refine ⟨code, [], _, _, (List.append_nil code).symm, ?_, .inl ⟨rfl, hfresh, ?_, ?_⟩⟩
      · rw [hagain, Scanned.shifted, mark_scanAfter hfault]
        exact s.mark.resume_past code
      · rw [hagain]
      · rw [hagain]
        rfl
  | some fault =>
      obtain ⟨before, rest, hfails⟩ := exists_failsAt (tokenize_eq_error_iff.mpr hfault)
      have hmark : (scanAfter [] code).mark = .past before := by rw [hfails.scanAfter_eq]
      have hfresh := (read_fresh code).trans (take_of_some hfault {})
      have hshifted : ((scanAfter [] code).shifted s.mark).fault =
          some (fault.moved s.mark.shift) := by
        rw [Scanned.shifted, hfault, Option.map_some]
      have hagain := (s.read_eq_take code).trans (take_of_some hshifted s)
      refine ⟨before, rest, _, _, hfails.split, ?_,
        .inr ⟨fault, hfails, hfresh, ?_, Fault.message_moved _ fault, ?_⟩⟩
      · rw [hagain, Scanned.shifted, hmark]
        exact s.mark.resume_past before
      · rw [hagain]
      · rw [hagain]
        rfl

-- After a line feed and a blank, the first line of the next text starts two columns to the left.
example :
    let s := (read {} "a\n b").2
    s.mark = ⟨1, 2⟩ ∧
      (s.read "c\nd\"").1 =
        .error (.diagnostic ⟨.unmatched, ⟨2, 1, 1⟩, ["\""], Nat.le_refl 1⟩) ∧
      (s.read "c\nd\"").2 = ⟨⟨2, 2⟩, s.tokens ++
        [⟨.identifier, .text "c", ⟨1, -2, 1⟩⟩, ⟨.identifier, .text "d", ⟨2, 0, 1⟩⟩]⟩ := by
  decide +kernel

end Scanner

end Token

end SlotCompiler
