import SlotCompiler.Proofs.Token.Lexeme
import SlotCompiler.Token.Scanner

namespace SlotCompiler.Token

open CodePoint (char)
open Lexeme (Takes)

def Mark.past (before : Text) : Mark :=
  ⟨before.count (char '\n'), before.length - (Text.lastLine before).length⟩

def scanAfter (before text : Text) : Scanned := scan (.past before) before.length 0 text

theorem Mark.span_past (before : Text) (length : Nat) :
    (Mark.past before).span before.length length = Span.past before length := by
  have hle := Text.length_lastLine_le before
  simp only [Mark.span, Mark.past, Span.past, Span.mk.injEq, true_and, and_true]
  omega

theorem Mark.past_append {before w : Text} (h : char '\n' ∉ w) :
    Mark.past (before ++ w) = Mark.past before := by
  have hle := Text.length_lastLine_le before
  simp only [Mark.past, Text.lastLine_append h, List.count_append, List.count_eq_zero.mpr h,
    List.length_append, Mark.mk.injEq]
  omega

theorem Mark.past_append_lineFeed (before : Text) :
    Mark.past (before ++ [char '\n']) = ⟨(Mark.past before).line + 1, before.length + 1⟩ := by
  have hlast := Text.lastLine_append_lineFeed before (w := []) (by simp)
  simp [Mark.past, hlast]

theorem Lexeme.Takes.not_mem {lexeme : Lexeme} {c : CodePoint} {more rest : Text}
    (h : Takes lexeme c more rest) (hne : lexeme ≠ .newline) : char '\n' ∉ c :: more := by
  cases h with
  | comment hmore hrest => simpa using hmore
  | newline => exact absurd rfl hne
  | string hbody => simpa using Text.not_mem_of_class hbody (by decide)
  | openQuote hmore hrest => simpa using Text.not_mem_of_class hmore (by decide)
  | word hc hmore hrest =>
      have hfeed := Text.ne_of_class (d := char '\n') hc (by decide)
      simpa [Ne.symm hfeed] using Text.not_mem_of_class hmore (by decide)
  | digits hc hmore hrest =>
      have hfeed := Text.ne_of_class (d := char '\n') hc (by decide)
      simpa [Ne.symm hfeed] using Text.not_mem_of_class hmore (by decide)
  | punctuation hc =>
      rcases punctuation?_eq_some hc with ⟨rfl, -⟩ | ⟨rfl, -⟩ | ⟨rfl, -⟩ | ⟨rfl, -⟩
      all_goals decide
  | blank hc hfeed => simpa using Ne.symm hfeed
  | stray hhash hfeed => simpa using Ne.symm hfeed

theorem Mark.after_past {lexeme : Lexeme} {c : CodePoint} {more rest : Text}
    (h : Takes lexeme c more rest) (before : Text) :
    (Mark.past before).after lexeme (before.length + 1) = Mark.past (before ++ c :: more) := by
  by_cases hfeed : lexeme = .newline
  · subst hfeed
    cases h
    simp [Mark.after, Mark.past_append_lineFeed]
  · rw [Mark.after, if_neg hfeed, Mark.past_append (h.not_mem hfeed)]

theorem scan_skip (mark : Mark) (offset skip : Nat) (text : Text) :
    scan mark offset skip text = scan mark (offset + skip) 0 (text.drop skip) := by
  induction text generalizing offset skip with
  | nil => simp [scan]
  | cons c text ih =>
      cases skip with
      | zero => rfl
      | succ skip =>
          rw [scan, ih, List.drop_succ_cons]
          congr 1
          omega

@[simp] theorem scanAfter_nil (before : Text) :
    scanAfter before [] = ⟨[], .past before, none⟩ := rfl

-- One step: the first lexeme gives its token, or the scan ends with its fault.
theorem scanAfter_takes {lexeme : Lexeme} {c : CodePoint} {more rest : Text}
    (h : Takes lexeme c more rest) (before : Text) :
    scanAfter before (c :: more ++ rest) =
      match ofLexeme lexeme c more (Span.past before (more.length + 1)) with
      | .ok token => (scanAfter (before ++ c :: more) rest).prepend token
      | .error fault => ⟨[], .past before, some fault⟩ := by
  rw [scanAfter, List.cons_append, scan, Lexeme.first_of_takes h]
  simp only [Mark.span_past]
  cases ofLexeme lexeme c more (Span.past before (more.length + 1)) with
  | error fault => rfl
  | ok token =>
      have hoffset : before.length + 1 + more.length = (before ++ c :: more).length := by
        simp only [List.length_append, List.length_cons]
        omega
      simp only [scanAfter]
      rw [scan_skip, List.drop_left, Mark.after_past h, hoffset]

end SlotCompiler.Token
