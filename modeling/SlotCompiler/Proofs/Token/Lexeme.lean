import SlotCompiler.Proofs.Text.Classes
import SlotCompiler.Proofs.Text.Place
import SlotCompiler.Token.Lexeme

namespace SlotCompiler.Token

open CodePoint (char)
open Text (Stops)

namespace Lexeme

-- `Takes lexeme c more rest`: before `rest`, the characters `c` and `more` are this lexeme.
inductive Takes : Lexeme → CodePoint → Text → Text → Prop where
  | comment {more rest : Text} (hmore : char '\n' ∉ more)
      (hrest : Stops (· != char '\n') rest) : Takes .comment (char '#') more rest
  | newline {rest : Text} : Takes .newline (char '\n') [] rest
  | string {body rest : Text} (hbody : ∀ d ∈ body, inString d = true) :
      Takes .string (char '\x22') (body ++ [char '\x22']) rest
  | openQuote {more rest : Text} (hmore : ∀ d ∈ more, inString d = true)
      (hrest : Stops (· != char '\n') rest) : Takes .openQuote (char '\x22') more rest
  | word {c : CodePoint} {more rest : Text} (hc : Text.isWordStart c = true)
      (hmore : ∀ d ∈ more, Text.isWord d = true) (hrest : Stops Text.isWord rest) :
      Takes .word c more rest
  | digits {c : CodePoint} {more rest : Text} (hc : c.isAsciiDigit = true)
      (hmore : ∀ d ∈ more, d.isAsciiDigit = true) (hrest : Stops CodePoint.isAsciiDigit rest) :
      Takes .digits c more rest
  | punctuation {c : CodePoint} {kind : Kind} {rest : Text} (hc : punctuation? c = some kind) :
      Takes (.punctuation kind) c [] rest
  | blank {c : CodePoint} {rest : Text} (hc : Text.isBlank c = true) (hfeed : c ≠ char '\n') :
      Takes .blank c [] rest
  | stray {c : CodePoint} {rest : Text} (hhash : c ≠ char '#') (hfeed : c ≠ char '\n')
      (hquote : c ≠ char '\x22') (hword : Text.isWordStart c = false)
      (hdigit : c.isAsciiDigit = false) (hmark : punctuation? c = none)
      (hblank : Text.isBlank c = false) : Takes .stray c [] rest

theorem punctuation?_eq_some {c : CodePoint} {kind : Kind} (h : punctuation? c = some kind) :
    c = char ';' ∧ kind = .semicolon ∨ c = char '(' ∧ kind = .openParen ∨
      c = char ')' ∧ kind = .closeParen ∨ c = char '=' ∧ kind = .assign := by
  unfold punctuation? at h
  split at h <;> simp_all

theorem punctuation?_eq_none_of_isBlank {c : CodePoint} (hc : Text.isBlank c = true) :
    punctuation? c = none := by
  cases hkind : punctuation? c with
  | none => rfl
  | some kind =>
      rcases punctuation?_eq_some hkind with ⟨rfl, -⟩ | ⟨rfl, -⟩ | ⟨rfl, -⟩ | ⟨rfl, -⟩
      all_goals exact absurd hc (by decide)

theorem first_of_takes {lexeme : Lexeme} {c : CodePoint} {more rest : Text}
    (h : Takes lexeme c more rest) : first c (more ++ rest) = (lexeme, more) := by
  cases h with
  | comment hmore hrest => simp [first, Text.takeWhile_append (Text.bne_of_not_mem hmore) hrest]
  | newline => rfl
  | @string body _ hbody =>
      have hquote : Stops inString (char '\x22' :: rest) := by simp [Stops, inString]
      simp [first, Text.takeWhile_append hbody hquote]
  | openQuote hmore hrest =>
      have hstop : Stops inString rest := by
        intro d hd
        have hfeed : d = char '\n' := by simpa using hrest d hd
        simp [inString, hfeed]
      simp only [first, Text.takeWhile_append hmore hstop, List.drop_left]
      cases rest with
      | nil => rfl
      | cons d tail =>
          obtain rfl : d = char '\n' := by simpa using hrest d rfl
          rfl
  | word hc hmore hrest =>
      have hhash := Text.ne_of_class (d := char '#') hc (by decide)
      have hfeed := Text.ne_of_class (d := char '\n') hc (by decide)
      have hquote := Text.ne_of_class (d := char '\x22') hc (by decide)
      simp [first, hhash, hfeed, hquote, hc, Text.takeWhile_append hmore hrest]
  | digits hc hmore hrest =>
      have hhash := Text.ne_of_class (d := char '#') hc (by decide)
      have hfeed := Text.ne_of_class (d := char '\n') hc (by decide)
      have hquote := Text.ne_of_class (d := char '\x22') hc (by decide)
      have hword := Text.isWordStart_eq_false_of_isAsciiDigit hc
      simp [first, hhash, hfeed, hquote, hword, hc, Text.takeWhile_append hmore hrest]
  | punctuation hc =>
      rcases punctuation?_eq_some hc with ⟨rfl, rfl⟩ | ⟨rfl, rfl⟩ | ⟨rfl, rfl⟩ | ⟨rfl, rfl⟩
      all_goals rfl
  | blank hc hfeed =>
      have hhash := Text.ne_of_class (d := char '#') hc (by decide)
      have hquote := Text.ne_of_class (d := char '\x22') hc (by decide)
      have hword : Text.isWordStart c = false := by
        simp [Text.isWordStart, Text.isWord_eq_false_of_isBlank hc]
      have hdigit := Text.isAsciiDigit_eq_false_of_isBlank hc
      have hmark := punctuation?_eq_none_of_isBlank hc
      simp [first, hhash, hfeed, hquote, hword, hdigit, hmark, hc]
  | stray hhash hfeed hquote hword hdigit hmark hblank =>
      simp [first, hhash, hfeed, hquote, hword, hdigit, hmark, hblank]

theorem exists_takes_quote (text : Text) : ∃ lexeme more rest,
    text = more ++ rest ∧ Takes lexeme (char '\x22') more rest := by
  have hsplit := List.takeWhile_append_dropWhile (p := inString) (l := text)
  have hbody : ∀ d ∈ text.takeWhile inString, inString d = true :=
    List.all_eq_true.mp List.all_takeWhile
  cases htail : text.dropWhile inString with
  | nil =>
      rw [htail] at hsplit
      exact ⟨.openQuote, _, [], hsplit.symm, .openQuote hbody (by simp [Stops])⟩
  | cons d tail =>
      have hd : inString d = false := Text.stops_dropWhile inString text d (by simp [htail])
      rw [htail] at hsplit
      by_cases hquote : d = char '\x22'
      · subst hquote
        exact ⟨.string, _, tail, hsplit.symm.trans (List.append_cons ..), .string hbody⟩
      · have hfeed : d = char '\n' := by simpa [inString, hquote] using hd
        exact ⟨.openQuote, _, d :: tail, hsplit.symm, .openQuote hbody (by simp [Stops, hfeed])⟩

theorem exists_takes (c : CodePoint) (text : Text) : ∃ lexeme more rest,
    text = more ++ rest ∧ Takes lexeme c more rest := by
  by_cases hhash : c = char '#'
  · subst hhash
    refine ⟨.comment, text.takeWhile (· != char '\n'), text.dropWhile (· != char '\n'),
      List.takeWhile_append_dropWhile.symm, .comment ?_ (Text.stops_dropWhile _ _)⟩
    intro h
    simpa using List.all_eq_true.mp List.all_takeWhile _ h
  by_cases hfeed : c = char '\n'
  · subst hfeed
    exact ⟨.newline, [], text, rfl, .newline⟩
  by_cases hquote : c = char '\x22'
  · subst hquote
    exact exists_takes_quote text
  by_cases hword : Text.isWordStart c = true
  · exact ⟨.word, _, text.dropWhile Text.isWord, List.takeWhile_append_dropWhile.symm,
      .word hword (List.all_eq_true.mp List.all_takeWhile) (Text.stops_dropWhile _ _)⟩
  by_cases hdigit : c.isAsciiDigit = true
  · exact ⟨.digits, _, text.dropWhile CodePoint.isAsciiDigit,
      List.takeWhile_append_dropWhile.symm,
      .digits hdigit (List.all_eq_true.mp List.all_takeWhile) (Text.stops_dropWhile _ _)⟩
  cases hmark : punctuation? c with
  | some kind => exact ⟨.punctuation kind, [], text, rfl, .punctuation hmark⟩
  | none =>
      by_cases hblank : Text.isBlank c = true
      · exact ⟨.blank, [], text, rfl, .blank hblank hfeed⟩
      · exact ⟨.stray, [], text, rfl, .stray hhash hfeed hquote (by simpa using hword)
          (by simpa using hdigit) hmark (by simpa using hblank)⟩

@[elab_as_elim] theorem takes_induction {motive : Text → Prop} (nil : motive [])
    (lexeme : ∀ {lexeme : Lexeme} {c : CodePoint} {more rest : Text},
      Takes lexeme c more rest → motive rest → motive (c :: more ++ rest))
    (text : Text) : motive text := by
  induction hn : text.length using Nat.strongRecOn generalizing text with
  | ind n ih =>
      cases text with
      | nil => exact nil
      | cons c text =>
          obtain ⟨_, more, rest, rfl, htakes⟩ := exists_takes c text
          have hlt : rest.length < n := by
            simp only [List.length_cons, List.length_append] at hn
            omega
          exact lexeme htakes (ih rest.length hlt rest rfl)

end Lexeme

end SlotCompiler.Token
