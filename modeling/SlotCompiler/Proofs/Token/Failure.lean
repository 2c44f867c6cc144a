import SlotCompiler.Proofs.Token.Tokenize

namespace SlotCompiler.Token

open CodePoint (char)
open Lexeme (Takes)
open Text (Stops)

-- `Passed before rest`: read from the left, the text before `rest` falls into blanks, comments and
-- pieces, none of which `rest` makes longer.
inductive Passed : Text → Text → Prop where
  | start {text : Text} : Passed [] text
  | blank {before rest : Text} {c : CodePoint} (h : Passed before (c :: rest))
      (hc : Text.isBlank c = true) : Passed (before ++ [c]) rest
  | comment {before body rest : Text} (h : Passed before (char '#' :: body ++ rest))
      (hbody : char '\n' ∉ body) (hrest : Stops (· != char '\n') rest) :
      Passed (before ++ char '#' :: body) rest
  | piece {before rest : Text} (p : Piece) (h : Passed before (p.text ++ rest))
      (hends : p.Ends rest) : Passed (before ++ p.text) rest

theorem Passed.fault_eq {before rest : Text} (h : Passed before rest) :
    (scanAfter [] (before ++ rest)).fault = (scanAfter before rest).fault := by
  induction h with
  | start => rfl
  | blank _ hc ih => rw [List.append_assoc, List.singleton_append, ih, scanAfter_blank hc]
  | comment _ hbody hrest ih => rw [List.append_assoc, ih, scanAfter_comment hbody hrest]
  | piece p _ hends ih =>
      rw [List.append_assoc, ih, scanAfter_piece p hends]
      rfl

theorem Passed.lexeme {before more rest : Text} {c : CodePoint} {lexeme : Lexeme} {span : Span}
    {token : Option Token} (h : Passed before (c :: more ++ rest))
    (htakes : Takes lexeme c more rest) (hok : ofLexeme lexeme c more span = .ok token) :
    Passed (before ++ c :: more) rest := by
  cases token with
  | some t =>
      obtain ⟨p, hp, hends, -⟩ := exists_piece htakes hok
      rw [← hp] at h ⊢
      exact .piece p h hends
  | none =>
      rcases blank_or_comment htakes hok with ⟨hc, rfl⟩ | ⟨rfl, hmore, hstops⟩
      · exact .blank h hc
      · exact .comment h hmore hstops

theorem exists_of_fault {text before : Text} {fault : Fault} (hpassed : Passed before text)
    (h : (scanAfter before text).fault = some fault) :
    ∃ front lexeme c more rest, before ++ text = front ++ (c :: more ++ rest) ∧
      Passed front (c :: more ++ rest) ∧ Takes lexeme c more rest ∧
      ofLexeme lexeme c more (.past front (more.length + 1)) = .error fault := by
  induction text using Lexeme.takes_induction generalizing before with
  | nil => cases h
  | @lexeme lexeme c more rest htakes ih =>
      have hstep := scanAfter_takes htakes before
      cases hlexeme : ofLexeme lexeme c more (Span.past before (more.length + 1)) with
      | error fault' =>
          rw [hstep, hlexeme] at h
          obtain rfl := Option.some.inj h
          exact ⟨before, lexeme, c, more, rest, rfl, hpassed, htakes, hlexeme⟩
      | ok token =>
          simp only [hlexeme] at hstep
          have hrest : (scanAfter (before ++ c :: more) rest).fault = some fault := by
            rw [hstep] at h
            exact h
          obtain ⟨front, lexeme', c', more', rest', hfront, hfailed⟩ :=
            ih (hpassed.lexeme htakes hlexeme) hrest
          exact ⟨front, lexeme', c', more', rest', by simpa using hfront, hfailed⟩

theorem exists_of_tokenize_eq_error {code : Text} {fault : Fault}
    (h : tokenize code = .error fault) :
    ∃ before lexeme c more rest, code = before ++ (c :: more ++ rest) ∧
      Passed before (c :: more ++ rest) ∧ Takes lexeme c more rest ∧
      ofLexeme lexeme c more (.past before (more.length + 1)) = .error fault :=
  exists_of_fault .start (tokenize_eq_error_iff.mp h)

theorem Passed.tokenize_eq_error {before more rest : Text} {c : CodePoint} {lexeme : Lexeme}
    {fault : Fault} (h : Passed before (c :: more ++ rest)) (htakes : Takes lexeme c more rest)
    (hfault : ofLexeme lexeme c more (.past before (more.length + 1)) = .error fault) :
    tokenize (before ++ (c :: more ++ rest)) = .error fault := by
  have hscan := h.fault_eq
  rw [scanAfter_takes htakes, hfault] at hscan
  exact tokenize_eq_error_iff.mpr hscan

-- The lexemes that have a fault: a quote that is not closed on its line, a word that starts with a
-- numeral, a number that is too long or too great, and a character that starts nothing.
theorem ofLexeme_eq_error_cases {lexeme : Lexeme} {c : CodePoint} {more rest : Text} {span : Span}
    {fault : Fault} (h : Takes lexeme c more rest)
    (hfault : ofLexeme lexeme c more span = .error fault) :
    (c = char '\x22' ∧ char '\x22' ∉ more ∧ Stops (· != char '\n') rest ∧
      fault = .report .unmatched span [.text "\""]) ∨
    (Text.isWordStart c = true ∧ Text.isNameStart c = false ∧
      fault = .report .invalidToken { span with length := 1 } [.text [c]]) ∨
    ((∀ d ∈ c :: more, d.isAsciiDigit = true) ∧ Stops CodePoint.isAsciiDigit rest ∧
      Number.digitLimit < more.length + 1 ∧ fault = .digitRun (more.length + 1)) ∨
    fault = .report .invalidToken span [.text (c :: more)] := by
  cases h with
  | comment => simp [ofLexeme] at hfault
  | newline => simp [ofLexeme] at hfault
  | string => simp [ofLexeme] at hfault
  | openQuote hmore hrest =>
      simp only [ofLexeme, Except.error.injEq] at hfault
      exact .inl ⟨rfl, Text.not_mem_of_class hmore (by decide), hrest, hfault.symm⟩
  | word hc =>
      by_cases hname : Text.isNameStart c = true
      · simp [ofLexeme, hname] at hfault
      · simp only [ofLexeme, if_neg hname, Except.error.injEq] at hfault
        exact .inr (.inl ⟨hc, by simpa using hname, hfault.symm⟩)
  | digits hc hmore hrest =>
      simp only [ofLexeme] at hfault
      split at hfault
      next hlong =>
        exact .inr (.inr (.inl ⟨List.forall_mem_cons.mpr ⟨hc, hmore⟩, hrest, hlong,
          (Except.error.inj hfault).symm⟩))
      next =>
        split at hfault
        · exact .inr (.inr (.inr (Except.error.inj hfault).symm))
        · cases hfault
  | punctuation => simp [ofLexeme] at hfault
  | blank => simp [ofLexeme] at hfault
  | stray =>
      simp only [ofLexeme, Except.error.injEq] at hfault
      exact .inr (.inr (.inr hfault.symm))

structure DigitRun (before digits rest : Text) : Prop where
  isAsciiDigit : ∀ c ∈ digits, c.isAsciiDigit = true
  starts : ∀ c ∈ before.getLast?, c.isAsciiDigit = false
  stops : Stops CodePoint.isAsciiDigit rest

-- Whatever is passed right before a digit does not end with one.
theorem Passed.last_not_digit {before rest : Text} {d : CodePoint} (h : Passed before (d :: rest))
    (hd : d.isAsciiDigit = true) : ∀ c ∈ before.getLast?, c.isAsciiDigit = false := by
  cases h with
  | start => simp
  | blank _ hc => simpa using Text.isAsciiDigit_eq_false_of_isBlank hc
  | comment _ _ hrest =>
      have hfeed : d = char '\n' := by simpa using hrest d rfl
      rw [hfeed] at hd
      cases hd
  | piece p _ hends =>
      cases p with
      | word =>
          have hword := hends d rfl
          simp [Text.isWord, Text.isDecimalDigit_of_isAsciiDigit hd] at hword
      | number =>
          have hdigit := hends d rfl
          simp [hd] at hdigit
      | quoted =>
          rw [Piece.text, ← List.append_assoc, List.getLast?_concat]
          rintro c ⟨⟩
          rfl
      | _ =>
          rw [Piece.text, List.getLast?_concat]
          rintro c ⟨⟩
          rfl

theorem tokenize_eq_digitRun_iff {code : Text} {n : Nat} :
    tokenize code = .error (.digitRun n) ↔ ∃ before digits rest, code = before ++ (digits ++ rest) ∧
      Passed before (digits ++ rest) ∧ DigitRun before digits rest ∧
      Number.digitLimit < digits.length ∧ digits.length = n := by
  constructor
  · intro h
    obtain ⟨before, lexeme, c, more, rest, rfl, hpassed, htakes, hfault⟩ :=
      exists_of_tokenize_eq_error h
    rcases ofLexeme_eq_error_cases htakes hfault with
      ⟨-, -, -, hn⟩ | ⟨-, -, hn⟩ | ⟨hdigits, hstops, hlong, hn⟩ | hn
    · cases hn
    · cases hn
    · obtain rfl := Fault.digitRun.inj hn
      have hstarts := hpassed.last_not_digit (hdigits c List.mem_cons_self)
      exact ⟨before, c :: more, rest, rfl, hpassed, ⟨hdigits, hstarts, hstops⟩, hlong, rfl⟩
    · cases hn
  · rintro ⟨before, digits, rest, rfl, hpassed, hrun, hlong, rfl⟩
    cases digits with
    | nil => cases hlong
    | cons c more =>
        obtain ⟨hc, hmore⟩ := List.forall_mem_cons.mp hrun.isAsciiDigit
        apply hpassed.tokenize_eq_error (.digits hc hmore hrun.stops)
        exact if_pos hlong

end SlotCompiler.Token
