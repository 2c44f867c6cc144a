import SlotCompiler.Proofs.Token.Boundary

namespace SlotCompiler.Token

open CodePoint (char)
open Lexeme (Takes)
open Text (Stops)

-- `BadLexeme before text fault`: after `before`, the text starts with a lexeme that has this fault.
inductive BadLexeme (before : Text) : Text → Fault → Prop where
  | unclosed {more rest : Text} (hquote : char '\x22' ∉ more) (hfeed : char '\n' ∉ more)
      (hrest : Stops (· != char '\n') rest) :
      BadLexeme before (char '\x22' :: more ++ rest)
        (.diagnostic ⟨.unmatched, .past before (more.length + 1), ["\""], Nat.le_refl 1⟩)
  | great {digits rest : Text} (hne : digits ≠ []) (hdigits : ∀ c ∈ digits, c.isAsciiDigit = true)
      (hrest : Stops CodePoint.isAsciiDigit rest) (hlength : digits.length ≤ 4300)
      (hvalue : UInt64.size ≤ digits.decimalValue) :
      BadLexeme before (digits ++ rest)
        (.diagnostic ⟨.invalidToken, .past before digits.length, [digits], Nat.le_refl 1⟩)
  | long {digits rest : Text} (hdigits : ∀ c ∈ digits, c.isAsciiDigit = true)
      (hrest : Stops CodePoint.isAsciiDigit rest) (hlength : 4300 < digits.length) :
      BadLexeme before (digits ++ rest) (.digitRun digits.length)
  -- A character of words that is no decimal digit and starts no name. It is refused alone.
  | numeral {c : CodePoint} {rest : Text} (hword : Text.isWord c = true)
      (hdigit : Text.isDecimalDigit c = false) (hletter : Text.isLetter c = false)
      (hline : c ≠ char '_') :
      BadLexeme before (c :: rest)
        (.diagnostic ⟨.invalidToken, .past before 1, [[c]], Nat.le_refl 1⟩)
  -- Any other character that starts nothing, among them the decimal digits of other scripts.
  | stray {c : CodePoint} {rest : Text}
      (hword : Text.isWord c = false ∨ Text.isDecimalDigit c = true)
      (hdigit : c.isAsciiDigit = false) (hblank : Text.isBlank c = false)
      (hmark : c ∉ [char '\x22', char '#', char ';', char '(', char ')', char '=']) :
      BadLexeme before (c :: rest)
        (.diagnostic ⟨.invalidToken, .past before 1, [[c]], Nat.le_refl 1⟩)

namespace BadLexeme

theorem of_takes {lexeme : Lexeme} {before more rest : Text} {c : CodePoint} {fault : Fault}
    (h : Takes lexeme c more rest)
    (hfault : ofLexeme lexeme c more (.past before (more.length + 1)) = .error fault) :
    BadLexeme before (c :: more ++ rest) fault := by
  cases h with
  | comment => simp [ofLexeme] at hfault
  | newline => simp [ofLexeme] at hfault
  | string => simp [ofLexeme] at hfault
  | openQuote hmore hrest =>
      obtain rfl := Except.error.inj hfault
      exact .unclosed (Text.not_mem_of_class hmore (by decide))
        (Text.not_mem_of_class hmore (by decide)) hrest
  | word hc hmore hrest =>
      by_cases hname : Text.isNameStart c = true
      · simp [ofLexeme, hname] at hfault
      · rw [ofLexeme, if_neg hname] at hfault
        obtain rfl := Except.error.inj hfault
        simp only [Text.isNameStart, Bool.or_eq_true, beq_iff_eq, not_or,
          Bool.not_eq_true] at hname
        simp only [Text.isWordStart, Bool.and_eq_true, Bool.not_eq_true'] at hc
        exact .numeral hc.1 hc.2 hname.2 hname.1
  | digits hc hmore hrest =>
      have hdigits : ∀ d ∈ c :: more, d.isAsciiDigit = true :=
        List.forall_mem_cons.mpr ⟨hc, hmore⟩
      simp only [ofLexeme] at hfault
      split at hfault
      next hlong =>
        obtain rfl := Except.error.inj hfault
        exact .long hdigits hrest hlong
      next hshort =>
        split at hfault
        next hgreat =>
          obtain rfl := Except.error.inj hfault
          exact .great (List.cons_ne_nil c more) hdigits hrest (Nat.not_lt.mp hshort) hgreat
        next => cases hfault
  | punctuation => simp [ofLexeme] at hfault
  | blank => simp [ofLexeme] at hfault
  | stray hhash hfeed hquote hword hdigit hmark hblank =>
      obtain rfl := Except.error.inj hfault
      refine .stray ?_ hdigit hblank ?_
      · by_cases hc : Text.isWord c = true
        · exact .inr (by simpa [Text.isWordStart, hc] using hword)
        · exact .inl (by simpa using hc)
      · -- Punctuation is a lexeme.
        simp only [List.mem_cons, List.not_mem_nil, or_false]
        rintro (rfl | rfl | rfl | rfl | rfl | rfl)
        · exact hquote rfl
        · exact hhash rfl
        all_goals cases hmark

theorem exists_takes {before text : Text} {fault : Fault} (h : BadLexeme before text fault) :
    ∃ lexeme c more rest, text = c :: more ++ rest ∧ Takes lexeme c more rest ∧
      ofLexeme lexeme c more (.past before (more.length + 1)) = .error fault := by
  cases h with
  | @unclosed more rest hquote hfeed hrest =>
      have hmore : ∀ d ∈ more, Lexeme.inString d = true := by
        intro d hd
        simp [Lexeme.inString, Text.bne_of_not_mem hquote d hd, Text.bne_of_not_mem hfeed d hd]
      exact ⟨_, _, more, rest, rfl, .openQuote hmore hrest, rfl⟩
  | @great digits rest hne hdigits hrest hlength hvalue =>
      obtain ⟨c, more, rfl⟩ := List.exists_cons_of_ne_nil hne
      obtain ⟨hc, hmore⟩ := List.forall_mem_cons.mp hdigits
      refine ⟨_, c, more, rest, rfl, .digits hc hmore hrest, ?_⟩
      have hshort : ¬Number.digitLimit < more.length + 1 := Nat.not_lt.mpr hlength
      have hgreat : maxNumber < Text.decimalValue (c :: more) := hvalue
      simp only [ofLexeme, if_neg hshort, if_pos hgreat]
      rfl
  | @long digits rest hdigits hrest hlength =>
      cases digits with
      | nil => cases hlength
      | cons c more =>
          obtain ⟨hc, hmore⟩ := List.forall_mem_cons.mp hdigits
          exact ⟨_, c, more, rest, rfl, .digits hc hmore hrest, if_pos hlength⟩
  | @numeral c rest hword hdigit hletter hline =>
      have hstart : Text.isWordStart c = true := by simp [Text.isWordStart, hword, hdigit]
      have hname : ¬Text.isNameStart c = true := by simp [Text.isNameStart, hletter, hline]
      refine ⟨_, c, rest.takeWhile Text.isWord, rest.dropWhile Text.isWord, ?_,
        .word hstart (List.all_eq_true.mp List.all_takeWhile) (Text.stops_dropWhile _ _), ?_⟩
      · rw [List.cons_append, List.takeWhile_append_dropWhile]
      · rw [ofLexeme, if_neg hname]
        rfl
  | @stray c rest hword hdigit hblank hmark =>
      simp only [List.mem_cons, List.not_mem_nil, or_false, not_or] at hmark
      obtain ⟨hquote, hhash, hsemicolon, hopen, hclose, hassign⟩ := hmark
      have hstart : Text.isWordStart c = false := by
        rcases hword with hword | hword <;> simp [Text.isWordStart, hword]
      have hfeed : c ≠ char '\n' := by
        rintro rfl
        cases hblank
      have hnone : Lexeme.punctuation? c = none := by
        cases hkind : Lexeme.punctuation? c with
        | none => rfl
        | some kind =>
            rcases Lexeme.punctuation?_eq_some hkind with ⟨rfl, -⟩ | ⟨rfl, -⟩ | ⟨rfl, -⟩ | ⟨rfl, -⟩
            · exact absurd rfl hsemicolon
            · exact absurd rfl hopen
            · exact absurd rfl hclose
            · exact absurd rfl hassign
      exact ⟨_, c, [], rest, rfl, .stray hhash hfeed hquote hstart hdigit hnone hblank, rfl⟩

theorem scanAfter_eq {before text : Text} {fault : Fault} (h : BadLexeme before text fault) :
    scanAfter before text = ⟨[], .past before, some fault⟩ := by
  obtain ⟨lexeme, c, more, rest, rfl, htakes, hfault⟩ := h.exists_takes
  rw [scanAfter_takes htakes, hfault]

-- Whatever goes on to a later boundary takes in the whole lexeme.
theorem cut {before middle rest : Text} {fault : Fault}
    (h : BadLexeme before (middle ++ rest) fault) (hmiddle : Boundary middle rest)
    (hne : middle ≠ []) : BadLexeme before middle fault := by
  obtain ⟨lexeme, c, more, tail, hsplit, htakes, hfault⟩ := h.exists_takes
  cases hmiddle with
  | start => exact absurd rfl hne
  | lexeme htakes' =>
      simp only [List.cons_append, List.append_assoc, List.cons.injEq] at hsplit
      obtain ⟨rfl, hsame⟩ := hsplit
      obtain ⟨rfl, rfl, -⟩ := htakes'.unique htakes hsame
      exact of_takes htakes'.cut hfault

end BadLexeme

-- The code is cut at a boundary of its scan, into a text that has tokens and one that starts with a
-- bad lexeme.
structure FailsAt (code before rest : Text) (fault : Fault) : Prop where
  split : code = before ++ rest
  reads : ∃ tokens, tokenize before = .ok tokens
  boundary : Boundary before rest
  bad : BadLexeme before rest fault

namespace FailsAt

variable {code before rest : Text} {fault : Fault}

theorem scanAfter_eq (h : FailsAt code before rest fault) :
    scanAfter [] code = ⟨(scanAfter [] before).tokens, .past before, some fault⟩ := by
  have hnone := exists_tokenize_iff.mp h.reads
  rw [h.split, h.boundary.scanAfter_append, List.nil_append, h.bad.scanAfter_eq,
    Scanned.andThen_of_none hnone, List.append_nil]

theorem eq_nil {middle rest' : Text} {fault' : Fault} (h : FailsAt code before rest fault)
    (h' : FailsAt code (before ++ middle) rest' fault') (hmiddle : Boundary middle rest') :
    middle = [] := by
  by_contra hne
  have hrest : rest = middle ++ rest' := by
    have hsame := h.split.symm.trans h'.split
    rw [List.append_assoc] at hsame
    exact List.append_cancel_left hsame
  have hboundary := h.boundary
  have hbad := h.bad
  rw [hrest] at hboundary hbad
  have hscan := hboundary.cut.scanAfter_append []
  have hnone := exists_tokenize_iff.mp h.reads
  rw [List.nil_append, (hbad.cut hmiddle hne).scanAfter_eq, Scanned.andThen_of_none hnone] at hscan
  have hnone' := exists_tokenize_iff.mp h'.reads
  rw [hscan] at hnone'
  cases hnone'

theorem unique {before' rest' : Text} {fault' : Fault} (h : FailsAt code before rest fault)
    (h' : FailsAt code before' rest' fault') : before' = before := by
  rcases h.boundary.comparable h'.boundary (h.split.symm.trans h'.split) with
    ⟨middle, rfl, hmiddle⟩ | ⟨middle, rfl, hmiddle⟩
  · rw [h.eq_nil h' hmiddle, List.append_nil]
  · rw [h'.eq_nil h hmiddle, List.append_nil]

end FailsAt

theorem exists_failsAt {code : Text} {fault : Fault} (h : tokenize code = .error fault) :
    ∃ before rest, FailsAt code before rest fault := by
  obtain ⟨before, lexeme, c, more, rest, rfl, hpassed, htakes, hfault⟩ :=
    exists_of_tokenize_eq_error h
  exact ⟨before, c :: more ++ rest, rfl, hpassed.exists_tokenize, hpassed.boundary,
    .of_takes htakes hfault⟩

-- Tokenizing fails exactly where a bad lexeme comes first. There is one such place; the fault is
-- that of the lexeme, and the scanner is left with the tokens before it.
theorem tokenize_fails_at_first_bad (code : Text) :
    ((∃ fault, tokenize code = .error fault) ↔
      ∃ before rest fault, FailsAt code before rest fault) ∧
    ∀ before rest fault, FailsAt code before rest fault →
      tokenize code = .error fault ∧
      (∀ before' rest' fault', FailsAt code before' rest' fault' → before' = before) ∧
      ∀ tokens, tokenize before = .ok tokens →
        (Scanner.read {} code).2.tokens = tokens.dropLast := by
  have hfails : ∀ before rest fault, FailsAt code before rest fault →
      tokenize code = .error fault := by
    intro before rest fault h
    rw [tokenize_eq_error_iff, h.scanAfter_eq]
  refine ⟨⟨?_, ?_⟩, ?_⟩
  · rintro ⟨fault, h⟩
    obtain ⟨before, rest, hfailsAt⟩ := exists_failsAt h
    exact ⟨before, rest, fault, hfailsAt⟩
  · rintro ⟨before, rest, fault, h⟩
    exact ⟨fault, hfails before rest fault h⟩
  · intro before rest fault h
    refine ⟨hfails before rest fault h, fun _ _ _ h' => h.unique h', ?_⟩
    intro tokens htokens
    have hstart : scan {} 0 0 code = scanAfter [] code := rfl
    obtain ⟨-, rfl⟩ := tokenize_eq_ok_iff.mp htokens
    simp only [Scanner.read, hstart, h.scanAfter_eq, List.nil_append, List.dropLast_concat]

-- A superscript is part of a name but starts none. After a number it is refused, alone.
theorem tokenize_fails_at_first_bad_superscript :
    FailsAt "7²a" "7" "²a" (.diagnostic ⟨.invalidToken, ⟨0, 1, 1⟩, ["²"], Nat.le_refl 1⟩) ∧
    tokenize "7²a" = .error (.diagnostic ⟨.invalidToken, ⟨0, 1, 1⟩, ["²"], Nat.le_refl 1⟩) ∧
    (Scanner.read {} "7²a").2.tokens = [⟨.number, .int 7, ⟨0, 0, 1⟩⟩] := by
  have hseven : Boundary "7" "²a" :=
    .single (.digits (by decide) (by simp) (by simp [Stops]; decide))
  have hbad : BadLexeme "7" "²a"
      (.diagnostic ⟨.invalidToken, ⟨0, 1, 1⟩, ["²"], Nat.le_refl 1⟩) :=
    .numeral (by decide +kernel) (by decide +kernel) (by decide +kernel) (by decide)
  have htokens : tokenize "7" = .ok
      [⟨.number, .int 7, ⟨0, 0, 1⟩⟩, ⟨.endOfInput, .text [], ⟨0, 0, 1⟩⟩] := by
    decide +kernel
  have hfails : FailsAt "7²a" "7" "²a"
      (.diagnostic ⟨.invalidToken, ⟨0, 1, 1⟩, ["²"], Nat.le_refl 1⟩) :=
    ⟨rfl, ⟨_, htokens⟩, hseven, hbad⟩
  obtain ⟨herror, -, hscanner⟩ := (tokenize_fails_at_first_bad "7²a").2 _ _ _ hfails
  exact ⟨hfails, herror, hscanner _ htokens⟩

end SlotCompiler.Token
