import SlotCompiler.Proofs.Token.Failure

namespace SlotCompiler.Token

open CodePoint (char)
open Lexeme (Takes)
open Text (Stops)

-- `Boundary front rest`: read from the left, `front` falls into lexemes, good or bad, and `rest`
-- makes none of them longer.
inductive Boundary : Text → Text → Prop where
  | start {rest : Text} : Boundary [] rest
  | lexeme {lexeme : Lexeme} {c : CodePoint} {more front rest : Text}
      (htakes : Takes lexeme c more (front ++ rest)) (h : Boundary front rest) :
      Boundary (c :: more ++ front) rest

-- The second scan counts only if the first one came to its end.
def Scanned.andThen (s next : Scanned) : Scanned :=
  match s.fault with
  | some _ => s
  | none => { next with tokens := s.tokens ++ next.tokens }

theorem Scanned.andThen_of_some {s : Scanned} {fault : Fault} (h : s.fault = some fault)
    (next : Scanned) : s.andThen next = s := by
  rw [andThen, h]

theorem Scanned.andThen_of_none {s : Scanned} (h : s.fault = none) (next : Scanned) :
    s.andThen next = { next with tokens := s.tokens ++ next.tokens } := by
  rw [andThen, h]

theorem Scanned.prepend_andThen (s next : Scanned) (token : Option Token) :
    (s.andThen next).prepend token = (s.prepend token).andThen next := by
  obtain ⟨tokens, mark, fault⟩ := s
  cases fault with
  | some fault => rfl
  | none => simp [andThen, prepend]

-- A lexeme is taken as well when the text after it ends early.
theorem Lexeme.Takes.cut {lexeme : Lexeme} {c : CodePoint} {more front rest : Text}
    (h : Takes lexeme c more (front ++ rest)) : Takes lexeme c more front := by
  cases h with
  | comment hmore hrest => exact .comment hmore hrest.cut
  | newline => exact .newline
  | string hbody => exact .string hbody
  | openQuote hmore hrest => exact .openQuote hmore hrest.cut
  | word hc hmore hrest => exact .word hc hmore hrest.cut
  | digits hc hmore hrest => exact .digits hc hmore hrest.cut
  | punctuation hc => exact .punctuation hc
  | blank hc hfeed => exact .blank hc hfeed
  | stray hhash hfeed hquote hword hdigit hmark hblank =>
      exact .stray hhash hfeed hquote hword hdigit hmark hblank

theorem Lexeme.Takes.unique {lexeme lexeme' : Lexeme} {c : CodePoint} {more more' rest rest' : Text}
    (h : Takes lexeme c more rest) (h' : Takes lexeme' c more' rest')
    (hsame : more ++ rest = more' ++ rest') : lexeme = lexeme' ∧ more = more' ∧ rest = rest' := by
  have hfirst := first_of_takes h
  rw [hsame, first_of_takes h'] at hfirst
  obtain ⟨rfl, rfl⟩ := Prod.mk.inj hfirst
  exact ⟨rfl, rfl, List.append_cancel_left hsame⟩

namespace Boundary

theorem single {lexeme : Lexeme} {c : CodePoint} {more rest : Text}
    (h : Takes lexeme c more rest) : Boundary (c :: more) rest := by
  have hlexeme : Boundary (c :: more ++ []) rest := .lexeme h .start
  rwa [List.append_nil] at hlexeme

theorem cut {front rest tail : Text} (h : Boundary front (rest ++ tail)) : Boundary front rest := by
  generalize hrest : rest ++ tail = text at h
  induction h with
  | start => exact .start
  | lexeme htakes _ ih =>
      subst hrest
      rw [← List.append_assoc] at htakes
      exact .lexeme htakes.cut (ih rfl)

theorem append {front middle rest : Text} (h : Boundary front (middle ++ rest))
    (h' : Boundary middle rest) : Boundary (front ++ middle) rest := by
  generalize hrest : middle ++ rest = text at h
  induction h with
  | start => exact h'
  | lexeme htakes _ ih =>
      subst hrest
      rw [← List.append_assoc] at htakes
      rw [List.append_assoc]
      exact .lexeme htakes (ih rfl)

theorem comparable {front front' rest rest' : Text} (h : Boundary front rest)
    (h' : Boundary front' rest') (hsame : front ++ rest = front' ++ rest') :
    (∃ middle, front' = front ++ middle ∧ Boundary middle rest') ∨
      ∃ middle, front = front' ++ middle ∧ Boundary middle rest := by
  induction h generalizing front' with
  | start => exact .inl ⟨front', rfl, h'⟩
  | @lexeme lexeme c more front rest htakes hfront ih =>
      cases h' with
      | start => exact .inr ⟨_, rfl, .lexeme htakes hfront⟩
      | @lexeme lexeme' c' more' front' _ htakes' hfront' =>
          simp only [List.cons_append, List.append_assoc, List.cons.injEq] at hsame
          obtain ⟨rfl, hsame⟩ := hsame
          obtain ⟨-, rfl, hrest⟩ := htakes.unique htakes' hsame
          rcases ih hfront' hrest with ⟨middle, rfl, hmiddle⟩ | ⟨middle, rfl, hmiddle⟩
          · exact .inl ⟨middle, by simp, hmiddle⟩
          · exact .inr ⟨middle, by simp, hmiddle⟩

theorem scanAfter_append {front rest : Text} (h : Boundary front rest) (before : Text) :
    scanAfter before (front ++ rest) =
      (scanAfter before front).andThen (scanAfter (before ++ front) rest) := by
  induction h generalizing before with
  | start =>
      rw [scanAfter_nil, Scanned.andThen_of_none rfl]
      simp
  | @lexeme lexeme c more front rest htakes _ ih =>
      rw [List.append_assoc, scanAfter_takes htakes, scanAfter_takes htakes.cut]
      cases ofLexeme lexeme c more (Span.past before (more.length + 1)) with
      | error fault => rfl
      | ok token =>
          dsimp only
          rw [ih, Scanned.prepend_andThen, List.append_assoc]

end Boundary

theorem exists_tokenize_iff {code : Text} :
    (∃ tokens, tokenize code = .ok tokens) ↔ (scanAfter [] code).fault = none := by
  simp [tokenize_eq_ok_iff]

theorem Piece.Ends.cut {p : Piece} {rest tail : Text} (h : p.Ends (rest ++ tail)) :
    p.Ends rest := by
  cases p with
  | word => exact Stops.cut h
  | number => exact Stops.cut h
  | _ => trivial

namespace Passed

theorem cut {before rest tail : Text} (h : Passed before (rest ++ tail)) : Passed before rest := by
  generalize hrest : rest ++ tail = text at h
  induction h generalizing rest with
  | start => exact .start
  | blank _ hc ih =>
      subst hrest
      exact .blank (ih (List.cons_append ..)) hc
  | comment _ hbody hstops ih =>
      subst hrest
      exact .comment (ih (List.append_assoc ..)) hbody hstops.cut
  | piece p _ hends ih =>
      subst hrest
      exact .piece p (ih (List.append_assoc ..)) hends.cut

theorem exists_tokenize {before rest : Text} (h : Passed before rest) :
    ∃ tokens, tokenize before = .ok tokens := by
  have hcut : Passed before [] := by
    rw [← List.nil_append rest] at h
    exact h.cut
  have hfault := hcut.fault_eq
  rw [List.append_nil] at hfault
  exact exists_tokenize_iff.mpr hfault

theorem boundary {before rest : Text} (h : Passed before rest) : Boundary before rest := by
  induction h with
  | start => exact .start
  | @blank before rest c _ hc ih =>
      have hlexeme : ∃ lexeme, Takes lexeme c [] rest := by
        by_cases hfeed : c = char '\n'
        · subst hfeed
          exact ⟨_, .newline⟩
        · exact ⟨_, .blank hc hfeed⟩
      obtain ⟨lexeme, htakes⟩ := hlexeme
      exact Boundary.append ih (.single htakes)
  | comment _ hbody hrest ih => exact Boundary.append ih (.single (.comment hbody hrest))
  | piece p _ hends ih =>
      obtain ⟨lexeme, c, more, htext, htakes, -⟩ := p.exists_takes hends
      rw [htext] at ih ⊢
      exact Boundary.append ih (.single htakes)

end Passed

end SlotCompiler.Token
