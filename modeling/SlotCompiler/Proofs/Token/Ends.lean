import SlotCompiler.Proofs.Text.Ends
import SlotCompiler.Proofs.Token.BadLexeme
import SlotCompiler.Proofs.Token.Lines

namespace SlotCompiler

open CodePoint (char)

def Diagnostic.longer (d : Diagnostic) : Diagnostic :=
  { d with span := { d.span with length := d.span.length + 1 } }

-- With a return at the end of each of the first so many lines, a quote that is not closed there
-- reaches over it.
def Diagnostic.overReturns (lines : Nat) (d : Diagnostic) : Diagnostic :=
  if d.kind = .unmatched ∧ d.span.line < lines then d.longer else d

def Fault.overReturns (lines : Nat) : Fault → Fault
  | .diagnostic d => .diagnostic (d.overReturns lines)
  | fault => fault

theorem Fault.moved_overReturns (lines : Nat) (fault : Fault) :
    (fault.overReturns lines).moved (.down 1) =
      (fault.moved (.down 1)).overReturns (lines + 1) := by
  cases fault with
  | diagnostic d =>
      have hline : (d.span.line < lines) ↔ (d.span.down 1).line < (lines + 1 : Nat) := by
        simp only [Span.down]
        omega
      by_cases h : d.kind = .unmatched ∧ d.span.line < lines
      · have h' : d.kind = .unmatched ∧ (d.span.down 1).line < (lines + 1 : Nat) :=
          ⟨h.1, hline.mp h.2⟩
        simp only [overReturns, moved, Diagnostic.overReturns, if_pos h, if_pos h']
        rfl
      · have h' : ¬(d.kind = .unmatched ∧ (d.span.down 1).line < (lines + 1 : Nat)) :=
          fun hd => h ⟨hd.1, hline.mpr hd.2⟩
        simp only [overReturns, moved, Diagnostic.overReturns, if_neg h, if_neg h']
  | _ => rfl

theorem Fault.overReturns_unmatched {before : Text} {lines : Nat}
    (h : before.count (char '\n') < lines) (n : Nat) :
    overReturns lines (.report .unmatched (.past before n) [.text "\""]) =
      .report .unmatched (.past before (n + 1)) [.text "\""] := by
  have hline : (Span.past before n).line < lines := by
    simp only [Span.past]
    omega
  show diagnostic (Diagnostic.overReturns lines ⟨.unmatched, .past before n, ["\""], _⟩) = _
  rw [Diagnostic.overReturns, if_pos ⟨rfl, hline⟩]
  rfl

namespace Token

open Lexeme (Takes)
open Text (Stops)

-- Only a quote that is not closed is reported as such.
theorem overReturns_of_ofLexeme {lexeme : Lexeme} {c : CodePoint} {more : Text} {span : Span}
    {fault : Fault} (hne : lexeme ≠ .openQuote) (h : ofLexeme lexeme c more span = .error fault)
    (lines : Nat) : fault.overReturns lines = fault := by
  cases lexeme with
  | openQuote => exact absurd rfl hne
  | word =>
      simp only [ofLexeme] at h
      split at h
      · cases h
      · obtain rfl := Except.error.inj h
        rfl
  | digits =>
      simp only [ofLexeme] at h
      split at h
      · obtain rfl := Except.error.inj h
        rfl
      · split at h
        · obtain rfl := Except.error.inj h
          rfl
        · cases h
  | stray =>
      obtain rfl := Except.error.inj h
      rfl
  | _ => cases h

-- On a line of its own, a comment or a quote that is not closed takes in a return after it.
theorem Lexeme.Takes.take_return {lexeme : Lexeme} {c : CodePoint} {more rest : Text}
    (h : Takes lexeme c more rest) (hopen : lexeme = .comment ∨ lexeme = .openQuote)
    (hrest : char '\n' ∉ rest) : rest = [] ∧ Takes lexeme c (more ++ [char '\r']) [] := by
  have hnil : Stops (· != char '\n') rest → rest = [] := by
    intro hstops
    cases rest with
    | nil => rfl
    | cons d rest =>
        have hd : d = char '\n' := by simpa using hstops d rfl
        exact absurd (by simp [hd]) hrest
  have hend : Stops (· != char '\n') [] := by simp [Stops]
  rcases hopen with rfl | rfl
  · cases h with
    | comment hmore hstops => exact ⟨hnil hstops, .comment (by simpa using hmore) hend⟩
  · cases h with
    | openQuote hmore hstops =>
        refine ⟨hnil hstops, .openQuote ?_ hend⟩
        rw [List.forall_mem_append]
        exact ⟨hmore, by decide⟩

theorem scanAfter_return {w : Text} (hw : char '\n' ∉ w) {before : Text} {lines : Nat}
    (hlines : before.count (char '\n') < lines) :
    (scanAfter before (w ++ [char '\r'])).tokens = (scanAfter before w).tokens ∧
    (scanAfter before (w ++ [char '\r'])).fault =
      (scanAfter before w).fault.map (.overReturns lines) := by
  induction w using Lexeme.takes_induction generalizing before with
  | nil =>
      rw [List.nil_append, scanAfter_blank (by decide)]
      exact ⟨rfl, rfl⟩
  | @lexeme lexeme c more rest htakes ih =>
      rw [List.mem_append, not_or] at hw
      by_cases hopen : lexeme = .comment ∨ lexeme = .openQuote
      · obtain ⟨rfl, hreturn⟩ := htakes.take_return hopen hw.2
        have hstep := scanAfter_takes hreturn before
        rw [List.append_nil, ← List.cons_append] at hstep
        rw [List.append_nil, hstep, ← List.append_nil (c :: more), scanAfter_takes htakes]
        rcases hopen with rfl | rfl
        · exact ⟨rfl, rfl⟩
        · refine ⟨rfl, ?_⟩
          have hlonger := Fault.overReturns_unmatched hlines (more.length + 1)
          simp only [ofLexeme, Option.map_some, hlonger, List.length_append, List.length_singleton]
      · rw [not_or] at hopen
        have hreturn := htakes.append_blank (d := char '\r') (by decide) (.inr hopen) []
        have hcount : (before ++ c :: more).count (char '\n') < lines := by
          rwa [List.count_append, List.count_eq_zero.mpr hw.1, Nat.add_zero]
        have hrest := ih hw.2 hcount
        rw [List.append_assoc, scanAfter_takes hreturn, scanAfter_takes htakes]
        cases hlexeme : ofLexeme lexeme c more (Span.past before (more.length + 1)) with
        | error fault =>
            refine ⟨rfl, ?_⟩
            rw [Option.map_some, overReturns_of_ofLexeme hopen.2 hlexeme]
        | ok token =>
            refine ⟨?_, hrest.2⟩
            simp only [Scanned.prepend, hrest.1]

theorem line_nonneg_of_fault {code : Text} {d : Diagnostic}
    (h : (scanAfter [] code).fault = some (.diagnostic d)) : 0 ≤ d.span.line := by
  obtain ⟨before, rest, hfails⟩ := exists_failsAt (tokenize_eq_error_iff.mpr h)
  cases hfails.bad <;> exact Int.natCast_nonneg _

-- With returns before the line feeds, all is found where it was, and a quote that is not closed
-- before a line feed is one character longer.
theorem scanAfter_ended (code : Text) :
    (scanAfter [] (code.ended .returnFeed)).tokens = (scanAfter [] code).tokens ∧
    (scanAfter [] (code.ended .returnFeed)).fault =
      (scanAfter [] code).fault.map (.overReturns (code.count (char '\n'))) := by
  induction code using Text.line_induction with
  | last line hline =>
      rw [Text.ended_of_not_mem _ hline, List.count_eq_zero.mpr hline]
      refine ⟨rfl, ?_⟩
      cases hfault : (scanAfter [] line).fault with
      | none => rfl
      | some fault =>
          cases fault with
          | diagnostic d =>
              have hnonneg := line_nonneg_of_fault hfault
              have hnot : ¬(d.kind = .unmatched ∧ d.span.line < (0 : Nat)) := by omega
              simp only [Option.map_some, Fault.overReturns, Diagnostic.overReturns, if_neg hnot]
          | _ => rfl
  | line line rest hline ih =>
      have hsplit : (line ++ char '\n' :: rest).ended .returnFeed =
          line ++ [char '\r'] ++ char '\n' :: rest.ended .returnFeed := by
        rw [Text.ended_line _ hline]
        simp [Text.LineEnd.text]
      have hcount : (line ++ char '\n' :: rest).count (char '\n') = rest.count (char '\n') + 1 := by
        rw [List.count_append, List.count_eq_zero.mpr hline, List.count_cons_self, Nat.zero_add]
      have hone : line.count (char '\n') + 1 = 1 ∧
          (line ++ [char '\r']).count (char '\n') + 1 = 1 := by
        simp [List.count_eq_zero.mpr hline]
      have hlines : ([] : Text).count (char '\n') < rest.count (char '\n') + 1 := by simp
      obtain ⟨htokens, hfault⟩ := scanAfter_return hline hlines
      obtain ⟨hbelow, hbelow'⟩ := scanAfter_append_cons line [] rest
      obtain ⟨hended, hended'⟩ := scanAfter_append_cons (line ++ [char '\r']) []
        (rest.ended .returnFeed)
      rw [hone.1] at hbelow hbelow'
      rw [hone.2, ih.1] at hended
      rw [hone.2, ih.2] at hended'
      rw [hsplit, hcount, scanAfter_lines, scanAfter_lines]
      cases hfirst : (scanAfter [] line).fault with
      | some fault =>
          rw [hfirst, Option.map_some] at hfault
          rw [Scanned.andThen_of_some hfault, Scanned.andThen_of_some hfirst, hfault, hfirst]
          exact ⟨htokens, rfl⟩
      | none =>
          rw [hfirst, Option.map_none] at hfault
          rw [Scanned.andThen_of_none hfault, Scanned.andThen_of_none hfirst]
          refine ⟨?_, ?_⟩
          · rw [htokens, hended, hbelow]
          · rw [hended', hbelow', Option.map_map, Option.map_map]
            congr 1
            funext fault
            exact Fault.moved_overReturns _ fault

theorem tokenize_ended (code : Text) :
    tokenize (code.ended .returnFeed) =
      (tokenize code).mapError (.overReturns (code.count (char '\n'))) := by
  obtain ⟨htokens, hfault⟩ := scanAfter_ended code
  rw [tokenize_eq, tokenize_eq, htokens, hfault]
  cases (scanAfter [] code).fault <;> rfl

end Token

end SlotCompiler
