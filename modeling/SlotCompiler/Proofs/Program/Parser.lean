import SlotCompiler.Proofs.Program.Walk

namespace SlotCompiler

namespace Parser

open Token (Kind)

def callShape : List Expected :=
  [.name, .mark .openParen, .operand, .mark .closeParen, .mark .semicolon]

def bindingShape : List Expected :=
  [.mark .letKeyword, .name, .mark .assign, .operand, .mark .semicolon]

theorem Follows.imp {α : Type} {p : Parser α} {es : List Expected}
    {made made' : List Token → α → Prop} (h : Follows p es made)
    (himp : ∀ ts a, List.Forall₂ (fun e t => e.accepts t.kind = true) es ts → made ts a →
      made' ts a) : Follows p es made' := by
  intro c
  have hc := h c
  cases hcase : walk es c with
  | mk result d =>
      rw [hcase] at hc
      cases result with
      | error fault => exact hc
      | ok ts =>
          obtain ⟨a, hmade, hrun⟩ := hc
          exact ⟨a, himp ts a (walk_eq_ok_iff.mp hcase).1 hmade, hrun⟩

theorem follows_call :
    Follows (do let s ← call; let _ ← expectKind .semicolon; return s) callShape
      fun ts s => List.Forall₂ Part.Matches s.parts ts := by
  have hsteps : (do let s ← call; let _ ← expectKind .semicolon; return s) = (do
      let callee ← name
      let _ ← expectKind .openParen
      let argument ← expr
      let _ ← expectKind .closeParen
      let _ ← expectKind .semicolon
      return Statement.call callee argument) := by
    simp [call]
  rw [hsteps]
  refine Follows.imp (reads_name.bind fun callee => (reads_mark (by simp)).bind fun _ =>
    reads_expr.bind fun argument => (reads_mark (by simp)).bind fun _ =>
    (reads_mark (by simp)).bind fun _ => follows_pure _) ?_
  rintro ts s haccepts ⟨callee, _, rfl, left, _, rfl, argument, _, rfl, right, _, rfl, stop, _, rfl,
    rfl⟩
  simp only [callShape, List.forall₂_cons, List.forall₂_nil_left_iff, Expected.accepts_name,
    Expected.accepts_mark, Expected.accepts_operand] at haccepts
  obtain ⟨hcallee, hleft, hargument, hright, hstop, rfl⟩ := haccepts
  exact Statement.matches_call hcallee hleft hargument hright hstop

theorem follows_binding :
    Follows binding bindingShape fun ts s => List.Forall₂ Part.Matches s.parts ts := by
  refine Follows.imp ((reads_mark (by simp)).bind fun _ => reads_name.bind fun bound =>
    (reads_mark (by simp)).bind fun _ => reads_expr.bind fun value =>
    (reads_mark (by simp)).bind fun _ => follows_pure _) ?_
  rintro ts s haccepts ⟨start, _, rfl, bound, _, rfl, equals, _, rfl, value, _, rfl, stop, _, rfl,
    rfl⟩
  simp only [bindingShape, List.forall₂_cons, List.forall₂_nil_left_iff, Expected.accepts_name,
    Expected.accepts_mark, Expected.accepts_operand] at haccepts
  obtain ⟨hstart, hbound, hequals, hvalue, hstop, rfl⟩ := haccepts
  exact Statement.matches_binding hstart hbound hequals hvalue hstop

theorem runFrom_statement_call {t : Token} (h : t.kind = .identifier) (n : Nat)
    (rest : List Token) :
    Step.runFrom statement ⟨n, t :: rest⟩ =
      Step.runFrom (do let s ← call; let _ ← expectKind .semicolon; return s)
        ⟨n, t :: rest⟩ := by
  rw [statement, Step.runFrom_bind_ok _ (runFrom_peek_cons n t rest)]
  simp only [h]

theorem runFrom_statement_binding {t : Token} (h : t.kind = .letKeyword) (n : Nat)
    (rest : List Token) :
    Step.runFrom statement ⟨n, t :: rest⟩ = Step.runFrom binding ⟨n, t :: rest⟩ := by
  rw [statement, Step.runFrom_bind_ok _ (runFrom_peek_cons n t rest)]
  simp only [h]

theorem runFrom_statement_other {t : Token} (hcall : t.kind ≠ .identifier)
    (hbinding : t.kind ≠ .letKeyword) (n : Nat) (rest : List Token) :
    Step.runFrom statement ⟨n, t :: rest⟩ =
      (.error (mismatch "identifier or let" t), ⟨n, t :: rest⟩) := by
  rw [statement, Step.runFrom_bind_ok _ (runFrom_peek_cons n t rest)]
  split
  · rename_i hkind
    exact absurd hkind hcall
  · rename_i hkind
    exact absurd hkind hbinding
  · rfl

theorem Follows.eq_ok {α : Type} {p : Parser α} {es : List Expected}
    {made : List Token → α → Prop} (h : Follows p es made) {c d : Cursor} {a : α}
    (hrun : Step.runFrom p c = (.ok a, d)) : ∃ ts, made ts a ∧ walk es c = (.ok ts, d) := by
  have hc := h c
  cases hcase : walk es c with
  | mk result d' =>
      rw [hcase] at hc
      cases result with
      | error fault => simp [hrun] at hc
      | ok ts =>
          obtain ⟨b, hmade, hb⟩ := hc
          rw [hrun, Prod.mk.injEq, Except.ok.injEq] at hb
          obtain ⟨rfl, rfl⟩ := hb
          exact ⟨ts, hmade, rfl⟩

theorem Follows.of_walk {α : Type} {p : Parser α} {es : List Expected}
    {made : List Token → α → Prop} (h : Follows p es made) {c d : Cursor} {ts : List Token}
    (hwalk : walk es c = (.ok ts, d)) : ∃ a, made ts a ∧ Step.runFrom p c = (.ok a, d) := by
  have hc := h c
  rw [hwalk] at hc
  exact hc

theorem statement_eq_ok_iff {c d : Cursor} {s : Statement} :
    Step.runFrom statement c = (.ok s, d) ↔ ∃ ts, List.Forall₂ Part.Matches s.parts ts ∧
      c.rest = ts ++ d.rest ∧ d.passed = c.passed + ts.length := by
  constructor
  · intro h
    obtain ⟨n, rest⟩ := c
    cases rest with
    | nil => cases h
    | cons t rest =>
        by_cases hcall : t.kind = .identifier
        · rw [runFrom_statement_call hcall] at h
          obtain ⟨ts, hmatches, hwalk⟩ := follows_call.eq_ok h
          exact ⟨ts, hmatches, (walk_eq_ok_iff.mp hwalk).2⟩
        by_cases hbinding : t.kind = .letKeyword
        · rw [runFrom_statement_binding hbinding] at h
          obtain ⟨ts, hmatches, hwalk⟩ := follows_binding.eq_ok h
          exact ⟨ts, hmatches, (walk_eq_ok_iff.mp hwalk).2⟩
        · rw [runFrom_statement_other hcall hbinding] at h
          cases h
  · rintro ⟨ts, hmatches, hrest, hpassed⟩
    obtain ⟨n, rest⟩ := c
    rcases Statement.matches_cases hmatches with
      ⟨callee, left, argument, right, stop, rfl, -, h₁, h₂, h₃, h₄, h₅⟩ |
      ⟨start, bound, equals, value, stop, rfl, -, h₁, h₂, h₃, h₄, h₅⟩
    · have haccepts : List.Forall₂ (fun e t => e.accepts t.kind = true) callShape
          [callee, left, argument, right, stop] := by
        simp [callShape, h₁, h₂, h₃, h₄, h₅]
      obtain ⟨s', hmatches', hrun⟩ :=
        follows_call.of_walk (walk_eq_ok_iff.mpr ⟨haccepts, hrest, hpassed⟩)
      obtain rfl := Statement.eq_of_matches hmatches hmatches'
      obtain rfl : rest = callee :: left :: argument :: right :: stop :: d.rest := hrest
      rw [runFrom_statement_call h₁, hrun]
    · have haccepts : List.Forall₂ (fun e t => e.accepts t.kind = true) bindingShape
          [start, bound, equals, value, stop] := by
        simp [bindingShape, h₁, h₂, h₃, h₄, h₅]
      obtain ⟨s', hmatches', hrun⟩ :=
        follows_binding.of_walk (walk_eq_ok_iff.mpr ⟨haccepts, hrest, hpassed⟩)
      obtain rfl := Statement.eq_of_matches hmatches hmatches'
      obtain rfl : rest = start :: bound :: equals :: value :: stop :: d.rest := hrest
      rw [runFrom_statement_binding h₁, hrun]

theorem exists_first {s : Statement} {ts : List Token}
    (h : List.Forall₂ Part.Matches s.parts ts) :
    ∃ t rest, ts = t :: rest ∧ t.kind ≠ .endOfInput := by
  rcases Statement.matches_cases h with ⟨_, _, _, _, _, rfl, -, hkind, -⟩ |
    ⟨_, _, _, _, _, rfl, -, hkind, -⟩
  all_goals exact ⟨_, _, rfl, by simp [hkind]⟩

theorem runFrom_statements_end {t : Token} (h : t.kind = .endOfInput) (bound n : Nat)
    (rest : List Token) :
    Step.runFrom (statements (bound + 1)) ⟨n, t :: rest⟩ = (.ok [], ⟨n, t :: rest⟩) := by
  rw [statements, Step.runFrom_bind_ok _ (runFrom_peek_cons n t rest), if_pos h]
  rfl

theorem runFrom_statements_next {t : Token} (h : t.kind ≠ .endOfInput) (bound n : Nat)
    (rest : List Token) :
    Step.runFrom (statements (bound + 1)) ⟨n, t :: rest⟩ =
      Step.runFrom (do let s ← statement; return s :: (← statements bound)) ⟨n, t :: rest⟩ := by
  rw [statements, Step.runFrom_bind_ok _ (runFrom_peek_cons n t rest), if_neg h]

theorem matches_of_statements {bound : Nat} {c d : Cursor} {p : Program}
    (h : Step.runFrom (statements bound) c = (.ok p, d)) :
    ∃ ts stop after, List.Forall₂ Part.Matches p.parts ts ∧ c.rest = ts ++ stop :: after ∧
      stop.kind = .endOfInput ∧ d = ⟨c.passed + ts.length, stop :: after⟩ := by
  induction bound generalizing c p with
  | zero => cases h
  | succ bound ih =>
      obtain ⟨n, rest⟩ := c
      cases rest with
      | nil => cases h
      | cons t rest =>
          by_cases hend : t.kind = .endOfInput
          · rw [runFrom_statements_end hend] at h
            cases h
            exact ⟨[], t, rest, .nil, rfl, hend, rfl⟩
          · rw [runFrom_statements_next hend] at h
            obtain ⟨s, c', hs, h⟩ := Step.runFrom_bind_eq_ok.mp h
            obtain ⟨q, d', hq, h⟩ := Step.runFrom_bind_eq_ok.mp h
            cases h
            obtain ⟨ts, hmatches, hrest, hpassed⟩ := statement_eq_ok_iff.mp hs
            obtain ⟨us, stop, after, hus, htail, hstop, rfl⟩ := ih hq
            have hprogram := Program.matches_cons.mpr ⟨ts, us, rfl, hmatches, hus⟩
            refine ⟨ts ++ us, stop, after, hprogram, ?_, hstop, ?_⟩
            · rw [hrest, htail, List.append_assoc]
            · rw [hpassed, List.length_append, Nat.add_assoc]

-- The bound is on the tokens ahead, of which every statement takes some.
theorem statements_of_matches {bound : Nat} {p : Program} {ts : List Token} {stop : Token}
    (hmatches : List.Forall₂ Part.Matches p.parts ts) (hstop : stop.kind = .endOfInput)
    (n : Nat) (after : List Token) (hbound : ts.length < bound) :
    Step.runFrom (statements bound) ⟨n, ts ++ stop :: after⟩ =
      (.ok p, ⟨n + ts.length, stop :: after⟩) := by
  induction p generalizing bound ts n with
  | nil =>
      obtain rfl : ts = [] := List.forall₂_nil_left_iff.mp hmatches
      obtain ⟨bound, rfl⟩ := Nat.exists_eq_succ_of_ne_zero (Nat.ne_of_gt hbound)
      exact runFrom_statements_end hstop bound n after
  | cons s p ih =>
      obtain ⟨ts, us, rfl, hs, hp⟩ := Program.matches_cons.mp hmatches
      obtain ⟨bound, rfl⟩ := Nat.exists_eq_succ_of_ne_zero (Nat.ne_of_gt (Nat.zero_lt_of_lt hbound))
      obtain ⟨t, rest, rfl, ht⟩ := exists_first hs
      have hrun : Step.runFrom statement ⟨n, t :: rest ++ us ++ stop :: after⟩ =
          (.ok s, ⟨n + (t :: rest).length, us ++ stop :: after⟩) :=
        statement_eq_ok_iff.mpr ⟨t :: rest, hs, by simp, rfl⟩
      have hshorter : us.length < bound := by
        simp only [List.length_append, List.length_cons] at hbound
        omega
      have hloop := ih hp (n + (t :: rest).length) hshorter
      have hcount : n + (t :: rest ++ us).length = n + (t :: rest).length + us.length := by
        rw [List.length_append, Nat.add_assoc]
      rw [hcount, List.cons_append, List.cons_append, runFrom_statements_next ht]
      refine Step.runFrom_bind_eq_ok.mpr ⟨s, _, hrun, ?_⟩
      rw [Step.runFrom_bind_ok _ hloop]
      rfl

theorem runFrom_program (c : Cursor) :
    Step.runFrom program c = Step.runFrom (statements c.rest.length) c := rfl

end Parser

theorem Program.ofTokens_eq_ok_iff {tokens : List Token} {p : Program} :
    Program.ofTokens tokens = .ok p ↔ ∃ ts stop after, tokens = ts ++ stop :: after ∧
      stop.kind = .endOfInput ∧ List.Forall₂ Part.Matches p.parts ts := by
  rw [ofTokens, Parser.runFrom_program]
  constructor
  · intro h
    have hrun : Step.runFrom (Parser.statements tokens.length) ⟨0, tokens⟩ =
        (.ok p, (Step.runFrom (Parser.statements tokens.length) ⟨0, tokens⟩).2) :=
      Prod.ext h rfl
    obtain ⟨ts, stop, after, hmatches, htokens, hstop, -⟩ := Parser.matches_of_statements hrun
    exact ⟨ts, stop, after, htokens, hstop, hmatches⟩
  · rintro ⟨ts, stop, after, rfl, hstop, hmatches⟩
    have hbound : ts.length < (ts ++ stop :: after).length := by simp
    rw [Parser.statements_of_matches hmatches hstop 0 after hbound]

theorem eq_of_append_end {front ts after : List Token} {stop last : Token}
    (h : front ++ [stop] = ts ++ last :: after) (hlast : last ∉ front) :
    ts = front ∧ last = stop ∧ after = [] := by
  rcases after.eq_nil_or_concat' with rfl | ⟨middle, final, rfl⟩
  · obtain ⟨rfl, hstop⟩ := List.append_inj' h rfl
    exact ⟨rfl, (List.cons.inj hstop).1.symm, rfl⟩
  · rw [← List.cons_append, ← List.append_assoc] at h
    obtain ⟨rfl, -⟩ := List.append_inj' h rfl
    exact absurd (by simp) hlast

theorem Program.matches_of_ofTokens {front : List Token} {stop : Token} {p : Program}
    (hfront : ∀ t ∈ front, t.kind ≠ .endOfInput)
    (h : Program.ofTokens (front ++ [stop]) = .ok p) :
    List.Forall₂ Part.Matches p.parts front := by
  obtain ⟨ts, last, after, hsplit, hlast, hmatches⟩ := ofTokens_eq_ok_iff.mp h
  obtain ⟨rfl, -, -⟩ := eq_of_append_end hsplit fun hmem => hfront last hmem hlast
  exact hmatches

-- The parser accepts exactly the grammar. The program it gives is the only one with these tokens,
-- and every program is given for its own tokens.
theorem Program.ofTokens_iff_grammar {front : List Token} {stop : Token}
    (hfront : ∀ t ∈ front, t.kind ≠ .endOfInput) (hstop : stop.kind = .endOfInput) :
    ((∃ p, Program.ofTokens (front ++ [stop]) = .ok p) ↔
      Grammar.Program ((front ++ [stop]).map (·.kind))) ∧
    (∀ p, Program.ofTokens (front ++ [stop]) = .ok p → List.Forall₂ Part.Matches p.parts front) ∧
    ∀ p ts, List.Forall₂ Part.Matches (Program.parts p) ts →
      Program.ofTokens (ts ++ [stop]) = .ok p := by
  have hcomplete : ∀ p ts, List.Forall₂ Part.Matches (Program.parts p) ts →
      Program.ofTokens (ts ++ [stop]) = .ok p := by
    intro p ts hmatches
    exact ofTokens_eq_ok_iff.mpr ⟨ts, stop, [], rfl, hstop, hmatches⟩
  refine ⟨⟨?_, ?_⟩, fun p h => matches_of_ofTokens hfront h, hcomplete⟩
  · rintro ⟨p, h⟩
    exact grammar_of_matches (matches_of_ofTokens hfront h) hstop
  · intro hgrammar
    obtain ⟨p, hmatches⟩ := hgrammar.exists_matches rfl
    exact ⟨p, hcomplete p front hmatches⟩

-- The tokens of `f("s");`, read as a call.
theorem Program.ofTokens_iff_grammar_call :
    ∃ p, Program.ofTokens ([⟨.identifier, .text "f", ⟨0, 0, 1⟩⟩, ⟨.openParen, .text "(", ⟨0, 1, 1⟩⟩,
        ⟨.string, .text "s", ⟨0, 2, 3⟩⟩, ⟨.closeParen, .text ")", ⟨0, 5, 1⟩⟩,
        ⟨.semicolon, .text ";", ⟨0, 6, 1⟩⟩] ++ [⟨.endOfInput, .text [], ⟨0, 6, 1⟩⟩]) = .ok p ∧
      List.Forall₂ Part.Matches p.parts
        [⟨.identifier, .text "f", ⟨0, 0, 1⟩⟩, ⟨.openParen, .text "(", ⟨0, 1, 1⟩⟩,
          ⟨.string, .text "s", ⟨0, 2, 3⟩⟩, ⟨.closeParen, .text ")", ⟨0, 5, 1⟩⟩,
          ⟨.semicolon, .text ";", ⟨0, 6, 1⟩⟩] := by
  obtain ⟨hgrammar, hmatches, -⟩ := @ofTokens_iff_grammar
    [⟨.identifier, .text "f", ⟨0, 0, 1⟩⟩, ⟨.openParen, .text "(", ⟨0, 1, 1⟩⟩,
      ⟨.string, .text "s", ⟨0, 2, 3⟩⟩, ⟨.closeParen, .text ")", ⟨0, 5, 1⟩⟩,
      ⟨.semicolon, .text ";", ⟨0, 6, 1⟩⟩] ⟨.endOfInput, .text [], ⟨0, 6, 1⟩⟩ (by simp) rfl
  obtain ⟨p, hp⟩ := hgrammar.mpr (.cons (.call .string) .done)
  exact ⟨p, hp, hmatches p hp⟩

end SlotCompiler
