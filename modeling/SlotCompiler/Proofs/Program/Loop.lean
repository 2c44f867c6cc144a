import SlotCompiler.Proofs.Program.Parser

namespace SlotCompiler.Parser

open Step (runFrom)

-- A loop that comes to an end, with its outcome and the cursor after it. There is no bound on the
-- turns: each is a statement, and the last one finds the end of input, or fails.
inductive Loop : Cursor → Except Fault Program → Cursor → Prop where
  | blocked {c d : Cursor} {fault : Fault} (hpeek : runFrom peek c = (.error fault, d)) :
      Loop c (.error fault) d
  | done {c d : Cursor} {t : Token} (hpeek : runFrom peek c = (.ok t, d))
      (hend : t.kind = .endOfInput) : Loop c (.ok []) d
  | broken {c c' d : Cursor} {t : Token} {fault : Fault} (hpeek : runFrom peek c = (.ok t, c'))
      (hnext : t.kind ≠ .endOfInput) (hs : runFrom statement c' = (.error fault, d)) :
      Loop c (.error fault) d
  | again {c c' d e : Cursor} {t : Token} {s : Statement} {result : Except Fault Program}
      (hpeek : runFrom peek c = (.ok t, c')) (hnext : t.kind ≠ .endOfInput)
      (hs : runFrom statement c' = (.ok s, d)) (hrest : Loop d result e) :
      Loop c (result.map (s :: ·)) e

theorem length_lt_of_statement {c d : Cursor} {s : Statement}
    (h : runFrom statement c = (.ok s, d)) : d.rest.length < c.rest.length := by
  obtain ⟨ts, hmatches, hrest, -⟩ := statement_eq_ok_iff.mp h
  obtain ⟨t, more, rfl, -⟩ := exists_first hmatches
  have hlength := congrArg List.length hrest
  simp only [List.length_append, List.length_cons] at hlength
  omega

theorem runFrom_statements_nil (bound n : Nat) :
    runFrom (statements bound) ⟨n, []⟩ = (.error .outOfTokens, ⟨n, []⟩) := by
  cases bound <;> rfl

-- Any bound will do that is not below the number of tokens ahead.
theorem runFrom_statements_congr {bound bound' : Nat} {c : Cursor}
    (h : c.rest.length ≤ bound) (h' : c.rest.length ≤ bound') :
    runFrom (statements bound) c = runFrom (statements bound') c := by
  induction bound generalizing bound' c with
  | zero =>
      obtain ⟨n, rest⟩ := c
      obtain rfl : rest = [] := List.eq_nil_of_length_eq_zero (Nat.le_zero.mp h)
      rw [runFrom_statements_nil, runFrom_statements_nil]
  | succ bound ih =>
      obtain ⟨n, rest⟩ := c
      cases rest with
      | nil => rw [runFrom_statements_nil, runFrom_statements_nil]
      | cons t rest =>
          have hpos : bound' ≠ 0 := Nat.ne_of_gt (Nat.zero_lt_of_lt h')
          obtain ⟨bound', rfl⟩ := Nat.exists_eq_succ_of_ne_zero hpos
          by_cases hend : t.kind = .endOfInput
          · rw [runFrom_statements_end hend, runFrom_statements_end hend]
          rw [runFrom_statements_next hend, runFrom_statements_next hend, Step.runFrom_bind,
            Step.runFrom_bind]
          rcases hs : runFrom statement ⟨n, t :: rest⟩ with ⟨fault | s, d⟩
          · rfl
          · have hlt := length_lt_of_statement hs
            simp only [List.length_cons] at h h' hlt
            have hsame : runFrom (statements bound) d = runFrom (statements bound') d :=
              ih (by omega) (by omega)
            show runFrom (statements bound >>= _) d = runFrom (statements bound' >>= _) d
            rw [Step.runFrom_bind, Step.runFrom_bind, hsame]

theorem runFrom_program_nil (n : Nat) :
    runFrom program ⟨n, []⟩ = (.error .outOfTokens, ⟨n, []⟩) := rfl

theorem runFrom_program_end {t : Token} (h : t.kind = .endOfInput) (n : Nat) (rest : List Token) :
    runFrom program ⟨n, t :: rest⟩ = (.ok [], ⟨n, t :: rest⟩) := runFrom_statements_end h _ n rest

theorem runFrom_program_next {t : Token} (h : t.kind ≠ .endOfInput) (n : Nat) (rest : List Token) :
    runFrom program ⟨n, t :: rest⟩ =
      runFrom (do let s ← statement; return s :: (← program)) ⟨n, t :: rest⟩ := by
  rw [runFrom_program, List.length_cons, runFrom_statements_next h, Step.runFrom_bind,
    Step.runFrom_bind]
  rcases hs : runFrom statement ⟨n, t :: rest⟩ with ⟨fault | s, d⟩
  · rfl
  · have hlt := length_lt_of_statement hs
    simp only [List.length_cons] at hlt
    show runFrom (statements rest.length >>= _) d = runFrom (program >>= _) d
    rw [Step.runFrom_bind, Step.runFrom_bind, runFrom_program d,
      runFrom_statements_congr (by omega) (Nat.le_refl d.rest.length)]

theorem exists_of_peek {c d : Cursor} {t : Token} (h : runFrom peek c = (.ok t, d)) :
    ∃ n rest, c = ⟨n, t :: rest⟩ ∧ d = ⟨n, t :: rest⟩ := by
  obtain ⟨n, rest⟩ := c
  cases rest with
  | nil => cases h
  | cons first rest =>
      cases h
      exact ⟨n, rest, rfl, rfl⟩

theorem Loop.runFrom_eq {c d : Cursor} {result : Except Fault Program} (h : Loop c result d) :
    runFrom program c = (result, d) := by
  induction h with
  | @blocked c d fault hpeek =>
      obtain ⟨n, rest⟩ := c
      cases rest with
      | nil =>
          cases hpeek
          exact runFrom_program_nil n
      | cons t rest => cases hpeek
  | done hpeek hend =>
      obtain ⟨n, rest, rfl, rfl⟩ := exists_of_peek hpeek
      exact runFrom_program_end hend n rest
  | broken hpeek hnext hs =>
      obtain ⟨n, rest, rfl, rfl⟩ := exists_of_peek hpeek
      rw [runFrom_program_next hnext, Step.runFrom_bind_error _ hs]
  | @again c c' d e t s result hpeek hnext hs _ ih =>
      obtain ⟨n, rest, rfl, rfl⟩ := exists_of_peek hpeek
      rw [runFrom_program_next hnext, Step.runFrom_bind_ok _ hs, Step.runFrom_bind, ih]
      cases result <;> rfl

theorem loop_program (c : Cursor) : Loop c (runFrom program c).1 (runFrom program c).2 := by
  induction hlength : c.rest.length using Nat.strongRecOn generalizing c with
  | ind length ih =>
      obtain ⟨n, rest⟩ := c
      cases rest with
      | nil => exact .blocked rfl
      | cons t rest =>
          by_cases hend : t.kind = .endOfInput
          · rw [runFrom_program_end hend]
            exact .done (runFrom_peek_cons n t rest) hend
          rw [runFrom_program_next hend, Step.runFrom_bind]
          rcases hs : runFrom statement ⟨n, t :: rest⟩ with ⟨fault | s, d⟩
          · exact .broken (runFrom_peek_cons n t rest) hend hs
          · have hloop := ih d.rest.length (hlength ▸ length_lt_of_statement hs) d rfl
            have hagain := Loop.again (runFrom_peek_cons n t rest) hend hs hloop
            show Loop _ (runFrom (program >>= _) d).1 (runFrom (program >>= _) d).2
            rw [Step.runFrom_bind]
            rcases hrest : runFrom program d with ⟨fault | p, e⟩ <;> rw [hrest] at hagain <;>
              exact hagain

theorem loop_iff {c d : Cursor} {result : Except Fault Program} :
    Loop c result d ↔ runFrom program c = (result, d) := by
  refine ⟨Loop.runFrom_eq, fun h => ?_⟩
  have hloop := loop_program c
  rwa [h] at hloop

end SlotCompiler.Parser
