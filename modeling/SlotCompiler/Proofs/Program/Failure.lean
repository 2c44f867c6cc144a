import SlotCompiler.Proofs.Program.Viable
import SlotCompiler.Proofs.Token.Tokenize

namespace SlotCompiler

open Token (Kind)

namespace Parser

def Expected.Refuses (e : Expected) (fault : Fault) : List Token → Prop
  | [] => fault = .outOfTokens
  | t :: _ => e.accepts t.kind = false ∧ fault = mismatch e.wording t

-- Reading has passed the tokens `ts` and failed where `e` is expected.
structure FailsAfter (ts : List Token) (e : Expected) (fault : Fault) (c d : Cursor) : Prop where
  rest : c.rest = ts ++ d.rest
  passed : d.passed = c.passed + ts.length
  refused : e.Refuses fault d.rest

theorem FailsAfter.append {ts us : List Token} {e : Expected} {fault : Fault} {b c d : Cursor}
    (h : FailsAfter us e fault c d) (hrest : b.rest = ts ++ c.rest)
    (hpassed : c.passed = b.passed + ts.length) : FailsAfter (ts ++ us) e fault b d where
  rest := by rw [hrest, h.rest, List.append_assoc]
  passed := by rw [h.passed, hpassed, List.length_append, Nat.add_assoc]
  refused := h.refused

theorem exists_of_walk_eq_error {es : List Expected} {c d : Cursor} {fault : Fault}
    (h : walk es c = (.error fault, d)) :
    ∃ met e rest ts, es = met ++ e :: rest ∧
      List.Forall₂ Accepts met (ts.map (·.kind)) ∧ FailsAfter ts e fault c d := by
  induction es generalizing c with
  | nil => cases h
  | cons e es ih =>
      obtain ⟨n, rest⟩ := c
      cases rest with
      | nil =>
          cases h
          exact ⟨[], e, es, [], rfl, .nil, rfl, rfl, rfl⟩
      | cons t rest =>
          rw [walk] at h
          split at h
          next ht =>
            cases hwalk : walk es ⟨n + 1, rest⟩ with
            | mk result d' =>
                rw [hwalk] at h
                cases result with
                | ok ts => cases h
                | error fault' =>
                    cases h
                    obtain ⟨met, e', after, ts, rfl, hmet, hfails⟩ := ih hwalk
                    have hlonger : FailsAfter ([t] ++ ts) e' fault ⟨n, t :: rest⟩ d :=
                      hfails.append rfl rfl
                    exact ⟨e :: met, e', after, t :: ts, rfl, .cons ht hmet, hlonger⟩
          next ht =>
            cases h
            exact ⟨[], e, es, [], rfl, .nil, rfl, rfl, by simpa using ht, rfl⟩

theorem Follows.eq_error {α : Type} {p : Parser α} {es : List Expected}
    {made : List Token → α → Prop} (h : Follows p es made) {c d : Cursor} {fault : Fault}
    (hrun : Step.runFrom p c = (.error fault, d)) : walk es c = (.error fault, d) := by
  have hc := h c
  cases hcase : walk es c with
  | mk result d' =>
      rw [hcase] at hc
      cases result with
      | error fault' =>
          obtain ⟨hfault, rfl⟩ := Prod.mk.inj (hc.symm.trans hrun)
          obtain rfl := Except.error.inj hfault
          rfl
      | ok ts =>
          obtain ⟨a, -, ha⟩ := hc
          rw [hrun] at ha
          cases ha

-- A statement whose first token is met fails inside.
theorem awaits_of_walk {shape : List Expected} (hshape : shape ∈ shapes) {t : Token}
    (ht : ∀ e ∈ shape.head?, e.accepts t.kind = true) {n : Nat} {rest : List Token} {d : Cursor}
    {fault : Fault} (h : walk shape ⟨n, t :: rest⟩ = (.error fault, d)) :
    ∃ ts e, Awaits (ts.map (·.kind)) e ∧ FailsAfter ts e fault ⟨n, t :: rest⟩ d := by
  obtain ⟨met, e, after, ts, rfl, hmet, hfails⟩ := exists_of_walk_eq_error h
  refine ⟨ts, e, .inside hshape hmet ?_, hfails⟩
  intro hnil
  obtain rfl := List.map_eq_nil_iff.mp hnil
  obtain rfl := List.forall₂_nil_right_iff.mp hmet
  obtain ⟨hrest, -, hrefused⟩ := hfails
  obtain ⟨passed, rest'⟩ := d
  obtain rfl : t :: rest = rest' := hrest
  have haccepts : e.accepts t.kind = true := ht e rfl
  simp [hrefused.1] at haccepts

theorem exists_of_statement_eq_error {t : Token} (ht : t.kind ≠ .endOfInput) {n : Nat}
    {rest : List Token} {d : Cursor} {fault : Fault}
    (h : Step.runFrom statement ⟨n, t :: rest⟩ = (.error fault, d)) :
    ∃ ts e, Awaits (ts.map (·.kind)) e ∧ FailsAfter ts e fault ⟨n, t :: rest⟩ d := by
  by_cases hcall : t.kind = .identifier
  · rw [runFrom_statement_call hcall] at h
    exact awaits_of_walk (by simp [shapes]) (by simpa [callShape] using hcall)
      (follows_call.eq_error h)
  by_cases hbinding : t.kind = .letKeyword
  · rw [runFrom_statement_binding hbinding] at h
    exact awaits_of_walk (by simp [shapes]) (by simpa [bindingShape] using hbinding)
      (follows_binding.eq_error h)
  · rw [runFrom_statement_other hcall hbinding] at h
    cases h
    refine ⟨[], .start, .start, rfl, rfl, ?_, rfl⟩
    rw [Bool.eq_false_iff, Ne, Expected.accepts_start]
    simp [hcall, hbinding, ht]

theorem exists_of_statements_eq_error {bound : Nat} {c d : Cursor} {fault : Fault}
    (hbound : c.rest.length ≤ bound)
    (h : Step.runFrom (statements bound) c = (.error fault, d)) :
    ∃ ts e, Awaits (ts.map (·.kind)) e ∧ FailsAfter ts e fault c d := by
  induction bound generalizing c with
  | zero =>
      have hnil := List.eq_nil_of_length_eq_zero (Nat.le_zero.mp hbound)
      cases h
      exact ⟨[], .start, .start, rfl, rfl, by rw [hnil]; rfl⟩
  | succ bound ih =>
      obtain ⟨n, rest⟩ := c
      cases rest with
      | nil =>
          cases h
          exact ⟨[], .start, .start, rfl, rfl, rfl⟩
      | cons t rest =>
          by_cases hend : t.kind = .endOfInput
          · rw [runFrom_statements_end hend] at h
            cases h
          rw [runFrom_statements_next hend] at h
          rcases Step.runFrom_bind_eq_error.mp h with hs | ⟨s, c, hs, h⟩
          · exact exists_of_statement_eq_error hend hs
          rcases Step.runFrom_bind_eq_error.mp h with hloop | ⟨p, d', -, hpure⟩
          · obtain ⟨ts, hmatches, hrest, hpassed⟩ := statement_eq_ok_iff.mp hs
            have hshorter : c.rest.length ≤ bound := by
              obtain ⟨first, more, rfl, -⟩ := exists_first hmatches
              have hlength := congrArg List.length hrest
              simp only [List.length_append, List.length_cons] at hlength hbound
              omega
            obtain ⟨us, e, hawaits, hfails⟩ := ih hshorter hloop
            refine ⟨ts ++ us, e, ?_, hfails.append hrest hpassed⟩
            rw [List.map_append, map_kind_of_matches hmatches]
            exact .next s.grammar_parts hawaits
          · cases hpure

theorem not_mem_of_accepts {es : List Expected} {kinds : List Kind}
    (h : List.Forall₂ Accepts es kinds) {k : Kind} (hk : ∀ e ∈ es, ¬Accepts e k) : k ∉ kinds := by
  induction h with
  | nil => simp
  | cons hfirst _ ih =>
      obtain ⟨he, hes⟩ := List.forall_mem_cons.mp hk
      intro hmem
      rcases List.mem_cons.mp hmem with rfl | hrest
      · exact he hfirst
      · exact ih hes hrest

theorem not_accepts_end {shape : List Expected} (hshape : shape ∈ shapes) {e : Expected}
    (he : e ∈ shape) : ¬Accepts e .endOfInput := by
  rcases mem_shape_cases hshape he with rfl | rfl | ⟨k, hk, rfl⟩
  · simp [Accepts]
  · rw [Accepts, Expected.accepts_operand]
    rintro ⟨⟩
  · rw [Accepts, Expected.accepts_mark]
    rintro rfl
    cases hk

theorem Awaits.end_not_mem {front : List Kind} {e : Expected} (h : Awaits front e) :
    Kind.endOfInput ∉ front := by
  induction h with
  | start => simp
  | inside hshape hmet =>
      exact not_mem_of_accepts hmet fun d hd => not_accepts_end hshape (by simp [hd])
  | next hs _ ih =>
      obtain ⟨shape, hshape, hmatch⟩ := grammar_statement_iff.mp hs
      have hstatement := not_mem_of_accepts hmatch fun d hd => not_accepts_end hshape hd
      simp [hstatement, ih]

-- Where a statement starts the program may also end, and nowhere else.
theorem Awaits.accepts_end_iff {front : List Kind} {e : Expected} (h : Awaits front e) :
    Accepts e .endOfInput ↔ e.wording = "identifier or let" := by
  induction h with
  | start => exact iff_of_true rfl rfl
  | @inside met rest e _ hshape =>
      have he : e ∈ met ++ e :: rest := by simp
      refine iff_of_false (not_accepts_end hshape he) ?_
      rcases mem_shape_cases hshape he with rfl | rfl | ⟨k, hk, rfl⟩
      · decide +kernel
      · decide +kernel
      · intro hwording
        have hnamed := named_expectation hk
        rw [show k.expectation = "identifier or let" from hwording] at hnamed
        have htwo : Kind.named "identifier or let" = [.identifier, .letKeyword] := by decide +kernel
        simp [htwo] at hnamed
  | next _ _ ih => exact ih

end Parser

theorem Token.exists_describe {code : Text} {tokens : List Token} (h : tokenize code = .ok tokens)
    {t : Token} (ht : t ∈ tokens) : ∃ found, t.describe = .ok found := by
  obtain ⟨front, hstand, rfl⟩ := exists_standIn_of_tokenize h
  rcases List.mem_append.mp ht with hfront | hend
  · obtain ⟨text, hspells⟩ := hstand.exists_spells hfront
    have hkind : t.kind ∈ Kind.known := by
      obtain ⟨kind, value, span⟩ := t
      cases kind with
      | other name => cases hspells
      | _ => simp [Kind.known]
    exact exists_describe_of_showable hkind fun _ => hspells.short
  · obtain rfl := List.mem_singleton.mp hend
    exact ⟨_, rfl⟩

theorem Token.exists_end {code : Text} {tokens : List Token} (h : tokenize code = .ok tokens) :
    ∃ t ∈ tokens, t.kind = .endOfInput := by
  obtain ⟨front, -, rfl⟩ := exists_standIn_of_tokenize h
  exact ⟨endToken front, by simp, rfl⟩

theorem Parser.exists_misfit {code : Text} {tokens : List Token} {fault : Fault} {c : Cursor}
    (htokens : Token.tokenize code = .ok tokens)
    (hrun : Step.runFrom Parser.program { rest := tokens } = (.error fault, c)) :
    ∃ front t rest e found, tokens = front ++ t :: rest ∧ c = ⟨front.length, t :: rest⟩ ∧
      Awaits (front.map (·.kind)) e ∧ ¬Accepts e t.kind ∧ t.describe = .ok found ∧
      fault = .diagnostic ⟨.expectedToken, t.span, [e.wording, found], Nat.le_refl 2⟩ := by
  rw [runFrom_program] at hrun
  obtain ⟨front, e, hawaits, hrest, hpassed, hrefused⟩ :=
    exists_of_statements_eq_error (Nat.le_refl _) hrun
  obtain ⟨passed, rest⟩ := c
  obtain rfl : tokens = front ++ rest := hrest
  cases rest with
  | nil =>
      -- The end of input is among the tokens that were passed.
      obtain ⟨t, ht, hend⟩ := Token.exists_end htokens
      rw [List.append_nil] at ht
      exact absurd (hend ▸ List.mem_map_of_mem ht) hawaits.end_not_mem
  | cons t rest =>
      obtain ⟨hnot, rfl⟩ := hrefused
      obtain ⟨found, hfound⟩ := Token.exists_describe htokens (t := t) (by simp)
      refine ⟨front, t, rest, e, found, rfl, ?_, hawaits, by simp [Accepts, hnot], hfound, ?_⟩
      · rw [show passed = front.length by simpa using hpassed]
      · rw [mismatch, hfound]
        rfl

-- Reading a source text fails at the first token that no program goes on with: the tokens before it
-- start some program, and together with it they start none. The message is about that token, and
-- names what may stand in its place; only that the program may end is not said.
theorem Parser.program_stops_at_misfit {code : Text} {tokens : List Token} {fault : Fault}
    {c : Cursor} (htokens : Token.tokenize code = .ok tokens)
    (hrun : Step.runFrom Parser.program { rest := tokens } = (.error fault, c)) :
    ∃ (t : Token) (d : Diagnostic) (expected found : Text),
      tokens[c.passed]? = some t ∧ fault = .diagnostic d ∧
      Grammar.Viable ((tokens.take c.passed).map (·.kind)) ∧
      ¬Grammar.Viable ((tokens.take (c.passed + 1)).map (·.kind)) ∧
      d.kind = .expectedToken ∧ d.span = t.span ∧
      d.message = "Expected " ++ expected ++ " got " ++ found ∧ t.describe = .ok found ∧
      (∀ k, k ∈ Kind.named expected ↔
        Grammar.Viable ((tokens.take c.passed).map (·.kind) ++ [k]) ∧ k ≠ .endOfInput) ∧
      (Grammar.Viable ((tokens.take c.passed).map (·.kind) ++ [.endOfInput]) ↔
        expected = "identifier or let") := by
  obtain ⟨front, t, rest, e, found, rfl, rfl, hawaits, hnot, hfound, rfl⟩ :=
    exists_misfit htokens hrun
  have htake : (front ++ t :: rest).take front.length = front := List.take_left
  have hnext : (front ++ t :: rest).take (front.length + 1) = front ++ [t] := by
    rw [List.append_cons]
    exact List.take_left' (by simp)
  refine ⟨t, _, e.wording, found, by simp, rfl, ?_, ?_, rfl, rfl, ?_, hfound, ?_, ?_⟩
  · rw [htake]
    exact hawaits.viable
  · rw [hnext, List.map_append]
    exact fun h => hnot ((hawaits.viable_iff t.kind).mp h)
  · simp [Diagnostic.message, Diagnostic.Kind.wording, Diagnostic.fill, Text.ofString]
  · intro k
    rw [htake, hawaits.viable_iff, hawaits.mem_named_iff]
  · rw [htake, hawaits.viable_iff, hawaits.accepts_end_iff]

-- The value of a binding is missing: what stands before starts a program, and the mark that ends
-- the statement is refused.
theorem Parser.program_stops_at_misfit_missing_value :
    ∃ tokens fault c, Token.tokenize "let x = ;" = .ok tokens ∧
      Step.runFrom Parser.program { rest := tokens } = (.error fault, c) ∧ c.passed = 3 ∧
      ∃ (t : Token) (d : Diagnostic) (expected found : Text),
        tokens[c.passed]? = some t ∧ fault = .diagnostic d ∧
        Grammar.Viable ((tokens.take c.passed).map (·.kind)) ∧
        ¬Grammar.Viable ((tokens.take (c.passed + 1)).map (·.kind)) ∧
        d.kind = .expectedToken ∧ d.span = t.span ∧
        d.message = "Expected " ++ expected ++ " got " ++ found ∧ t.describe = .ok found ∧
        (∀ k, k ∈ Kind.named expected ↔
          Grammar.Viable ((tokens.take c.passed).map (·.kind) ++ [k]) ∧ k ≠ .endOfInput) ∧
        (Grammar.Viable ((tokens.take c.passed).map (·.kind) ++ [.endOfInput]) ↔
          expected = "identifier or let") := by
  have htokens : Token.tokenize "let x = ;" = .ok
      [⟨.letKeyword, .text "let", ⟨0, 0, 3⟩⟩, ⟨.identifier, .text "x", ⟨0, 4, 1⟩⟩,
        ⟨.assign, .text "=", ⟨0, 6, 1⟩⟩, ⟨.semicolon, .text ";", ⟨0, 8, 1⟩⟩,
        ⟨.endOfInput, .text [], ⟨0, 8, 1⟩⟩] := by
    decide +kernel
  exact ⟨_, _, _, htokens, rfl, rfl, program_stops_at_misfit htokens rfl⟩

end SlotCompiler
