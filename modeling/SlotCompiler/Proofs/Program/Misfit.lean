import SlotCompiler.Proofs.Program.Confined
import SlotCompiler.Proofs.Program.Failure

namespace SlotCompiler

open Step (runFrom)
open Token (Kind)

theorem Grammar.Viable.left {front more : List Kind} (h : Viable (front ++ more)) :
    Viable front := by
  obtain ⟨rest, hprogram⟩ := h
  exact ⟨more ++ rest, by rwa [← List.append_assoc]⟩

-- The first token, with its index, up to which the tokens start no program.
structure Misfit (tokens : List Token) (k : Nat) (t : Token) : Prop where
  found : tokens[k]? = some t
  unfit : ¬Grammar.Viable ((tokens.take (k + 1)).map (·.kind))
  first : ∀ j < k, Grammar.Viable ((tokens.take (j + 1)).map (·.kind))

namespace Misfit

theorem of_append {front : List Token} {t : Token}
    (hfront : Grammar.Viable (front.map (·.kind)))
    (hnot : ¬Grammar.Viable (front.map (·.kind) ++ [t.kind])) (rest : List Token) :
    Misfit (front ++ t :: rest) front.length t where
  found := by simp
  unfit := by
    have htake : (front ++ t :: rest).take (front.length + 1) = front ++ [t] := by
      rw [List.append_cons]
      exact List.take_left' (by simp)
    rwa [htake, List.map_append]
  first := by
    intro j hj
    rw [List.take_append_of_le_length hj]
    rw [← List.take_append_drop (j + 1) front, List.map_append] at hfront
    exact hfront.left

theorem not_viable {tokens : List Token} {k : Nat} {t : Token} (h : Misfit tokens k t) :
    ¬Grammar.Viable (tokens.map (·.kind)) := by
  intro hviable
  rw [← List.take_append_drop (k + 1) tokens, List.map_append] at hviable
  exact h.unfit hviable.left

end Misfit

namespace Program

theorem ofTokens_error_cases {tokens : List Token} {fault : Fault}
    (h : ofTokens tokens = .error fault) :
    (fault = .outOfTokens ∧ (∀ t ∈ tokens, t.kind ≠ .endOfInput) ∧
      Grammar.Viable (tokens.map (·.kind))) ∨
    ∃ k t wording, Misfit tokens k t ∧ fault = Parser.mismatch wording t := by
  rcases hrun : runFrom Parser.program { rest := tokens } with ⟨result, d⟩
  obtain rfl : result = .error fault := by rw [← h, ofTokens, hrun]
  rw [Parser.runFrom_program] at hrun
  obtain ⟨front, e, hawaits, hrest, -, hrefused⟩ :=
    Parser.exists_of_statements_eq_error (Nat.le_refl _) hrun
  obtain rfl : tokens = front ++ d.rest := hrest
  cases hd : d.rest with
  | nil =>
      rw [hd] at hrefused
      rw [List.append_nil]
      refine .inl ⟨hrefused, fun t ht hend => hawaits.end_not_mem ?_, hawaits.viable⟩
      exact hend ▸ List.mem_map_of_mem ht
  | cons t rest =>
      rw [hd] at hrefused
      obtain ⟨hnot, hfault⟩ := hrefused
      refine .inr ⟨_, t, e.wording, .of_append hawaits.viable ?_ rest, hfault⟩
      rw [hawaits.viable_iff, Parser.Accepts, hnot]
      exact Bool.false_ne_true

theorem ofTokens_ne_ok {tokens : List Token} (h : ∀ t ∈ tokens, t.kind ≠ .endOfInput)
    (p : Program) : ofTokens tokens ≠ .ok p := by
  intro hok
  obtain ⟨ts, stop, after, rfl, hstop, -⟩ := ofTokens_eq_ok_iff.mp hok
  exact h stop (by simp) hstop

theorem ofTokens_eq_outOfTokens_iff {tokens : List Token}
    (h : ∀ t ∈ tokens, t.kind ≠ .endOfInput) :
    ofTokens tokens = .error .outOfTokens ↔ Grammar.Viable (tokens.map (·.kind)) := by
  constructor
  · intro hout
    rcases ofTokens_error_cases hout with ⟨-, -, hviable⟩ | ⟨k, t, wording, -, hfault⟩
    · exact hviable
    · exact absurd hfault.symm (Parser.mismatch_inRange wording t).1
  · intro hviable
    cases hresult : ofTokens tokens with
    | ok p => exact absurd hresult (ofTokens_ne_ok h p)
    | error fault =>
        rcases ofTokens_error_cases hresult with ⟨rfl, -, -⟩ | ⟨k, t, wording, hmisfit, -⟩
        · rfl
        · exact absurd hviable hmisfit.not_viable

theorem ofTokens_append_end {stop : Token} (hstop : stop.kind = .endOfInput)
    (front after after' : List Token) :
    ofTokens (front ++ stop :: after') = ofTokens (front ++ stop :: after) := by
  obtain ⟨result, moved, ahead, -, hrun, -⟩ := Parser.confined_program 0 front stop hstop
  rw [ofTokens, ofTokens, hrun after, hrun after']

-- Reading ends for all tokens, and what comes after an end of input does not matter. Without one no
-- program is read, and reading runs out of tokens if they start a program. Every other failure is
-- at a misfit, which is reported where it stands, unless its kind is not known or it has a value
-- that cannot be shown.
theorem ofTokens_outcome (tokens : List Token) :
    (∀ result, (∃ c, Parser.Loop { rest := tokens } result c) ↔ ofTokens tokens = result) ∧
    (∀ front stop after after', tokens = front ++ stop :: after → stop.kind = .endOfInput →
      ofTokens (front ++ stop :: after') = ofTokens tokens) ∧
    ((∀ t ∈ tokens, t.kind ≠ .endOfInput) →
      (∀ p, ofTokens tokens ≠ .ok p) ∧
      (ofTokens tokens = .error .outOfTokens ↔ Grammar.Viable (tokens.map (·.kind)))) ∧
    (∀ fault, ofTokens tokens = .error fault →
      (∃ t ∈ tokens, t.kind = .endOfInput) ∨ ¬Grammar.Viable (tokens.map (·.kind)) →
      ∃ k t, Misfit tokens k t ∧
        (t.kind ∉ Kind.known → fault = .unknownKind t.kind.name) ∧
        (t.kind ∈ Kind.known → t.Showable →
          ∃ d, fault = .diagnostic d ∧ d.kind = .expectedToken ∧ d.span = t.span) ∧
        (¬t.Showable → fault = .longNumber)) := by
  refine ⟨fun result => ?_, ?_, fun h => ⟨ofTokens_ne_ok h, ofTokens_eq_outOfTokens_iff h⟩, ?_⟩
  · simp only [Parser.loop_iff, ofTokens, Prod.ext_iff, exists_and_left, exists_eq', and_true]
  · rintro front stop after after' rfl hstop
    exact ofTokens_append_end hstop front after after'
  · intro fault hfault hother
    rcases ofTokens_error_cases hfault with ⟨-, hnone, hviable⟩ | ⟨k, t, wording, hmisfit, rfl⟩
    · rcases hother with ⟨t, ht, hend⟩ | hnot
      · exact absurd hend (hnone t ht)
      · exact absurd hviable hnot
    · refine ⟨k, t, hmisfit, ?_⟩
      rcases Parser.mismatch_cases wording t with
        ⟨hkind, heq⟩ | ⟨hkind, hshown, found, -, heq⟩ | ⟨hkind, hlong, heq⟩
      · refine ⟨fun _ => heq, fun hknown => absurd hknown hkind, fun hlong => ?_⟩
        exact absurd (Token.describe_of_not_showable hlong).1 hkind
      · exact ⟨fun hunknown => absurd hkind hunknown, fun _ _ => ⟨_, heq, rfl, rfl⟩,
          fun hlong => absurd hshown hlong⟩
      · exact ⟨fun hunknown => absurd hkind hunknown, fun _ hshown => absurd hshown hlong,
          fun _ => heq⟩

-- A number with one digit too many stands where a statement is expected. Nothing is wrong with its
-- kind, but the message cannot be written.
theorem ofTokens_long_number :
    let number : Token := ⟨.number, .int Number.leastLong, .zero⟩
    let stop : Token := ⟨.endOfInput, .text [], .zero⟩
    Misfit [number, stop] 0 number ∧ number.kind ∈ Kind.known ∧
      ofTokens [number, stop] = .error .longNumber ∧
      ¬∃ d, ofTokens [number, stop] = .error (.diagnostic d) := by
  intro number stop
  have hfault : ofTokens [number, stop] = .error .longNumber := by decide +kernel
  have hstart : Parser.Awaits [] .start := .start
  have hnot : ¬Grammar.Viable ([] ++ [number.kind]) := by
    rw [hstart.viable_iff, Parser.Accepts, Parser.Expected.accepts_start]
    decide
  have hfront : Grammar.Viable (([] : List Token).map (·.kind)) := hstart.viable
  exact ⟨.of_append hfront hnot [stop], by simp [number, Kind.known], hfault, by simp [hfault]⟩

-- A comma is of no known kind. The name before it is all right, also when nothing follows.
theorem ofTokens_outcome_comma :
    let name : Token := ⟨.identifier, .text "f", ⟨0, 0, 1⟩⟩
    let comma : Token := ⟨.other "COMMA", .text ",", ⟨0, 1, 1⟩⟩
    let stop : Token := ⟨.endOfInput, .text [], ⟨0, 1, 1⟩⟩
    (∃ t ∈ [name, comma, stop], t.kind = .endOfInput) ∧
      ofTokens [name, comma, stop] = .error (.unknownKind "COMMA") ∧
      ofTokens [name, comma, stop, name] = ofTokens [name, comma, stop] ∧
      (∃ k t, Misfit [name, comma, stop] k t ∧ t.kind ∉ Kind.known) ∧
      ofTokens [name] = .error .outOfTokens ∧ Grammar.Viable [.identifier] := by
  intro name comma stop
  have hend : ∃ t ∈ [name, comma, stop], t.kind = .endOfInput := ⟨stop, by simp, rfl⟩
  have hunknown : ofTokens [name, comma, stop] = .error (.unknownKind "COMMA") := rfl
  obtain ⟨-, hafter, -, hmisfit⟩ := ofTokens_outcome [name, comma, stop]
  obtain ⟨k, t, ht, -, hknown, hlong⟩ := hmisfit _ hunknown (.inl hend)
  refine ⟨hend, hunknown, hafter [name, comma] stop [] [name] rfl rfl, ⟨k, t, ht, ?_⟩, rfl, ?_⟩
  · intro hkind
    by_cases hshown : t.Showable
    · obtain ⟨d, hd, -⟩ := hknown hkind hshown
      cases hd
    · cases hlong hshown
  · obtain ⟨-, -, hnone, -⟩ := ofTokens_outcome [name]
    exact (hnone (by decide)).2.mp rfl

end Program

end SlotCompiler
