import SlotCompiler.Program.Parser
import SlotCompiler.Proofs.Program.Renaming

namespace SlotCompiler

open Step (runFrom)

def Token.Alike (t u : Token) : Prop := t.kind = u.kind ∧ t.value = u.value

theorem Token.Alike.describe {t u : Token} (h : t.Alike u) : t.describe = u.describe := by
  rw [Token.describe, Token.describe, h.1, h.2]

-- Faults with the same message, except that diagnostics may be about different places.
inductive Fault.Alike : Fault → Fault → Prop where
  | refl (fault : Fault) : Alike fault fault
  | diagnostic {d d' : Diagnostic} (hkind : d'.kind = d.kind) (hdetails : d'.details = d.details) :
      Alike (.diagnostic d) (.diagnostic d')

theorem Fault.Alike.report (kind : Diagnostic.Kind) (span span' : Span) (details : List Atom) :
    Fault.Alike (.report kind span details) (.report kind span' details) := by
  rw [Fault.report, Fault.report]
  split
  · split
    · exact .diagnostic rfl rfl
    · exact .refl _
  · exact .refl _

structure Cursor.Alike (c c' : Cursor) : Prop where
  passed : c.passed = c'.passed
  rest : List.Forall₂ Token.Alike c.rest c'.rest

namespace Parser

inductive Outcome {α : Type} (R : α → α → Prop) :
    Except Fault α × Cursor → Except Fault α × Cursor → Prop where
  | ok {a b : α} {c c' : Cursor} (h : R a b) (hc : c.Alike c') : Outcome R (.ok a, c) (.ok b, c')
  | error {fault fault' : Fault} {c c' : Cursor} (h : fault.Alike fault') (hc : c.Alike c') :
      Outcome R (.error fault, c) (.error fault', c')

def Alike {α : Type} (R : α → α → Prop) (x y : Parser α) : Prop :=
  ∀ c c', c.Alike c' → Outcome R (runFrom x c) (runFrom y c')

section Rules

variable {α β : Type} {R : α → α → Prop} {S : β → β → Prop}

theorem Alike.pure {a b : α} (h : R a b) : Alike R (Pure.pure a) (Pure.pure b) :=
  fun _ _ hc => .ok h hc

theorem Alike.throw {fault fault' : Fault} (h : fault.Alike fault') :
    Alike R (MonadExcept.throw fault) (MonadExcept.throw fault') := fun _ _ hc => .error h hc

theorem Alike.bind {x y : Parser α} {f g : α → Parser β} (hx : Alike R x y)
    (hf : ∀ {a b}, R a b → Alike S (f a) (g b)) : Alike S (x >>= f) (y >>= g) := by
  intro c c' hc
  rw [Step.runFrom_bind, Step.runFrom_bind]
  have hfirst := hx c c' hc
  generalize runFrom x c = first, runFrom y c' = first' at hfirst
  cases hfirst with
  | ok h hc => exact hf h _ _ hc
  | error h hc => exact .error h hc

end Rules

theorem alike_peek : Alike Token.Alike peek peek := by
  rintro ⟨passed, rest⟩ ⟨passed', rest'⟩ hc
  have hrest : List.Forall₂ Token.Alike rest rest' := hc.rest
  cases hrest with
  | nil => exact .error (.refl _) hc
  | cons h _ => exact .ok h hc

theorem alike_tail : Alike (fun _ _ : PUnit => True)
    (modify fun cursor => { passed := cursor.passed + 1, rest := cursor.rest.tail })
    (modify fun cursor => { passed := cursor.passed + 1, rest := cursor.rest.tail }) := by
  rintro ⟨passed, rest⟩ ⟨passed', rest'⟩ hc
  refine .ok trivial ⟨congrArg (· + 1) hc.passed, ?_⟩
  have hrest : List.Forall₂ Token.Alike rest rest' := hc.rest
  cases hrest with
  | nil => exact .nil
  | cons _ h => exact h

theorem alike_advance : Alike Token.Alike advance advance := by
  refine alike_peek.bind fun {t u} h => ?_
  rw [h.1]
  split
  · exact alike_tail.bind fun _ => .pure h
  · exact .pure h

theorem alike_mismatch (expected : Text) {t u : Token} (h : t.Alike u) :
    (mismatch expected t).Alike (mismatch expected u) := by
  rw [mismatch, mismatch, h.describe]
  cases u.describe with
  | ok found => exact .report _ _ _ _
  | error fault => exact .refl fault

theorem alike_expect (kind : Token.Kind) (expected : Text) :
    Alike Token.Alike (expect kind expected) (expect kind expected) := by
  refine alike_peek.bind fun {t u} h => ?_
  rw [h.1]
  split
  · exact alike_advance
  · exact .throw (alike_mismatch expected h)

theorem alike_name : Alike (fun n m => m.value = n.value) name name :=
  (alike_expect _ _).bind fun h => .pure h.2.symm

theorem alike_expr : Alike (Expr.Renames id) expr expr := by
  refine alike_peek.bind fun {t u} h => ?_
  rw [h.1, h.2]
  split
  · exact alike_advance.bind fun _ => .pure (.literal _ _ _ _)
  · exact alike_advance.bind fun _ => .pure (.literal _ _ _ _)
  · exact alike_name.bind fun hname => .pure (.name hname)
  · exact .throw (alike_mismatch _ h)

theorem alike_call : Alike (Statement.Renames id) call call := by
  refine alike_name.bind fun hname => ?_
  refine (alike_expect _ _).bind fun _ => ?_
  refine alike_expr.bind fun hargument => ?_
  refine (alike_expect _ _).bind fun _ => ?_
  exact .pure (.call hname hargument)

theorem alike_binding : Alike (Statement.Renames id) binding binding := by
  refine (alike_expect _ _).bind fun _ => ?_
  refine alike_name.bind fun hname => ?_
  refine (alike_expect _ _).bind fun _ => ?_
  refine alike_expr.bind fun hvalue => ?_
  refine (alike_expect _ _).bind fun _ => ?_
  exact .pure (.binding hname hvalue)

theorem alike_statement : Alike (Statement.Renames id) statement statement := by
  refine alike_peek.bind fun {t u} h => ?_
  rw [h.1]
  split
  · exact alike_call.bind fun hs => (alike_expect _ _).bind fun _ => .pure hs
  · exact alike_binding
  · exact .throw (alike_mismatch _ h)

theorem alike_statements (bound : Nat) :
    Alike (Program.Renames id) (statements bound) (statements bound) := by
  induction bound with
  | zero => exact .throw (.refl _)
  | succ bound ih =>
      refine alike_peek.bind fun {t u} h => ?_
      rw [h.1]
      split
      · exact .pure .nil
      · exact alike_statement.bind fun hs => ih.bind fun hrest => .pure (.cons hs hrest)

theorem alike_program : Alike (Program.Renames id) program program := by
  intro c c' hc
  rw [program, Step.runFrom_bind_ok _ (Step.runFrom_get c),
    Step.runFrom_bind_ok _ (Step.runFrom_get c'), hc.rest.length_eq]
  exact alike_statements _ c c' hc

end Parser

theorem Program.ofTokens_alike {ts us : List Token} (h : List.Forall₂ Token.Alike ts us) :
    (∃ p q, Program.ofTokens ts = .ok p ∧ Program.ofTokens us = .ok q ∧ Program.Renames id p q) ∨
    ∃ fault fault', Program.ofTokens ts = .error fault ∧ Program.ofTokens us = .error fault' ∧
      fault.Alike fault' := by
  have hprogram := Parser.alike_program { rest := ts } { rest := us } ⟨rfl, h⟩
  rw [Program.ofTokens, Program.ofTokens]
  generalize runFrom Parser.program { rest := ts } = first,
    runFrom Parser.program { rest := us } = second at hprogram
  cases hprogram with
  | ok hp _ => exact .inl ⟨_, _, rfl, rfl, hp⟩
  | error hfault _ => exact .inr ⟨_, _, rfl, rfl, hfault⟩

end SlotCompiler
