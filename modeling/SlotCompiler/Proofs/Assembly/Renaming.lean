import SlotCompiler.Proofs.Assembly.Scope
import SlotCompiler.Proofs.Program.Renaming

namespace SlotCompiler.Assembly

open Function (Injective)

theorem lookup_map_renamed {r : Atom → Atom} (hr : Injective r) (scope : Scope) (x : Atom) :
    List.lookup (r x) (scope.map fun b => (r b.1, b.2)) = scope.lookup x := by
  induction scope with
  | nil => rfl
  | cons b rest ih =>
      have hbeq : (r x == r b.1) = (x == b.1) := by
        rw [Bool.eq_iff_iff, beq_iff_eq, beq_iff_eq]
        exact hr.eq_iff
      rw [List.map_cons, List.lookup_cons, List.lookup_cons, hbeq, ih]

theorem eq_error_of_map {α β : Type} {f : α → β} {x : Except Fault α} {fault : Fault}
    (h : x.map f = .error fault) : x = .error fault := by
  cases x with
  | ok a => cases h
  | error _ => exact congrArg Except.error (Except.error.inj h)

namespace Generator

def renamed (r : Atom → Atom) (g : Generator) : Generator :=
  { g with scope := g.scope.map fun b => (r b.1, b.2) }

variable {r : Atom → Atom} {g g' : Generator}

theorem lookup_renamed (hr : Injective r) (g : Generator) (x : Atom) :
    (g.renamed r).scope.lookup (r x) = g.scope.lookup x := lookup_map_renamed hr g.scope x

theorem renamed_declared (g : Generator) (x : Atom) (o : Operand) :
    (g.renamed r).declared (r x) o = (g.declared x o).renamed r := by
  simp [renamed, declared]

theorem renamed_exited (g : Generator) (o : Operand) :
    (g.renamed r).exited o = (g.exited o).renamed r := rfl

theorem operand_renamed (hr : Injective r) {e e' : Expr} (he : e.Renames r e') {o : Operand}
    (h : g.operand e = .ok o) : (g.renamed r).operand e' = .ok o := by
  cases he with
  | literal value type span span' =>
      cases type with
      | int => exact h
      | string => cases h
  | @name n n' hname =>
      rw [operand] at h ⊢
      rw [hname, lookup_renamed hr]
      cases hlookup : g.scope.lookup n.value with
      | some location => simpa [hlookup, renamed] using h
      | none => simp [hlookup] at h

-- An operand that has no code has none under other names either, and for the same reason.
theorem operand_renamed_error (hr : Injective r) {e e' : Expr} (he : e.Renames r e') {fault : Fault}
    (h : g.operand e = .error fault) :
    ∃ fault', (g.renamed r).operand e' = .error fault' ∧
      Fault.Renames r e.site e'.site fault fault' := by
  cases he with
  | literal value type span span' =>
      cases type with
      | string =>
          obtain rfl := Except.error.inj h
          exact ⟨_, rfl, .report_same rfl _ _ _ _⟩
      | int =>
          rw [operand] at h
          split at h
          · cases h
          next hlong =>
            obtain rfl := Except.error.inj h
            exact ⟨_, if_neg hlong, .longNumber⟩
  | @name n n' hname =>
      cases hlookup : g.scope.lookup n.value with
      | some location => simp [operand, hlookup] at h
      | none =>
          rw [operand, hlookup] at h
          obtain rfl := Except.error.inj h
          refine ⟨_, ?_, .report rfl n.value n.span n'.span _⟩
          rw [operand, hname, lookup_renamed hr, hlookup]

theorem step_renamed (hr : Injective r) {s s' : Statement} (hs : s.Renames r s')
    (h : g.step s = .ok g') : (g.renamed r).step s' = .ok (g'.renamed r) := by
  rcases step_cases h with
    ⟨bound, value, o, rfl, hnew, ho, rfl⟩ | ⟨callee, argument, o, rfl, hexit, ho, rfl⟩
  · cases hs with
    | binding hname hvalue =>
        rw [step, hname, lookup_renamed hr, hnew, operand_renamed hr hvalue ho, ← renamed_declared]
        rfl
  · cases hs with
    | call hname hargument =>
        rw [step, if_pos (hname.trans hexit), operand_renamed hr hargument ho, ← renamed_exited]
        rfl

theorem step_renamed_error {s : Statement} {fault : Fault} (h : g.step s = .error fault) :
    ∃ node, ∀ {r s'}, Injective r → s.Renames r s' →
      ∃ fault', (g.renamed r).step s' = .error fault' ∧
        Fault.Renames r (s.site node) (s'.site node) fault fault' := by
  cases s with
  | binding bound value =>
      by_cases hdeclared : (g.scope.lookup bound.value).isSome = true
      · rw [step, if_pos hdeclared] at h
        obtain rfl := Except.error.inj h
        refine ⟨.name, fun hr hs => ?_⟩
        cases hs with
        | @binding _ bound' _ _ hname _ =>
            refine ⟨_, ?_, .report rfl bound.value bound.span bound'.span _⟩
            rw [step, hname, lookup_renamed hr, if_pos hdeclared]
      · rw [step, if_neg hdeclared] at h
        refine ⟨.operand, fun hr hs => ?_⟩
        cases hs with
        | binding hname hvalue =>
            obtain ⟨fault', ho, hfault⟩ := operand_renamed_error hr hvalue (eq_error_of_map h)
            refine ⟨fault', ?_, hfault⟩
            rw [step, hname, lookup_renamed hr, if_neg hdeclared, ho]
            rfl
  | call callee argument =>
      by_cases hexit : callee.value = .text "exit"
      · rw [step, if_pos hexit] at h
        refine ⟨.operand, fun hr hs => ?_⟩
        cases hs with
        | call hname hargument =>
            obtain ⟨fault', ho, hfault⟩ := operand_renamed_error hr hargument (eq_error_of_map h)
            refine ⟨fault', ?_, hfault⟩
            rw [step, if_pos (hname.trans hexit), ho]
            rfl
      · rw [step, if_neg hexit] at h
        obtain rfl := Except.error.inj h
        refine ⟨.name, fun _ hs => ?_⟩
        cases hs with
        | @call _ callee' _ _ hname _ =>
            refine ⟨_, ?_, .report_same rfl callee.value callee.span callee'.span _⟩
            rw [step, hname, if_neg hexit]

theorem run_renamed (hr : Injective r) {p q : Program} (hp : p.Renames r q)
    (h : p.foldlM step g = .ok g') : q.foldlM step (g.renamed r) = .ok (g'.renamed r) := by
  induction hp generalizing g with
  | nil =>
      obtain rfl := Except.ok.inj h
      rfl
  | cons hs _ ih =>
      rw [List.foldlM_cons] at h ⊢
      cases hstep : g.step _ with
      | error fault =>
          rw [hstep] at h
          cases h
      | ok next =>
          rw [hstep] at h
          rw [step_renamed hr hs hstep]
          exact ih h

theorem run_renamed_error {p : Program} {fault : Fault} (h : p.foldlM step g = .error fault) :
    ∃ (i : Nat) (node : Statement.Node), ∀ {r q}, Injective r → p.Renames r q →
      ∃ (s s' : Statement) (fault' : Fault), p[i]? = some s ∧ q[i]? = some s' ∧
        q.foldlM step (g.renamed r) = .error fault' ∧
        Fault.Renames r (s.site node) (s'.site node) fault fault' := by
  induction p generalizing g with
  | nil => cases h
  | cons s rest ih =>
      rw [List.foldlM_cons] at h
      cases hstep : g.step s with
      | error first =>
          rw [hstep] at h
          obtain rfl := Except.error.inj h
          obtain ⟨node, hrenamed⟩ := step_renamed_error hstep
          refine ⟨0, node, fun hr hp => ?_⟩
          cases hp with
          | cons hs hrest =>
              obtain ⟨fault', hstep', hfault⟩ := hrenamed hr hs
              refine ⟨s, _, fault', rfl, rfl, ?_, hfault⟩
              rw [List.foldlM_cons, hstep']
              rfl
      | ok next =>
          rw [hstep] at h
          obtain ⟨i, node, hrenamed⟩ := ih h
          refine ⟨i + 1, node, fun hr hp => ?_⟩
          cases hp with
          | cons hs hrest =>
              obtain ⟨s, s', fault', hi, hi', hrun, hfault⟩ := hrenamed hr hrest
              refine ⟨s, s', fault', hi, hi', ?_, hfault⟩
              rw [List.foldlM_cons, step_renamed hr hs hstep]
              exact hrun

end Generator

theorem generate_renamed {r : Atom → Atom} (hr : Injective r) {p q : Program} (hp : p.Renames r q)
    {asm : Text} (h : (generate p.tree).1 = .ok asm) : (generate q.tree).1 = .ok asm := by
  obtain ⟨g, hrun, hasm⟩ := generate_eq_ok_iff.mp h
  exact generate_eq_ok_iff.mpr ⟨g.renamed r, Generator.run_renamed hr hp hrun, hasm⟩

theorem generate_renamed_error {p : Program} {fault : Fault}
    (h : (generate p.tree).1 = .error fault) :
    ∃ (i : Nat) (node : Statement.Node), ∀ {r q}, Injective r → p.Renames r q →
      ∃ (s s' : Statement) (fault' : Fault), p[i]? = some s ∧ q[i]? = some s' ∧
        (generate q.tree).1 = .error fault' ∧
        Fault.Renames r (s.site node) (s'.site node) fault fault' := by
  cases hrun : p.foldlM Generator.step { lines := preamble.toArray } with
  | ok g =>
      rw [generate_of_steps hrun] at h
      cases h
  | error first =>
      rw [generate_eq_error hrun] at h
      obtain rfl := Except.error.inj h
      obtain ⟨i, node, hrenamed⟩ := Generator.run_renamed_error hrun
      refine ⟨i, node, fun hr hp => ?_⟩
      obtain ⟨s, s', fault', hi, hi', hrun', hfault⟩ := hrenamed hr hp
      exact ⟨s, s', fault', hi, hi', generate_eq_error hrun', hfault⟩

theorem exists_diagnostic_of_generate {p : Program} (hp : p.Short) {fault : Fault}
    (h : (generate p.tree).1 = .error fault) : ∃ d, fault = .diagnostic d := by
  have hreports := reports_generate hp
  rw [h] at hreports
  cases hviolations : p.violations [] with
  | nil =>
      rw [hviolations] at hreports
      obtain ⟨asm, hasm⟩ := hreports
      cases hasm
  | cons v vs =>
      rw [hviolations] at hreports
      exact ⟨v.diagnostic, Except.error.inj hreports⟩

end SlotCompiler.Assembly
