import SlotCompiler.Diagnostic
import SlotCompiler.Proofs.Program.Meaning

namespace SlotCompiler

open Token (Kind)

def Statement.declares : Statement → List Atom
  | .binding bound _ => [bound.value]
  | .call _ _ => []

def Program.names (p : Program) : List Atom := p.flatMap Statement.declares

theorem Program.names_cons (s : Statement) (p : Program) :
    Program.names (s :: p) = s.declares ++ p.names := List.flatMap_cons

def Expr.Legal (names : List Atom) : Expr → Prop
  | .literal _ .int _ => True
  | .literal _ .string _ => False
  | .name n => n.value ∈ names

-- Variables and callees do not share names: a variable may be called `exit`.
def Statement.Legal (names : List Atom) : Statement → Prop
  | .binding bound value => bound.value ∉ names ∧ value.Legal names
  | .call callee argument => callee.value = .text "exit" ∧ argument.Legal names

def Program.Legal (p : Program) : Prop :=
  ∀ before s after, p = before ++ s :: after → s.Legal (Program.names before)

inductive Violation where
  | redeclared (name : Name)
  | unknownCallee (name : Name)
  | undeclared (name : Name)
  | textOperand (span : Span)
deriving DecidableEq

namespace Violation

def diagnostic : Violation → Diagnostic
  | redeclared n => ⟨.alreadyDeclared, n.span, [n.value.display], Nat.le_refl 1⟩
  | unknownCallee n => ⟨.notFound, n.span, [n.value.display], Nat.le_refl 1⟩
  | undeclared n => ⟨.notFound, n.span, [n.value.display], Nat.le_refl 1⟩
  | textOperand span => ⟨.unsupportedExpression, span, [LiteralType.string.name], Nat.le_refl 1⟩

def At : Violation → Token → Prop
  | redeclared n, t => t.kind = .identifier ∧ n = .ofToken t
  | unknownCallee n, t => t.kind = .identifier ∧ n = .ofToken t
  | undeclared n, t => t.kind = .identifier ∧ n = .ofToken t
  | textOperand span, t => t.kind = .string ∧ span = t.span

theorem At.span_eq {v : Violation} {t : Token} (h : v.At t) : v.diagnostic.span = t.span := by
  cases v with
  | textOperand span => exact h.2
  | _ => exact congrArg Name.span h.2

end Violation

inductive Program.Violates : Program → Violation → Prop where
  | redeclared {before after : Program} {bound : Name} {value : Expr}
      (h : bound.value ∈ before.names) :
      Violates (before ++ .binding bound value :: after) (.redeclared bound)
  | unknownCallee {before after : Program} {callee : Name} {argument : Expr}
      (h : callee.value ≠ .text "exit") :
      Violates (before ++ .call callee argument :: after) (.unknownCallee callee)
  | undeclared {before after : Program} {s : Statement} {n : Name} (hs : s.operand = .name n)
      (h : n.value ∉ before.names) : Violates (before ++ s :: after) (.undeclared n)
  | textOperand {before after : Program} {s : Statement} {value : Atom} {span : Span}
      (hs : s.operand = .literal value .string span) :
      Violates (before ++ s :: after) (.textOperand span)

-- The violations in the order in which the program is read. In a statement the name comes first.
def Expr.violations (names : List Atom) : Expr → List Violation
  | .literal _ .int _ => []
  | .literal _ .string span => [.textOperand span]
  | .name n => if n.value ∈ names then [] else [.undeclared n]

def Statement.nameViolations (names : List Atom) : Statement → List Violation
  | .binding bound _ => if bound.value ∈ names then [.redeclared bound] else []
  | .call callee _ => if callee.value = .text "exit" then [] else [.unknownCallee callee]

def Statement.violations (names : List Atom) (s : Statement) : List Violation :=
  s.nameViolations names ++ s.operand.violations names

def Program.violations (names : List Atom) : Program → List Violation
  | [] => []
  | s :: rest => s.violations names ++ violations (names ++ s.declares) rest

theorem Expr.legal_iff {names : List Atom} {e : Expr} :
    e.Legal names ↔ e.violations names = [] := by
  cases e with
  | literal value type span => cases type <;> simp [Legal, violations]
  | name n => simp [Legal, violations]

theorem Statement.legal_iff {names : List Atom} {s : Statement} :
    s.Legal names ↔ s.violations names = [] := by
  cases s <;> simp [Legal, violations, nameViolations, operand, Expr.legal_iff]

theorem Program.mem_violations_iff {names : List Atom} {p : Program} {v : Violation} :
    v ∈ p.violations names ↔ ∃ before s after, p = before ++ s :: after ∧
      v ∈ s.violations (names ++ Program.names before) := by
  induction p generalizing names with
  | nil => simp [violations]
  | cons s rest ih =>
      rw [violations, List.mem_append, ih]
      constructor
      · rintro (h | ⟨before, s', after, rfl, h⟩)
        · exact ⟨[], s, rest, rfl, by simpa [Program.names] using h⟩
        · exact ⟨s :: before, s', after, rfl, by simpa [Program.names] using h⟩
      · rintro ⟨before, s', after, hsplit, h⟩
        cases before with
        | nil =>
            obtain ⟨rfl, rfl⟩ := List.cons.inj hsplit
            exact .inl (by simpa [Program.names] using h)
        | cons first before =>
            obtain ⟨rfl, rfl⟩ := List.cons.inj hsplit
            exact .inr ⟨before, s', after, rfl, by simpa [Program.names] using h⟩

theorem Program.violates_of_mem_name {before after : Program} {s : Statement} {v : Violation}
    (h : v ∈ s.nameViolations before.names) : Program.Violates (before ++ s :: after) v := by
  cases s with
  | binding bound value =>
      by_cases hname : bound.value ∈ before.names
      · obtain rfl : v = .redeclared bound := by simpa [Statement.nameViolations, hname] using h
        exact .redeclared hname
      · simp [Statement.nameViolations, hname] at h
  | call callee argument =>
      by_cases hexit : callee.value = .text "exit"
      · simp [Statement.nameViolations, hexit] at h
      · obtain rfl : v = .unknownCallee callee := by
          simpa [Statement.nameViolations, hexit] using h
        exact .unknownCallee hexit

theorem Program.violates_of_mem_operand {before after : Program} {s : Statement} {v : Violation}
    (h : v ∈ s.operand.violations before.names) : Program.Violates (before ++ s :: after) v := by
  cases hs : s.operand with
  | literal value type span =>
      cases type with
      | int => simp [hs, Expr.violations] at h
      | string =>
          obtain rfl : v = .textOperand span := by simpa [hs, Expr.violations] using h
          exact .textOperand hs
  | name n =>
      by_cases hname : n.value ∈ before.names
      · simp [hs, Expr.violations, hname] at h
      · obtain rfl : v = .undeclared n := by simpa [hs, Expr.violations, hname] using h
        exact .undeclared hs hname

theorem Program.violates_iff {p : Program} {v : Violation} :
    p.Violates v ↔ v ∈ p.violations [] := by
  rw [mem_violations_iff]
  constructor
  · intro h
    cases h with
    | redeclared h =>
        exact ⟨_, _, _, rfl, by simp [Statement.violations, Statement.nameViolations, h]⟩
    | unknownCallee h =>
        exact ⟨_, _, _, rfl, by simp [Statement.violations, Statement.nameViolations, h]⟩
    | undeclared hs h =>
        exact ⟨_, _, _, rfl, by simp [Statement.violations, hs, Expr.violations, h]⟩
    | textOperand hs => exact ⟨_, _, _, rfl, by simp [Statement.violations, hs, Expr.violations]⟩
  · rintro ⟨before, s, after, rfl, h⟩
    rcases List.mem_append.mp h with hname | hoperand
    · exact violates_of_mem_name hname
    · exact violates_of_mem_operand hoperand

theorem Program.legal_iff {p : Program} : p.Legal ↔ p.violations [] = [] := by
  rw [List.eq_nil_iff_forall_not_mem]
  constructor
  · intro h v hv
    obtain ⟨before, s, after, hsplit, hmem⟩ := mem_violations_iff.mp hv
    have hs := Statement.legal_iff.mp (h before s after hsplit)
    rw [List.nil_append, hs] at hmem
    exact List.not_mem_nil hmem
  · intro h before s after hsplit
    rw [Statement.legal_iff, List.eq_nil_iff_forall_not_mem]
    exact fun v hv => h v (mem_violations_iff.mpr ⟨before, s, after, hsplit, hv⟩)

section Tokens

variable (names : List Atom)

theorem Expr.exists_at {t : Token} (h : Grammar.Operand t.kind) :
    ∃ us, us.Sublist [t] ∧
      List.Forall₂ Violation.At ((Expr.ofToken t).violations names) us := by
  generalize hkind : t.kind = k at h
  cases h with
  | number => exact ⟨[], List.nil_sublist _, by simp [ofToken, hkind, violations]⟩
  | string =>
      refine ⟨[t], List.Sublist.refl _, ?_⟩
      simp only [ofToken, hkind, violations]
      exact .cons ⟨hkind, rfl⟩ .nil
  | identifier =>
      simp only [ofToken, hkind, violations]
      split
      · exact ⟨[], List.nil_sublist _, .nil⟩
      · exact ⟨[t], List.Sublist.refl _, .cons ⟨hkind, rfl⟩ .nil⟩

-- A statement's violations are found at its tokens, in their order.
theorem Statement.exists_at {s : Statement} {ts : List Token}
    (h : List.Forall₂ Part.Matches s.parts ts) :
    ∃ us, us.Sublist ts ∧ List.Forall₂ Violation.At (s.violations names) us := by
  rcases matches_cases h with
    ⟨callee, left, argument, right, stop, rfl, rfl, hname, -, hoperand, -⟩ |
    ⟨start, bound, equals, value, stop, rfl, rfl, -, hname, -, hoperand, -⟩
  · obtain ⟨us, hus, hat⟩ := Expr.exists_at names hoperand
    have hargument : us.Sublist [left, argument, right, stop] :=
      hus.trans (by simp)
    simp only [violations, nameViolations, operand]
    split
    · exact ⟨us, hargument.cons _, hat⟩
    · exact ⟨callee :: us, hargument.cons_cons _, .cons ⟨hname, rfl⟩ hat⟩
  · obtain ⟨us, hus, hat⟩ := Expr.exists_at names hoperand
    have hvalue : us.Sublist [equals, value, stop] :=
      hus.trans (by simp)
    simp only [violations, nameViolations, operand]
    split
    · exact ⟨bound :: us, (hvalue.cons_cons _).cons _, .cons ⟨hname, rfl⟩ hat⟩
    · exact ⟨us, (hvalue.cons _).cons _, hat⟩

theorem Program.exists_at {p : Program} {front : List Token}
    (h : List.Forall₂ Part.Matches p.parts front) :
    ∃ us, us.Sublist front ∧ List.Forall₂ Violation.At (p.violations names) us := by
  induction p generalizing front names with
  | nil => exact ⟨[], List.nil_sublist _, .nil⟩
  | cons s rest ih =>
      obtain ⟨ts, more, rfl, hs, hrest⟩ := matches_cons.mp h
      obtain ⟨us, hus, hat⟩ := Statement.exists_at names hs
      obtain ⟨us', hus', hat'⟩ := ih (names ++ s.declares) hrest
      exact ⟨us ++ us', hus.append hus', List.rel_append hat hat'⟩

theorem Violation.map_span_eq {vs : List Violation} {us : List Token}
    (h : List.Forall₂ Violation.At vs us) :
    vs.map (·.diagnostic.span) = us.map (·.span) := by
  induction h with
  | nil => rfl
  | cons hat _ ih => rw [List.map_cons, List.map_cons, hat.span_eq, ih]

theorem Violation.exists_at_of_mem {vs : List Violation} {us : List Token}
    (h : List.Forall₂ Violation.At vs us) {v : Violation} (hv : v ∈ vs) : ∃ t ∈ us, v.At t := by
  induction h with
  | nil => cases hv
  | cons hat _ ih =>
      rcases List.mem_cons.mp hv with rfl | hrest
      · exact ⟨_, List.mem_cons_self, hat⟩
      · obtain ⟨t, ht, hvt⟩ := ih hrest
        exact ⟨t, List.mem_cons_of_mem _ ht, hvt⟩

theorem Program.pairwise_violations {p : Program} {front : List Token}
    (h : List.Forall₂ Part.Matches p.parts front)
    (horder : front.Pairwise fun s t => s.span.Precedes t.span) :
    (p.violations names).Pairwise fun v w => v.diagnostic.span.Precedes w.diagnostic.span := by
  obtain ⟨us, hus, hat⟩ := Program.exists_at names h
  have hspans : (us.map (·.span)).Pairwise Span.Precedes :=
    List.pairwise_map.mpr (horder.sublist hus)
  rw [← Violation.map_span_eq hat] at hspans
  exact List.pairwise_map.mp hspans

end Tokens

end SlotCompiler
