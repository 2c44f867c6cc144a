import SlotCompiler.Proofs.Assembly.Generator
import SlotCompiler.Proofs.Program.Scope

namespace SlotCompiler.Assembly

-- A computation that fails at the first of the violations, and succeeds if there is none.
def Reports {α : Type} (vs : List Violation) (result : Except Fault α) : Prop :=
  match vs with
  | [] => ∃ a, result = .ok a
  | v :: _ => result = .error (.diagnostic v.diagnostic)

theorem Reports.bind {α β : Type} {vs ws : List Violation} {x : Except Fault α}
    {f : α → Except Fault β} (hx : Reports vs x) (hf : ∀ a, x = .ok a → Reports ws (f a)) :
    Reports (vs ++ ws) (x.bind f) := by
  cases vs with
  | nil =>
      obtain ⟨a, rfl⟩ := hx
      exact hf a rfl
  | cons v vs =>
      obtain rfl : x = _ := hx
      rfl

theorem Reports.map {α β : Type} {vs : List Violation} {x : Except Fault α} (h : Reports vs x)
    (f : α → β) : Reports vs (x.map f) := by
  cases vs with
  | nil =>
      obtain ⟨a, rfl⟩ := h
      exact ⟨f a, rfl⟩
  | cons v vs =>
      obtain rfl : x = _ := h
      rfl

namespace Generator

def names (g : Generator) : List Atom := g.scope.map Prod.fst

theorem isSome_lookup_iff {g : Generator} {x : Atom} :
    (g.scope.lookup x).isSome = true ↔ x ∈ g.names := by
  rw [Option.isSome_iff_ne_none, Ne, lookup_eq_none_iff, not_not, names]

theorem reports_operand (g : Generator) {e : Expr} (he : e.Short) :
    Reports (e.violations g.names) (g.operand e) := by
  cases e with
  | literal value type span =>
      cases type with
      | int => exact ⟨_, if_pos he⟩
      | string => rfl
  | name n =>
      rw [Expr.violations, operand]
      cases hlookup : g.scope.lookup n.value with
      | some location =>
          have hmem : n.value ∈ g.names := isSome_lookup_iff.mp (by rw [hlookup]; rfl)
          rw [if_pos hmem]
          exact ⟨_, rfl⟩
      | none =>
          have hnot : n.value ∉ g.names := lookup_eq_none_iff.mp hlookup
          rw [if_neg hnot]
          exact congrArg Except.error (Fault.report_of_short _ he _)

theorem reports_step (g : Generator) {s : Statement} (hs : s.Short) :
    Reports (s.violations g.names) (g.step s) := by
  cases s with
  | binding bound value =>
      rw [step, Statement.violations, Statement.nameViolations]
      by_cases hname : bound.value ∈ g.names
      · rw [if_pos hname, if_pos (isSome_lookup_iff.mpr hname)]
        exact congrArg Except.error (Fault.report_of_short _ hs.1 _)
      · rw [if_neg hname, if_neg (hname ∘ isSome_lookup_iff.mp)]
        exact (g.reports_operand hs.2).map _
  | call callee argument =>
      rw [step, Statement.violations, Statement.nameViolations]
      by_cases hexit : callee.value = .text "exit"
      · rw [if_pos hexit, if_pos hexit]
        exact (g.reports_operand hs.2).map _
      · rw [if_neg hexit, if_neg hexit]
        exact congrArg Except.error (Fault.report_of_short _ hs.1 _)

theorem names_of_step {g g' : Generator} {s : Statement} (h : g.step s = .ok g') :
    g'.names = g.names ++ s.declares := by
  rcases step_cases h with ⟨bound, value, o, rfl, -, -, rfl⟩ | ⟨callee, argument, o, rfl, -, -, rfl⟩
  · simp [names, declared, Statement.declares]
  · simp [names, exited, emitted, Statement.declares]

theorem names_of_run {p : Program} {g g' : Generator} (h : p.foldlM step g = .ok g') :
    g'.names = g.names ++ p.names := by
  induction p generalizing g with
  | nil =>
      obtain rfl := Except.ok.inj h
      exact (List.append_nil _).symm
  | cons s rest ih =>
      rw [List.foldlM_cons] at h
      cases hstep : g.step s with
      | error fault => simp [hstep, bind, Except.bind] at h
      | ok next =>
          simp only [hstep, bind, Except.bind] at h
          rw [ih h, names_of_step hstep, List.append_assoc, ← Program.names_cons]

theorem reports_run (g : Generator) {p : Program} (hp : p.Short) :
    Reports (p.violations g.names) (p.foldlM step g) := by
  induction p generalizing g with
  | nil => exact ⟨g, rfl⟩
  | cons s rest ih =>
      obtain ⟨hs, hrest⟩ := List.forall_mem_cons.mp hp
      rw [Program.violations, List.foldlM_cons]
      apply (g.reports_step hs).bind
      intro g' hstep
      rw [← names_of_step hstep]
      exact ih g' hrest

end Generator

theorem fst_statements_eq_error {p : Program} {g : Generator} {fault : Fault}
    (h : p.foldlM Generator.step g = .error fault) :
    (Step.runFrom ((p.map Statement.tree).forM (Generate.statement .standard)) g).1 =
      .error fault := by
  induction p generalizing g with
  | nil => cases h
  | cons s rest ih =>
      rw [List.foldlM_cons] at h
      rw [List.map_cons, List.forM, Step.runFrom_bind, runFrom_statement]
      cases hstep : g.step s with
      | error fault' =>
          rw [hstep] at h
          obtain rfl := Except.error.inj h
          rfl
      | ok next =>
          rw [hstep] at h
          exact ih h

theorem fst_program_eq_error {p : Program} {g : Generator} {fault : Fault}
    (h : p.foldlM Generator.step { g with lines := preamble.toArray } = .error fault) :
    (Step.runFrom (Generate.program .standard p.tree) g).1 = .error fault := by
  have hfst := fst_statements_eq_error h
  rw [runFrom_program]
  rcases hrun : Step.runFrom ((p.map Statement.tree).forM (Generate.statement .standard))
    { g with lines := preamble.toArray } with ⟨result, g'⟩
  rw [hrun] at hfst
  obtain rfl : result = .error fault := hfst
  rfl

theorem generate_eq_error {p : Program} {fault : Fault}
    (h : p.foldlM Generator.step { lines := preamble.toArray } = .error fault) :
    (generate p.tree).1 = .error fault := fst_program_eq_error h

theorem reports_generate {p : Program} (hp : p.Short) :
    Reports (p.violations []) (generate p.tree).1 := by
  have hrun := Generator.reports_run { lines := preamble.toArray } hp
  have hnames : Generator.names { lines := preamble.toArray } = [] := rfl
  rw [hnames] at hrun
  cases hviolations : p.violations [] with
  | nil =>
      rw [hviolations] at hrun
      obtain ⟨g, hg⟩ := hrun
      exact ⟨_, generate_eq_ok_iff.mpr ⟨g, hg, rfl⟩⟩
  | cons v vs =>
      rw [hviolations] at hrun
      exact generate_eq_error hrun

end SlotCompiler.Assembly
