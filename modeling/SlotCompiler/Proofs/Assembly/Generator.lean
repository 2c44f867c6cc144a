import SlotCompiler.Assembly.Generator
import SlotCompiler.Proofs.Atom

namespace SlotCompiler.Assembly

open Step (runFrom)

theorem lookup_eq_none_iff {scope : Scope} {x : Atom} :
    scope.lookup x = none ↔ x ∉ scope.map Prod.fst := by
  rw [List.lookup_eq_none_iff, List.mem_map]
  constructor
  · rintro h ⟨b, hb, rfl⟩
    simpa using h b hb
  · intro h b hb
    exact bne_iff_ne.mpr fun hx => h ⟨b, hb, hx.symm⟩

namespace Generator

def operand (g : Generator) : Expr → Except Fault Operand
  | .literal value .int _ => if value.Short then .ok (.literal value) else .error .longNumber
  | .literal _ .string span =>
    .error (.report .unsupportedExpression span [.text LiteralType.string.name])
  | .name n =>
    match g.scope.lookup n.value with
    | some location => .ok (.slot (g.stackSize - location))
    | none => .error (.report .notFound n.span [n.value])

theorem operand_literal {g : Generator} {value : Atom} {span : Span} {o : Operand}
    (h : g.operand (.literal value .int span) = .ok o) : o = .literal value := by
  rw [operand] at h
  split at h
  · exact (Except.ok.inj h).symm
  · cases h

def emitted (g : Generator) (code : List Instruction) : Generator :=
  { g with lines := g.lines ++ code.toArray }

def declared (g : Generator) (name : Atom) (o : Operand) : Generator :=
  { lines := g.lines.push (.push o)
    scope := g.scope ++ [(name, g.stackSize + slotSize)]
    stackSize := g.stackSize + slotSize }

def exited (g : Generator) (o : Operand) : Generator :=
  g.emitted [.push o, .move "rax" exitNumber, .pop "rdi", .syscall]

def step (g : Generator) : Statement → Except Fault Generator
  | .binding bound value =>
    if (g.scope.lookup bound.value).isSome then
      .error (.report .alreadyDeclared bound.span [bound.value])
    else (g.operand value).map (g.declared bound.value)
  | .call callee argument =>
    if callee.value = .text "exit" then (g.operand argument).map g.exited
    else .error (.report .notFound callee.span [callee.value])

theorem step_cases {g g' : Generator} {s : Statement} (h : g.step s = .ok g') :
    (∃ bound value o, s = .binding bound value ∧ g.scope.lookup bound.value = none ∧
      g.operand value = .ok o ∧ g' = g.declared bound.value o) ∨
    (∃ callee argument o, s = .call callee argument ∧ callee.value = .text "exit" ∧
      g.operand argument = .ok o ∧ g' = g.exited o) := by
  cases s with
  | binding bound value =>
      rw [step] at h
      split at h
      next => cases h
      next hnew =>
        cases ho : g.operand value with
        | error fault => simp [ho, Except.map] at h
        | ok o =>
            simp only [ho, Except.map, Except.ok.injEq] at h
            exact .inl ⟨bound, value, o, rfl, Option.not_isSome_iff_eq_none.mp hnew, ho, h.symm⟩
  | call callee argument =>
      rw [step] at h
      split at h
      next hexit =>
        cases ho : g.operand argument with
        | error fault => simp [ho, Except.map] at h
        | ok o =>
            simp only [ho, Except.map, Except.ok.injEq] at h
            exact .inr ⟨callee, argument, o, rfl, hexit, ho, h.symm⟩
      next => cases h

def outcome (g : Generator) : Except Fault Generator → Except Fault Unit × Generator
  | .ok g' => (.ok (), g')
  | .error fault => (.error fault, g)

end Generator

theorem runFrom_expr (e : Expr) (g : Generator) :
    runFrom (Generate.expr e.tree) g =
      match g.operand e with
      | .ok o => runFrom (Generate.push o) g
      | .error fault => (.error fault, g) := by
  cases e with
  | literal value type span =>
      cases type with
      | string => rfl
      | int =>
          have hvalue : (∀ v ∈ some value, v.Short) ↔ value.Short := by simp
          have htype : (LiteralType.int.name != LiteralType.int.name) = false := by decide
          simp only [Expr.tree, Generate.expr, htype, hvalue, Generator.operand]
          by_cases hshort : value.Short
          · simp only [hshort, if_true]
            rfl
          · simp only [hshort, if_false]
            rfl
  | name n =>
      simp only [Expr.tree, Name.tree, Generate.expr, Generator.operand]
      rw [Step.runFrom_bind_ok _ (Step.runFrom_get g)]
      cases g.scope.lookup n.value <;> rfl

theorem runFrom_nameOf (n : Name) (g : Generator) :
    runFrom (Generate.nameOf n.tree) g = (.ok n, g) := rfl

theorem runFrom_binding (bound : Name) (value : Expr) (g : Generator) :
    runFrom (Generate.statement .standard (Statement.binding bound value).tree) g =
      g.outcome (g.step (.binding bound value)) := by
  rw [Statement.tree, Generate.statement, Step.runFrom_bind_ok _ (runFrom_nameOf bound g),
    Step.runFrom_bind_ok _ (Step.runFrom_get g), Generator.step]
  by_cases hdeclared : (g.scope.lookup bound.value).isSome = true
  · rw [if_pos hdeclared, if_pos hdeclared]
    rfl
  · rw [if_neg hdeclared, if_neg hdeclared]
    show runFrom (Generate.expr value.tree >>= _) g = _
    rw [Step.runFrom_bind, runFrom_expr]
    cases g.operand value <;> rfl

theorem runFrom_exit (argument : Expr) (g : Generator) :
    runFrom (Generate.builtin .exit argument.tree) g =
      g.outcome ((g.operand argument).map g.exited) := by
  rw [Generate.builtin, Builtin.exit, List.forM, Generate.act, Step.runFrom_bind, runFrom_expr]
  cases g.operand argument with
  | error fault => rfl
  | ok o =>
      -- What the argument adds to the stack, the pop takes away.
      have hsize : g.stackSize + slotSize - slotSize = g.stackSize := Int.add_sub_cancel _ _
      show ((.ok (), { g.exited o with stackSize := g.stackSize + slotSize - slotSize }) :
        Except Fault Unit × Generator) = _
      rw [hsize]
      rfl

theorem find?_standard (name : Atom) :
    Builtins.standard.find? name = if name = .text "exit" then some .exit else none := by
  cases name with
  | int n => rfl
  | text t =>
      by_cases ht : t = "exit"
      · subst ht
        rfl
      · have hne : Atom.text t ≠ .text "exit" := fun h => ht (Atom.text.inj h)
        rw [if_neg hne]
        have hbeq : (t == Text.ofString "exit") = false := beq_eq_false_iff_ne.mpr ht
        simp only [Builtins.find?, Builtins.standard, List.lookup_cons, hbeq, List.lookup_nil]

theorem runFrom_call (callee : Name) (argument : Expr) (g : Generator) :
    runFrom (Generate.statement .standard (Statement.call callee argument).tree) g =
      g.outcome (g.step (.call callee argument)) := by
  rw [Statement.tree, Generate.statement, Step.runFrom_bind_ok _ (runFrom_nameOf callee g),
    find?_standard, Generator.step]
  by_cases hexit : callee.value = .text "exit"
  · rw [if_pos hexit, if_pos hexit]
    exact runFrom_exit argument g
  · rw [if_neg hexit, if_neg hexit]
    rfl

theorem runFrom_statement (s : Statement) (g : Generator) :
    runFrom (Generate.statement .standard s.tree) g = g.outcome (g.step s) := by
  cases s with
  | binding bound value => exact runFrom_binding bound value g
  | call callee argument => exact runFrom_call callee argument g

theorem statements_eq_ok_iff {p : Program} {g g' : Generator} :
    runFrom ((p.map Statement.tree).forM (Generate.statement .standard)) g = (.ok (), g') ↔
      p.foldlM Generator.step g = .ok g' := by
  induction p generalizing g with
  | nil =>
      have hnone : runFrom (([] : List Tree).forM (Generate.statement .standard)) g =
          (.ok (), g) := rfl
      rw [List.map_nil, hnone, List.foldlM_nil]
      simp [pure, Except.pure]
  | cons s rest ih =>
      rw [List.map_cons, List.forM, Step.runFrom_bind, runFrom_statement, List.foldlM_cons]
      cases g.step s with
      | error fault => simp [Generator.outcome, bind, Except.bind]
      | ok next => exact ih

theorem runFrom_program (p : Program) (g : Generator) :
    runFrom (Generate.program .standard p.tree) g =
      match runFrom ((p.map Statement.tree).forM (Generate.statement .standard))
        { g with lines := preamble.toArray } with
      | (.ok _, g') => (.ok (listing g'.lines.toList), g')
      | (.error fault, g') => (.error fault, g') := by
  have hstart : runFrom (modify fun g => { g with lines := preamble.toArray } : Generate PUnit) g =
      (.ok ⟨⟩, { g with lines := preamble.toArray }) := rfl
  rw [Generate.program, Step.runFrom_bind_ok _ hstart, Program.tree]
  show runFrom (_ >>= _) _ = _
  rw [Step.runFrom_bind]
  rcases runFrom ((p.map Statement.tree).forM (Generate.statement .standard))
    { g with lines := preamble.toArray } with ⟨_ | _, g'⟩ <;> rfl

theorem runFrom_program_of_steps {p : Program} {g g' : Generator}
    (h : p.foldlM Generator.step { g with lines := preamble.toArray } = .ok g') :
    runFrom (Generate.program .standard p.tree) g = (.ok (listing g'.lines.toList), g') := by
  rw [runFrom_program, statements_eq_ok_iff.mpr h]

theorem generate_of_steps {p : Program} {g : Generator}
    (h : p.foldlM Generator.step { lines := preamble.toArray } = .ok g) :
    generate p.tree = (.ok (listing g.lines.toList), g) := runFrom_program_of_steps h

theorem generate_eq_ok_iff {p : Program} {asm : Text} :
    (generate p.tree).1 = .ok asm ↔
      ∃ g : Generator, p.foldlM Generator.step { lines := preamble.toArray } = .ok g ∧
        listing g.lines.toList = asm := by
  rw [generate, runFrom_program]
  rcases hrun : runFrom ((p.map Statement.tree).forM (Generate.statement .standard))
    { lines := preamble.toArray } with ⟨result, g⟩
  cases result with
  | ok _ =>
      have hsteps := statements_eq_ok_iff.mp hrun
      simp [hsteps]
  | error fault =>
      have hsteps : ∀ g', p.foldlM Generator.step { lines := preamble.toArray } ≠ .ok g' := by
        intro g' h
        rw [statements_eq_ok_iff.mpr h] at hrun
        cases hrun
      simp [hsteps]

end SlotCompiler.Assembly
