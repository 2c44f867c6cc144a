import SlotCompiler.Proofs.Assembly.Scope

namespace SlotCompiler.Assembly

open Step (runFrom)

namespace Generator

def behind (g : Generator) (lines : Array Instruction) : Generator :=
  { g with lines := lines ++ g.lines }

theorem operand_behind (g : Generator) (lines : Array Instruction) (e : Expr) :
    (g.behind lines).operand e = g.operand e := by
  cases e with
  | literal value type span => cases type <;> rfl
  | name n => rfl

theorem declared_behind (g : Generator) (lines : Array Instruction) (x : Atom) (o : Operand) :
    (g.behind lines).declared x o = (g.declared x o).behind lines := by
  simp [behind, declared]

theorem exited_behind (g : Generator) (lines : Array Instruction) (o : Operand) :
    (g.behind lines).exited o = (g.exited o).behind lines := by
  simp [behind, exited, emitted]

theorem step_behind (g : Generator) (lines : Array Instruction) (s : Statement) :
    (g.behind lines).step s = (g.step s).map (·.behind lines) := by
  cases s with
  | binding bound value =>
      rw [step, step, operand_behind]
      show (if (g.scope.lookup bound.value).isSome then _ else _) = _
      split
      · rfl
      · cases g.operand value with
        | error fault => rfl
        | ok o => exact congrArg Except.ok (declared_behind g lines bound.value o)
  | call callee argument =>
      rw [step, step, operand_behind]
      split
      · cases g.operand argument with
        | error fault => rfl
        | ok o => exact congrArg Except.ok (exited_behind g lines o)
      · rfl

theorem run_behind (g : Generator) (lines : Array Instruction) (p : Program) :
    p.foldlM step (g.behind lines) = (p.foldlM step g).map (·.behind lines) := by
  induction p generalizing g with
  | nil => rfl
  | cons s rest ih =>
      rw [List.foldlM_cons, List.foldlM_cons, step_behind]
      cases g.step s with
      | error fault => rfl
      | ok next => exact ih next

theorem run_with_lines (g : Generator) (lines : Array Instruction) (p : Program) :
    p.foldlM step { g with lines } =
      (p.foldlM step { g with lines := #[] }).map (·.behind lines) := by
  rw [← run_behind]
  simp [behind]

end Generator

def Instruction.line (i : Instruction) : Text := i.text ++ "\n"

theorem listing_cons (i j : Instruction) (code : List Instruction) :
    listing (i :: j :: code) = i.line ++ listing (j :: code) := by
  simp [listing, Text.join, Instruction.line]

theorem listing_eq_flatMap {code : List Instruction} (h : code ≠ []) :
    listing code = code.flatMap Instruction.line := by
  induction code with
  | nil => exact absurd rfl h
  | cons i code ih =>
      cases code with
      | nil => simp [listing, Text.join, Instruction.line]
      | cons j code => rw [List.flatMap_cons, listing_cons, ih (by simp)]

theorem listing_append {code : List Instruction} (h : code ≠ []) (more : List Instruction) :
    listing (code ++ more) = listing code ++ more.flatMap Instruction.line := by
  rw [listing_eq_flatMap (List.append_ne_nil_of_left_ne_nil h more), listing_eq_flatMap h,
    List.flatMap_append]

theorem lines_ne_nil {p : Program} {g : Generator}
    (h : p.foldlM Generator.step { lines := preamble.toArray } = .ok g) : g.lines.toList ≠ [] := by
  rw [Generator.run_with_lines {}] at h
  cases hp : p.foldlM Generator.step {} with
  | error fault =>
      rw [hp] at h
      cases h
  | ok g₀ =>
      rw [hp] at h
      obtain rfl := Except.ok.inj h
      simp [Generator.behind, preamble]

theorem steps_of_generate {p : Program} {asm : Text} {g : Generator}
    (h : generate p.tree = (.ok asm, g)) :
    p.foldlM Generator.step { lines := preamble.toArray } = .ok g ∧
      asm = listing g.lines.toList := by
  cases hp : p.foldlM Generator.step { lines := preamble.toArray } with
  | error fault =>
      have hfails := generate_eq_error hp
      rw [h] at hfails
      cases hfails
  | ok g₀ =>
      rw [generate_of_steps hp] at h
      cases h
      exact ⟨rfl, rfl⟩

-- After `first` was generated for `p`, the generator goes on with `q` as it would in one program.
structure Continues (p q : Program) (first : Text) (g : Generator) : Prop where
  ok : ∀ second g', runFrom (Generate.program .standard q.tree) g = (.ok second, g') →
    ∃ rest whole, second = "global _start\n_start:\n" ++ rest ∧
      generate (Program.tree (p ++ q)) = (.ok (first ++ rest), whole) ∧
      whole.scope = g'.scope ∧ whole.stackSize = g'.stackSize
  error : ∀ fault, (runFrom (Generate.program .standard q.tree) g).1 = .error fault →
    (generate (Program.tree (p ++ q))).1 = .error fault

theorem continues {p : Program} {first : Text} {g : Generator}
    (h : generate p.tree = (.ok first, g)) (q : Program) : Continues p q first g := by
  obtain ⟨hp, rfl⟩ := steps_of_generate h
  -- The two runs of `q` differ in what stands before its code.
  have hagain := g.run_with_lines preamble.toArray q
  have hwhole : (p ++ q).foldlM Generator.step { lines := preamble.toArray } =
      (q.foldlM Generator.step { g with lines := #[] }).map (·.behind g.lines) := by
    rw [List.foldlM_append, hp, ← g.run_with_lines]
    rfl
  cases hq : q.foldlM Generator.step { g with lines := #[] } with
  | error fault =>
      rw [hq] at hagain hwhole
      have hfails := fst_program_eq_error hagain
      refine ⟨fun second g' hsecond => ?_, fun fault' hfault => ?_⟩
      · rw [hsecond] at hfails
        cases hfails
      · obtain rfl := Except.error.inj (hfails.symm.trans hfault)
        exact generate_eq_error hwhole
  | ok added =>
      rw [hq] at hagain hwhole
      have hrun := runFrom_program_of_steps hagain
      refine ⟨fun second g' hsecond => ?_, fun fault hfault => ?_⟩
      · obtain ⟨htext, rfl⟩ := Prod.mk.inj (hrun.symm.trans hsecond)
        obtain rfl := Except.ok.inj htext
        refine ⟨added.lines.toList.flatMap Instruction.line, added.behind g.lines, ?_, ?_, rfl, rfl⟩
        · have hpreamble : listing preamble = "global _start\n_start:\n" := by decide +kernel
          rw [← hpreamble, ← listing_append (by simp [preamble])]
          simp [Generator.behind]
        · rw [generate_of_steps hwhole, ← listing_append (lines_ne_nil hp)]
          simp [Generator.behind]
      · rw [hrun] at hfault
        cases hfault

theorem Continues.ok_iff {p q : Program} {first : Text} {g : Generator}
    (h : Continues p q first g) :
    (∃ second, (runFrom (Generate.program .standard q.tree) g).1 = .ok second) ↔
      ∃ whole, (generate (Program.tree (p ++ q))).1 = .ok whole := by
  rcases hrun : runFrom (Generate.program .standard q.tree) g with ⟨result, g'⟩
  cases result with
  | ok second =>
      obtain ⟨rest, whole, -, hwhole, -⟩ := h.ok second g' hrun
      simp [hwhole]
  | error fault =>
      have hfails := h.error fault (by rw [hrun])
      simp [hfails]

theorem generate_append_eq_error {p : Program} {fault : Fault}
    (h : (generate p.tree).1 = .error fault) (q : Program) :
    (generate (Program.tree (p ++ q))).1 = .error fault := by
  cases hp : p.foldlM Generator.step { lines := preamble.toArray } with
  | ok g =>
      rw [generate_of_steps hp] at h
      cases h
  | error fault' =>
      obtain rfl := Except.error.inj ((generate_eq_error hp).symm.trans h)
      apply generate_eq_error
      rw [List.foldlM_append, hp]
      rfl

-- A program can be generated in two parts on one generator: its text is that of the first part and
-- then that of the second without its preamble, and it fails where one of the parts does. A program
-- that goes on after another has a text that starts with the other's.
theorem generate_in_parts (p q : Program) :
    (∀ first g, generate p.tree = (.ok first, g) →
      ((∃ second, (runFrom (Generate.program .standard q.tree) g).1 = .ok second) ↔
        ∃ whole, (generate (Program.tree (p ++ q))).1 = .ok whole) ∧
      Continues p q first g) ∧
    (∀ fault, (generate p.tree).1 = .error fault →
      (generate (Program.tree (p ++ q))).1 = .error fault) ∧
    ∀ whole, (generate (Program.tree (p ++ q))).1 = .ok whole →
      ∃ first, (generate p.tree).1 = .ok first ∧ first <+: whole := by
  refine ⟨?_, fun fault h => generate_append_eq_error h q, ?_⟩
  · intro first g h
    exact ⟨(continues h q).ok_iff, continues h q⟩
  · intro whole hwhole
    rcases hp : generate p.tree with ⟨fault | first, g⟩
    · have hfails := generate_append_eq_error (congrArg Prod.fst hp) q
      rw [hwhole] at hfails
      cases hfails
    · have hq := continues hp q
      obtain ⟨second, hsecond⟩ := hq.ok_iff.mpr ⟨whole, hwhole⟩
      obtain ⟨rest, g', -, htext, -⟩ := hq.ok second _ (Prod.ext hsecond rfl)
      rw [htext] at hwhole
      exact ⟨first, rfl, rest, Except.ok.inj hwhole⟩

-- `exit(a);` after `let a = 7;`, and a second `a` that is refused in either way.
theorem generate_in_parts_shared_variable :
    let name := fun x : Text => Name.mk (.text x) ⟨0, 0, 1⟩
    let p : Program := [.binding (name "a") (.literal (.int 7) .int ⟨0, 0, 1⟩)]
    let q : Program := [.call (name "exit") (.name (name "a"))]
    ∃ g, generate p.tree = (.ok "global _start\n_start:\npush 7\n", g) ∧
      Continues p q "global _start\n_start:\npush 7\n" g ∧
      (generate (Program.tree (p ++ q))).1 = .ok ("global _start\n_start:\npush 7\n" ++
        "push QWORD [rsp+0]\nmov rax, 60\npop rdi\nsyscall\n") ∧
      (∃ fault, (runFrom (Generate.program .standard p.tree) g).1 = .error fault ∧
        (generate (Program.tree (p ++ p))).1 = .error fault ∧
        (generate (Program.tree (p ++ p ++ q))).1 = .error fault) := by
  intro name p q
  have hp : generate p.tree =
      (.ok "global _start\n_start:\npush 7\n", (generate p.tree).2) := by decide +kernel
  have hwhole : (generate (Program.tree (p ++ q))).1 =
      .ok ("global _start\n_start:\npush 7\n" ++
        "push QWORD [rsp+0]\nmov rax, 60\npop rdi\nsyscall\n") := by decide +kernel
  have hagain : (runFrom (Generate.program .standard p.tree) (generate p.tree).2).1 =
      .error (.report .alreadyDeclared ⟨0, 0, 1⟩ [.text "a"]) := by decide +kernel
  have htwice := ((generate_in_parts p p).1 _ _ hp).2.error _ hagain
  exact ⟨_, hp, ((generate_in_parts p q).1 _ _ hp).2, hwhole, _, hagain, htwice,
    (generate_in_parts (p ++ p) q).2.1 _ htwice⟩

end SlotCompiler.Assembly
