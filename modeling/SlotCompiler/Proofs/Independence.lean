import Mathlib.Logic.Equiv.Basic
import SlotCompiler.Proofs.Assembly.Renaming
import SlotCompiler.Proofs.Fault
import SlotCompiler.Proofs.Program.Alike

namespace SlotCompiler

open Function (Injective)

theorem fst_runCompile_of_tokenize {code : Text} {tokens : List Token}
    (h : Token.tokenize code = .ok tokens) :
    (runCompile code).1 =
      (Program.ofTokens tokens).bind fun program => (Assembly.generate program.tree).1 := by
  rw [fst_runCompile, h]
  rfl

def CompileAlike (code code' : Text) : Prop :=
  (∃ asm, (runCompile code).1 = .ok asm ∧ (runCompile code').1 = .ok asm) ∨
  ∃ d d', (runCompile code).1 = .error (.diagnostic d) ∧
    (runCompile code').1 = .error (.diagnostic d') ∧ d'.kind = d.kind ∧ d'.message = d.message

variable {code code' : Text} {tokens tokens' : List Token}

theorem compileAlike_of_renames {p q : Program} (h : Token.tokenize code = .ok tokens)
    (h' : Token.tokenize code' = .ok tokens') (hp : Program.ofTokens tokens = .ok p)
    (hq : Program.ofTokens tokens' = .ok q) (hpq : Program.Renames id p q) :
    CompileAlike code code' := by
  rw [CompileAlike, fst_runCompile_of_tokenize h, fst_runCompile_of_tokenize h', hp, hq]
  simp only [Except.bind]
  cases hgen : (Assembly.generate p.tree).1 with
  | ok asm => exact .inl ⟨asm, rfl, Assembly.generate_renamed Function.injective_id hpq hgen⟩
  | error fault =>
      have hshort := Program.short_of_tokenize h hp
      have hshort' := Program.short_of_tokenize h' hq
      obtain ⟨d, rfl⟩ := Assembly.exists_diagnostic_of_generate hshort hgen
      obtain ⟨_, _, hrenamed⟩ := Assembly.generate_renamed_error hgen
      obtain ⟨_, _, fault', -, -, hgen', hfault⟩ := hrenamed Function.injective_id hpq
      obtain ⟨d', rfl⟩ := Assembly.exists_diagnostic_of_generate hshort' hgen'
      cases hfault with
      | diagnostic hd => exact .inr ⟨d, d', rfl, hgen', hd.kind, hd.message_eq⟩

theorem compileAlike_of_tokens (h : Token.tokenize code = .ok tokens)
    (h' : Token.tokenize code' = .ok tokens') (halike : List.Forall₂ Token.Alike tokens tokens') :
    CompileAlike code code' := by
  rcases Program.ofTokens_alike halike with
    ⟨p, q, hp, hq, hpq⟩ | ⟨fault, fault', hfault, hfault', hff⟩
  · exact compileAlike_of_renames h h' hp hq hpq
  · have hrun : (runCompile code).1 = .error fault := by
      rw [fst_runCompile_of_tokenize h, hfault]
      rfl
    have hrun' : (runCompile code').1 = .error fault' := by
      rw [fst_runCompile_of_tokenize h', hfault']
      rfl
    cases hff with
    | diagnostic hkind hdetails =>
        exact .inr ⟨_, _, hrun, hrun', hkind, Diagnostic.message_congr hkind hdetails⟩
    | refl =>
        -- What reading reports about the tokens of a text is a diagnostic.
        rcases runCompile_fault_cases hrun with ⟨d, rfl⟩ | ⟨htokens, -⟩
        · exact .inr ⟨d, d, hrun, hrun', rfl, rfl⟩
        · rw [h] at htokens
          cases htokens

-- Texts with the same tokens compile alike, wherever the tokens stand. A program and its renaming
-- have the same assembly; or both fail at the same node for the same reason, and if the node is a
-- variable, each quotes its own name for it. The reason is a diagnostic, unless there is something
-- in the program that cannot be shown.
theorem compile_forgets_layout_and_names :
    (∀ code code' tokens tokens', Token.tokenize code = .ok tokens →
      Token.tokenize code' = .ok tokens' → List.Forall₂ Token.Alike tokens tokens' →
      CompileAlike code code') ∧
    ∀ p : Program,
      (∀ asm, (Assembly.generate p.tree).1 = .ok asm →
        ∀ r q, Injective r → p.Renames r q → (Assembly.generate q.tree).1 = .ok asm) ∧
      ∀ fault, (Assembly.generate p.tree).1 = .error fault →
        (p.Short → ∃ d, fault = .diagnostic d) ∧
        ∃ (i : Nat) (node : Statement.Node), ∀ r q, Injective r → p.Renames r q →
          ∃ (s s' : Statement) (fault' : Fault), p[i]? = some s ∧ q[i]? = some s' ∧
            (Assembly.generate q.tree).1 = .error fault' ∧
            Fault.Renames r (s.site node) (s'.site node) fault fault' := by
  refine ⟨fun _ _ _ _ h h' halike => compileAlike_of_tokens h h' halike, fun p => ⟨?_, ?_⟩⟩
  · intro asm h r q hr hp
    exact Assembly.generate_renamed hr hp h
  · intro fault h
    refine ⟨fun hp => Assembly.exists_diagnostic_of_generate hp h, ?_⟩
    obtain ⟨i, node, hrenamed⟩ := Assembly.generate_renamed_error h
    exact ⟨i, node, fun r q hr hp => hrenamed hr hp⟩

-- A variable takes the name of a callee, which stays what it is. Undeclared, it is quoted by its
-- new name.
theorem compile_forgets_layout_and_names_exit :
    CompileAlike "exit(b);" "exit\n(b) ; # b" ∧
    (Assembly.generate (Program.tree
      [.binding ⟨.text "exit", ⟨0, 4, 4⟩⟩ (.literal (.int 1) .int ⟨1, 0, 1⟩),
        .call ⟨.text "exit", ⟨2, 0, 4⟩⟩ (.name ⟨.text "exit", ⟨2, 5, 4⟩⟩)])).1 =
      .ok ("global _start\n_start:\npush 1\n" ++
        "push QWORD [rsp+0]\nmov rax, 60\npop rdi\nsyscall\n") ∧
    ∃ d d' node,
      (Assembly.generate (Program.tree
        [.call ⟨.text "exit", ⟨0, 0, 4⟩⟩ (.name ⟨.text "b", ⟨0, 5, 1⟩⟩)])).1 =
          .error (.diagnostic d) ∧
      (Assembly.generate (Program.tree
        [.call ⟨.text "exit", ⟨3, 0, 4⟩⟩ (.name ⟨.text "exit", ⟨3, 5, 4⟩⟩)])).1 =
          .error (.diagnostic d') ∧
      Diagnostic.Renames (Equiv.swap (.text "b") (.text "exit"))
        (Statement.site (.call ⟨.text "exit", ⟨0, 0, 4⟩⟩ (.name ⟨.text "b", ⟨0, 5, 1⟩⟩)) node)
        (Statement.site (.call ⟨.text "exit", ⟨3, 0, 4⟩⟩ (.name ⟨.text "exit", ⟨3, 5, 4⟩⟩)) node)
        d d' := by
  have hr : Injective (Equiv.swap (Atom.text "b") (.text "exit")) := Equiv.injective _
  have hname : Atom.text "exit" = Equiv.swap (.text "b") (.text "exit") (.text "b") :=
    (Equiv.swap_apply_left _ _).symm
  refine ⟨?_, ?_, ?_⟩
  · have htokens : Token.tokenize "exit(b);" = .ok
        [⟨.identifier, .text "exit", ⟨0, 0, 4⟩⟩, ⟨.openParen, .text "(", ⟨0, 4, 1⟩⟩,
          ⟨.identifier, .text "b", ⟨0, 5, 1⟩⟩, ⟨.closeParen, .text ")", ⟨0, 6, 1⟩⟩,
          ⟨.semicolon, .text ";", ⟨0, 7, 1⟩⟩, ⟨.endOfInput, .text [], ⟨0, 7, 1⟩⟩] := by
      decide +kernel
    have htokens' : Token.tokenize "exit\n(b) ; # b" = .ok
        [⟨.identifier, .text "exit", ⟨0, 0, 4⟩⟩, ⟨.openParen, .text "(", ⟨1, 0, 1⟩⟩,
          ⟨.identifier, .text "b", ⟨1, 1, 1⟩⟩, ⟨.closeParen, .text ")", ⟨1, 2, 1⟩⟩,
          ⟨.semicolon, .text ";", ⟨1, 4, 1⟩⟩, ⟨.endOfInput, .text [], ⟨1, 4, 1⟩⟩] := by
      decide +kernel
    exact compile_forgets_layout_and_names.1 _ _ _ _ htokens htokens' (by simp [Token.Alike])
  · have hasm : (Assembly.generate (Program.tree
        [.binding ⟨.text "b", ⟨0, 4, 1⟩⟩ (.literal (.int 1) .int ⟨0, 8, 1⟩),
          .call ⟨.text "exit", ⟨0, 11, 4⟩⟩ (.name ⟨.text "b", ⟨0, 16, 1⟩⟩)])).1 =
        .ok ("global _start\n_start:\npush 1\n" ++
          "push QWORD [rsp+0]\nmov rax, 60\npop rdi\nsyscall\n") := by
      decide +kernel
    refine (compile_forgets_layout_and_names.2 _).1 _ hasm _ _ hr ?_
    exact .cons (.binding hname (.literal _ _ _ _)) (.cons (.call rfl (.name hname)) .nil)
  · obtain ⟨-, i, node, hrenamed⟩ := (compile_forgets_layout_and_names.2
      [.call ⟨.text "exit", ⟨0, 0, 4⟩⟩ (.name ⟨.text "b", ⟨0, 5, 1⟩⟩)]).2 _ rfl
    obtain ⟨s, s', fault', hs, hs', hgen, hfault⟩ := hrenamed _
      [.call ⟨.text "exit", ⟨3, 0, 4⟩⟩ (.name ⟨.text "exit", ⟨3, 5, 4⟩⟩)] hr
      (.cons (.call rfl (.name hname)) .nil)
    cases i with
    | succ i => cases hs
    | zero =>
        obtain rfl := Option.some.inj hs
        obtain rfl := Option.some.inj hs'
        have hshort : Program.Short
            [.call ⟨.text "exit", ⟨3, 0, 4⟩⟩ (.name ⟨.text "exit", ⟨3, 5, 4⟩⟩)] := by
          simp [Program.Short, Statement.Short, Expr.Short, Atom.Short]
        obtain ⟨d', rfl⟩ := ((compile_forgets_layout_and_names.2 _).2 _ hgen).1 hshort
        cases hfault with
        | diagnostic hd => exact ⟨_, _, node, rfl, hgen, hd⟩

end SlotCompiler
