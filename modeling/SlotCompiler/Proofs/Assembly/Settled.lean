import Mathlib.Data.List.Nodup
import SlotCompiler.Assembly.Session
import SlotCompiler.Proofs.Assembly.Scope
import SlotCompiler.Proofs.Session

namespace SlotCompiler.Assembly

open Step (runFrom stateAfter)

namespace Generator

-- Variables are numbered from one; the place of a variable is the size of the stack up to it.
structure Settled (g : Generator) : Prop where
  size : g.stackSize = 8 * g.scope.length
  place : ∀ (i : Nat) x location, g.scope[i]? = some (x, location) → location = 8 * ((i : Int) + 1)
  distinct : g.names.Nodup

-- The operand finds a variable below all those that were declared after it.
def Finds (g : Generator) (x : Atom) (o : Operand) : Prop :=
  ∃ (i : Nat) (k : Int), g.names[i]? = some x ∧ o = .slot k ∧
    k = 8 * ((g.names.length : Int) - (i + 1)) ∧ 0 ≤ k

-- What a statement that succeeds has added: one push, lines that push nothing, and the variable it
-- declares. Only the value of a variable is pushed from a slot.
structure Extends (g g' : Generator) (s : Statement) : Prop where
  names : g'.names = g.names ++ s.declares
  lines : ∃ o more, g'.lines.toList = g.lines.toList ++ .push o :: more ∧
    (∀ o', .push o' ∉ more) ∧ (∀ k, o = .slot k → ∃ n, s.operand = .name n) ∧
    ∀ n, s.operand = .name n → g.Finds n.value o

theorem length_names (g : Generator) : g.names.length = g.scope.length := List.length_map _

theorem settled_fresh : ({} : Generator).Settled := ⟨rfl, by simp, .nil⟩

namespace Settled

variable {g : Generator}

theorem finds (hg : g.Settled) {x : Atom} {location : Int}
    (h : g.scope.lookup x = some location) : g.Finds x (.slot (g.stackSize - location)) := by
  obtain ⟨older, newer, hscope, -⟩ := List.lookup_eq_some_iff.mp h
  have hlocation : location = 8 * ((older.length : Int) + 1) :=
    hg.place older.length x location (by simp [hscope])
  have hlength : g.names.length = older.length + (newer.length + 1) := by
    rw [length_names, hscope, List.length_append, List.length_cons]
  refine ⟨older.length, g.stackSize - location, by simp [names, hscope], rfl, ?_, ?_⟩
  · rw [hg.size, ← length_names, hlocation]
    omega
  · rw [hg.size, ← length_names, hlocation, hlength]
    omega

theorem operand (hg : g.Settled) {e : Expr} {o : Operand} (h : g.operand e = .ok o) :
    (∀ k, o = .slot k → ∃ n, e = .name n) ∧ ∀ n, e = .name n → g.Finds n.value o := by
  cases e with
  | literal value type span =>
      cases type with
      | string => cases h
      | int =>
          obtain rfl := operand_literal h
          exact ⟨by simp, by simp⟩
  | name n =>
      rw [Generator.operand] at h
      cases hlookup : g.scope.lookup n.value with
      | none => simp [hlookup] at h
      | some location =>
          simp only [hlookup, Except.ok.injEq] at h
          subst h
          refine ⟨fun k _ => ⟨n, rfl⟩, fun n' hn => ?_⟩
          obtain rfl := Expr.name.inj hn
          exact hg.finds hlookup

theorem declared (hg : g.Settled) {x : Atom} (hx : g.scope.lookup x = none) (o : Operand) :
    (g.declared x o).Settled where
  size := by
    simp only [Generator.declared, hg.size, slotSize, List.length_append, List.length_singleton]
    omega
  place := by
    intro i y location h
    rw [Generator.declared, List.getElem?_append] at h
    split at h
    next => exact hg.place i y location h
    next hi =>
      -- The new variable is the last one, right above all the others.
      rw [List.getElem?_singleton] at h
      split at h
      next hlast =>
        simp only [Option.some.injEq, Prod.mk.injEq] at h
        rw [← h.2, hg.size, slotSize]
        omega
      next => cases h
  distinct := by
    have hnew : x ∉ g.names := lookup_eq_none_iff.mp hx
    have hnames : (g.declared x o).names = g.names ++ [x] := by simp [names, Generator.declared]
    rw [hnames, ← List.concat_eq_append]
    exact hg.distinct.concat hnew

theorem step (hg : g.Settled) {g' : Generator} {s : Statement} (h : g.step s = .ok g') :
    g'.Settled ∧ g.Extends g' s := by
  have hnames := names_of_step h
  rcases step_cases h with
    ⟨bound, value, o, rfl, hnew, ho, rfl⟩ | ⟨callee, argument, o, rfl, -, ho, rfl⟩
  · obtain ⟨hslot, hfinds⟩ := hg.operand ho
    refine ⟨hg.declared hnew o, hnames, o, [], Array.toList_push, by simp, hslot, hfinds⟩
  · obtain ⟨hslot, hfinds⟩ := hg.operand ho
    refine ⟨⟨hg.size, hg.place, hg.distinct⟩, hnames, o, _, Array.toList_append, ?_, hslot, hfinds⟩
    simp

end Settled

end Generator

def inTurn (g : Generator) (statements : List Statement) :
    List (Except Fault (Option Text) × Generator) :=
  session .standard g (statements.map fun s => .statement s.tree)

def succeeded (statements : List Statement)
    (replies : List (Except Fault (Option Text) × Generator)) : List Statement :=
  ((statements.zip replies).filter fun r => r.2.1.isOk).map Prod.fst

theorem runFrom_request (g : Generator) (s : Statement) :
    runFrom ((Request.statement s.tree).run .standard) g =
      match g.step s with
      | .ok g' => (.ok none, g')
      | .error fault => (.error fault, g) := by
  rw [Request.run, Step.runFrom_bind, runFrom_statement]
  cases g.step s <;> rfl

theorem inTurn_of_ok {g g' : Generator} {s : Statement} (h : g.step s = .ok g')
    (rest : List Statement) : inTurn g (s :: rest) = (.ok none, g') :: inTurn g' rest := by
  rw [inTurn, List.map_cons, session, runFrom_request, h]
  rfl

theorem inTurn_of_error {g : Generator} {s : Statement} {fault : Fault}
    (h : g.step s = .error fault) (rest : List Statement) :
    inTurn g (s :: rest) = (.error fault, g) :: inTurn g rest := by
  rw [inTurn, List.map_cons, session, runFrom_request, h]
  rfl

theorem inTurn_eq (g : Generator) (statements : List Statement) :
    inTurn g statements =
      Step.session (fun s => (Request.statement s.tree).run .standard) g statements := by
  induction statements generalizing g with
  | nil => rfl
  | cons s rest ih =>
      rw [Step.session, ← ih]
      rfl

-- A statement is refused and nothing has changed, or it extends what was there.
structure Handles (s : Statement) (g : Generator) (reply : Except Fault (Option Text))
    (g' : Generator) : Prop where
  refused : ∀ fault, reply = .error fault → g' = g
  extended : ∀ text, reply = .ok text → g.Extends g' s

theorem Generator.Settled.request {g : Generator} (hg : g.Settled) (s : Statement) :
    let outcome := runFrom ((Request.statement s.tree).run .standard) g
    outcome.2.Settled ∧ Handles s g outcome.1 outcome.2 := by
  rw [runFrom_request]
  cases h : g.step s with
  | error fault => exact ⟨hg, fun _ _ => rfl, by simp⟩
  | ok g' =>
      obtain ⟨hg', hextends⟩ := hg.step h
      exact ⟨hg', by simp, fun _ _ => hextends⟩

theorem inTurn_succeeded (g : Generator) (statements : List Statement) :
    (∀ r ∈ inTurn g (succeeded statements (inTurn g statements)), r.1.isOk = true) ∧
    stateAfter g (inTurn g (succeeded statements (inTurn g statements))) =
      stateAfter g (inTurn g statements) := by
  induction statements generalizing g with
  | nil => exact ⟨by simp [succeeded, inTurn, session], rfl⟩
  | cons s rest ih =>
      cases h : g.step s with
      | ok next =>
          have hkept : succeeded (s :: rest) ((.ok none, next) :: inTurn next rest) =
              s :: succeeded rest (inTurn next rest) := by
            simp [succeeded, Except.isOk, Except.toBool]
          obtain ⟨hok, hsame⟩ := ih next
          rw [inTurn_of_ok h, hkept, inTurn_of_ok h, Step.stateAfter_cons, Step.stateAfter_cons]
          refine ⟨List.forall_mem_cons.mpr ⟨rfl, hok⟩, hsame⟩
      | error fault =>
          have hkept : succeeded (s :: rest) ((.error fault, g) :: inTurn g rest) =
              succeeded rest (inTurn g rest) := by
            simp [succeeded, Except.isOk, Except.toBool]
          rw [inTurn_of_error h, hkept, Step.stateAfter_cons]
          exact ih g

-- After every statement, whichever have failed, the variables are all that is on the stack, each in
-- its own slot, and reads find them there. A statement that fails changes nothing, so in the end
-- the generator is where the statements that succeed take it, which also succeed on their own.
theorem inTurn_keeps_slots (statements : List Statement) :
    (inTurn {} statements).length = statements.length ∧
    (∀ past reply g rest, inTurn {} statements = past ++ (reply, g) :: rest →
      g.Settled ∧ ∃ s, statements[past.length]? = some s ∧
        Handles s (stateAfter {} past) reply g) ∧
    (∀ r ∈ inTurn {} (succeeded statements (inTurn {} statements)), r.1.isOk = true) ∧
    stateAfter {} (inTurn {} (succeeded statements (inTurn {} statements))) =
      stateAfter {} (inTurn {} statements) := by
  refine ⟨?_, ?_, inTurn_succeeded _ _⟩
  · rw [inTurn_eq, Step.length_session]
  · intro past reply g rest h
    rw [inTurn_eq] at h
    exact Step.session_invariant (fun s _ g hg => hg.request s) Generator.settled_fresh h

-- A second `a` and an unknown `c` are refused; `a` is then read from under `b`.
theorem inTurn_keeps_slots_refused :
    let name := fun x : Text => Name.mk (.text x) ⟨0, 0, 1⟩
    let number := fun n : Int => Expr.literal (.int n) .int ⟨0, 0, 1⟩
    let statements := [.binding (name "a") (number 5), .binding (name "a") (number 6),
      .binding (name "b") (number 7), .call (name "exit") (.name (name "c")),
      .call (name "exit") (.name (name "a"))]
    ∃ past g, inTurn {} statements = past ++ [(.ok none, g)] ∧ g.Settled ∧
      (stateAfter {} past).Extends g (.call (name "exit") (.name (name "a"))) ∧
      succeeded statements (inTurn {} statements) = [.binding (name "a") (number 5),
        .binding (name "b") (number 7), .call (name "exit") (.name (name "a"))] ∧
      stateAfter {} (inTurn {} [.binding (name "a") (number 5), .binding (name "b") (number 7),
        .call (name "exit") (.name (name "a"))]) = g := by
  intro name number statements
  have hlast : inTurn {} statements = (inTurn {} statements).dropLast ++
      [(.ok none, stateAfter {} (inTurn {} statements))] := by decide +kernel
  have hkept : succeeded statements (inTurn {} statements) = [.binding (name "a") (number 5),
      .binding (name "b") (number 7), .call (name "exit") (.name (name "a"))] := by decide +kernel
  obtain ⟨-, hruns, -, hsame⟩ := inTurn_keeps_slots statements
  obtain ⟨hg, s, hs, hhandles⟩ := hruns _ _ _ _ hlast
  have hfourth : (inTurn {} statements).dropLast.length = 4 := by decide +kernel
  rw [hfourth] at hs
  obtain rfl := Option.some.inj hs
  exact ⟨_, _, hlast, hg, hhandles.extended none rfl, hkept, hkept ▸ hsame⟩

end SlotCompiler.Assembly
