import SlotCompiler.Proofs.Assembly.Machine

namespace SlotCompiler.Assembly

-- `line` is the number of the line that pushed the slot.
structure Slot (α : Type) where
  line : Nat
  value : α
deriving DecidableEq, Repr

structure Core (α ρ : Type) where
  stack : List (Slot α)
  rest : ρ

structure Processor (α ρ : Type) where
  -- The value of an operand that names no slot of the stack.
  operand : Text → Core α ρ → α
  store : Text → α → ρ → ρ
  other : Text → Core α ρ → Option (Core α ρ)

-- The slot that `QWORD [rsp+offset]` names. Slots take eight bytes.
def Core.slot? {α ρ : Type} (m : Core α ρ) (operand : Text) : Option (Slot α) :=
  match slotOffset? operand with
  | some offset => if offset % 8 = 0 then m.stack[offset / 8]? else none
  | none => none

namespace Processor

variable {α ρ : Type} (p : Processor α ρ)

def value (m : Core α ρ) (operand : Text) : α :=
  match m.slot? operand with
  | some slot => slot.value
  | none => p.operand operand m

-- A `pop` from an empty stack has no result. A `pop` into the stack pointer is like any other line.
def step (n : Nat) (m : Core α ρ) (line : Text) : Option (Core α ρ) :=
  match after? "push " line with
  | some operand => some { m with stack := ⟨n, p.value m operand⟩ :: m.stack }
  | none =>
    match after? "pop " line with
    | some register =>
      if register = "rsp" then p.other line m
      else
        match m.stack with
        | slot :: stack => some ⟨stack, p.store register slot.value m.rest⟩
        | [] => none
    | none => p.other line m

def run (n : Nat) (m : Core α ρ) : List Text → Option (Core α ρ)
  | [] => some m
  | line :: lines => (p.step n m line).bind fun m' => run (n + 1) m' lines

-- A line that leaves the stack as it finds it.
def Quiet (i : Instruction) : Prop :=
  ∀ n m, ∃ m', p.step n m i.text = some m' ∧ m'.stack = m.stack

theorem run_concat (n : Nat) (m : Core α ρ) (lines : List Text) (line : Text) :
    p.run n m (lines ++ [line]) =
      (p.run n m lines).bind fun m' => p.step (n + lines.length) m' line := by
  induction lines generalizing n m with
  | nil => simp [run]
  | cons first lines ih =>
      have hnumber : n + 1 + lines.length = n + (lines.length + 1) := by omega
      simp only [List.cons_append, run, ih, hnumber, List.length_cons, Option.bind_assoc]

theorem step_push (n : Nat) (m : Core α ρ) (o : Operand) :
    p.step n m (Instruction.push o).text =
      some { m with stack := ⟨n, p.value m o.text⟩ :: m.stack } := by
  rw [Instruction.text, step, after?_append]

theorem step_pop (n : Nat) {m : Core α ρ} {register : Text} (hregister : register ≠ "rsp")
    {slot : Slot α} {stack : List (Slot α)} (hm : m.stack = slot :: stack) :
    p.step n m (Instruction.pop register).text =
      some ⟨stack, p.store register slot.value m.rest⟩ := by
  have hpush : after? "push " (Text.ofString "pop " ++ register) = none := by
    simp [after?, Text.ofString]
  rw [Instruction.text, step, hpush, after?_append]
  simp only [hregister, hm, if_false]

theorem value_slot {m : Core α ρ} {above below : List (Slot α)} {slot : Slot α}
    (hm : m.stack = above ++ slot :: below) :
    p.value m (Operand.slot (8 * above.length : Nat)).text = slot.value := by
  have hslot : m.slot? (Operand.slot (8 * above.length : Nat)).text = some slot := by
    rw [Core.slot?, slotOffset?_slot]
    simp [hm]
  rw [value, hslot]

end Processor

end SlotCompiler.Assembly
