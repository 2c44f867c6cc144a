import Mathlib.Data.List.Forall2
import SlotCompiler.Assembly.Instruction
import SlotCompiler.Proofs.Text.Decimal
import SlotCompiler.Proofs.Text.Place

namespace SlotCompiler.Assembly

open CodePoint (char)

inductive Op where
  | pushNumber (n : Nat)
  | pushSlot (offset : Nat)
  | moveRax
  | popRdi
  | syscall
deriving DecidableEq, Repr

def after? (start t : Text) : Option Text :=
  if t.take start.length = start then some (t.drop start.length) else none

def slotOffset? (t : Text) : Option Nat :=
  match after? "QWORD [rsp+" t with
  | some rest => if rest.getLast? = some (char ']') then Text.decimal? rest.dropLast else none
  | none => none

def decode (line : Text) : Option Op :=
  match after? "push " line with
  | some operand =>
    match slotOffset? operand with
    | some offset => some (.pushSlot offset)
    | none => operand.decimal?.map .pushNumber
  | none =>
    if line = "mov rax, 60" then some .moveRax
    else if line = "pop rdi" then some .popRdi
    else if line = "syscall" then some .syscall
    else none

-- The lines of a file after its preamble. Every line ends with a line feed.
def decodeListing (t : Text) : Option (List Op) :=
  match t.sourceLines with
  | first :: second :: rest =>
    if first = "global _start" ∧ second = "_start:" ∧ rest.getLast? = some [] then
      rest.dropLast.mapM decode
    else none
  | _ => none

-- The top of the stack is its first slot. `calls` are the system calls so far, each with the two
-- registers.
structure Machine (α : Type) where
  stack : List α
  rax : Nat
  rdi : α
  calls : List (Nat × α)

namespace Machine

variable {α : Type}

-- What a slot holds once a number is pushed is left open: `load` says it. Slots take eight bytes.
def step (load : Nat → α) (m : Machine α) : Op → Option (Machine α)
  | .pushNumber n => some { m with stack := load n :: m.stack }
  | .pushSlot offset =>
    if offset % 8 = 0 ∧ offset < 8 * m.stack.length then
      (m.stack[offset / 8]?).map fun v => { m with stack := v :: m.stack }
    else none
  | .moveRax => some { m with rax := 60 }
  | .popRdi =>
    match m.stack with
    | v :: rest => some { m with stack := rest, rdi := v }
    | [] => none
  | .syscall => some { m with calls := m.calls ++ [(m.rax, m.rdi)] }

def run (load : Nat → α) (m : Machine α) (ops : List Op) : Option (Machine α) :=
  ops.foldlM (step load) m

theorem run_append (load : Nat → α) (m : Machine α) (ops more : List Op) :
    m.run load (ops ++ more) = (m.run load ops).bind fun n => n.run load more := by
  simp [run, List.foldlM_append]

end Machine

theorem after?_append (start t : Text) : after? start (start ++ t) = some t := by
  simp [after?]

def Instruction.Denotes (i : Instruction) (op : Op) : Prop :=
  decode i.text = some op ∧ char '\n' ∉ i.text

theorem not_mem_decimal {c : CodePoint} (hc : c.isAsciiDigit = false) (n : Nat) :
    c ∉ Text.ofString (toString (n : Int)) := by
  intro h
  rw [Text.ofString_toString] at h
  simp [Text.isAsciiDigit_of_mem_toDigits h] at hc

theorem slotOffset?_decimal (n : Nat) :
    slotOffset? (Text.ofString (toString (n : Int))) = none := by
  have hafter : after? "QWORD [rsp+" (Text.ofString (toString (n : Int))) = none := by
    rw [after?, if_neg]
    intro h
    have hmem : char 'Q' ∈ List.take (Text.ofString "QWORD [rsp+").length
        (Text.ofString (toString (n : Int))) := by
      rw [h]
      decide
    exact not_mem_decimal (by decide) n (List.mem_of_mem_take hmem)
  rw [slotOffset?, hafter]

theorem slotOffset?_slot (offset : Nat) :
    slotOffset? (Operand.slot offset).text = some offset := by
  rw [slotOffset?, Operand.text, List.append_assoc, after?_append]
  have hlast : (Text.ofString (toString (offset : Int)) ++ Text.ofString "]").getLast? =
      some (char ']') := by
    simp [Text.ofString]
  have hdrop : (Text.ofString (toString (offset : Int)) ++ Text.ofString "]").dropLast =
      Text.ofString (toString (offset : Int)) := List.dropLast_concat
  simp only [hlast, hdrop, if_true]
  exact Text.decimal?_ofString_toString offset

theorem denotes_pushNumber (n : Nat) :
    (Instruction.push (.literal (some (.int n)))).Denotes (.pushNumber n) := by
  have htext : (Instruction.push (.literal (some (.int n)))).text =
      Text.ofString "push " ++ Text.ofString (toString (n : Int)) := rfl
  constructor
  · rw [htext, decode, after?_append]
    simp only [slotOffset?_decimal, Text.decimal?_ofString_toString, Option.map_some]
  · rw [htext, List.mem_append, not_or]
    exact ⟨by decide, not_mem_decimal (by decide) n⟩

theorem denotes_pushSlot (offset : Nat) :
    (Instruction.push (.slot offset)).Denotes (.pushSlot offset) := by
  constructor
  · rw [Instruction.text, decode, after?_append]
    simp only [slotOffset?_slot]
  · simp only [Instruction.text, Operand.text, List.mem_append, not_or]
    exact ⟨by decide, ⟨by decide, not_mem_decimal (by decide) offset⟩, by decide⟩

theorem denotes_moveRax : (Instruction.move "rax" 60).Denotes .moveRax :=
  ⟨by decide +kernel, by decide +kernel⟩

theorem denotes_popRdi : (Instruction.pop "rdi").Denotes .popRdi :=
  ⟨by decide +kernel, by decide +kernel⟩

theorem denotes_syscall : Instruction.syscall.Denotes .syscall :=
  ⟨by decide +kernel, by decide +kernel⟩

theorem sourceLines_listing {code : List Instruction} (hne : code ≠ [])
    (h : ∀ i ∈ code, char '\n' ∉ i.text) :
    (listing code).sourceLines = code.map (·.text) ++ [[]] := by
  have hfeed : listing code = Text.join "\n" (code.map (·.text)) ++ char '\n' :: [] := rfl
  have hlines : (Text.join "\n" (code.map (·.text))).sourceLines = code.map (·.text) := by
    apply List.splitOn_intercalate
    · intro line hline
      obtain ⟨i, hi, rfl⟩ := List.mem_map.mp hline
      exact h i hi
    · simpa using hne
  rw [hfeed, Text.sourceLines_append_lineFeed, hlines]
  rfl

theorem mapM_decode {code : List Instruction} {ops : List Op}
    (h : List.Forall₂ Instruction.Denotes code ops) :
    (code.map (·.text)).mapM decode = some ops := by
  induction h with
  | nil => rfl
  | cons hfirst _ ih =>
      rw [List.map_cons, List.mapM_cons, hfirst.1, ih]
      rfl

theorem not_mem_of_denotes {code : List Instruction} {ops : List Op}
    (h : List.Forall₂ Instruction.Denotes code ops) : ∀ i ∈ code, char '\n' ∉ i.text := by
  induction h with
  | nil => simp
  | cons hfirst _ ih => exact List.forall_mem_cons.mpr ⟨hfirst.2, ih⟩

theorem decodeListing_listing {code : List Instruction} {ops : List Op}
    (h : List.Forall₂ Instruction.Denotes code ops) :
    decodeListing (listing (preamble ++ code)) = some ops := by
  have hpreamble : ∀ i ∈ preamble, char '\n' ∉ i.text := by decide
  have hlines : ∀ i ∈ preamble ++ code, char '\n' ∉ i.text :=
    List.forall_mem_append.mpr ⟨hpreamble, not_mem_of_denotes h⟩
  have hrest : ((preamble ++ code).map (·.text)) ++ [[]] =
      Text.ofString "global _start" :: Text.ofString "_start:" ::
        (code.map (·.text) ++ [[]]) := rfl
  rw [decodeListing, sourceLines_listing (by simp [preamble]) hlines, hrest]
  simp only [List.getLast?_concat, List.dropLast_concat, and_self, if_true]
  exact mapM_decode h

end SlotCompiler.Assembly
