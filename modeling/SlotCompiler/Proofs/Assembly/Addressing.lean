import Mathlib.Data.List.Infix
import SlotCompiler.Proofs.Assembly.Moves
import SlotCompiler.Proofs.Assembly.Processor

namespace SlotCompiler.Assembly

open Step (runFrom)

variable {α ρ : Type} {p : Processor α ρ} {start m : Core α ρ} {g : Generator}

def codeText (lines : Array Instruction) : List Text := lines.toList.map (·.text)

-- The lines so far lead to `m`, and the generator knows how deep its stack is.
structure Generator.Runs (g : Generator) (p : Processor α ρ) (start m : Core α ρ) : Prop where
  run : p.run 0 start (codeText g.lines) = some m
  depth : g.stackSize = slotSize * m.stack.length

theorem Processor.run_push (p : Processor α ρ) (start : Core α ρ) (lines : Array Instruction)
    (i : Instruction) :
    p.run 0 start (codeText (lines.push i)) =
      (p.run 0 start (codeText lines)).bind fun m => p.step lines.size m i.text := by
  have hsize : 0 + (codeText lines).length = lines.size := by simp [codeText]
  rw [← hsize, ← run_concat]
  simp [codeText]

namespace Generator.Runs

theorem fresh (hstart : start.stack = []) : ({} : Generator).Runs p start start :=
  ⟨rfl, by simp [hstart]⟩

theorem push (h : g.Runs p start m) (o : Operand) :
    { g with lines := g.lines.push (.push o), stackSize := g.stackSize + slotSize : Generator }.Runs
      p start { m with stack := ⟨g.lines.size, p.value m o.text⟩ :: m.stack } where
  run := by
    rw [Processor.run_push, h.run, Option.bind_some, Processor.step_push]
  depth := by
    simp only [h.depth, slotSize, List.length_cons]
    omega

theorem exists_top (h : g.Runs p start m) {lines : Array Instruction} {o : Operand}
    (hlines : g.lines = lines.push (.push o)) :
    ∃ slot below, m.stack = slot :: below ∧ slot.line + 1 = g.lines.size := by
  have hrun := h.run
  rw [hlines, Processor.run_push] at hrun
  obtain ⟨m₀, -, hstep⟩ := Option.bind_eq_some_iff.mp hrun
  rw [Processor.step_push] at hstep
  obtain rfl := Option.some.inj hstep
  exact ⟨_, _, rfl, by rw [hlines, Array.size_push]⟩

-- One move: the machine follows, and what lies below the new depth is still there.
theorem move (h : g.Runs p start m) {mv : Move} (hmv : mv.Sound p.Quiet g)
    (hsize : 0 ≤ (g.move mv).stackSize) :
    ∃ m', (g.move mv).Runs p start m' ∧ ∀ below, below <:+ m.stack →
      slotSize * below.length ≤ (g.move mv).stackSize → below <:+ m'.stack := by
  cases mv with
  | push o => exact ⟨_, h.push o, fun below hbelow _ => hbelow.trans (List.suffix_cons _ _)⟩
  | read name offset =>
      exact ⟨_, h.push (.slot offset), fun below hbelow _ => hbelow.trans (List.suffix_cons _ _)⟩
  | pop register =>
      simp only [Generator.move, h.depth, slotSize] at hsize
      cases hstack : m.stack with
      | nil => simp [hstack] at hsize
      | cons slot stack =>
          refine ⟨⟨stack, p.store register slot.value m.rest⟩, ⟨?_, ?_⟩, ?_⟩
          · rw [Generator.move, Processor.run_push, h.run, Option.bind_some]
            exact p.step_pop _ hmv hstack
          · simp only [Generator.move, h.depth, hstack, slotSize, List.length_cons]
            omega
          · intro below hbelow hlength
            rcases List.suffix_cons_iff.mp hbelow with rfl | hbelow
            · -- The slot that is taken away lies above the new depth.
              simp only [Generator.move, h.depth, hstack, slotSize, List.length_cons] at hlength
              omega
            · exact hbelow
  | emit line =>
      obtain ⟨m', hstep, hstack⟩ := hmv g.lines.size m
      refine ⟨m', ⟨?_, ?_⟩, fun below hbelow _ => hstack ▸ hbelow⟩
      · rw [Generator.move, Processor.run_push, h.run, Option.bind_some, hstep]
      · rw [Generator.move, h.depth, hstack]
  | declare name => exact ⟨m, ⟨h.run, h.depth⟩, fun below hbelow _ => hbelow⟩

-- A run of moves: what the stack is never taken down to stays.
theorem moves (h : g.Runs p start m) {ms : List Move} (hms : g.Sound p.Quiet ms)
    (hsize : ∀ past, past <+: ms → 0 ≤ (g.moves past).stackSize) :
    ∃ m', (g.moves ms).Runs p start m' ∧ ∀ below, below <:+ m.stack →
      (∀ past, past <+: ms → slotSize * below.length ≤ (g.moves past).stackSize) →
      below <:+ m'.stack := by
  induction ms generalizing g m with
  | nil => exact ⟨m, h, fun below hbelow _ => hbelow⟩
  | cons mv ms ih =>
      have hfirst : [mv] <+: mv :: ms := ⟨ms, rfl⟩
      have hnext : ∀ past, past <+: ms → mv :: past <+: mv :: ms :=
        fun past hpast => List.cons_prefix_cons.mpr ⟨rfl, hpast⟩
      obtain ⟨m₁, h₁, hkept₁⟩ := h.move hms.1 (hsize [mv] hfirst)
      obtain ⟨m₂, h₂, hkept₂⟩ := ih h₁ hms.2 fun past hpast => hsize _ (hnext past hpast)
      refine ⟨m₂, h₂, fun below hbelow hlow => ?_⟩
      exact hkept₂ below (hkept₁ below hbelow (hlow [mv] hfirst))
        fun past hpast => hlow _ (hnext past hpast)

-- From a declaration to a read: the slot is found again, as far down as the offset says.
theorem read (h : g.Runs p start m) {x : Atom} {offset : Int} {mid : List Move}
    (hms : g.Sound p.Quiet (.declare x :: mid ++ [.read x offset]))
    (hlow : ∀ past, past <+: mid → g.stackSize ≤ (g.moves (.declare x :: past)).stackSize) :
    ∃ m' slot below above, (g.moves (.declare x :: mid)).Runs p start m' ∧
      m.stack = slot :: below ∧ slot.line + 1 = g.lines.size ∧ m'.stack = above ++ slot :: below ∧
      offset = slotSize * above.length ∧
      (g.moves (.declare x :: mid ++ [.read x offset])).Runs p start { m' with
        stack := ⟨(g.moves (.declare x :: mid)).lines.size, slot.value⟩ :: m'.stack } := by
  obtain ⟨⟨⟨hnew, lines, o, hlines⟩, hmid⟩, ⟨location, hlookup, hoffset⟩, -⟩ :=
    Generator.sound_append.mp hms
  obtain ⟨slot, below, hstack, hline⟩ := h.exists_top hlines
  have hdepth : 0 ≤ g.stackSize := by
    rw [h.depth, slotSize]
    omega
  have hrun : (g.move (.declare x)).Runs p start m := ⟨h.run, h.depth⟩
  obtain ⟨m', h', hkept⟩ := hrun.moves hmid fun past hpast =>
    Int.le_trans hdepth (hlow past hpast)
  obtain ⟨above, habove⟩ := hkept m.stack List.suffix_rfl fun past hpast => by
    rw [← h.depth]
    exact hlow past hpast
  obtain rfl : g.stackSize = location := by
    rw [Generator.lookup_declare hnew mid] at hlookup
    exact Option.some.inj hlookup
  have habove' : m'.stack = above ++ slot :: below := by rw [← habove, hstack]
  have hoffset' : offset = (8 * above.length : Nat) := by
    rw [hoffset, Generator.moves_cons, h'.depth, h.depth, ← habove, List.length_append, slotSize]
    omega
  refine ⟨m', slot, below, above, h', hstack, hline, habove', ?_, ?_⟩
  · rw [hoffset', slotSize]
    omega
  · have hvalue : p.value m' (Operand.slot offset).text = slot.value := by
      rw [hoffset']
      exact p.value_slot habove'
    rw [Generator.moves_append, ← hvalue]
    exact h'.push (.slot offset)

end Generator.Runs

def replay (ms : List Move) : Generator := ({} : Generator).moves ms

theorem exists_runs (hstart : start.stack = []) {ms : List Move}
    (hms : ({} : Generator).Sound p.Quiet ms)
    (hsize : ∀ past, past <+: ms → 0 ≤ (replay past).stackSize) {past : List Move}
    (hpast : past <+: ms) : ∃ m, (replay past).Runs p start m := by
  obtain ⟨more, rfl⟩ := hpast
  obtain ⟨m, h, -⟩ := (Generator.Runs.fresh (p := p) hstart).moves
    (Generator.sound_append.mp hms).1 fun q hq => hsize q (hq.trans (List.prefix_append ..))
  exact ⟨m, h⟩

-- The count of bytes is the depth of the stack at every point, and a read of a variable that the
-- stack has not been taken down to gets the slot, and the value, of the variable's initialiser.
theorem history_reads_own_slot (p : Processor α ρ) {start : Core α ρ} (hstart : start.stack = [])
    {table : Builtins} (htable : table.Tame p.Quiet) {statements : List Tree}
    (hstatements : ∀ s ∈ statements, s.OfOperand) {ms : List Move}
    (hms : ms = ({} : Generator).history table statements)
    (hsize : ∀ past, past <+: ms → 0 ≤ (replay past).stackSize) :
    statements.foldl (fun g s => (runFrom (Generate.statement table s) g).2) {} = replay ms ∧
    (∀ past, past <+: ms → ∃ m, p.run 0 start (codeText (replay past).lines) = some m ∧
      (replay past).stackSize = 8 * m.stack.length) ∧
    ∀ before x (offset : Int) rest, ms = before ++ .read x offset :: rest →
      (∃ early mid, before = early ++ .declare x :: mid) ∧
      ∀ early mid, before = early ++ .declare x :: mid →
        (replay before).scope.lookup x = some (replay early).stackSize ∧
        ((∀ past, past <+: mid →
            (replay early).stackSize ≤ (replay (early ++ .declare x :: past)).stackSize) →
          ∃ m₁ m₂ m₃ slot below above,
            p.run 0 start (codeText (replay early).lines) = some m₁ ∧
            m₁.stack = slot :: below ∧ slot.line + 1 = (replay early).lines.size ∧
            p.run 0 start (codeText (replay before).lines) = some m₂ ∧
            m₂.stack = above ++ slot :: below ∧ offset = 8 * above.length ∧
            p.run 0 start (codeText (replay (before ++ [.read x offset])).lines) = some m₃ ∧
            m₃.stack = ⟨(replay before).lines.size, slot.value⟩ :: m₂.stack) := by
  have hsound : ({} : Generator).Sound p.Quiet ms := by
    rw [hms]
    exact Generator.sound_history htable hstatements
  refine ⟨by rw [hms, foldl_statement, replay], ?_, ?_⟩
  · intro past hpast
    obtain ⟨m, h⟩ := exists_runs hstart hsound hsize hpast
    exact ⟨m, h.run, h.depth⟩
  · rintro before x offset rest hread
    rw [hread] at hsound hsize
    obtain ⟨-, ⟨location, hlookup, -⟩, -⟩ := Generator.sound_append.mp hsound
    refine ⟨Generator.exists_declare rfl hlookup, ?_⟩
    rintro early mid rfl
    have hsplit : early ++ .declare x :: mid ++ .read x offset :: rest =
        early ++ ((.declare x :: mid ++ [.read x offset]) ++ rest) := by simp
    rw [hsplit] at hsound hsize
    obtain ⟨hlater, -⟩ := Generator.sound_append.mp (Generator.sound_append.mp hsound).2
    obtain ⟨m₁, h₁⟩ := exists_runs hstart hsound hsize (List.prefix_append ..)
    have hreplay : ∀ more, replay (early ++ more) = (replay early).moves more :=
      Generator.moves_append {} early
    rw [List.append_assoc]
    simp only [hreplay]
    refine ⟨Generator.lookup_declare hlater.1.1 mid, fun hlow => ?_⟩
    obtain ⟨m₂, slot, below, above, h₂, hstack, hline, habove, hoffset, h₃⟩ :=
      h₁.read hlater hlow
    exact ⟨m₁, m₂, _, slot, below, above, h₁.run, hstack, hline, h₂.run, habove, hoffset, h₃.run,
      rfl⟩

-- Functions that leave values behind, take one away, or fail half way.
def lingering : Builtins :=
  [("keep", [.argument, .emit (.raw "nop")]), ("twice", [.push (.raw "7"), .argument]),
    ("drop", [.pop "rbx"])]

-- Registers hold numbers, and a line that is neither `push` nor `pop` does nothing.
def plainProcessor : Processor Nat (Text → Nat) where
  operand t _ := t.decimal?.getD 0
  store register value registers := fun r => if r = register then value else registers r
  other _ m := some m

-- `a` is found below the two values that a finished and a failed call have left.
theorem history_reads_own_slot_left_over :
    let name := fun x : Text => Tree.identifier (.text x) ⟨1, 1, 1⟩
    let number := fun n : Int => Tree.literal (some (.int n)) "int" ⟨1, 1, 1⟩
    let statements := [.binding (name "a") (number 5), .call (name "keep") (number 1),
      .call (name "twice") (.literal (some (.text "t")) "string" ⟨1, 1, 1⟩),
      .call (name "keep") (name "a"), .call (name "drop") (number 0),
      .binding (name "b") (name "a")]
    let early := [.push (.literal (some (.int 5)))]
    let mid := [.push (.literal (some (.int 1))), .emit (.raw "nop"), .push (.raw "7"),
      .read (.text "a") 16, .emit (.raw "nop"), .pop "rbx"]
    let before := early ++ .declare (.text "a") :: mid
    let start : Core Nat (Text → Nat) := ⟨[], fun _ => 0⟩
    ({} : Generator).history lingering statements =
      before ++ [.read (.text "a") 16, .declare (.text "b")] ∧
    ∃ m₁ m₂ m₃ slot below above,
      plainProcessor.run 0 start (codeText (replay early).lines) = some m₁ ∧
      m₁.stack = slot :: below ∧ slot.line + 1 = (replay early).lines.size ∧
      plainProcessor.run 0 start (codeText (replay before).lines) = some m₂ ∧
      m₂.stack = above ++ slot :: below ∧ (16 : Int) = 8 * above.length ∧
      plainProcessor.run 0 start
        (codeText (replay (before ++ [.read (.text "a") 16])).lines) = some m₃ ∧
      m₃.stack = ⟨(replay before).lines.size, slot.value⟩ :: m₂.stack := by
  intro name number statements early mid before start
  have hquiet : plainProcessor.Quiet (.raw "nop") := fun n m => ⟨m, rfl, rfl⟩
  have hstart : start.stack = [] := rfl
  have hregister : Text.ofString "rbx" ≠ "rsp" := by decide
  have htable : lingering.Tame plainProcessor.Quiet := by
    apply Builtins.tame_of_forall_mem
    simp [lingering, Action.Tame, hquiet, hregister]
  have hstatements : ∀ s ∈ statements, s.OfOperand := by
    simp [statements, Tree.OfOperand, name, number, Tree.IsOperand]
  have hms : before ++ [.read (.text "a") 16, .declare (.text "b")] =
      ({} : Generator).history lingering statements := by decide +kernel
  have hsize : ∀ past, past <+: before ++ [.read (.text "a") 16, .declare (.text "b")] →
      0 ≤ (replay past).stackSize := by
    simp only [← List.mem_inits]
    decide +kernel
  have hlow : ∀ past, past <+: mid →
      (replay early).stackSize ≤ (replay (early ++ .declare (.text "a") :: past)).stackSize := by
    simp only [← List.mem_inits]
    decide +kernel
  obtain ⟨-, -, hreads⟩ := history_reads_own_slot plainProcessor hstart htable hstatements hms
    hsize
  exact ⟨hms.symm, ((hreads before (.text "a") 16 _ rfl).2 early mid rfl).2 hlow⟩

end SlotCompiler.Assembly
