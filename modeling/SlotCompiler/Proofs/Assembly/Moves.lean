import SlotCompiler.Assembly.Generator

namespace SlotCompiler

def Tree.IsOperand : Tree → Prop
  | .literal _ _ _ => True
  | .identifier _ _ => True
  | _ => False

def Tree.OfOperand : Tree → Prop
  | .binding _ value => value.IsOperand
  | .call _ argument => argument.IsOperand
  | _ => False

namespace Assembly

open Step (runFrom)

inductive Move where
  | push (operand : Operand)
  | read (name : Atom) (offset : Int)
  | pop (register : Text)
  | emit (line : Instruction)
  | declare (name : Atom)
deriving DecidableEq, Repr

namespace Generator

def move (g : Generator) : Move → Generator
  | .push o => { g with lines := g.lines.push (.push o), stackSize := g.stackSize + slotSize }
  | .read _ offset =>
    { g with lines := g.lines.push (.push (.slot offset)), stackSize := g.stackSize + slotSize }
  | .pop register =>
    { g with lines := g.lines.push (.pop register), stackSize := g.stackSize - slotSize }
  | .emit line => { g with lines := g.lines.push line }
  | .declare name => { g with scope := g.scope ++ [(name, g.stackSize)] }

def moves (g : Generator) (ms : List Move) : Generator := ms.foldl move g

def valueMoves (g : Generator) : Tree → Except Fault (List Move)
  | .literal value type span =>
    if type != LiteralType.int.name then .error (.report .unsupportedExpression span [.text type])
    else if ∀ v ∈ value, v.Short then .ok [.push (.literal value)]
    else .error .longNumber
  | .identifier name span =>
    match g.scope.lookup name with
    | some location => .ok [.read name (g.stackSize - location)]
    | none => .error (.report .notFound span [name])
  | _ => .ok []

def actionMoves (g : Generator) (argument : Tree) : Action → Except Fault (List Move)
  | .argument => g.valueMoves argument
  | .push operand => .ok [.push operand]
  | .pop register => .ok [.pop register]
  | .emit line => .ok [.emit line]

-- The moves up to the end, or up to the action that fails.
def builtinMoves (g : Generator) (argument : Tree) : Builtin → Except Fault Unit × List Move
  | [] => (.ok (), [])
  | action :: rest =>
    match g.actionMoves argument action with
    | .error fault => (.error fault, [])
    | .ok ms =>
      let (result, more) := (g.moves ms).builtinMoves argument rest
      (result, ms ++ more)

def statementMoves (g : Generator) (table : Builtins) : Tree → Except Fault Unit × List Move
  | .binding (.identifier name span) value =>
    if (g.scope.lookup name).isSome then
      (.error (.report .alreadyDeclared span [name]), [])
    else
      match g.valueMoves value with
      | .error fault => (.error fault, [])
      | .ok ms => (.ok (), ms ++ [.declare name])
  | .binding bound _ => (.error (.missingPart bound.typeName "name"), [])
  | .call (.identifier name span) argument =>
    match table.find? name with
    | some b => g.builtinMoves argument b
    | none => (.error (.report .notFound span [name]), [])
  | .call callee _ => (.error (.missingPart callee.typeName "name"), [])
  | _ => (.ok (), [])

-- The moves of statements in turn, each from where the one before left the generator.
def history (g : Generator) (table : Builtins) : List Tree → List Move
  | [] => []
  | s :: rest =>
    let ms := (g.statementMoves table s).2
    ms ++ (g.moves ms).history table rest

theorem valueMoves_cases {g : Generator} {tree : Tree} {ms : List Move}
    (h : g.valueMoves tree = .ok ms) :
    (∃ value, ms = [.push (.literal value)]) ∨
    (∃ name location, g.scope.lookup name = some location ∧
      ms = [.read name (g.stackSize - location)]) ∨
    (¬ tree.IsOperand ∧ ms = []) := by
  cases tree with
  | literal value type span =>
      rw [valueMoves] at h
      split at h
      next => cases h
      next =>
        split at h
        · exact .inl ⟨value, (Except.ok.inj h).symm⟩
        · cases h
  | identifier name span =>
      rw [valueMoves] at h
      split at h
      next location hlookup => exact .inr (.inl ⟨name, location, hlookup, (Except.ok.inj h).symm⟩)
      next => cases h
  | _ => exact .inr (.inr ⟨not_false, (Except.ok.inj h).symm⟩)

@[simp] theorem moves_nil (g : Generator) : g.moves [] = g := rfl

@[simp] theorem moves_cons (g : Generator) (m : Move) (ms : List Move) :
    g.moves (m :: ms) = (g.move m).moves ms := rfl

theorem moves_append (g : Generator) (ms more : List Move) :
    g.moves (ms ++ more) = (g.moves ms).moves more := List.foldl_append

theorem lookup_moves {g : Generator} {x : Atom} {location : Int}
    (h : g.scope.lookup x = some location) (ms : List Move) :
    (g.moves ms).scope.lookup x = some location := by
  induction ms generalizing g with
  | nil => exact h
  | cons m ms ih =>
      apply ih
      cases m with
      | declare name => rw [move, List.lookup_append, h, Option.some_or]
      | push => exact h
      | read => exact h
      | pop => exact h
      | emit => exact h

theorem lookup_declare {g : Generator} {x : Atom} (hnew : g.scope.lookup x = none)
    (ms : List Move) : (g.moves (.declare x :: ms)).scope.lookup x = some g.stackSize := by
  have hdeclared : (g.move (.declare x)).scope.lookup x = some g.stackSize := by
    simp [move, List.lookup_append, hnew]
  exact lookup_moves hdeclared ms

theorem exists_declare {g : Generator} {x : Atom} {location : Int} {ms : List Move}
    (hnew : g.scope.lookup x = none) (h : (g.moves ms).scope.lookup x = some location) :
    ∃ early mid, ms = early ++ .declare x :: mid := by
  induction ms generalizing g with
  | nil => simp [hnew] at h
  | cons m ms ih =>
      by_cases hm : m = .declare x
      · exact ⟨[], ms, by rw [hm, List.nil_append]⟩
      · have hnext : (g.move m).scope.lookup x = none := by
          cases m with
          | declare name =>
              have hne : x ≠ name := by
                rintro rfl
                exact hm rfl
              simp [move, List.lookup_append, hnew, List.lookup_cons, beq_eq_false_iff_ne.mpr hne]
          | push => exact hnew
          | read => exact hnew
          | pop => exact hnew
          | emit => exact hnew
        obtain ⟨early, mid, rfl⟩ := ih hnext h
        exact ⟨m :: early, mid, rfl⟩

end Generator

theorem runFrom_value (tree : Tree) (g : Generator) :
    runFrom (Generate.expr tree) g =
      match g.valueMoves tree with
      | .ok ms => (.ok (), g.moves ms)
      | .error fault => (.error fault, g) := by
  cases tree with
  | literal value type span =>
      rw [Generate.expr, Generator.valueMoves]
      by_cases htype : (type != LiteralType.int.name) = true
      · rw [if_pos htype, if_pos htype]
        rfl
      · rw [if_neg htype, if_neg htype]
        show runFrom (if ∀ v ∈ value, v.Short then Generate.push (.literal value)
          else throw .longNumber) g = _
        split <;> rfl
  | identifier name span =>
      rw [Generate.expr, Generator.valueMoves, Step.runFrom_bind_ok _ (Step.runFrom_get g)]
      cases g.scope.lookup name <;> rfl
  | _ => rfl

theorem runFrom_act (argument : Tree) (action : Action) (g : Generator) :
    runFrom (Generate.act argument action) g =
      match g.actionMoves argument action with
      | .ok ms => (.ok (), g.moves ms)
      | .error fault => (.error fault, g) := by
  cases action with
  | argument => exact runFrom_value argument g
  | push operand => rfl
  | pop register => rfl
  | emit line => rfl

theorem runFrom_builtin (b : Builtin) (argument : Tree) (g : Generator) :
    runFrom (Generate.builtin b argument) g =
      ((g.builtinMoves argument b).1, g.moves (g.builtinMoves argument b).2) := by
  rw [Generate.builtin]
  induction b generalizing g with
  | nil => rfl
  | cons action rest ih =>
      rw [List.forM, Step.runFrom_bind, runFrom_act, Generator.builtinMoves]
      cases g.actionMoves argument action with
      | error fault => rfl
      | ok ms =>
          simp only [Generator.moves_append]
          exact ih (g.moves ms)

theorem runFrom_identifier (name : Atom) (span : Span) (g : Generator) :
    runFrom (Generate.nameOf (.identifier name span)) g = (.ok ⟨name, span⟩, g) := rfl

theorem runFrom_statement_moves (table : Builtins) (s : Tree) (g : Generator) :
    runFrom (Generate.statement table s) g =
      ((g.statementMoves table s).1, g.moves (g.statementMoves table s).2) := by
  cases s with
  | binding bound value =>
      cases bound with
      | identifier name span =>
          rw [Generate.statement, Step.runFrom_bind_ok _ (runFrom_identifier name span g),
            Step.runFrom_bind_ok _ (Step.runFrom_get g), Generator.statementMoves]
          by_cases hdeclared : (g.scope.lookup name).isSome = true
          · rw [if_pos hdeclared, if_pos hdeclared]
            rfl
          · rw [if_neg hdeclared, if_neg hdeclared]
            show runFrom (Generate.expr value >>= _) g = _
            rw [Step.runFrom_bind, runFrom_value]
            cases g.valueMoves value with
            | error fault => rfl
            | ok ms =>
                simp only [Generator.moves_append]
                rfl
      | _ => rfl
  | call callee argument =>
      cases callee with
      | identifier name span =>
          rw [Generate.statement, Step.runFrom_bind_ok _ (runFrom_identifier name span g),
            Generator.statementMoves]
          cases table.find? name with
          | none => rfl
          | some b => exact runFrom_builtin b argument g
      | _ => rfl
  | _ => rfl

theorem foldl_statement (table : Builtins) (statements : List Tree) (g : Generator) :
    statements.foldl (fun g s => (runFrom (Generate.statement table s) g).2) g =
      g.moves (g.history table statements) := by
  induction statements generalizing g with
  | nil => rfl
  | cons s rest ih =>
      rw [List.foldl_cons, runFrom_statement_moves, ih, Generator.history, Generator.moves_append]

section Sound

variable (quiet : Instruction → Prop)

-- Builtins leave the stack pointer alone: no `pop` into it, and only quiet lines.
def Action.Tame : Action → Prop
  | .argument => True
  | .push _ => True
  | .pop register => register ≠ "rsp"
  | .emit line => quiet line

def Builtins.Tame (table : Builtins) : Prop :=
  ∀ name b, table.find? name = some b → ∀ action ∈ b, action.Tame quiet

def Move.Sound (g : Generator) : Move → Prop
  | .push _ => True
  | .read name offset =>
    ∃ location, g.scope.lookup name = some location ∧ offset = g.stackSize - location
  | .pop register => register ≠ "rsp"
  | .emit line => quiet line
  -- A new name, of the value that has just been pushed.
  | .declare name =>
    g.scope.lookup name = none ∧
      ∃ (lines : Array Instruction) (o : Operand), g.lines = lines.push (.push o)

def Generator.Sound : Generator → List Move → Prop
  | _, [] => True
  | g, m :: ms => m.Sound quiet g ∧ (g.move m).Sound ms

variable {quiet} {g : Generator}

theorem Generator.sound_append {ms more : List Move} :
    g.Sound quiet (ms ++ more) ↔ g.Sound quiet ms ∧ (g.moves ms).Sound quiet more := by
  induction ms generalizing g with
  | nil => simp [Sound]
  | cons m ms ih => simp [Sound, ih, and_assoc]

theorem Generator.sound_value {tree : Tree} {ms : List Move} (h : g.valueMoves tree = .ok ms) :
    g.Sound quiet ms := by
  rcases valueMoves_cases h with ⟨value, rfl⟩ | ⟨name, location, hlookup, rfl⟩ | ⟨-, rfl⟩
  · exact ⟨trivial, trivial⟩
  · exact ⟨⟨location, hlookup, rfl⟩, trivial⟩
  · trivial

theorem Generator.exists_push {tree : Tree} (htree : tree.IsOperand) {ms : List Move}
    (h : g.valueMoves tree = .ok ms) :
    (g.moves ms).scope = g.scope ∧ ∃ o, (g.moves ms).lines = g.lines.push (.push o) := by
  rcases valueMoves_cases h with ⟨value, rfl⟩ | ⟨name, location, -, rfl⟩ | ⟨hother, -⟩
  · exact ⟨rfl, _, rfl⟩
  · exact ⟨rfl, _, rfl⟩
  · exact absurd htree hother

theorem Generator.sound_builtin {argument : Tree} {b : Builtin}
    (hb : ∀ action ∈ b, action.Tame quiet) : g.Sound quiet (g.builtinMoves argument b).2 := by
  induction b generalizing g with
  | nil => trivial
  | cons action rest ih =>
      obtain ⟨haction, hrest⟩ := List.forall_mem_cons.mp hb
      rw [builtinMoves]
      cases hms : g.actionMoves argument action with
      | error fault => trivial
      | ok ms =>
          refine sound_append.mpr ⟨?_, ih hrest⟩
          cases action with
          | argument => exact sound_value hms
          | push operand =>
              cases hms
              exact ⟨trivial, trivial⟩
          | pop register =>
              cases hms
              exact ⟨haction, trivial⟩
          | emit line =>
              cases hms
              exact ⟨haction, trivial⟩

theorem Builtins.tame_of_forall_mem {table : Builtins}
    (h : ∀ b ∈ table, ∀ action ∈ b.2, action.Tame quiet) : table.Tame quiet := by
  intro name b hfind
  cases name with
  | int n => cases hfind
  | text t =>
      obtain ⟨front, rest, rfl, -⟩ := List.lookup_eq_some_iff.mp hfind
      exact h (t, b) (by simp)

theorem Generator.sound_statement {table : Builtins} (htable : table.Tame quiet) {s : Tree}
    (hs : s.OfOperand) : g.Sound quiet (g.statementMoves table s).2 := by
  unfold statementMoves
  split
  next name span value =>
    split
    next => trivial
    next hnew =>
      cases hms : g.valueMoves value with
      | error fault => trivial
      | ok ms =>
          obtain ⟨hscope, o, hlines⟩ := exists_push hs hms
          refine sound_append.mpr ⟨sound_value hms, ⟨?_, g.lines, o, hlines⟩, trivial⟩
          rw [hscope]
          exact Option.not_isSome_iff_eq_none.mp hnew
  next => trivial
  next name span argument =>
    cases hfind : table.find? name with
    | none => trivial
    | some b => exact sound_builtin (htable name b hfind)
  next => trivial
  next => trivial

-- Every move of a generator that is used for such statements is sound, whichever of them fail.
theorem Generator.sound_history {table : Builtins} (htable : table.Tame quiet)
    {statements : List Tree} (hstatements : ∀ s ∈ statements, s.OfOperand) :
    g.Sound quiet (g.history table statements) := by
  induction statements generalizing g with
  | nil => trivial
  | cons s rest ih =>
      obtain ⟨hs, hrest⟩ := List.forall_mem_cons.mp hstatements
      exact sound_append.mpr ⟨sound_statement htable hs, ih hrest⟩

end Sound

end Assembly

end SlotCompiler
