import SlotCompiler.Proofs.Program.Parser

namespace SlotCompiler

open Token (Kind)

namespace Grammar

def Viable (front : List Kind) : Prop := ∃ more, Program (front ++ more)

theorem Statement.length_eq {s : List Kind} (h : Statement s) : s.length = 5 := by
  cases h <;> rfl

theorem Program.cases_append {kinds : List Kind} (h : Program kinds) :
    kinds = [.endOfInput] ∨ ∃ s rest, kinds = s ++ rest ∧ Statement s ∧ Program rest := by
  cases h with
  | done => exact .inl rfl
  | cons hs hrest => exact .inr ⟨_, _, rfl, hs, hrest⟩

-- All statements are equally long, so a statement at the start is the first one.
theorem Statement.program_append_iff {s rest : List Kind} (hs : Statement s) :
    Program (s ++ rest) ↔ Program rest := by
  refine ⟨fun h => ?_, fun h => .cons hs h⟩
  rcases h.cases_append with hend | ⟨s', rest', hsplit, hs', hrest'⟩
  · have hlength := congrArg List.length hend
    simp only [List.length_append, hs.length_eq, List.length_singleton] at hlength
    omega
  · obtain ⟨-, rfl⟩ := List.append_inj hsplit (hs.length_eq.trans hs'.length_eq.symm)
    exact hrest'

theorem Statement.viable_append_iff {s rest : List Kind} (hs : Statement s) :
    Viable (s ++ rest) ↔ Viable rest := by
  simp only [Viable, List.append_assoc, hs.program_append_iff]

end Grammar

namespace Token.Kind

-- The kinds that a word of a message stands for. A kind that is always written alike is quoted.
def ofWord (word : Text) : List Kind :=
  if word = "identifier" then [identifier]
  else if word = "literal" then [number, string]
  else if word = "let" then [letKeyword]
  else known.filter fun k => k.spelling?.any fun s => Text.ofString "'" ++ s ++ "'" == word

-- The kinds that a wording names, word by word; a word such as `or` stands for none.
def named (wording : Text) : List Kind := (wording.splitOn (.char ' ')).flatMap ofWord

end Token.Kind

namespace Parser

namespace Expected

-- What may stand where a statement starts. The program may end there too, which is not named.
def start : Expected :=
  ⟨fun k => k == .identifier || k == .letKeyword || k == .endOfInput, "identifier or let"⟩

@[simp] theorem accepts_start {k : Kind} :
    start.accepts k = true ↔ k = .identifier ∨ k = .letKeyword ∨ k = .endOfInput := by
  simp [start, or_assoc]

end Expected

def Accepts (e : Expected) (k : Kind) : Prop := e.accepts k = true

def shapes : List (List Expected) := [callShape, bindingShape]

theorem grammar_statement_iff {s : List Kind} :
    Grammar.Statement s ↔ ∃ shape ∈ shapes, List.Forall₂ Accepts shape s := by
  simp only [shapes, List.mem_cons, List.not_mem_nil, or_false, exists_eq_or_imp, exists_eq_left]
  constructor
  · intro h
    cases h with
    | call hk => exact .inl (by simpa [callShape, Accepts] using hk)
    | binding hk => exact .inr (by simpa [bindingShape, Accepts] using hk)
  · rintro (h | h)
    · simp only [callShape, Accepts, List.forall₂_cons_left_iff, List.forall₂_nil_left_iff,
        Expected.accepts_name, Expected.accepts_mark, Expected.accepts_operand] at h
      obtain ⟨_, _, rfl, ⟨_, _, rfl, ⟨k, _, hk, ⟨_, _, rfl, ⟨_, _, rfl, rfl, rfl⟩, rfl⟩, rfl⟩, rfl⟩,
        rfl⟩ := h
      exact .call hk
    · simp only [bindingShape, Accepts, List.forall₂_cons_left_iff, List.forall₂_nil_left_iff,
        Expected.accepts_name, Expected.accepts_mark, Expected.accepts_operand] at h
      obtain ⟨_, _, rfl, ⟨_, _, rfl, ⟨_, _, rfl, ⟨k, _, hk, ⟨_, _, rfl, rfl, rfl⟩, rfl⟩, rfl⟩, rfl⟩,
        rfl⟩ := h
      exact .binding hk

-- `Awaits front e`: after these kinds, `e` is expected. Either a statement starts, or the next
-- token of a statement that has begun is due; whole statements may stand before.
inductive Awaits : List Kind → Expected → Prop where
  | start : Awaits [] .start
  | inside {met rest : List Expected} {e : Expected} {front : List Kind}
      (hshape : met ++ e :: rest ∈ shapes) (hmet : List.Forall₂ Accepts met front)
      (hbegun : front ≠ []) : Awaits front e
  | next {s front : List Kind} {e : Expected} (hs : Grammar.Statement s) (h : Awaits front e) :
      Awaits (s ++ front) e

theorem shape_eq_of_first {shape shape' : List Expected} (h : shape ∈ shapes)
    (h' : shape' ∈ shapes) {k : Kind} (hk : ∀ e ∈ shape.head?, Accepts e k)
    (hk' : ∀ e ∈ shape'.head?, Accepts e k) : shape = shape' := by
  simp only [shapes, List.mem_cons, List.not_mem_nil, or_false] at h h'
  rcases h with rfl | rfl <;> rcases h' with rfl | rfl
  · rfl
  · simp_all [callShape, bindingShape, Accepts]
  · simp_all [callShape, bindingShape, Accepts]
  · rfl

theorem mem_shape_cases {shape : List Expected} (hshape : shape ∈ shapes) {e : Expected}
    (he : e ∈ shape) :
    e = .name ∨ e = .operand ∨ ∃ k : Kind, k.spelling?.isSome = true ∧ e = .mark k := by
  simp only [shapes, List.mem_cons, List.not_mem_nil, or_false] at hshape
  rcases hshape with rfl | rfl
  · simp only [callShape, List.mem_cons, List.not_mem_nil, or_false] at he
    rcases he with rfl | rfl | rfl | rfl | rfl
    · exact .inl rfl
    · exact .inr (.inr ⟨_, rfl, rfl⟩)
    · exact .inr (.inl rfl)
    · exact .inr (.inr ⟨_, rfl, rfl⟩)
    · exact .inr (.inr ⟨_, rfl, rfl⟩)
  · simp only [bindingShape, List.mem_cons, List.not_mem_nil, or_false] at he
    rcases he with rfl | rfl | rfl | rfl | rfl
    · exact .inr (.inr ⟨_, rfl, rfl⟩)
    · exact .inl rfl
    · exact .inr (.inr ⟨_, rfl, rfl⟩)
    · exact .inr (.inl rfl)
    · exact .inr (.inr ⟨_, rfl, rfl⟩)

theorem exists_accepted {shape : List Expected} (hshape : shape ∈ shapes) {e : Expected}
    (he : e ∈ shape) : ∃ k, Accepts e k := by
  rcases mem_shape_cases hshape he with rfl | rfl | ⟨k, -, rfl⟩
  · exact ⟨_, Expected.accepts_name.mpr rfl⟩
  · exact ⟨_, Expected.accepts_operand.mpr .number⟩
  · exact ⟨k, Expected.accepts_mark.mpr rfl⟩

theorem exists_forall₂_accepts {shape es : List Expected} (hshape : shape ∈ shapes)
    (hes : ∀ e ∈ es, e ∈ shape) : ∃ kinds, List.Forall₂ Accepts es kinds := by
  induction es with
  | nil => exact ⟨[], .nil⟩
  | cons e es ih =>
      obtain ⟨he, hrest⟩ := List.forall_mem_cons.mp hes
      obtain ⟨k, hk⟩ := exists_accepted hshape he
      obtain ⟨kinds, hkinds⟩ := ih hrest
      exact ⟨k :: kinds, .cons hk hkinds⟩

-- A statement that has begun goes on as its shape says, and with nothing else.
theorem viable_inside_iff {met rest : List Expected} {e : Expected} {front : List Kind}
    (hshape : met ++ e :: rest ∈ shapes) (hmet : List.Forall₂ Accepts met front)
    (hbegun : front ≠ []) (k : Kind) : Grammar.Viable (front ++ [k]) ↔ Accepts e k := by
  constructor
  · rintro ⟨more, hprogram⟩
    rw [List.append_assoc, List.singleton_append] at hprogram
    rcases hprogram.cases_append with hend | ⟨s, tail, hsplit, hs, -⟩
    · have hlength := congrArg List.length hend
      have hpos := List.length_pos_iff.mpr hbegun
      simp only [List.length_append, List.length_cons, List.length_nil] at hlength
      omega
    · obtain ⟨shape, hshape', hmatch⟩ := grammar_statement_iff.mp hs
      -- The statement that the program starts with is the one that has begun.
      obtain ⟨first, front, rfl⟩ := List.exists_cons_of_ne_nil hbegun
      obtain ⟨e₀, met, hfirst, hfront, rfl⟩ := List.forall₂_cons_right_iff.mp hmet
      have hhead : ∀ d ∈ shape.head?, Accepts d first := by
        cases hmatch with
        | nil => simp
        | cons hd hrest =>
            obtain ⟨rfl, -⟩ := List.cons.inj hsplit
            simpa using hd
      obtain rfl := shape_eq_of_first hshape hshape' (by simpa using hfirst) hhead
      have hdrop := List.forall₂_drop (e₀ :: met).length hmatch
      rw [List.drop_left] at hdrop
      obtain ⟨k', after, hk', -, hafter⟩ := List.forall₂_cons_left_iff.mp hdrop
      have hlength : (first :: front).length = (e₀ :: met).length := hmet.length_eq.symm
      have htail := congrArg (List.drop (e₀ :: met).length) hsplit
      rw [← hlength, List.drop_left, hlength, List.drop_append_of_le_length, hafter] at htail
      · obtain ⟨rfl, -⟩ := List.cons.inj htail
        exact hk'
      · have hlong := congrArg List.length hafter
        simp only [List.length_drop, List.length_cons] at hlong ⊢
        omega
  · intro hk
    have hrest : ∀ d ∈ rest, d ∈ met ++ e :: rest := fun d hd => by simp [hd]
    obtain ⟨kinds, hkinds⟩ := exists_forall₂_accepts hshape hrest
    have hs : Grammar.Statement (front ++ k :: kinds) :=
      grammar_statement_iff.mpr ⟨_, hshape, List.rel_append hmet (.cons hk hkinds)⟩
    refine ⟨kinds ++ [.endOfInput], ?_⟩
    have hprogram := Grammar.Program.cons hs .done
    simpa using hprogram

theorem Awaits.viable_iff {front : List Kind} {e : Expected} (h : Awaits front e) (k : Kind) :
    Grammar.Viable (front ++ [k]) ↔ Accepts e k := by
  induction h with
  | start =>
      rw [List.nil_append, Accepts, Expected.accepts_start]
      constructor
      · rintro ⟨more, hprogram⟩
        rcases hprogram.cases_append with hend | ⟨s, tail, hsplit, hs, -⟩
        · simp only [List.singleton_append, List.cons.injEq] at hend
          exact .inr (.inr hend.1)
        · cases hs with
          | call => exact .inl (List.cons.inj hsplit).1
          | binding => exact .inr (.inl (List.cons.inj hsplit).1)
      · rintro (rfl | rfl | rfl)
        · have hcall := Grammar.Program.cons (.call .number) .done
          exact ⟨[.openParen, .number, .closeParen, .semicolon, .endOfInput], hcall⟩
        · have hbinding := Grammar.Program.cons (.binding .number) .done
          exact ⟨[.identifier, .assign, .number, .semicolon, .endOfInput], hbinding⟩
        · exact ⟨[], .done⟩
  | inside hshape hmet hbegun => exact viable_inside_iff hshape hmet hbegun k
  | next hs _ ih => rw [List.append_assoc, hs.viable_append_iff, ih]

theorem Awaits.viable {front : List Kind} {e : Expected} (h : Awaits front e) :
    Grammar.Viable front := by
  have haccepts : ∃ k, Accepts e k := by
    induction h with
    | start => exact ⟨.identifier, rfl⟩
    | inside hshape => exact exists_accepted hshape (by simp)
    | next _ _ ih => exact ih
  obtain ⟨k, hk⟩ := haccepts
  obtain ⟨more, hprogram⟩ := (h.viable_iff k).mpr hk
  exact ⟨k :: more, by simpa using hprogram⟩

theorem named_expectation {k : Kind} (h : k.spelling?.isSome = true) :
    Kind.named k.expectation = [k] := by
  cases k with
  | letKeyword => decide +kernel
  | returnKeyword => decide +kernel
  | assign => decide +kernel
  | semicolon => decide +kernel
  | openParen => decide +kernel
  | closeParen => decide +kernel
  | identifier => cases h
  | number => cases h
  | string => cases h
  | endOfInput => cases h
  | other => cases h

-- The wording of an expectation names what is accepted, except for the end of input.
theorem Awaits.mem_named_iff {front : List Kind} {e : Expected} (h : Awaits front e) (k : Kind) :
    k ∈ Kind.named e.wording ↔ Accepts e k ∧ k ≠ .endOfInput := by
  induction h with
  | start =>
      have hnamed : Kind.named Expected.start.wording = [.identifier, .letKeyword] := by
        decide +kernel
      rw [hnamed, Accepts, Expected.accepts_start]
      constructor
      · intro hk
        simp only [List.mem_cons, List.not_mem_nil, or_false] at hk
        rcases hk with rfl | rfl <;> simp
      · rintro ⟨rfl | rfl | rfl, hne⟩
        · simp
        · simp
        · exact absurd rfl hne
  | inside hshape =>
      rcases mem_shape_cases hshape (List.mem_append_right _ List.mem_cons_self) with
        rfl | rfl | ⟨mark, hmark, rfl⟩
      · have hnamed : Kind.named Expected.name.wording = [.identifier] := by decide +kernel
        rw [hnamed, Accepts, Expected.accepts_name, List.mem_singleton]
        exact ⟨fun hk => ⟨hk, by simp [hk]⟩, And.left⟩
      · have hnamed : Kind.named Expected.operand.wording = [.number, .string, .identifier] := by
          decide +kernel
        rw [hnamed, Accepts, Expected.accepts_operand]
        constructor
        · intro hk
          simp only [List.mem_cons, List.not_mem_nil, or_false] at hk
          rcases hk with rfl | rfl | rfl
          · exact ⟨.number, by simp⟩
          · exact ⟨.string, by simp⟩
          · exact ⟨.identifier, by simp⟩
        · rintro ⟨hk, -⟩
          cases hk <;> simp
      · rw [Accepts, Expected.accepts_mark]
        show k ∈ Kind.named mark.expectation ↔ _
        rw [named_expectation hmark, List.mem_singleton]
        refine ⟨fun hk => ⟨hk, ?_⟩, And.left⟩
        rintro rfl
        subst hk
        cases hmark
  | next _ _ ih => exact ih

end Parser

end SlotCompiler
