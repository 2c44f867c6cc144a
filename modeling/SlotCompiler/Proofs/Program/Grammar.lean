import Mathlib.Data.List.Forall2
import SlotCompiler.Program
import SlotCompiler.Token

namespace SlotCompiler

namespace Grammar

open Token (Kind)

inductive Operand : Kind → Prop where
  | number : Operand .number
  | string : Operand .string
  | identifier : Operand .identifier

inductive Statement : List Kind → Prop where
  | call {k : Kind} (hk : Operand k) :
      Statement [.identifier, .openParen, k, .closeParen, .semicolon]
  | binding {k : Kind} (hk : Operand k) :
      Statement [.letKeyword, .identifier, .assign, k, .semicolon]

inductive Program : List Kind → Prop where
  | done : Program [.endOfInput]
  | cons {s rest : List Kind} (hs : Statement s) (hrest : Program rest) : Program (s ++ rest)

end Grammar

-- What a program says about one of its tokens: the kind, and for names and literals the value and
-- the place.
structure Part where
  kind : Token.Kind
  content : Option (Atom × Span) := none

def Part.Matches (part : Part) (t : Token) : Prop :=
  t.kind = part.kind ∧ ∀ c ∈ part.content, t.value = c.1 ∧ t.span = c.2

def Name.part (n : Name) : Part := ⟨.identifier, some (n.value, n.span)⟩

def Expr.part : Expr → Part
  | literal value .int span => ⟨.number, some (value, span)⟩
  | literal value .string span => ⟨.string, some (value, span)⟩
  | name n => n.part

def Statement.parts : Statement → List Part
  | call callee argument =>
    [callee.part, ⟨.openParen, none⟩, argument.part, ⟨.closeParen, none⟩, ⟨.semicolon, none⟩]
  | binding bound value =>
    [⟨.letKeyword, none⟩, bound.part, ⟨.assign, none⟩, value.part, ⟨.semicolon, none⟩]

def Program.parts (p : Program) : List Part := p.flatMap Statement.parts

def Name.ofToken (t : Token) : Name := ⟨t.value, t.span⟩

def Expr.ofToken (t : Token) : Expr :=
  match t.kind with
  | .number => .literal t.value .int t.span
  | .string => .literal t.value .string t.span
  | _ => .name (.ofToken t)

theorem Name.matches_iff {n : Name} {t : Token} :
    n.part.Matches t ↔ t.kind = .identifier ∧ n = .ofToken t := by
  obtain ⟨value, span⟩ := n
  simp [Part.Matches, part, ofToken, eq_comm]

theorem Expr.matches_iff {e : Expr} {t : Token} :
    e.part.Matches t ↔ Grammar.Operand t.kind ∧ e = .ofToken t := by
  constructor
  · intro h
    cases e with
    | name n =>
        obtain ⟨hkind, rfl⟩ := Name.matches_iff.mp h
        exact ⟨hkind ▸ .identifier, by simp [ofToken, hkind]⟩
    | literal value type span =>
        cases type with
        | int =>
            obtain ⟨hkind, hcontent⟩ := h
            obtain ⟨hvalue, hspan⟩ := hcontent _ rfl
            exact ⟨hkind ▸ .number, by simp only [ofToken, hkind, part, hvalue, hspan]⟩
        | string =>
            obtain ⟨hkind, hcontent⟩ := h
            obtain ⟨hvalue, hspan⟩ := hcontent _ rfl
            exact ⟨hkind ▸ .string, by simp only [ofToken, hkind, part, hvalue, hspan]⟩
  · rintro ⟨hoperand, rfl⟩
    generalize hkind : t.kind = k at hoperand
    cases hoperand <;> simp [ofToken, hkind, part, Name.part, Name.ofToken, Part.Matches]

theorem Expr.operand_part (e : Expr) : Grammar.Operand e.part.kind := by
  cases e with
  | name n => exact .identifier
  | literal value type span =>
      cases type with
      | int => exact .number
      | string => exact .string

theorem map_kind_of_matches {parts : List Part} {ts : List Token}
    (h : List.Forall₂ Part.Matches parts ts) : ts.map (·.kind) = parts.map (·.kind) := by
  induction h with
  | nil => rfl
  | cons hpart _ ih => rw [List.map_cons, List.map_cons, hpart.1, ih]

theorem Statement.grammar_parts (s : Statement) : Grammar.Statement (s.parts.map (·.kind)) := by
  cases s with
  | call callee argument => exact .call argument.operand_part
  | binding bound value => exact .binding value.operand_part

theorem Statement.matches_call {callee left argument right stop : Token}
    (hcallee : callee.kind = .identifier) (hleft : left.kind = .openParen)
    (hargument : Grammar.Operand argument.kind) (hright : right.kind = .closeParen)
    (hstop : stop.kind = .semicolon) :
    List.Forall₂ Part.Matches (Statement.call (.ofToken callee) (.ofToken argument)).parts
      [callee, left, argument, right, stop] :=
  .cons (Name.matches_iff.mpr ⟨hcallee, rfl⟩) (.cons ⟨hleft, by simp⟩
    (.cons (Expr.matches_iff.mpr ⟨hargument, rfl⟩) (.cons ⟨hright, by simp⟩
      (.cons ⟨hstop, by simp⟩ .nil))))

theorem Statement.matches_binding {start bound equals value stop : Token}
    (hstart : start.kind = .letKeyword) (hbound : bound.kind = .identifier)
    (hequals : equals.kind = .assign) (hvalue : Grammar.Operand value.kind)
    (hstop : stop.kind = .semicolon) :
    List.Forall₂ Part.Matches (Statement.binding (.ofToken bound) (.ofToken value)).parts
      [start, bound, equals, value, stop] :=
  .cons ⟨hstart, by simp⟩ (.cons (Name.matches_iff.mpr ⟨hbound, rfl⟩) (.cons ⟨hequals, by simp⟩
    (.cons (Expr.matches_iff.mpr ⟨hvalue, rfl⟩) (.cons ⟨hstop, by simp⟩ .nil))))

theorem Statement.matches_cases {s : Statement} {ts : List Token}
    (h : List.Forall₂ Part.Matches s.parts ts) :
    (∃ callee left argument right stop, ts = [callee, left, argument, right, stop] ∧
      s = .call (.ofToken callee) (.ofToken argument) ∧ callee.kind = .identifier ∧
      left.kind = .openParen ∧ Grammar.Operand argument.kind ∧ right.kind = .closeParen ∧
      stop.kind = .semicolon) ∨
    (∃ start bound equals value stop, ts = [start, bound, equals, value, stop] ∧
      s = .binding (.ofToken bound) (.ofToken value) ∧ start.kind = .letKeyword ∧
      bound.kind = .identifier ∧ equals.kind = .assign ∧ Grammar.Operand value.kind ∧
      stop.kind = .semicolon) := by
  cases s with
  | call callee argument =>
      left
      simp only [parts, List.forall₂_cons_left_iff, List.forall₂_nil_left_iff] at h
      obtain ⟨t₁, _, h₁, ⟨t₂, _, h₂, ⟨t₃, _, h₃, ⟨t₄, _, h₄, ⟨t₅, _, h₅, rfl, rfl⟩, rfl⟩, rfl⟩,
        rfl⟩, rfl⟩ := h
      obtain ⟨hname, rfl⟩ := Name.matches_iff.mp h₁
      obtain ⟨hoperand, rfl⟩ := Expr.matches_iff.mp h₃
      exact ⟨t₁, t₂, t₃, t₄, t₅, rfl, rfl, hname, h₂.1, hoperand, h₄.1, h₅.1⟩
  | binding bound value =>
      right
      simp only [parts, List.forall₂_cons_left_iff, List.forall₂_nil_left_iff] at h
      obtain ⟨t₁, _, h₁, ⟨t₂, _, h₂, ⟨t₃, _, h₃, ⟨t₄, _, h₄, ⟨t₅, _, h₅, rfl, rfl⟩, rfl⟩, rfl⟩,
        rfl⟩, rfl⟩ := h
      obtain ⟨hname, rfl⟩ := Name.matches_iff.mp h₂
      obtain ⟨hoperand, rfl⟩ := Expr.matches_iff.mp h₄
      exact ⟨t₁, t₂, t₃, t₄, t₅, rfl, rfl, h₁.1, hname, h₃.1, hoperand, h₅.1⟩

theorem Statement.eq_of_matches {s s' : Statement} {ts : List Token}
    (h : List.Forall₂ Part.Matches s.parts ts) (h' : List.Forall₂ Part.Matches s'.parts ts) :
    s = s' := by
  rcases matches_cases h with
    ⟨_, _, _, _, _, rfl, rfl, hcall, -⟩ | ⟨_, _, _, _, _, rfl, rfl, hlet, -⟩
  · rcases matches_cases h' with ⟨_, _, _, _, _, hts, rfl, -⟩ | ⟨_, _, _, _, _, hts, -, hlet, -⟩
    · cases hts
      rfl
    · cases hts
      simp [hcall] at hlet
  · rcases matches_cases h' with ⟨_, _, _, _, _, hts, -, hcall, -⟩ | ⟨_, _, _, _, _, hts, rfl, -⟩
    · cases hts
      simp [hcall] at hlet
    · cases hts
      rfl

theorem Grammar.Statement.exists_matches {kinds : List Token.Kind} (h : Grammar.Statement kinds)
    {ts : List Token} (hts : ts.map (·.kind) = kinds) :
    ∃ s : SlotCompiler.Statement, List.Forall₂ Part.Matches s.parts ts := by
  cases h with
  | call hk =>
      simp only [List.map_eq_cons_iff, List.map_eq_nil_iff] at hts
      obtain ⟨callee, _, rfl, h₁, left, _, rfl, h₂, argument, _, rfl, rfl, right, _, rfl, h₄,
        stop, _, rfl, h₅, rfl⟩ := hts
      exact ⟨_, SlotCompiler.Statement.matches_call h₁ h₂ hk h₄ h₅⟩
  | binding hk =>
      simp only [List.map_eq_cons_iff, List.map_eq_nil_iff] at hts
      obtain ⟨start, _, rfl, h₁, bound, _, rfl, h₂, equals, _, rfl, h₃, value, _, rfl, rfl,
        stop, _, rfl, h₅, rfl⟩ := hts
      exact ⟨_, SlotCompiler.Statement.matches_binding h₁ h₂ h₃ hk h₅⟩

theorem Program.matches_cons {s : Statement} {p : Program} {ts : List Token} :
    List.Forall₂ Part.Matches (Program.parts (s :: p)) ts ↔
      ∃ ts₁ ts₂, ts = ts₁ ++ ts₂ ∧ List.Forall₂ Part.Matches s.parts ts₁ ∧
        List.Forall₂ Part.Matches p.parts ts₂ := by
  rw [parts, List.flatMap_cons]
  constructor
  · intro h
    have hfirst := List.forall₂_take s.parts.length h
    have hrest := List.forall₂_drop s.parts.length h
    rw [List.take_left] at hfirst
    rw [List.drop_left] at hrest
    exact ⟨_, _, (List.take_append_drop s.parts.length ts).symm, hfirst, hrest⟩
  · rintro ⟨ts₁, ts₂, rfl, hfirst, hrest⟩
    exact List.rel_append hfirst hrest

theorem Grammar.Program.ne_nil {kinds : List Token.Kind} (h : Grammar.Program kinds) :
    kinds ≠ [] := by
  cases h with
  | done => simp
  | cons hs => cases hs <;> simp

theorem Grammar.Program.exists_matches {kinds : List Token.Kind} (h : Grammar.Program kinds)
    {front : List Token} {stop : Token} (hts : (front ++ [stop]).map (·.kind) = kinds) :
    ∃ p : SlotCompiler.Program, List.Forall₂ Part.Matches p.parts front := by
  induction h generalizing front with
  | done =>
      have hlength := congrArg List.length hts
      simp only [List.length_map, List.length_append, List.length_singleton] at hlength
      obtain rfl : front = [] := List.eq_nil_of_length_eq_zero (by omega)
      exact ⟨[], .nil⟩
  | cons hs hrest ih =>
      obtain ⟨ts, tail, hsplit, hkinds, htail⟩ := List.map_eq_append_iff.mp hts
      obtain ⟨s, hmatches⟩ := hs.exists_matches hkinds
      -- The end of input is not one of the statement's tokens, since something follows these.
      have hne : tail ≠ [] := by
        rintro rfl
        exact hrest.ne_nil htail.symm
      obtain ⟨middle, last, rfl⟩ := tail.eq_nil_or_concat'.resolve_left hne
      rw [← List.append_assoc] at hsplit
      obtain ⟨rfl, hlast⟩ := List.append_inj' hsplit rfl
      obtain rfl : stop = last := by simpa using hlast
      obtain ⟨p, hp⟩ := ih htail
      exact ⟨s :: p, SlotCompiler.Program.matches_cons.mpr ⟨ts, middle, rfl, hmatches, hp⟩⟩

theorem Program.grammar_of_matches {p : Program} {front : List Token} {stop : Token}
    (h : List.Forall₂ Part.Matches p.parts front) (hstop : stop.kind = .endOfInput) :
    Grammar.Program ((front ++ [stop]).map (·.kind)) := by
  rw [List.map_append, map_kind_of_matches h, List.map_singleton, hstop]
  clear h
  induction p with
  | nil => exact .done
  | cons s rest ih =>
      rw [parts, List.flatMap_cons, List.map_append, List.append_assoc]
      exact .cons s.grammar_parts ih

end SlotCompiler
