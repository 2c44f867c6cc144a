import Mathlib.Data.List.Forall2
import SlotCompiler.Proofs.Program.Grammar
import SlotCompiler.Program.Parser

namespace SlotCompiler.Parser

open Token (Kind)

-- The kinds that may stand at a place, and how a message names them.
structure Expected where
  accepts : Kind → Bool
  wording : Text

namespace Expected

def kind (k : Kind) (wording : Text) : Expected := ⟨(· == k), wording⟩

def mark (k : Kind) : Expected := kind k k.expectation

def name : Expected := kind .identifier "identifier"

def operand : Expected :=
  ⟨fun k => k == .number || k == .string || k == .identifier, "literal or identifier"⟩

@[simp] theorem accepts_kind {k k' : Kind} {wording : Text} :
    (kind k wording).accepts k' = true ↔ k' = k := by
  simp [kind]

@[simp] theorem accepts_mark {k k' : Kind} : (mark k).accepts k' = true ↔ k' = k := accepts_kind

@[simp] theorem accepts_name {k : Kind} : name.accepts k = true ↔ k = .identifier := accepts_kind

@[simp] theorem accepts_operand {k : Kind} : operand.accepts k = true ↔ Grammar.Operand k := by
  simp only [operand, Bool.or_eq_true, beq_iff_eq]
  constructor
  · rintro ((rfl | rfl) | rfl)
    · exact .number
    · exact .string
    · exact .identifier
  · intro h
    cases h <;> simp

end Expected

def walk : List Expected → Cursor → Except Fault (List Token) × Cursor
  | [], c => (.ok [], c)
  | _ :: _, ⟨n, []⟩ => (.error .outOfTokens, ⟨n, []⟩)
  | e :: es, ⟨n, t :: rest⟩ =>
    if e.accepts t.kind then
      match walk es ⟨n + 1, rest⟩ with
      | (.ok ts, c) => (.ok (t :: ts), c)
      | (.error fault, c) => (.error fault, c)
    else (.error (mismatch e.wording t), ⟨n, t :: rest⟩)

theorem walk_cons_eq_ok_iff {e : Expected} {es : List Expected} {n : Nat} {rest ts : List Token}
    {d : Cursor} :
    walk (e :: es) ⟨n, rest⟩ = (.ok ts, d) ↔ ∃ t tail ts', rest = t :: tail ∧ ts = t :: ts' ∧
      e.accepts t.kind = true ∧ walk es ⟨n + 1, tail⟩ = (.ok ts', d) := by
  cases rest with
  | nil => simp [walk]
  | cons t tail =>
      by_cases ht : e.accepts t.kind = true
      · rw [walk, if_pos ht]
        constructor
        · intro h
          split at h
          next ts' d' hwalk =>
            cases h
            exact ⟨t, tail, ts', rfl, rfl, ht, hwalk⟩
          next => cases h
        · rintro ⟨_, _, ts', htail, rfl, -, hwalk⟩
          cases htail
          rw [hwalk]
      · simp [walk, ht]

theorem walk_eq_ok_iff {es : List Expected} {c d : Cursor} {ts : List Token} :
    walk es c = (.ok ts, d) ↔ List.Forall₂ (fun e t => e.accepts t.kind = true) es ts ∧
      c.rest = ts ++ d.rest ∧ d.passed = c.passed + ts.length := by
  induction es generalizing c ts with
  | nil =>
      obtain ⟨n, rest⟩ := c
      obtain ⟨m, rest'⟩ := d
      simp only [walk, List.forall₂_nil_left_iff]
      constructor
      · intro h
        simp only [Prod.mk.injEq, Except.ok.injEq, Cursor.mk.injEq] at h
        obtain ⟨rfl, rfl, rfl⟩ := h
        simp
      · rintro ⟨rfl, rfl, rfl⟩
        simp
  | cons e es ih =>
      obtain ⟨n, rest⟩ := c
      rw [walk_cons_eq_ok_iff]
      constructor
      · rintro ⟨t, tail, ts, rfl, rfl, ht, hwalk⟩
        obtain ⟨haccepts, hrest, hpassed⟩ := ih.mp hwalk
        refine ⟨.cons ht haccepts, congrArg (t :: ·) hrest, ?_⟩
        simp only [List.length_cons] at hpassed ⊢
        omega
      · rintro ⟨haccepts, hrest, hpassed⟩
        obtain ⟨t, ts, ht, hts, rfl⟩ := List.forall₂_cons_left_iff.mp haccepts
        refine ⟨t, ts ++ d.rest, ts, hrest, rfl, ht, ih.mpr ⟨hts, rfl, ?_⟩⟩
        simp only [List.length_cons] at hpassed ⊢
        omega

structure Reads {α : Type} (p : Parser α) (e : Expected) (f : Token → α) : Prop where
  nil : ∀ n, Step.runFrom p ⟨n, []⟩ = (.error .outOfTokens, ⟨n, []⟩)
  met : ∀ n t rest, e.accepts t.kind = true →
    Step.runFrom p ⟨n, t :: rest⟩ = (.ok (f t), ⟨n + 1, rest⟩)
  missed : ∀ n t rest, e.accepts t.kind = false →
    Step.runFrom p ⟨n, t :: rest⟩ = (.error (mismatch e.wording t), ⟨n, t :: rest⟩)

-- A step that walks through expectations, and what it makes of the tokens.
def Follows {α : Type} (p : Parser α) (es : List Expected) (made : List Token → α → Prop) : Prop :=
  ∀ c, match walk es c with
    | (.ok ts, d) => ∃ a, made ts a ∧ Step.runFrom p c = (.ok a, d)
    | (.error fault, d) => Step.runFrom p c = (.error fault, d)

theorem runFrom_peek_cons (n : Nat) (t : Token) (rest : List Token) :
    Step.runFrom peek ⟨n, t :: rest⟩ = (.ok t, ⟨n, t :: rest⟩) := rfl

theorem runFrom_advance {t : Token} (h : t.kind ≠ .endOfInput) (n : Nat) (rest : List Token) :
    Step.runFrom advance ⟨n, t :: rest⟩ = (.ok t, ⟨n + 1, rest⟩) := by
  rw [advance, Step.runFrom_bind_ok _ (runFrom_peek_cons n t rest)]
  simp only [bne_iff_ne, ne_eq, h, not_false_eq_true, if_true]
  rfl

theorem reads_expect {k : Kind} (hk : k ≠ .endOfInput) (wording : Text) :
    Reads (expect k wording) (.kind k wording) id := by
  refine ⟨fun n => rfl, ?_, ?_⟩
  · intro n t rest ht
    obtain rfl := Expected.accepts_kind.mp ht
    rw [expect, Step.runFrom_bind_ok _ (runFrom_peek_cons n t rest), if_pos rfl]
    exact runFrom_advance hk n rest
  · intro n t rest ht
    have hne : t.kind ≠ k := by
      intro h
      simp [Expected.accepts_kind.mpr h] at ht
    rw [expect, Step.runFrom_bind_ok _ (runFrom_peek_cons n t rest), if_neg hne]
    rfl

theorem reads_mark {k : Kind} (hk : k ≠ .endOfInput) : Reads (expectKind k) (.mark k) id :=
  reads_expect hk k.expectation

theorem reads_name : Reads name .name .ofToken := by
  have h : Reads (expect .identifier "identifier") .name id := reads_expect (by simp) _
  refine ⟨fun n => rfl, ?_, ?_⟩
  · intro n t rest ht
    rw [name, Step.runFrom_bind_ok _ (h.met n t rest ht)]
    rfl
  · intro n t rest ht
    rw [name, Step.runFrom_bind_error _ (h.missed n t rest ht)]

theorem reads_expr : Reads expr .operand .ofToken := by
  refine ⟨fun n => rfl, ?_, ?_⟩
  · intro n t rest ht
    have hoperand := Expected.accepts_operand.mp ht
    rw [expr, Step.runFrom_bind_ok _ (runFrom_peek_cons n t rest)]
    generalize hkind : t.kind = k at hoperand
    cases hoperand with
    | number =>
        rw [Step.runFrom_bind_ok _ (runFrom_advance (by simp [hkind]) n rest)]
        simp [Expr.ofToken, hkind]
    | string =>
        rw [Step.runFrom_bind_ok _ (runFrom_advance (by simp [hkind]) n rest)]
        simp [Expr.ofToken, hkind]
    | identifier =>
        rw [Step.runFrom_bind_ok _ (reads_name.met n t rest (Expected.accepts_name.mpr hkind))]
        simp [Expr.ofToken, hkind]
  · intro n t rest ht
    rw [expr, Step.runFrom_bind_ok _ (runFrom_peek_cons n t rest)]
    split
    · rename_i hkind
      simp [Expected.operand, hkind] at ht
    · rename_i hkind
      simp [Expected.operand, hkind] at ht
    · rename_i hkind
      simp [Expected.operand, hkind] at ht
    · rfl

theorem follows_pure {α : Type} (a : α) : Follows (pure a) [] fun _ b => b = a := by
  intro c
  exact ⟨a, rfl, rfl⟩

theorem Reads.bind {α β : Type} {p : Parser α} {e : Expected} {f : Token → α} {g : α → Parser β}
    {es : List Expected} {made : Token → List Token → β → Prop} (hp : Reads p e f)
    (hg : ∀ t, Follows (g (f t)) es (made t)) :
    Follows (p >>= g) (e :: es) fun ts b => ∃ t rest, ts = t :: rest ∧ made t rest b := by
  intro c
  obtain ⟨n, rest⟩ := c
  cases rest with
  | nil => exact Step.runFrom_bind_error g (hp.nil n)
  | cons t rest =>
      by_cases ht : e.accepts t.kind = true
      · have hbind := Step.runFrom_bind_ok g (hp.met n t rest ht)
        have hwalk := hg t ⟨n + 1, rest⟩
        rw [walk, if_pos ht, hbind]
        cases hcase : walk es ⟨n + 1, rest⟩ with
        | mk result d =>
            rw [hcase] at hwalk
            cases result with
            | error fault => exact hwalk
            | ok ts =>
                obtain ⟨b, hmade, hrun⟩ := hwalk
                exact ⟨b, ⟨t, ts, rfl, hmade⟩, hrun⟩
      · rw [walk, if_neg ht]
        exact Step.runFrom_bind_error g (hp.missed n t rest (by simpa using ht))

end SlotCompiler.Parser
