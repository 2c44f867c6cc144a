import SlotCompiler.Proofs.Program.Parser
import SlotCompiler.Proofs.Token.Tokenize

namespace SlotCompiler

-- The values of the declared names, the latest declaration first.
abbrev Env := List (Atom × Nat)

-- A text has no value.
def Expr.value? (env : Env) : Expr → Option Nat
  | .literal (.int (.ofNat n)) .int _ => some n
  | .literal _ _ _ => none
  | .name n => env.lookup n.value

def Statement.run? (env : Env) : Statement → Option (Env × List Nat)
  | .binding bound value => (value.value? env).map fun v => ((bound.value, v) :: env, [])
  | .call callee argument =>
    if callee.value = .text "exit" then (argument.value? env).map fun v => (env, [v]) else none

def Program.exits? (env : Env) : Program → Option (List Nat)
  | [] => some []
  | s :: rest => (s.run? env).bind fun (env', values) => (exits? env' rest).map (values ++ ·)

def Statement.operand : Statement → Expr
  | .binding _ value => value
  | .call _ argument => argument

def Expr.Fits : Expr → Prop
  | .literal value .int _ => ∃ n : Nat, n < UInt64.size ∧ value = .int n
  | _ => True

theorem Expr.fits_ofToken {t : Token} {text : Text} (h : t.Spells text) : (ofToken t).Fits := by
  rw [ofToken]
  split
  next hkind =>
    simp only [Token.Spells, hkind] at h
    obtain ⟨hvalue, hbound, -⟩ := h
    exact ⟨text.decimalValue, hbound, hvalue⟩
  next => trivial
  next => trivial

-- Everything that may have to be shown can be.
def Expr.Short : Expr → Prop
  | .literal value _ _ => value.Short
  | .name n => n.value.Short

def Statement.Short : Statement → Prop
  | .binding bound value => bound.value.Short ∧ value.Short
  | .call callee argument => callee.value.Short ∧ argument.Short

def Program.Short (p : Program) : Prop := ∀ s ∈ p, s.Short

theorem Expr.short_ofToken {t : Token} (h : t.value.Short) : (ofToken t).Short := by
  rw [ofToken]
  split <;> exact h

theorem Program.exists_tokens_of_matches {p : Program} {front : List Token}
    (h : List.Forall₂ Part.Matches p.parts front) {s : Statement} (hs : s ∈ p) :
    ∃ named operand, named ∈ front ∧ operand ∈ front ∧
      (s = .binding (.ofToken named) (.ofToken operand) ∨
        s = .call (.ofToken named) (.ofToken operand)) := by
  induction p generalizing front with
  | nil => cases hs
  | cons first rest ih =>
      obtain ⟨ts, more, rfl, hfirst, hrest⟩ := matches_cons.mp h
      rcases List.mem_cons.mp hs with rfl | hlater
      · rcases Statement.matches_cases hfirst with
          ⟨callee, _, argument, _, _, rfl, rfl, -⟩ | ⟨_, bound, _, value, _, rfl, rfl, -⟩
        · exact ⟨callee, argument, by simp, by simp, .inr rfl⟩
        · exact ⟨bound, value, by simp, by simp, .inl rfl⟩
      · obtain ⟨named, operand, hnamed, hoperand, heq⟩ := ih hrest hlater
        exact ⟨named, operand, List.mem_append_right _ hnamed,
          List.mem_append_right _ hoperand, heq⟩

section

variable {code : Text} {tokens : List Token} {p : Program}

theorem Program.exists_tokens (htokens : Token.tokenize code = .ok tokens)
    (hp : Program.ofTokens tokens = .ok p) {s : Statement} (hs : s ∈ p) :
    ∃ named operand : Token, (∃ text, named.Spells text) ∧ (∃ text, operand.Spells text) ∧
      (s = .binding (.ofToken named) (.ofToken operand) ∨
        s = .call (.ofToken named) (.ofToken operand)) := by
  obtain ⟨front, hstand, rfl⟩ := Token.exists_standIn_of_tokenize htokens
  obtain ⟨named, operand, hnamed, hoperand, heq⟩ :=
    exists_tokens_of_matches (matches_of_ofTokens hstand.kind_ne hp) hs
  exact ⟨named, operand, hstand.exists_spells hnamed, hstand.exists_spells hoperand, heq⟩

theorem Program.fits_of_tokenize (htokens : Token.tokenize code = .ok tokens)
    (hp : Program.ofTokens tokens = .ok p) : ∀ s ∈ p, s.operand.Fits := by
  intro s hs
  obtain ⟨named, operand, -, ⟨text, htext⟩, rfl | rfl⟩ := exists_tokens htokens hp hs <;>
    exact Expr.fits_ofToken htext

theorem Program.short_of_tokenize (htokens : Token.tokenize code = .ok tokens)
    (hp : Program.ofTokens tokens = .ok p) : p.Short := by
  intro s hs
  obtain ⟨named, operand, ⟨_, hnamed⟩, ⟨_, hoperand⟩, rfl | rfl⟩ := exists_tokens htokens hp hs <;>
    exact ⟨hnamed.short, Expr.short_ofToken hoperand.short⟩

end

def Env.Fits (env : Env) : Prop := ∀ b ∈ env, b.2 < UInt64.size

theorem Env.Fits.lookup {env : Env} {x : Atom} {v : Nat} (henv : env.Fits)
    (h : env.lookup x = some v) : v < UInt64.size := by
  obtain ⟨before, after, rfl, -⟩ := List.lookup_eq_some_iff.mp h
  exact henv (x, v) (by simp)

theorem Expr.value?_lt {env : Env} {e : Expr} {v : Nat} (henv : env.Fits) (he : e.Fits)
    (h : e.value? env = some v) : v < UInt64.size := by
  cases e with
  | name n => exact henv.lookup h
  | literal value type span =>
      cases type with
      | string => cases value <;> simp [value?] at h
      | int =>
          obtain ⟨n, hn, rfl⟩ := he
          obtain rfl : n = v := Option.some.inj h
          exact hn

theorem Statement.fits_of_run? {env env' : Env} {s : Statement} {values : List Nat}
    (henv : env.Fits) (hs : s.operand.Fits) (h : s.run? env = some (env', values)) :
    env'.Fits ∧ ∀ v ∈ values, v < UInt64.size := by
  cases s with
  | binding bound value =>
      obtain ⟨v, hv, hresult⟩ := Option.map_eq_some_iff.mp h
      obtain ⟨rfl, rfl⟩ := Prod.mk.inj hresult
      exact ⟨List.forall_mem_cons.mpr ⟨Expr.value?_lt henv hs hv, henv⟩, by simp⟩
  | call callee argument =>
      rw [run?] at h
      split at h
      next =>
        obtain ⟨v, hv, hresult⟩ := Option.map_eq_some_iff.mp h
        obtain ⟨rfl, rfl⟩ := Prod.mk.inj hresult
        exact ⟨henv, by simpa using Expr.value?_lt henv hs hv⟩
      next => cases h

theorem Program.lt_of_exits? {env : Env} {p : Program} {values : List Nat} (henv : env.Fits)
    (hp : ∀ s ∈ p, s.operand.Fits) (h : p.exits? env = some values) :
    ∀ v ∈ values, v < UInt64.size := by
  induction p generalizing env values with
  | nil =>
      obtain rfl := Option.some.inj h
      simp
  | cons s rest ih =>
      obtain ⟨⟨env', first⟩, hrun, hrest⟩ := Option.bind_eq_some_iff.mp h
      obtain ⟨more, hmore, rfl⟩ := Option.map_eq_some_iff.mp hrest
      obtain ⟨hs, hp⟩ := List.forall_mem_cons.mp hp
      obtain ⟨henv', hfirst⟩ := Statement.fits_of_run? henv hs hrun
      exact List.forall_mem_append.mpr ⟨hfirst, ih henv' hp hmore⟩

end SlotCompiler
