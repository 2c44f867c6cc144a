import SlotCompiler.Proofs.Assembly.Scope
import SlotCompiler.Proofs.Assembly.Simulation
import SlotCompiler.Proofs.Text.Lines

namespace SlotCompiler.Assembly

open CodePoint (char)
open Text (OneLine)

theorem eq_append_of_after? {start t rest : Text} (h : after? start t = some rest) :
    t = start ++ rest := by
  rw [after?] at h
  split at h
  next hstart =>
    obtain rfl := Option.some.inj h
    have hsplit := List.take_append_drop start.length t
    rwa [hstart, eq_comm] at hsplit
  next => cases h

theorem oneLine_of_decimal? {t : Text} {n : Nat} (h : t.decimal? = some n) : t.OneLine := by
  rw [Text.decimal?] at h
  split at h
  next hdigits => exact Text.oneLine_of_isAsciiDigit hdigits.2
  next => cases h

theorem oneLine_of_slotOffset? {operand : Text} {offset : Nat}
    (h : slotOffset? operand = some offset) : operand.OneLine := by
  rw [slotOffset?] at h
  split at h
  next rest hafter =>
    split at h
    next hlast =>
      obtain ⟨digits, rfl⟩ := List.getLast?_eq_some_iff.mp hlast
      rw [List.dropLast_concat] at h
      have hstart : OneLine "QWORD [rsp+" := by decide
      have hend : OneLine [char ']'] := by decide
      rw [eq_append_of_after? hafter]
      exact hstart.append ((oneLine_of_decimal? h).append hend)
    next => cases h
  next => cases h

-- What the machine can read is a single line, however lines are told apart.
theorem oneLine_of_decode {line : Text} {op : Op} (h : decode line = some op) : line.OneLine := by
  have hpush : OneLine "push " := by decide
  rw [decode] at h
  split at h
  next operand hafter =>
    rw [eq_append_of_after? hafter]
    apply hpush.append
    split at h
    next hslot => exact oneLine_of_slotOffset? hslot
    next =>
      obtain ⟨n, hn, -⟩ := Option.map_eq_some_iff.mp h
      exact oneLine_of_decimal? hn
  next =>
    split at h
    next hmove =>
      rw [hmove]
      decide
    next =>
      split at h
      next hpop =>
        rw [hpop]
        decide
      next =>
        split at h
        next hcall =>
          rw [hcall]
          decide
        next => cases h

theorem oneLine_of_denotes {code : List Instruction} {ops : List Op}
    (h : List.Forall₂ Instruction.Denotes code ops) : ∀ i ∈ code, i.text.OneLine := by
  induction h with
  | nil => simp
  | cons hfirst _ ih => exact List.forall_mem_cons.mpr ⟨oneLine_of_decode hfirst.1, ih⟩

theorem splitLines_listing {code : List Instruction} {ops : List Op}
    (h : List.Forall₂ Instruction.Denotes code ops) :
    Text.splitLines (listing (preamble ++ code)) = (preamble ++ code).map (·.text) := by
  have hpreamble : ∀ i ∈ preamble, i.text.OneLine := by decide
  apply Text.splitLines_join
  · simp [preamble]
  · intro line hline
    obtain ⟨i, hi, rfl⟩ := List.mem_map.mp hline
    exact List.forall_mem_append.mpr ⟨hpreamble, oneLine_of_denotes h⟩ i hi

def numbered (names : List Atom) : Scope := names.mapIdx fun i x => (x, 8 * ((i : Int) + 1))

theorem scopeOf_eq_numbered (env : Env) : scopeOf env = numbered (env.map Prod.fst).reverse := by
  induction env with
  | nil => rfl
  | cons b env ih =>
      rw [scopeOf, ih, List.map_cons, List.reverse_cons, numbered, numbered, List.mapIdx_concat]
      simp [slotSize]

theorem Generator.Tracks.scope_eq_numbered {g : Generator} {env : Env} (hg : g.Tracks env) :
    g.scope = numbered g.names := by
  rw [Generator.names, hg.scope, map_fst_scopeOf, scopeOf_eq_numbered]

end SlotCompiler.Assembly
