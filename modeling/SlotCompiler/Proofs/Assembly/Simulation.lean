import SlotCompiler.Proofs.Assembly.Generator
import SlotCompiler.Proofs.Assembly.Machine
import SlotCompiler.Proofs.Program.Meaning

namespace SlotCompiler.Assembly

-- The oldest variable has the lowest slot.
def scopeOf : Env → Scope
  | [] => []
  | (x, _) :: env => scopeOf env ++ [(x, slotSize * (env.length + 1))]

-- The generator has seen the declarations of the environment, and nothing else is on the stack.
structure Generator.Tracks (g : Generator) (env : Env) : Prop where
  scope : g.scope = scopeOf env
  stackSize : g.stackSize = slotSize * env.length
  distinct : (env.map Prod.fst).Nodup

theorem Generator.tracks_start : Generator.Tracks { lines := preamble.toArray } [] :=
  ⟨rfl, rfl, .nil⟩

def Machine.Holds {α : Type} (m : Machine α) (load : Nat → α) (env : Env) : Prop :=
  m.stack = env.map fun b => load b.2

-- The operations lead from one environment to the other and hand over the values, whatever a slot
-- makes of a number.
def Simulates (ops : List Op) (env env' : Env) (values : List Nat) : Prop :=
  ∀ {α : Type} (load : Nat → α) (m : Machine α), m.Holds load env →
    ∃ m', m.run load ops = some m' ∧ m'.Holds load env' ∧
      m'.calls = m.calls ++ values.map fun v => (60, load v)

theorem Simulates.append {ops more : List Op} {env₁ env₂ env₃ : Env} {values rest : List Nat}
    (h : Simulates ops env₁ env₂ values) (hmore : Simulates more env₂ env₃ rest) :
    Simulates (ops ++ more) env₁ env₃ (values ++ rest) := by
  intro α load m hm
  obtain ⟨m₂, hrun, hm₂, hcalls⟩ := h load m hm
  obtain ⟨m₃, hrun', hm₃, hcalls'⟩ := hmore load m₂ hm₂
  refine ⟨m₃, ?_, hm₃, ?_⟩
  · rw [Machine.run_append, hrun]
    exact hrun'
  · rw [hcalls', hcalls, List.map_append, List.append_assoc]

theorem map_fst_scopeOf (env : Env) : (scopeOf env).map Prod.fst = (env.map Prod.fst).reverse := by
  induction env with
  | nil => rfl
  | cons b env ih => simp [scopeOf, ih]

theorem lookup_scopeOf_eq_none {env : Env} {x : Atom} :
    (scopeOf env).lookup x = none ↔ x ∉ env.map Prod.fst := by
  rw [lookup_eq_none_iff, map_fst_scopeOf, List.mem_reverse]

-- A variable's slot is as far below the top as its declaration is in the environment.
theorem exists_slot {env : Env} {x : Atom} {location : Int} (hdistinct : (env.map Prod.fst).Nodup)
    (h : (scopeOf env).lookup x = some location) :
    ∃ (k v : Nat), env[k]? = some (x, v) ∧ env.lookup x = some v ∧
      location = slotSize * (env.length - k) := by
  induction env with
  | nil => simp [scopeOf] at h
  | cons b env ih =>
      obtain ⟨y, w⟩ := b
      obtain ⟨hy, hrest⟩ := List.nodup_cons.mp hdistinct
      rw [scopeOf, List.lookup_append] at h
      by_cases hx : x = y
      · subst hx
        rw [lookup_scopeOf_eq_none.mpr hy, Option.none_or, List.lookup_cons_self] at h
        obtain rfl := Option.some.inj h
        exact ⟨0, w, rfl, List.lookup_cons_self, by simp⟩
      · have hbeq : (x == y) = false := beq_eq_false_iff_ne.mpr hx
        simp only [List.lookup_cons, hbeq, List.lookup_nil, Option.or_none] at h
        obtain ⟨k, v, hk, hv, rfl⟩ := ih hrest h
        refine ⟨k + 1, v, hk, ?_, ?_⟩
        · simpa only [List.lookup_cons, hbeq] using hv
        · rw [List.length_cons]
          congr 1
          omega

theorem Machine.step_pushSlot {α : Type} {load : Nat → α} {m : Machine α} {env : Env}
    (hm : m.Holds load env) {k v : Nat} {x : Atom} (hk : env[k]? = some (x, v)) :
    m.step load (.pushSlot (8 * k)) = some { m with stack := load v :: m.stack } := by
  have hbound : k < env.length := (List.getElem?_eq_some_iff.mp hk).1
  have hlength : m.stack.length = env.length := by rw [hm, List.length_map]
  have hslot : m.stack[8 * k / 8]? = some (load v) := by
    rw [Nat.mul_div_cancel_left k (by omega), hm, List.getElem?_map, hk]
    rfl
  rw [step, if_pos ⟨by omega, by omega⟩, hslot]
  rfl

def Pushes (op : Op) (env : Env) (v : Nat) : Prop :=
  ∀ {α : Type} (load : Nat → α) (m : Machine α), m.Holds load env →
    m.step load op = some { m with stack := load v :: m.stack }

-- What pushing an operand leaves on the stack is the value of its expression.
theorem Generator.Tracks.operand {g : Generator} {env : Env} {e : Expr} {o : Operand}
    (hg : g.Tracks env) (he : e.Fits) (ho : g.operand e = .ok o) :
    ∃ v op, e.value? env = some v ∧ (Instruction.push o).Denotes op ∧ Pushes op env v := by
  cases e with
  | literal value type span =>
      cases type with
      | string => cases ho
      | int =>
          obtain ⟨n, -, rfl⟩ := he
          obtain rfl := operand_literal ho
          exact ⟨n, .pushNumber n, rfl, denotes_pushNumber n, fun load m _ => rfl⟩
  | name n =>
      rw [Generator.operand, hg.scope, hg.stackSize] at ho
      cases hlookup : (scopeOf env).lookup n.value with
      | none => simp [hlookup] at ho
      | some location =>
          obtain ⟨k, v, hk, hv, rfl⟩ := exists_slot hg.distinct hlookup
          have hoffset : slotSize * (env.length : Int) - slotSize * (env.length - k) =
              ((8 * k : Nat) : Int) := by
            simp only [slotSize]
            omega
          simp only [hlookup, hoffset, Except.ok.injEq] at ho
          subst ho
          exact ⟨v, .pushSlot (8 * k), hv, denotes_pushSlot (8 * k),
            fun load m hm => m.step_pushSlot hm hk⟩

theorem Pushes.simulates_binding {op : Op} {env : Env} {v : Nat} (h : Pushes op env v) (x : Atom) :
    Simulates [op] env ((x, v) :: env) [] := by
  intro α load m hm
  refine ⟨{ m with stack := load v :: m.stack }, ?_, ?_, (List.append_nil m.calls).symm⟩
  · rw [Machine.run, List.foldlM_cons, h load m hm]
    rfl
  · rw [Machine.Holds, hm, List.map_cons]

theorem Pushes.simulates_exit {op : Op} {env : Env} {v : Nat} (h : Pushes op env v) :
    Simulates [op, .moveRax, .popRdi, .syscall] env env [v] := by
  intro α load m hm
  refine ⟨{ m with rax := 60, rdi := load v, calls := m.calls ++ [(60, load v)] }, ?_, hm, rfl⟩
  rw [Machine.run, List.foldlM_cons, h load m hm]
  rfl

theorem Generator.Tracks.declared {g : Generator} {env : Env} {x : Atom} (hg : g.Tracks env)
    (hx : g.scope.lookup x = none) (v : Nat) (o : Operand) :
    (g.declared x o).Tracks ((x, v) :: env) where
  scope := by
    simp only [Generator.declared, hg.scope, hg.stackSize, scopeOf, slotSize,
      List.append_cancel_left_eq, List.cons.injEq, Prod.mk.injEq, and_true, true_and]
    omega
  stackSize := by
    simp only [Generator.declared, hg.stackSize, slotSize, List.length_cons]
    omega
  distinct := by
    rw [hg.scope, lookup_scopeOf_eq_none] at hx
    exact List.nodup_cons.mpr ⟨hx, hg.distinct⟩

theorem Generator.Tracks.step {g g' : Generator} {env : Env} {s : Statement} (hg : g.Tracks env)
    (hs : s.operand.Fits) (h : g.step s = .ok g') :
    ∃ env' values code ops, s.run? env = some (env', values) ∧ g'.Tracks env' ∧
      g'.lines.toList = g.lines.toList ++ code ∧ List.Forall₂ Instruction.Denotes code ops ∧
      Simulates ops env env' values := by
  rcases Generator.step_cases h with
    ⟨bound, value, o, rfl, hnew, ho, rfl⟩ | ⟨callee, argument, o, rfl, hexit, ho, rfl⟩
  · obtain ⟨v, op, hv, hdenotes, hpushes⟩ := hg.operand hs ho
    rw [Statement.operand] at hv
    refine ⟨(bound.value, v) :: env, [], [.push o], [op], ?_, hg.declared hnew v o,
      Array.toList_push, .cons hdenotes .nil, hpushes.simulates_binding bound.value⟩
    rw [Statement.run?, hv, Option.map_some]
  · obtain ⟨v, op, hv, hdenotes, hpushes⟩ := hg.operand hs ho
    rw [Statement.operand] at hv
    refine ⟨env, [v], [.push o, .move "rax" exitNumber, .pop "rdi", .syscall],
      [op, .moveRax, .popRdi, .syscall], ?_, ⟨hg.scope, hg.stackSize, hg.distinct⟩,
      Array.toList_append, ?_, hpushes.simulates_exit⟩
    · rw [Statement.run?, if_pos hexit, hv, Option.map_some]
    · exact .cons hdenotes (.cons denotes_moveRax (.cons denotes_popRdi
        (.cons denotes_syscall .nil)))

theorem Generator.Tracks.run {p : Program} {g g' : Generator} {env : Env} (hg : g.Tracks env)
    (hp : ∀ s ∈ p, s.operand.Fits) (h : p.foldlM Generator.step g = .ok g') :
    ∃ env' values code ops, p.exits? env = some values ∧ g'.Tracks env' ∧
      g'.lines.toList = g.lines.toList ++ code ∧ List.Forall₂ Instruction.Denotes code ops ∧
      Simulates ops env env' values := by
  induction p generalizing g env with
  | nil =>
      obtain rfl := Except.ok.inj h
      refine ⟨env, [], [], [], rfl, hg, (List.append_nil _).symm, .nil, ?_⟩
      exact fun load m hm => ⟨m, rfl, hm, (List.append_nil _).symm⟩
  | cons s rest ih =>
      rw [List.foldlM_cons] at h
      cases hstep : g.step s with
      | error fault => simp [hstep, bind, Except.bind] at h
      | ok next =>
          simp only [hstep, bind, Except.bind] at h
          obtain ⟨hs, hrest⟩ := List.forall_mem_cons.mp hp
          obtain ⟨env₁, values, code, ops, hrun, hnext, hlines, hcode, hsim⟩ := hg.step hs hstep
          obtain ⟨env₂, more, code', ops', hexits, hlast, hlines', hcode', hsim'⟩ :=
            ih hnext hrest h
          refine ⟨env₂, values ++ more, code ++ code', ops ++ ops', ?_, hlast, ?_,
            List.rel_append hcode hcode', hsim.append hsim'⟩
          · simp only [Program.exits?, hrun, Option.bind_some, hexits, Option.map_some]
          · rw [hlines', hlines, List.append_assoc]

end SlotCompiler.Assembly
