import Mathlib.Algebra.Group.Nat.Defs
import SlotCompiler.Proofs.Compile

namespace SlotCompiler

namespace Assembly

def immediate (n : Nat) : BitVec 64 := (BitVec.ofNat 32 n).signExtend 64

theorem toNat_immediate (n : Nat) :
    (immediate n).toNat =
      n % 2 ^ 32 + if 2 ^ 31 ≤ n % 2 ^ 32 then 2 ^ 64 - 2 ^ 32 else 0 := by
  have hlow : n % 2 ^ 32 < 2 ^ 64 := by omega
  rw [immediate, BitVec.toNat_signExtend, BitVec.toNat_setWidth, BitVec.msb_eq_decide,
    BitVec.toNat_ofNat, Nat.mod_eq_of_lt hlow]
  simp only [decide_eq_true_eq, Nat.reduceSub]

theorem toNat_immediate_mod (n : Nat) : (immediate n).toNat % 2 ^ 32 = n % 2 ^ 32 := by
  rw [toNat_immediate]
  split <;> omega

-- The slot holds the number itself when the upper half and the top bit of the lower half are alike.
theorem toNat_immediate_eq_iff {n : Nat} (h : n < 2 ^ 64) :
    (immediate n).toNat = n ↔ n < 2 ^ 31 ∨ 2 ^ 64 - 2 ^ 31 ≤ n := by
  rw [toNat_immediate]
  split <;> omega

structure Keeps (call : Nat × BitVec 64) (v : Nat) : Prop where
  number : call.1 = 60
  low : call.2.toNat % 2 ^ 32 = v % 2 ^ 32
  status : call.2.toNat % 256 = v % 256
  eq_iff : call.2.toNat = v ↔ v < 2 ^ 31 ∨ 2 ^ 64 - 2 ^ 31 ≤ v

theorem keeps_immediate {v : Nat} (h : v < UInt64.size) : Keeps (60, immediate v) v where
  number := rfl
  low := toNat_immediate_mod v
  status := by
    have hlow := toNat_immediate_mod v
    dsimp only
    omega
  eq_iff := toNat_immediate_eq_iff h

end Assembly

open Assembly (Machine decodeListing immediate Keeps)

-- The machine copies slots as they are, so what is handed over is cut once, when its literal is
-- pushed.
theorem compile_keeps_low_half {code asm : Text} (h : (runCompile code).1 = .ok asm) :
    ∃ tokens program values ops, Token.tokenize code = .ok tokens ∧
      Program.ofTokens tokens = .ok program ∧ program.exits? [] = some values ∧
      decodeListing asm = some ops ∧
      ∀ m : Machine (BitVec 64), m.stack = [] → m.calls = [] →
        ∃ m', m.run immediate ops = some m' ∧ List.Forall₂ Keeps m'.calls values := by
  obtain ⟨tokens, program, values, ops, htokens, hprogram, hvalues, hops, hbound, hrun⟩ :=
    runs_of_compile h
  refine ⟨tokens, program, values, ops, htokens, hprogram, hvalues, hops, ?_⟩
  intro m hstack hcalls
  obtain ⟨m', hrun', hcalls'⟩ := hrun immediate m hstack hcalls
  refine ⟨m', hrun', ?_⟩
  rw [hcalls', List.forall₂_map_left_iff, List.forall₂_same]
  exact fun v hv => Assembly.keeps_immediate (hbound v hv)

-- The least number that is not kept, handed over through two variables, and the greatest number.
theorem compile_keeps_low_half_copies :
    ∃ asm, (runCompile
        "let a = 2147483648; let b = a; exit(b); exit(18446744073709551615);").1 = .ok asm ∧
      ∃ tokens program values ops,
        Token.tokenize "let a = 2147483648; let b = a; exit(b); exit(18446744073709551615);" =
          .ok tokens ∧
        Program.ofTokens tokens = .ok program ∧ program.exits? [] = some values ∧
        decodeListing asm = some ops ∧
        ∀ m : Machine (BitVec 64), m.stack = [] → m.calls = [] →
          ∃ m', m.run immediate ops = some m' ∧ List.Forall₂ Keeps m'.calls values := by
  have h : (runCompile
      "let a = 2147483648; let b = a; exit(b); exit(18446744073709551615);").1 =
      .ok ("global _start\n_start:\npush 2147483648\npush QWORD [rsp+0]\n" ++
        "push QWORD [rsp+0]\nmov rax, 60\npop rdi\nsyscall\n" ++
        "push 18446744073709551615\nmov rax, 60\npop rdi\nsyscall\n") := by
    decide +kernel
  exact ⟨_, h, compile_keeps_low_half h⟩

end SlotCompiler
