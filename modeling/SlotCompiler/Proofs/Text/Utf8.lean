import SlotCompiler.Text.Utf8

namespace SlotCompiler.Text.Utf8

variable {surrogates : Bool}

theorem lead?_one {b : Nat} (h : b < 0x80) :
    lead? surrogates b = some { more := 0, bits := b } := by
  simp [lead?, h]

theorem lead?_two {b : Nat} (hlow : 0xc2 ≤ b) (hhigh : b < 0xe0) :
    lead? surrogates b = some { more := 1, bits := b - 0xc0 } := by
  have hone : ¬b < 0x80 := by omega
  have hbad : ¬b < 0xc2 := by omega
  simp [lead?, hone, hbad, hhigh]

theorem lead?_three {b : Nat} (hlow : 0xe0 ≤ b) (hhigh : b < 0xf0) :
    lead? false b = some
      { more := 2
        low := if b = 0xe0 then 0xa0 else 0x80
        high := if b = 0xed then 0x9f else 0xbf
        bits := b - 0xe0 } := by
  have hone : ¬b < 0x80 := by omega
  have hbad : ¬b < 0xc2 := by omega
  have htwo : ¬b < 0xe0 := by omega
  by_cases he0 : b = 0xe0
  · subst he0
    rfl
  · by_cases hed : b = 0xed
    · subst hed
      rfl
    · simp [lead?, hone, hbad, htwo, he0, hed, hhigh]

theorem lead?_four {b : Nat} (hlow : 0xf0 ≤ b) (hhigh : b ≤ 0xf4) :
    lead? surrogates b = some
      { more := 3
        low := if b = 0xf0 then 0x90 else 0x80
        high := if b = 0xf4 then 0x8f else 0xbf
        bits := b - 0xf0 } := by
  have hcases : b = 0xf0 ∨ b = 0xf1 ∨ b = 0xf2 ∨ b = 0xf3 ∨ b = 0xf4 := by omega
  rcases hcases with rfl | rfl | rfl | rfl | rfl <;> cases surrogates <;> rfl

theorem continuation_zero (low high code taken : Nat) (rest : List UInt8) :
    continuation 0 low high code taken rest = .ok code := rfl

theorem continuation_cons {more low high code taken : Nat} {b : UInt8} {rest : List UInt8}
    (hlow : low ≤ b.toNat) (hhigh : b.toNat ≤ high) :
    continuation (more + 1) low high code taken (b :: rest) =
      continuation more 0x80 0xbf (code * 64 + (b.toNat - 0x80)) (taken + 1) rest := by
  simp [continuation, hlow, hhigh]

theorem sequencesFrom_skip (done : List (Except Fault CodePoint)) (start : Nat)
    (bytes rest : List UInt8) :
    sequencesFrom surrogates done start bytes.length (bytes ++ rest) =
      sequencesFrom surrogates done (start + bytes.length) 0 rest := by
  induction bytes generalizing start with
  | nil => rfl
  | cons b bytes ih =>
      rw [List.cons_append, List.length_cons, sequencesFrom, ih]
      congr 1
      omega

-- Read from the left, these bytes are one sequence, which stands for that number.
def Decodes (bytes : List UInt8) (n : Nat) : Prop :=
  ∀ (done : List (Except Fault CodePoint)) (start : Nat) (rest : List UInt8),
    sequencesFrom false done start 0 (bytes ++ rest) =
      sequencesFrom false (.ok (.ofNat n) :: done) (start + bytes.length) 0 rest

theorem decodes_of_lead {b : UInt8} {tail : List UInt8} {l : Lead} {n : Nat}
    (hlead : lead? false b.toNat = some l) (hlength : tail.length = l.more)
    (hcode : ∀ rest, continuation l.more l.low l.high l.bits 0 (tail ++ rest) = .ok n) :
    Decodes (b :: tail) n := by
  intro done start rest
  rw [List.cons_append, sequencesFrom, hlead]
  simp only [hcode]
  rw [← hlength, sequencesFrom_skip, List.length_cons]
  congr 1
  omega

theorem toNat_ofNat {n : Nat} (h : n < 256) : (UInt8.ofNat n).toNat = n :=
  UInt8.toNat_ofNat_of_lt' h

theorem toNat_trail (n : Nat) : (UInt8.ofNat (0x80 + n % 64)).toNat = 0x80 + n % 64 :=
  toNat_ofNat (by omega)

theorem decodes_one {n : Nat} (h : n < 0x80) : Decodes [UInt8.ofNat n] n := by
  have hb : (UInt8.ofNat n).toNat = n := toNat_ofNat (by omega)
  have hlead := @lead?_one false _ h
  rw [← hb] at hlead
  exact decodes_of_lead hlead rfl fun _ => congrArg _ hb

theorem decodes_two {n : Nat} (hlow : 0x80 ≤ n) (hhigh : n < 0x800) :
    Decodes [UInt8.ofNat (0xc0 + n / 64), UInt8.ofNat (0x80 + n % 64)] n := by
  have hb : (UInt8.ofNat (0xc0 + n / 64)).toNat = 0xc0 + n / 64 := toNat_ofNat (by omega)
  have hlead := @lead?_two false (0xc0 + n / 64) (by omega) (by omega)
  have htrail := toNat_trail n
  rw [← hb] at hlead
  refine decodes_of_lead hlead rfl fun rest => ?_
  dsimp only [List.cons_append, List.nil_append]
  rw [continuation_cons (by omega) (by omega), continuation_zero, Except.ok.injEq]
  omega

theorem decodes_three {n : Nat} (hlow : 0x800 ≤ n) (hhigh : n < 0x10000)
    (hvalid : n < 0xd800 ∨ 0xdfff < n) :
    Decodes [UInt8.ofNat (0xe0 + n / 4096), UInt8.ofNat (0x80 + n / 64 % 64),
      UInt8.ofNat (0x80 + n % 64)] n := by
  have hb : (UInt8.ofNat (0xe0 + n / 4096)).toNat = 0xe0 + n / 4096 := toNat_ofNat (by omega)
  have hlead := lead?_three (b := 0xe0 + n / 4096) (by omega) (by omega)
  have hsecond := toNat_trail (n / 64)
  have htrail := toNat_trail n
  rw [← hb] at hlead
  refine decodes_of_lead hlead rfl fun rest => ?_
  dsimp only [List.cons_append, List.nil_append]
  rw [continuation_cons (by split <;> omega) (by split <;> omega),
    continuation_cons (by omega) (by omega), continuation_zero, Except.ok.injEq]
  omega

theorem decodes_four {n : Nat} (hlow : 0x10000 ≤ n) (hhigh : n < 0x110000) :
    Decodes [UInt8.ofNat (0xf0 + n / 262144), UInt8.ofNat (0x80 + n / 4096 % 64),
      UInt8.ofNat (0x80 + n / 64 % 64), UInt8.ofNat (0x80 + n % 64)] n := by
  have hb : (UInt8.ofNat (0xf0 + n / 262144)).toNat = 0xf0 + n / 262144 := toNat_ofNat (by omega)
  have hlead := @lead?_four false (0xf0 + n / 262144) (by omega) (by omega)
  have hsecond := toNat_trail (n / 4096)
  have hthird := toNat_trail (n / 64)
  have htrail := toNat_trail n
  rw [← hb] at hlead
  refine decodes_of_lead hlead rfl fun rest => ?_
  dsimp only [List.cons_append, List.nil_append]
  rw [continuation_cons (by split <;> omega) (by split <;> omega),
    continuation_cons (by omega) (by omega), continuation_cons (by omega) (by omega),
    continuation_zero, Except.ok.injEq]
  omega

-- The numbers of characters: those of surrogates are left out.
theorem toNat_valid (c : Char) : c.toNat < 0xd800 ∨ 0xdfff < c.toNat ∧ c.toNat < 0x110000 := c.valid

theorem decodes_encodePoint (c : Char) : Decodes (encodePoint (.char c)) c.toNat := by
  have hvalid := toNat_valid c
  have hc : (CodePoint.char c).toNat = c.toNat := rfl
  rw [encodePoint]
  simp only [hc]
  split
  · exact decodes_one (by omega)
  · split
    · exact decodes_two (by omega) (by omega)
    · split
      · exact decodes_three (by omega) (by omega) (by omega)
      · exact decodes_four (by omega) (by omega)

theorem ofNat_toNat (c : Char) : CodePoint.ofNat c.toNat = .char c := by
  have hvalid := toNat_valid c
  rw [CodePoint.ofNat, dif_neg (by omega), Char.ofNat_toNat]

theorem sequencesFrom_encode (cs : List Char) (done : List (Except Fault CodePoint)) (start : Nat)
    (rest : List UInt8) :
    sequencesFrom false done start 0 (encode (cs.map .char) ++ rest) =
      sequencesFrom false ((cs.map fun c => .ok (.char c)).reverse ++ done)
        (start + (encode (cs.map .char)).length) 0 rest := by
  induction cs generalizing done start with
  | nil => rfl
  | cons c cs ih =>
      have hencode : encode ((c :: cs).map .char) =
          encodePoint (.char c) ++ encode (cs.map .char) := by simp [encode]
      rw [hencode, List.append_assoc, decodes_encodePoint c, ih, ofNat_toNat, List.length_append,
        List.map_cons, List.reverse_cons, List.append_assoc, List.singleton_append, Nat.add_assoc]

theorem sequencesFrom_eq_append (done : List (Except Fault CodePoint)) (start skip : Nat)
    (bytes : List UInt8) :
    sequencesFrom surrogates done start skip bytes =
      done.reverse ++ sequencesFrom surrogates [] start skip bytes := by
  induction bytes generalizing done start skip with
  | nil => simp [sequencesFrom]
  | cons b rest ih =>
      have hnext : ∀ (found : Except Fault CodePoint) (skip : Nat),
          sequencesFrom surrogates (found :: done) (start + 1) skip rest =
            done.reverse ++ sequencesFrom surrogates [found] (start + 1) skip rest := by
        intro found skip
        rw [ih (found :: done), ih [found], List.reverse_cons, List.append_assoc]
        rfl
      cases skip with
      | succ skip => rw [sequencesFrom, sequencesFrom, ih]
      | zero =>
          rw [sequencesFrom, sequencesFrom]
          cases lead? surrogates b.toNat with
          | none => exact hnext _ _
          | some l =>
              dsimp only
              cases continuation l.more l.low l.high l.bits 0 rest with
              | ok code => exact hnext _ _
              | error stop => exact hnext _ _

theorem mapM_ok_append {ε α : Type} (xs : List α) (later : List (Except ε α)) :
    (xs.map Except.ok ++ later).mapM id = (later.mapM id).map (xs ++ ·) := by
  induction xs with
  | nil => rw [List.map_nil, List.nil_append]; cases later.mapM id <;> rfl
  | cons x xs ih =>
      rw [List.map_cons, List.cons_append, List.mapM_cons, ih]
      cases later.mapM id <;> rfl

theorem decode_encode_append (cs : List Char) (bytes : List UInt8) :
    decode (encode (cs.map .char) ++ bytes) =
      ((sequencesFrom false [] (encode (cs.map .char)).length 0 bytes).mapM id).map
        (cs.map .char ++ ·) := by
  rw [decode, sequences, sequencesFrom_encode, sequencesFrom_eq_append, List.append_nil,
    List.reverse_reverse, Nat.zero_add, ← mapM_ok_append, List.map_map]
  rfl

theorem exists_of_decode_encode_append {cs : List Char} {bytes : List UInt8} {code : Text}
    (h : decode (encode (cs.map .char) ++ bytes) = .ok code) :
    ∃ rest, code = cs.map .char ++ rest := by
  rw [decode_encode_append] at h
  generalize (sequencesFrom false [] (encode (cs.map .char)).length 0 bytes).mapM id = later at h
  cases later with
  | error fault => cases h
  | ok rest => exact ⟨rest, (Except.ok.inj h).symm⟩

end SlotCompiler.Text.Utf8
