import SlotCompiler.Json.Shown

namespace SlotCompiler.Json

def parts : Json → List Json
  | arr items => items
  | obj members => members.map Prod.snd
  | _ => []

-- `Holds j depth part`: the value `part` stands in `j`, inside so many others.
inductive Holds : Json → Nat → Json → Prop where
  | self (j : Json) : Holds j 0 j
  | inside {j item part : Json} {depth : Nat} (h : item ∈ j.parts) (hpart : Holds item depth part) :
      Holds j (depth + 1) part

-- Nothing is too deep inside the value, and no integer in it has too many digits.
def Showable (room : Nat) (j : Json) : Prop :=
  ∀ depth part, Holds j depth part → depth ≤ room ∧ ∀ n, part = int n → Number.Short n

theorem showable_iff {room : Nat} {j : Json} :
    Showable room j ↔ (∀ n, j = int n → Number.Short n) ∧
      ∀ item ∈ j.parts, ∃ rest, room = rest + 1 ∧ Showable rest item := by
  constructor
  · intro h
    refine ⟨(h 0 j (.self j)).2, fun item hitem => ?_⟩
    obtain ⟨rest, rfl⟩ := Nat.exists_eq_add_of_le' (h 1 item (.inside hitem (.self item))).1
    refine ⟨rest, rfl, fun depth part hpart => ?_⟩
    obtain ⟨hdepth, hshort⟩ := h (depth + 1) part (.inside hitem hpart)
    exact ⟨Nat.le_of_succ_le_succ hdepth, hshort⟩
  · rintro ⟨hshort, hitems⟩ depth part hpart
    cases hpart with
    | self => exact ⟨Nat.zero_le room, hshort⟩
    | inside hitem hpart =>
        obtain ⟨rest, rfl, hrest⟩ := hitems _ hitem
        obtain ⟨hdepth, hshort⟩ := hrest _ _ hpart
        exact ⟨Nat.succ_le_succ hdepth, hshort⟩

theorem checkMembers_eq (room : Nat) (members : List (Text × Json)) :
    checkMembers room members = checkItems room (members.map Prod.snd) := by
  induction members with
  | nil => rw [checkMembers, List.map_nil, checkItems]
  | cons m members ih =>
      cases room with
      | zero => rfl
      | succ room =>
          rw [checkMembers, List.map_cons, checkItems, ih]

theorem checkItems_eq_ok_iff {room : Nat} {items : List Json}
    (h : ∀ item ∈ items, ∀ rest, checkShown rest item = .ok () ↔ Showable rest item) :
    checkItems room items = .ok () ↔
      ∀ item ∈ items, ∃ rest, room = rest + 1 ∧ Showable rest item := by
  induction items with
  | nil => simp [checkItems]
  | cons item items ih =>
      rw [List.forall_mem_cons] at h ⊢
      cases room with
      | zero => simp [checkItems]
      | succ room =>
          rw [← ih h.2, checkItems]
          simp only [Nat.add_right_cancel_iff, exists_eq_left', ← h.1 room]
          cases checkShown room item <;> simp [bind, Except.bind]

theorem checkShown_eq_checkItems {j : Json} (h : ∀ n, j ≠ int n) (room : Nat) :
    checkShown room j = checkItems room j.parts := by
  cases j with
  | int n => exact absurd rfl (h n)
  | arr items => rw [checkShown, parts]
  | obj members => rw [checkShown, parts, checkMembers_eq]
  | _ => simp [checkShown, parts, checkItems]

theorem sizeOf_lt_of_mem_parts {j item : Json} (h : item ∈ j.parts) : sizeOf item < sizeOf j := by
  cases j with
  | arr items =>
      rw [parts] at h
      have hlt := List.sizeOf_lt_of_mem h
      rw [arr.sizeOf_spec]
      omega
  | obj members =>
      rw [parts] at h
      obtain ⟨m, hm, rfl⟩ := List.mem_map.mp h
      have hlt := List.sizeOf_lt_of_mem hm
      have hm : sizeOf m = 1 + sizeOf m.1 + sizeOf m.2 := Prod.mk.sizeOf_spec m.1 m.2
      rw [obj.sizeOf_spec]
      omega
  | _ => cases h

@[elab_as_elim] theorem parts_induction {motive : Json → Prop}
    (parts : ∀ j, (∀ item ∈ j.parts, motive item) → motive j) (j : Json) : motive j :=
  parts j fun item _ => parts_induction parts item
termination_by sizeOf j
decreasing_by exact sizeOf_lt_of_mem_parts ‹_›

theorem checkShown_eq_ok_iff (j : Json) (room : Nat) :
    checkShown room j = .ok () ↔ Showable room j := by
  induction j using parts_induction generalizing room with
  | parts j ih =>
      rw [showable_iff]
      by_cases hint : ∃ n, j = int n
      · obtain ⟨n, rfl⟩ := hint
        rw [checkShown]
        by_cases h : Number.Short n <;> simp [h, Json.parts]
      · have hne := not_exists.mp hint
        rw [checkShown_eq_checkItems hne, checkItems_eq_ok_iff ih]
        exact (and_iff_right fun n hn => absurd hn (hne n)).symm

variable {room : Nat} {j : Json}

theorem shown_of_showable (h : j.Showable room) : j.shown room = .ok j.display := by
  rw [shown, (checkShown_eq_ok_iff j room).mpr h]
  rfl

theorem exists_shown_eq_error (h : ¬j.Showable room) : ∃ fault, j.shown room = .error fault := by
  cases hcheck : checkShown room j with
  | error fault =>
      refine ⟨fault, ?_⟩
      rw [shown, hcheck]
      rfl
  | ok => exact absurd ((checkShown_eq_ok_iff j room).mp hcheck) h

end SlotCompiler.Json
