import SlotCompiler.Token

namespace SlotCompiler

theorem Number.short_of_lt {n : Nat} (h : n < UInt64.size) : Short n := by
  have hsize : UInt64.size ≤ leastLong := by decide +kernel
  exact Nat.lt_of_lt_of_le h hsize

theorem Number.not_short_leastLong : ¬Short leastLong := by
  rw [Short, Int.natAbs_natCast]
  exact Nat.lt_irrefl _

theorem Atom.shown_of_short {a : Atom} (h : a.Short) : a.shown = .ok a.display := if_pos h

theorem Atom.shown_of_long {a : Atom} (h : ¬a.Short) : a.shown = .error .longNumber := if_neg h

namespace Fault

variable {kind : Diagnostic.Kind} {a : Atom} (span : Span)

theorem report_of_short (h : a.Short) (enough : kind.arity ≤ [a.display].length) :
    report kind span [a] = .diagnostic ⟨kind, span, [a.display], enough⟩ := by
  have hshort : ∀ detail ∈ [a].take kind.arity, detail.Short := by
    intro detail hdetail
    rwa [List.mem_singleton.mp (List.mem_of_mem_take hdetail)]
  rw [report, if_pos hshort]
  exact dif_pos enough

theorem report_of_long (h : ¬a.Short) (harity : kind.arity = 1) :
    report kind span [a] = .longNumber := by
  have hlong : ¬∀ detail ∈ [a].take kind.arity, detail.Short := by
    rw [harity]
    exact fun hshort => h (hshort a List.mem_cons_self)
  rw [report, if_neg hlong]

end Fault

namespace Token

-- Only names, numbers and texts are shown with their values.
def Showable (t : Token) : Prop :=
  t.kind ∈ [Kind.identifier, .number, .string] → t.value.Short

theorem exists_describe_of_showable {t : Token} (hkind : t.kind ∈ Kind.known) (h : t.Showable) :
    ∃ found, t.describe = .ok found := by
  obtain ⟨kind, value, span⟩ := t
  cases kind with
  | other name => simp [Kind.known] at hkind
  | identifier | number | string =>
      rw [describe, Atom.shown_of_short (h (by simp))]
      exact ⟨_, rfl⟩
  | _ => exact ⟨_, rfl⟩

theorem describe_of_not_showable {t : Token} (h : ¬t.Showable) :
    t.kind ∈ Kind.known ∧ t.describe = .error .longNumber := by
  obtain ⟨hkind, hlong⟩ := Classical.not_imp.mp h
  have hshown := Atom.shown_of_long hlong
  simp only [List.mem_cons, List.not_mem_nil, or_false] at hkind
  rcases hkind with hkind | hkind | hkind <;> simp [describe, hkind, hshown, Kind.known, Except.map]

end Token

end SlotCompiler
