import SlotCompiler.Text.Lines

namespace SlotCompiler.Text

open CodePoint (char)

def OneLine (t : Text) : Prop := ∀ c ∈ t, isLineBoundary c = false

instance (t : Text) : Decidable t.OneLine :=
  inferInstanceAs (Decidable (∀ c ∈ t, isLineBoundary c = false))

theorem OneLine.append {s t : Text} (hs : s.OneLine) (ht : t.OneLine) : (s ++ t).OneLine :=
  List.forall_mem_append.mpr ⟨hs, ht⟩

theorem oneLine_of_isAsciiDigit {t : Text} (h : ∀ c ∈ t, c.isAsciiDigit = true) : t.OneLine := by
  intro c hc
  have hdigit := h c hc
  simp only [CodePoint.isAsciiDigit, Bool.and_eq_true, decide_eq_true_eq] at hdigit
  rw [Bool.eq_false_iff]
  intro hboundary
  simp only [isLineBoundary, Bool.or_eq_true, Bool.and_eq_true, decide_eq_true_eq,
    beq_iff_eq] at hboundary
  omega

theorem splitLinesFrom_cons {c : CodePoint} (hc : isLineBoundary c = false) (line rest : Text) :
    splitLinesFrom line (c :: rest) = splitLinesFrom (c :: line) rest := by
  rw [splitLinesFrom, hc]
  · rfl
  · rintro _ rfl -
    cases hc

-- The boundary after a text without any ends the line that the text goes on with.
theorem splitLinesFrom_append {w : Text} (hw : w.OneLine) (line rest : Text) :
    splitLinesFrom line (w ++ char '\n' :: rest) =
      (line.reverse ++ w) :: splitLinesFrom [] rest := by
  induction w generalizing line with
  | nil =>
      rw [List.nil_append, List.append_nil, splitLinesFrom.eq_3 _ _ _ (by simp)]
      rfl
  | cons c w ih =>
      obtain ⟨hc, hrest⟩ := List.forall_mem_cons.mp hw
      rw [List.cons_append, splitLinesFrom_cons hc, ih hrest, List.reverse_cons,
        List.append_assoc, List.singleton_append]

theorem splitLines_join {lines : List Text} (hne : lines ≠ []) (h : ∀ l ∈ lines, l.OneLine) :
    splitLines (join "\n" lines ++ "\n") = lines := by
  induction lines with
  | nil => exact absurd rfl hne
  | cons line rest ih =>
      obtain ⟨hline, hrest⟩ := List.forall_mem_cons.mp h
      cases rest with
      | nil =>
          rw [join, List.intercalate_singleton]
          exact splitLinesFrom_append hline [] []
      | cons next rest =>
          have hjoin : join "\n" (line :: next :: rest) ++ "\n" =
              line ++ char '\n' :: (join "\n" (next :: rest) ++ "\n") := by
            rw [join, List.intercalate_cons_cons, List.append_assoc, List.append_assoc]
            rfl
          rw [hjoin, splitLines, splitLinesFrom_append hline]
          exact congrArg (line :: ·) (ih (List.cons_ne_nil next rest) hrest)

theorem oneLine_of_mem_splitLinesFrom {line t l : Text} (hline : line.OneLine)
    (h : l ∈ splitLinesFrom line t) : l.OneLine := by
  have hreverse : ∀ {line : Text}, line.OneLine → OneLine line.reverse := by
    intro line hline c hc
    exact hline c (List.mem_reverse.mp hc)
  have hnil : OneLine [] := by simp [OneLine]
  fun_induction splitLinesFrom line t with
  | case1 => cases h
  | case2 line =>
      rw [List.mem_singleton.mp h]
      exact hreverse hline
  | case3 line rest ih =>
      rcases List.mem_cons.mp h with rfl | hrest
      · exact hreverse hline
      · exact ih hnil hrest
  | case4 line c rest _ hc ih =>
      rcases List.mem_cons.mp h with rfl | hrest
      · exact hreverse hline
      · exact ih hnil hrest
  | case5 line c rest _ hc ih =>
      exact ih (List.forall_mem_cons.mpr ⟨by simpa using hc, hline⟩) h

theorem oneLine_of_mem_splitLines {t l : Text} (h : l ∈ splitLines t) : l.OneLine :=
  oneLine_of_mem_splitLinesFrom (by simp [OneLine]) h

end SlotCompiler.Text
