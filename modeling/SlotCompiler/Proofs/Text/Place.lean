import SlotCompiler.Span
import SlotCompiler.Text.Lines

namespace SlotCompiler

open CodePoint (char)

namespace Text

def Stops (p : CodePoint → Bool) (t : Text) : Prop := ∀ c ∈ t.head?, p c = false

theorem takeWhile_append {p : CodePoint → Bool} {w t : Text} (hw : ∀ c ∈ w, p c = true)
    (ht : Stops p t) : (w ++ t).takeWhile p = w := by
  rw [List.takeWhile_append_of_pos hw]
  cases t with
  | nil => simp
  | cons c t => simp [ht c rfl]

theorem stops_dropWhile (p : CodePoint → Bool) (t : Text) : Stops p (t.dropWhile p) := by
  intro c hc
  have h := List.head?_dropWhile_not p t
  rw [Option.mem_def.mp hc] at h
  exact h

-- What follows a text does not matter for where it stops, except after its end.
theorem Stops.cut {p : CodePoint → Bool} {s t : Text} (h : Stops p (s ++ t)) : Stops p s := by
  cases s with
  | nil => simp [Stops]
  | cons c s => exact h

theorem Stops.append {p : CodePoint → Bool} {s t : Text} (hs : Stops p s) (ht : Stops p t) :
    Stops p (s ++ t) := by
  cases s with
  | nil => exact ht
  | cons c s => exact hs

theorem bne_of_not_mem {d : CodePoint} {t : Text} (h : d ∉ t) : ∀ c ∈ t, (c != d) = true := by
  intro c hc
  rw [bne_iff_ne]
  rintro rfl
  exact h hc

def lastLine (t : Text) : Text := (t.reverse.takeWhile (· != char '\n')).reverse

theorem lastLine_append {t w : Text} (h : char '\n' ∉ w) :
    lastLine (t ++ w) = lastLine t ++ w := by
  have hw := bne_of_not_mem (t := w.reverse) (by simpa using h)
  rw [lastLine, List.reverse_append, List.takeWhile_append_of_pos hw]
  simp [lastLine]

theorem lastLine_append_lineFeed (t : Text) {w : Text} (h : char '\n' ∉ w) :
    lastLine (t ++ char '\n' :: w) = w := by
  have hfeed : lastLine (t ++ [char '\n']) = [] := by simp [lastLine]
  rw [List.append_cons, lastLine_append h, hfeed, List.nil_append]

theorem lastLine_of_not_mem {t : Text} (h : char '\n' ∉ t) : lastLine t = t :=
  lastLine_append (t := []) h

theorem not_mem_or_append (t : Text) :
    char '\n' ∉ t ∨ ∃ front line, t = front ++ char '\n' :: line ∧ char '\n' ∉ line := by
  by_cases h : char '\n' ∈ t
  · right
    obtain ⟨line, front, hsplit, hline⟩ := List.eq_append_cons_of_mem (List.mem_reverse.mpr h)
    refine ⟨front.reverse, line.reverse, ?_, by simpa using hline⟩
    simpa using congrArg List.reverse hsplit
  · exact .inl h

-- Induction over the lines of a text, from the first to the last.
@[elab_as_elim] theorem line_induction {motive : Text → Prop}
    (last : ∀ line, char '\n' ∉ line → motive line)
    (line : ∀ line rest, char '\n' ∉ line → motive rest → motive (line ++ char '\n' :: rest))
    (t : Text) : motive t := by
  induction hn : t.length using Nat.strongRecOn generalizing t with
  | ind n ih =>
      by_cases h : char '\n' ∈ t
      · obtain ⟨first, rest, rfl, hfirst⟩ := List.eq_append_cons_of_mem h
        have hlt : rest.length < n := by
          simp only [List.length_append, List.length_cons] at hn
          omega
        exact line first rest hfirst (ih rest.length hlt rest rfl)
      · exact last t h

theorem length_lastLine_le (t : Text) : (lastLine t).length ≤ t.length := by
  rcases not_mem_or_append t with h | ⟨front, line, rfl, hline⟩
  · exact Nat.le_of_eq (congrArg List.length (lastLine_of_not_mem h))
  · rw [lastLine_append_lineFeed front hline]
    simp only [List.length_append, List.length_cons]
    omega

theorem sourceLines_append_lineFeed (s t : Text) :
    (s ++ char '\n' :: t).sourceLines = s.sourceLines ++ t.sourceLines :=
  List.splitOn_append_cons_of_beq s t (beq_self_eq_true _)

theorem sourceLines_of_not_mem {t : Text} (h : char '\n' ∉ t) : t.sourceLines = [t] :=
  List.splitOn_eq_singleton h

theorem length_sourceLines (t : Text) : t.sourceLines.length = t.count (char '\n') + 1 := by
  induction t with
  | nil => rfl
  | cons c t ih =>
      by_cases hc : c = char '\n'
      · subst hc
        have hcons := sourceLines_append_lineFeed [] t
        rw [List.nil_append] at hcons
        rw [hcons, List.length_append, ih, sourceLines_of_not_mem (by simp)]
        simp only [List.length_singleton, List.count_cons_self]
        omega
      · have hcons : sourceLines (c :: t) = (sourceLines t).modifyHead (List.cons c) := by
          simp [sourceLines, List.splitOn_cons_eq_if_modifyHead, hc]
        rw [hcons, List.length_modifyHead, ih, List.count_cons_of_ne hc]

theorem not_mem_of_mem_sourceLines {t line : Text} (h : line ∈ t.sourceLines) :
    char '\n' ∉ line := by
  induction t using line_induction with
  | last t ht =>
      rw [sourceLines_of_not_mem ht, List.mem_singleton] at h
      rwa [h]
  | line first rest hfirst ih =>
      rw [sourceLines_append_lineFeed, sourceLines_of_not_mem hfirst, List.singleton_append] at h
      rcases List.mem_cons.mp h with rfl | hrest
      · exact hfirst
      · exact ih hrest

theorem sourceLines_join {lines : List Text} (hne : lines ≠ []) (h : ∀ l ∈ lines, char '\n' ∉ l) :
    (join "\n" lines).sourceLines = lines :=
  List.splitOn_intercalate (char '\n') h hne

theorem head?_sourceLines (t : Text) :
    t.sourceLines[0]? = some (t.takeWhile (· != char '\n')) := by
  by_cases h : char '\n' ∈ t
  · obtain ⟨line, rest, rfl, hline⟩ := List.eq_append_cons_of_mem h
    rw [sourceLines_append_lineFeed, sourceLines_of_not_mem hline,
      takeWhile_append (bne_of_not_mem hline) (by simp [Stops])]
    rfl
  · have htake := takeWhile_append (t := []) (bne_of_not_mem h) (by simp [Stops])
    rw [List.append_nil] at htake
    rw [sourceLines_of_not_mem h, htake]
    rfl

-- The line that `w` stands on: what is left of the text before it, `w`, and the text after it up to
-- a line feed.
theorem getElem?_sourceLines (before after : Text) {w : Text} (h : char '\n' ∉ w) :
    (before ++ w ++ after).sourceLines[before.count (char '\n')]? =
      some (lastLine before ++ w ++ after.takeWhile (· != char '\n')) := by
  have hfirst : ∀ v, char '\n' ∉ v → (v ++ after).sourceLines[0]? =
      some (v ++ after.takeWhile (· != char '\n')) := by
    intro v hv
    rw [head?_sourceLines, List.takeWhile_append_of_pos (bne_of_not_mem hv)]
  rcases not_mem_or_append before with hno | ⟨front, line, rfl, hline⟩
  · rw [List.count_eq_zero.mpr hno, lastLine_of_not_mem hno]
    exact hfirst (before ++ w) (by simp [hno, h])
  · have hcode : front ++ char '\n' :: line ++ w ++ after =
        front ++ char '\n' :: (line ++ w ++ after) := by simp
    have hcount : (front ++ char '\n' :: line).count (char '\n') = front.sourceLines.length := by
      rw [length_sourceLines, List.count_append, List.count_cons_self, List.count_eq_zero.mpr hline]
    rw [hcode, hcount, sourceLines_append_lineFeed, List.getElem?_append_right (Nat.le_refl _),
      Nat.sub_self, lastLine_append_lineFeed front hline]
    exact hfirst (line ++ w) (by simp [hline, h])

end Text

namespace Span

def past (before : Text) (length : Nat) : Span :=
  ⟨before.count (char '\n'), (Text.lastLine before).length, length⟩

-- The span is a place of this text in the code: a slice of a line.
def Covers (s : Span) (code text : Text) : Prop :=
  ∃ (n : Nat) (front back : Text),
    code.sourceLines[n]? = some (front ++ text ++ back) ∧ s = ⟨n, front.length, text.length⟩

def Precedes (s t : Span) : Prop :=
  s.line < t.line ∨ s.line = t.line ∧ s.column < t.column ∧ s.column + s.length ≤ t.column

theorem covers_past (before after : Text) {w : Text} (h : char '\n' ∉ w) :
    (past before w.length).Covers (before ++ w ++ after) w :=
  ⟨_, _, _, Text.getElem?_sourceLines before after h, rfl⟩

theorem precedes_past (before between : Text) {w : Text} (hne : w ≠ []) (hw : char '\n' ∉ w)
    (length : Nat) : (past before w.length).Precedes (past (before ++ w ++ between) length) := by
  have hpos := List.length_pos_iff.mpr hne
  rcases Text.not_mem_or_append between with hno | ⟨front, line, rfl, hline⟩
  · right
    have hlast : Text.lastLine (before ++ w ++ between) = Text.lastLine before ++ w ++ between := by
      rw [Text.lastLine_append hno, Text.lastLine_append hw]
    simp only [past, hlast, List.count_append, List.count_eq_zero.mpr hno,
      List.count_eq_zero.mpr hw, List.length_append]
    omega
  · left
    simp only [past, List.count_append, List.count_cons_self]
    omega

end Span

end SlotCompiler
