import Mathlib.Data.List.DropRight
import SlotCompiler.Proofs.Text.Place

namespace SlotCompiler.Text

open CodePoint (char)

inductive LineEnd where
  | feed
  | returnFeed
  | carriageReturn
deriving DecidableEq, Repr

def LineEnd.text : LineEnd → Text
  | feed => [char '\n']
  | returnFeed => [char '\r', char '\n']
  | carriageReturn => [char '\r']

def ended (e : LineEnd) (t : Text) : Text :=
  t.flatMap fun c => if c = char '\n' then e.text else [c]

@[simp] theorem ended_nil (e : LineEnd) : ended e [] = [] := rfl

@[simp] theorem ended_cons_lineFeed (e : LineEnd) (t : Text) :
    ended e (char '\n' :: t) = e.text ++ ended e t := by
  simp [ended]

theorem ended_cons (e : LineEnd) {c : CodePoint} (hc : c ≠ char '\n') (t : Text) :
    ended e (c :: t) = c :: ended e t := by
  simp [ended, hc]

theorem ended_append (e : LineEnd) (s t : Text) : ended e (s ++ t) = ended e s ++ ended e t :=
  List.flatMap_append

theorem ended_of_not_mem (e : LineEnd) {t : Text} (h : char '\n' ∉ t) : ended e t = t := by
  induction t with
  | nil => rfl
  | cons c t ih =>
      rw [List.mem_cons, not_or] at h
      rw [ended_cons e (Ne.symm h.1), ih h.2]

theorem ended_line (e : LineEnd) {line : Text} (h : char '\n' ∉ line) (rest : Text) :
    ended e (line ++ char '\n' :: rest) = line ++ e.text ++ ended e rest := by
  rw [ended_append, ended_of_not_mem e h, ended_cons_lineFeed, List.append_assoc]

theorem not_mem_ended (t : Text) : char '\n' ∉ ended .carriageReturn t := by
  induction t with
  | nil => simp
  | cons c t ih =>
      by_cases hc : c = char '\n'
      · subst hc
        simpa [LineEnd.text] using ih
      · rw [ended_cons _ hc, List.mem_cons, not_or]
        exact ⟨Ne.symm hc, ih⟩

theorem lineFeeds_ended (e : LineEnd) {t : Text} (h : char '\r' ∉ t) :
    lineFeeds (ended e t) = t := by
  induction t with
  | nil => rfl
  | cons c t ih =>
      rw [List.mem_cons, not_or] at h
      have hrest := ih h.2
      by_cases hc : c = char '\n'
      · subst hc
        rw [ended_cons_lineFeed]
        cases e with
        | feed =>
            have hstep := lineFeeds.eq_3 (char '\n') (ended .feed t) (by simp)
            rw [hrest] at hstep
            exact hstep
        | returnFeed =>
            have hstep := lineFeeds.eq_2 (ended .returnFeed t)
            rw [hrest] at hstep
            exact hstep
        | carriageReturn =>
            -- A return that stands alone: the text after it does not start with a line feed.
            have hstep := lineFeeds.eq_3 (char '\r') (ended .carriageReturn t) fun rest _ heq =>
              not_mem_ended t (by simp [heq])
            rw [hrest] at hstep
            exact hstep
      · have hstep := lineFeeds.eq_3 c (ended e t) fun rest heq => absurd heq (Ne.symm h.1)
        rw [ended_cons e hc, hstep, hrest, beq_false_of_ne (Ne.symm h.1)]
        rfl

theorem dropReturns_concat (line : Text) (c : CodePoint) :
    dropReturns (line ++ [c]) = if c = char '\r' then dropReturns line else line ++ [c] := by
  have hdrop := List.rdropWhile_concat (· == char '\r') line c
  simp only [beq_iff_eq] at hdrop
  exact hdrop

theorem dropReturns_append_return (line : Text) :
    dropReturns (line ++ [char '\r']) = dropReturns line := by
  rw [dropReturns_concat, if_pos rfl]

theorem dropReturns_sublist (line : Text) : line.dropReturns.Sublist line := by
  have hstart := List.rdropWhile_prefix (· == char '\r') line
  exact hstart.sublist

-- Only what stands after the last other character is dropped.
theorem dropReturns_append {s : Text} (hne : s ≠ []) (hlast : s.getLast? ≠ some (char '\r'))
    (t : Text) : dropReturns (s ++ t) = s ++ dropReturns t := by
  induction t using List.reverseRecOn with
  | nil =>
      obtain ⟨front, c, rfl⟩ := List.eq_nil_or_concat' s |>.resolve_left hne
      have hc : c ≠ char '\r' := by simpa using hlast
      rw [List.append_nil, dropReturns_concat, if_neg hc]
      simp [dropReturns]
  | append_singleton t c ih =>
      rw [← List.append_assoc, dropReturns_concat, dropReturns_concat, ih]
      split
      · rfl
      · rw [List.append_assoc]

theorem length_dropReturns_lt {line : Text} (h : line.getLast? = some (char '\r')) :
    line.dropReturns.length < line.length := by
  obtain ⟨front, rfl⟩ := List.getLast?_eq_some_iff.mp h
  have hle := (dropReturns_sublist front).length_le
  rw [dropReturns_append_return, List.length_append, List.length_singleton]
  omega

theorem map_dropReturns_sourceLines (t : Text) :
    (ended .returnFeed t).sourceLines.map dropReturns = t.sourceLines.map dropReturns := by
  induction t using line_induction with
  | last line hline => rw [ended_of_not_mem _ hline]
  | line line rest hline ih =>
      have hreturn : char '\n' ∉ line ++ [char '\r'] := by simpa using hline
      have hsplit : line ++ LineEnd.returnFeed.text ++ ended .returnFeed rest =
          line ++ [char '\r'] ++ char '\n' :: ended .returnFeed rest := by
        simp [LineEnd.text]
      rw [ended_line _ hline, hsplit, sourceLines_append_lineFeed, sourceLines_append_lineFeed,
        List.map_append, List.map_append, ih, sourceLines_of_not_mem hreturn,
        sourceLines_of_not_mem hline, List.map_singleton, List.map_singleton,
        dropReturns_append_return]

end SlotCompiler.Text
