import SlotCompiler.Build.Path
import SlotCompiler.Proofs.Text.Place

namespace SlotCompiler

open CodePoint (char)

theorem Text.not_mem_of_mem_splitOn {c : CodePoint} {t segment : Text}
    (h : segment ∈ t.splitOn c) : c ∉ segment := by
  induction hn : t.length using Nat.strongRecOn generalizing t with
  | ind n ih =>
      by_cases hc : c ∈ t
      · obtain ⟨front, rest, rfl, hfront⟩ := List.eq_append_cons_of_mem hc
        rw [List.splitOn_append_cons_of_beq front rest (beq_self_eq_true c),
          List.splitOn_eq_singleton hfront] at h
        rcases List.mem_append.mp h with hfirst | hlater
        · rwa [List.mem_singleton.mp hfirst]
        · have hlt : rest.length < n := by
            simp only [List.length_append, List.length_cons] at hn
            omega
          exact ih rest.length hlt hlater rfl
      · rw [List.splitOn_eq_singleton hc] at h
        rwa [List.mem_singleton.mp h]

namespace Path

def Segmented (p : Path) : Prop := ∀ n ∈ p.names, n ≠ [] ∧ char '/' ∉ n

-- Segments that say nothing are left out as well.
def Normal (p : Path) : Prop := p.Segmented ∧ ∀ n ∈ p.names, n ≠ "."

theorem normal_ofText (t : Text) : (ofText t).Normal := by
  have hmem : ∀ n ∈ (ofText t).names, n ∈ t.splitOn (char '/') ∧ n ≠ [] ∧ n ≠ "." := by
    intro n hn
    obtain ⟨hsplit, hkept⟩ := List.mem_filter.mp hn
    rw [Bool.and_eq_true, bne_iff_ne, bne_iff_ne] at hkept
    exact ⟨hsplit, hkept⟩
  refine ⟨?_, fun n hn => (hmem n hn).2.2⟩
  intro n hn
  obtain ⟨hsplit, hne, -⟩ := hmem n hn
  exact ⟨hne, Text.not_mem_of_mem_splitOn hsplit⟩

theorem takeWhile_join {names : List Text} (h : ∀ n ∈ names, n ≠ [] ∧ char '/' ∉ n) :
    (Text.join "/" names).takeWhile (· == char '/') = [] := by
  cases names with
  | nil => rfl
  | cons first rest =>
      obtain ⟨hne, hslash⟩ := h first List.mem_cons_self
      obtain ⟨c, more, rfl⟩ := List.exists_cons_of_ne_nil hne
      have hc : (c == char '/') = false := by
        rw [beq_eq_false_iff_ne]
        rintro rfl
        exact hslash List.mem_cons_self
      cases rest with
      | nil => simp [Text.join, hc]
      | cons next rest => simp [Text.join, List.intercalate_cons_cons, hc]

theorem anchorOf_append (a : Anchor) {t : Text} (ht : t.takeWhile (· == char '/') = []) :
    anchorOf (a.text ++ t) = a := by
  have hslashes : ∀ c ∈ a.text, (c == char '/') = true := by cases a <;> decide
  rw [anchorOf, List.takeWhile_append_of_pos hslashes, ht, List.append_nil]
  cases a <;> rfl

def segments (t : Text) : List Text :=
  (t.splitOn (char '/')).filter fun segment => segment != "" && segment != "."

theorem segments_cons_slash (t : Text) : segments (char '/' :: t) = segments t := by
  have hsplit : List.splitOn (char '/') (char '/' :: t) = [[]] ++ t.splitOn (char '/') :=
    List.splitOn_append_cons_of_beq [] t (beq_self_eq_true _)
  rw [segments, hsplit]
  rfl

theorem segments_append (a : Anchor) (t : Text) : segments (a.text ++ t) = segments t := by
  cases a with
  | relative => rfl
  | root => exact segments_cons_slash t
  | doubleRoot => exact (segments_cons_slash (char '/' :: t)).trans (segments_cons_slash t)

theorem segments_join {names : List Text} (h : ∀ n ∈ names, n ≠ [] ∧ char '/' ∉ n) :
    segments (Text.join "/" names) = names.filter (· != Text.ofString ".") := by
  cases names with
  | nil => rfl
  | cons first rest =>
      have hsplit : (Text.join "/" (first :: rest)).splitOn (char '/') = first :: rest :=
        List.splitOn_intercalate (char '/') (fun n hn => (h n hn).2) (List.cons_ne_nil _ _)
      rw [segments, hsplit]
      apply List.filter_congr
      intro n hn
      have hne : (n != "") = true := bne_iff_ne.mpr (h n hn).1
      rw [hne, Bool.true_and]

-- Reading what was written leaves nothing out but segments that say nothing.
theorem ofText_text {p : Path} (h : p.Segmented) :
    ofText p.text = { p with names := p.names.filter (· != Text.ofString ".") } := by
  by_cases hhere : p.anchor = .relative ∧ p.names = []
  · obtain ⟨anchor, names⟩ := p
    obtain ⟨rfl, rfl⟩ := hhere
    rfl
  · have htext : p.text = p.anchor.text ++ Text.join "/" p.names := by
      rw [text, if_neg]
      rwa [Bool.and_eq_true, beq_iff_eq, List.isEmpty_iff]
    have hanchor := anchorOf_append p.anchor (takeWhile_join h)
    have hnames : segments (p.anchor.text ++ Text.join "/" p.names) =
        p.names.filter (· != Text.ofString ".") := by
      rw [segments_append, segments_join h]
    rw [htext]
    exact Path.mk.injEq .. |>.mpr ⟨hanchor, hnames⟩

def normalize (p : Path) : Path := ofText p.text

theorem Normal.normalize_eq {p : Path} (h : p.Normal) : p.normalize = p := by
  rw [normalize, ofText_text h.1, List.filter_eq_self.mpr]
  intro n hn
  exact bne_iff_ne.mpr (h.2 n hn)

def sibling (p : Path) (name : Text) : Path := { p with names := p.names.dropLast ++ [name] }

theorem withName_of_ne_nil {p : Path} (h : p.names ≠ []) (name : Text) :
    p.withName name = .ok (p.sibling name) := by
  rw [withName, if_neg (by simpa using h)]
  rfl

theorem withName_of_eq_nil {p : Path} (h : p.names = []) (name : Text) :
    p.withName name = .error ⟨p⟩ := by
  rw [withName, if_pos (by simp [h])]

theorem sibling_name {p : Path} (h : p.names ≠ []) : p.sibling p.name = p := by
  rw [sibling, name, List.getLast?_eq_some_getLast h, Option.getD_some,
    List.dropLast_concat_getLast h]

theorem sibling_inj {p : Path} {m n : Text} : p.sibling m = p.sibling n ↔ m = n := by
  simp [sibling]

theorem sibling_eq_self_iff {p : Path} {n : Text} (h : p.names ≠ []) :
    p.sibling n = p ↔ n = p.name := by
  constructor
  · intro hself
    rw [← hself]
    simp [sibling, name]
  · rintro rfl
    exact sibling_name h

@[simp] theorem sibling_sibling (p : Path) (m n : Text) :
    (p.sibling m).sibling n = p.sibling n := by
  simp [sibling]

@[simp] theorem name_sibling (p : Path) (n : Text) : (p.sibling n).name = n := by
  simp [sibling, name]

theorem name_mem {p : Path} (h : p.names ≠ []) : p.name ∈ p.names := by
  rw [name, List.getLast?_eq_some_getLast h]
  exact List.getLast_mem h

theorem Segmented.sibling {p : Path} {n : Text} (h : p.Segmented) (hne : n ≠ [])
    (hslash : char '/' ∉ n) : (p.sibling n).Segmented := by
  intro m hm
  rcases List.mem_append.mp hm with hdir | hlast
  · exact h m ((List.dropLast_sublist _).subset hdir)
  · rw [List.mem_singleton.mp hlast]
    exact ⟨hne, hslash⟩

theorem Normal.sibling {p : Path} {n : Text} (h : p.Normal) (hne : n ≠ []) (hslash : char '/' ∉ n)
    (hdot : n ≠ ".") : (p.sibling n).Normal := by
  refine ⟨h.1.sibling hne hslash, ?_⟩
  intro m hm
  rcases List.mem_append.mp hm with hdir | hlast
  · exact h.2 m ((List.dropLast_sublist _).subset hdir)
  · rwa [List.mem_singleton.mp hlast]

theorem Normal.sibling_append {p : Path} {n suffix : Text} (h : p.Normal) (hn : char '/' ∉ n)
    (hslash : char '/' ∉ suffix) (hlength : 2 ≤ suffix.length) :
    (p.sibling (n ++ suffix)).Normal := by
  have hlong : 2 ≤ (n ++ suffix).length := by
    rw [List.length_append]
    omega
  refine h.sibling ?_ (by simp [hn, hslash]) ?_
  · intro hnil
    simp [hnil] at hlong
  · intro hdot
    simp [hdot, Text.ofString] at hlong

-- Neighbours stay apart in normal form, even if one of them has a name that says nothing.
theorem Normal.normalize_sibling_ne {p : Path} {m n : Text} (hp : p.Normal) (hne : n ≠ [])
    (hslash : char '/' ∉ n) (hmn : n ≠ m) : (p.sibling n).normalize ≠ p.sibling m := by
  by_cases hdot : n = "."
  · rw [normalize, ofText_text (hp.1.sibling hne hslash)]
    intro h
    have hlength : ((p.names.dropLast ++ [n]).filter (· != Text.ofString ".")).length =
        (p.names.dropLast ++ [m]).length := congrArg (fun q => q.names.length) h
    have hdropped : [n].filter (· != Text.ofString ".") = [] := by rw [hdot]; rfl
    have hle := List.length_filter_le (· != Text.ofString ".") p.names.dropLast
    rw [List.filter_append, hdropped, List.append_nil, List.length_append,
      List.length_singleton] at hlength
    omega
  · rw [(hp.sibling hne hslash hdot).normalize_eq, Ne, sibling_inj]
    exact hmn

theorem splitSuffix_cases (n : Text) :
    splitSuffix n = (n, []) ∨ ∃ stem tail, n = stem ++ char '.' :: tail ∧ stem ≠ [] ∧
      splitSuffix n = (stem, char '.' :: tail) := by
  by_cases hdot : char '.' ∈ n
  · obtain ⟨tail, stem, hsplit, htail⟩ := List.eq_append_cons_of_mem (List.mem_reverse.mpr hdot)
    have hn : n = stem.reverse ++ char '.' :: tail.reverse := by
      simpa using congrArg List.reverse hsplit
    have htake : n.reverse.takeWhile (· != char '.') = tail := by
      rw [hsplit, Text.takeWhile_append (Text.bne_of_not_mem htail) (by simp [Text.Stops])]
    have hstem : n.take (n.length - tail.length - 1) = stem.reverse := by
      have hlength : n.length - tail.length - 1 = stem.reverse.length := by
        simp only [hn, List.length_append, List.length_cons, List.length_reverse]
        omega
      rw [hlength, hn, List.take_left]
    rw [splitSuffix]
    simp only [htake, List.length_reverse, hstem]
    split
    next h =>
        refine .inr ⟨stem.reverse, tail.reverse, hn, ?_, rfl⟩
        simp only [Bool.and_eq_true, Bool.not_eq_true', List.isEmpty_eq_false_iff] at h
        exact h.1.2
    next => exact .inl rfl
  · left
    have hcontains : n.contains (char '.') = false := by simpa using hdot
    rw [splitSuffix]
    simp only [hcontains, Bool.false_and, Bool.false_eq_true, if_false]

theorem splitSuffix_append (n : Text) : (splitSuffix n).1 ++ (splitSuffix n).2 = n := by
  rcases splitSuffix_cases n with h | ⟨stem, tail, hn, -, h⟩
  · rw [h, List.append_nil]
  · rw [h, hn]

theorem not_mem_stem {n : Text} {c : CodePoint} (h : c ∉ n) : c ∉ (splitSuffix n).1 := by
  intro hmem
  apply h
  rw [← splitSuffix_append n]
  exact List.mem_append_left _ hmem

theorem splitSuffix_ne_nil {n : Text} (hne : n ≠ []) : (splitSuffix n).1 ≠ [] := by
  rcases splitSuffix_cases n with h | ⟨stem, tail, -, hstem, h⟩
  · rwa [h]
  · rwa [h]

end Path

end SlotCompiler
