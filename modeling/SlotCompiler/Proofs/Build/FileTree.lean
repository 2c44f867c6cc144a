import SlotCompiler.Build.FileTree
import SlotCompiler.Proofs.Build.Path

namespace SlotCompiler.FileTree

theorem lookup_filter_of_ne {l m : Location} (h : m ≠ l) (entries : List (Location × Entry)) :
    (entries.filter (·.1 != l)).lookup m = entries.lookup m := by
  induction entries with
  | nil => rfl
  | cons entry rest ih =>
      obtain ⟨k, e⟩ := entry
      by_cases hk : k = l
      · subst hk
        rw [List.filter_cons_of_neg (by simp), ih, List.lookup_cons, beq_false_of_ne h]
      · rw [List.filter_cons_of_pos (by simpa using hk), List.lookup_cons, List.lookup_cons, ih]

theorem find?_insert_of_ne (t : FileTree) {l m : Location} (e : Entry) (h : m ≠ l) :
    (t.insert l e).find? m = t.find? m := by
  have hlookup : List.lookup m (t.insert l e).entries = t.entries.lookup m := by
    rw [insert, List.lookup_cons, beq_false_of_ne h]
    exact lookup_filter_of_ne h t.entries
  rw [find?, find?, hlookup]

theorem find?_insert_self (t : FileTree) {l : Location} (e : Entry) (h : l ≠ []) :
    (t.insert l e).find? l = some e := by
  rw [find?, if_neg (by simpa using h), insert, List.lookup_cons, beq_self_eq_true]

-- Only directories are entered, so the ways through the tree do not change where none was.
theorem enter_insert {t : FileTree} {l : Location} {bytes : List UInt8}
    (hl : t.find? l ≠ some .directory) {start goal : Location} {names : List Text}
    (h : t.enter start names = .ok goal) :
    (t.insert l (.file bytes)).enter start names = .ok goal := by
  induction names generalizing start with
  | nil => exact h
  | cons name rest ih =>
      rw [enter] at h ⊢
      by_cases hup : name = ".."
      · rw [if_pos hup] at h ⊢
        exact ih h
      · rw [if_neg hup] at h ⊢
        cases hbelow : below start name with
        | error reason =>
            rw [hbelow] at h
            cases h
        | ok next =>
            rw [hbelow] at h
            simp only [bind, Except.bind] at h ⊢
            cases hfind : t.find? next with
            | none => simp [hfind] at h
            | some entry =>
                cases entry with
                | file _ => simp [hfind] at h
                | directory =>
                    have hne : next ≠ l := by
                      rintro rfl
                      exact hl hfind
                    rw [hfind] at h
                    rw [find?_insert_of_ne t _ hne, hfind]
                    exact ih h

def origin (t : FileTree) (p : Path) : Location := if p.anchor == .relative then t.here else []

theorem locate_of_eq_nil (t : FileTree) {p : Path} (h : p.names = []) :
    t.locate p = .ok (t.origin p) := by
  simp only [locate, h, List.getLast?_nil]
  rfl

-- A path with a name leads into a directory first, and from there to its name or up.
theorem locate_sibling (t : FileTree) (p : Path) (n : Text) :
    t.locate (p.sibling n) =
      (t.enter (t.origin p) p.names.dropLast).bind fun directory =>
        if n = ".." then .ok directory.dropLast else below directory n := by
  have hlast : (p.sibling n).names.getLast? = some n := by simp [Path.sibling]
  have hdirectory : (p.sibling n).names.dropLast = p.names.dropLast := by simp [Path.sibling]
  simp only [locate, hlast, hdirectory]
  rfl

theorem below_eq_ok {l m : Location} {n : Text} (h : below l n = .ok m) : m = l ++ [n] := by
  rw [below] at h
  split at h
  · cases h
  · exact (Except.ok.inj h).symm

theorem locate_sibling_cases {t : FileTree} {p : Path} {n : Text} {l : Location}
    (h : t.locate (p.sibling n) = .ok l) :
    ∃ directory, t.enter (t.origin p) p.names.dropLast = .ok directory ∧
      l = if n = ".." then directory.dropLast else directory ++ [n] := by
  rw [locate_sibling] at h
  cases henter : t.enter (t.origin p) p.names.dropLast with
  | error reason =>
      rw [henter] at h
      cases h
  | ok directory =>
      rw [henter, Except.bind] at h
      refine ⟨directory, rfl, ?_⟩
      split at h
      next hup =>
          rw [if_pos hup]
          exact (Except.ok.inj h).symm
      next hdown =>
          rw [if_neg hdown]
          exact below_eq_ok h

theorem enter_of_not_mem {t : FileTree} {l m : Location} {names : List Text}
    (hup : Text.ofString ".." ∉ names) (h : t.enter l names = .ok m) : m = l ++ names := by
  induction names generalizing l with
  | nil => rw [← Except.ok.inj h, List.append_nil]
  | cons name rest ih =>
      rw [List.mem_cons, not_or] at hup
      rw [enter, if_neg (Ne.symm hup.1)] at h
      cases hbelow : below l name with
      | error reason =>
          rw [hbelow] at h
          cases h
      | ok next =>
          simp only [hbelow, bind, Except.bind] at h
          split at h
          · rw [ih hup.2 h, below_eq_ok hbelow, List.append_assoc, List.singleton_append]
          · cases h
          · cases h

-- A path that never leads up spells out the place it names.
theorem locate_of_not_mem {t : FileTree} {p : Path} {l : Location}
    (hup : Text.ofString ".." ∉ p.names) (h : t.locate p = .ok l) :
    l = t.origin p ++ p.names := by
  by_cases hnames : p.names = []
  · rw [locate_of_eq_nil t hnames] at h
    rw [← Except.ok.inj h, hnames, List.append_nil]
  · have hname := Path.sibling_name hnames
    rw [← hname] at h
    obtain ⟨directory, henter, rfl⟩ := locate_sibling_cases h
    have hdirectory := enter_of_not_mem (fun hmem => hup (List.dropLast_subset _ hmem)) henter
    have hlast : p.name ≠ ".." := fun heq => hup (heq ▸ Path.name_mem hnames)
    have hsegments : p.names.dropLast ++ [p.name] = p.names := congrArg Path.names hname
    rw [if_neg hlast, hdirectory, List.append_assoc, hsegments]

theorem locate_insert {t : FileTree} {l m : Location} {bytes : List UInt8} {p : Path}
    (hl : t.find? l ≠ some .directory) (h : t.locate p = .ok m) :
    (t.insert l (.file bytes)).locate p = .ok m := by
  by_cases hnames : p.names = []
  · rw [locate_of_eq_nil _ hnames] at h ⊢
    exact h
  · rw [← Path.sibling_name hnames, locate_sibling] at h ⊢
    cases henter : t.enter (t.origin p) p.names.dropLast with
    | error reason =>
        rw [henter] at h
        cases h
    | ok directory =>
        have horigin : (t.insert l (.file bytes)).origin p = t.origin p := rfl
        rw [henter] at h
        rw [horigin, enter_insert hl henter]
        exact h

theorem locate_of_open? {t : FileTree} {p : Path} {l : Location} (h : t.open? p = .ok l) :
    t.locate p = .ok l := by
  rw [open?] at h
  split at h
  · cases h
  · split at h
    · cases h
    · cases hlocate : t.locate p with
      | error reason =>
          rw [hlocate] at h
          cases h
      | ok m =>
          rw [hlocate] at h
          exact congrArg _ (Except.ok.inj h)

theorem open?_insert {t : FileTree} {l m : Location} {bytes : List UInt8} {p : Path}
    (hl : t.find? l ≠ some .directory) (h : t.open? p = .ok m) :
    (t.insert l (.file bytes)).open? p = .ok m := by
  have hlocate := locate_of_open? h
  rw [open?, hlocate] at h
  rw [open?, locate_insert hl hlocate]
  exact h

theorem read_eq_ok_iff {t : FileTree} {p : Path} {bytes : List UInt8} :
    t.read p = .ok bytes ↔ ∃ l, t.open? p = .ok l ∧ t.find? l = some (.file bytes) := by
  rw [read]
  cases hopen : t.open? p with
  | error fault => simp [bind, Except.bind]
  | ok l =>
      simp only [bind, Except.bind, Except.ok.injEq, exists_eq_left']
      cases hfind : t.find? l with
      | none => simp [throw, throwThe, MonadExceptOf.throw]
      | some entry => cases entry <;> simp [throw, throwThe, MonadExceptOf.throw, pure, Except.pure]

theorem write_eq_ok_iff {t written : FileTree} {p : Path} {bytes : List UInt8} :
    t.write p bytes = .ok written ↔ ∃ l, t.open? p = .ok l ∧ t.find? l ≠ some .directory ∧
      written = t.insert l (.file bytes) := by
  rw [write]
  cases hopen : t.open? p with
  | error fault => simp [bind, Except.bind]
  | ok l =>
      simp only [bind, Except.bind, Except.ok.injEq, exists_eq_left']
      cases hfind : t.find? l with
      | none => simp [pure, Except.pure, eq_comm]
      | some entry =>
          cases entry <;> simp [throw, throwThe, MonadExceptOf.throw, pure, Except.pure, eq_comm]

theorem find?_write {t written : FileTree} {p : Path} {bytes : List UInt8} {l : Location}
    (h : t.write p bytes = .ok written) (hopen : t.open? p = .ok l) :
    written.find? l = some (.file bytes) := by
  obtain ⟨m, hm, hdirectory, rfl⟩ := write_eq_ok_iff.mp h
  obtain rfl : m = l := Except.ok.inj (hm.symm.trans hopen)
  have hroot : m ≠ [] := by
    rintro rfl
    exact hdirectory rfl
  exact find?_insert_self t _ hroot

theorem read_write {t written : FileTree} {p : Path} {bytes : List UInt8}
    (h : t.write p bytes = .ok written) : written.read p = .ok bytes := by
  obtain ⟨l, hopen, hdirectory, hwritten⟩ := write_eq_ok_iff.mp h
  refine read_eq_ok_iff.mpr ⟨l, ?_, find?_write h hopen⟩
  rw [hwritten]
  exact open?_insert hdirectory hopen

theorem open?_of_find?_write_ne {t written : FileTree} {p : Path} {bytes : List UInt8}
    (h : t.write p bytes = .ok written) {l : Location} (hne : written.find? l ≠ t.find? l) :
    t.open? p = .ok l := by
  obtain ⟨m, hopen, -, rfl⟩ := write_eq_ok_iff.mp h
  by_cases hl : l = m
  · rw [hl, hopen]
  · exact absurd (find?_insert_of_ne t _ hl) hne

end SlotCompiler.FileTree
