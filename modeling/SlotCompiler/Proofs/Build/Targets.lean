import SlotCompiler.Proofs.Build.Effects

namespace SlotCompiler.Build

open CodePoint (char)

-- The base is a neighbour of a path in normal form: of itself, or of the source.
theorem IsBase.exists_sibling {input : Text} {output : Option Text} {base : Path}
    (h : IsBase (.ofText input) (output.map .ofText) base) (hnames : base.names ≠ []) :
    ∃ (p : Path) (n : Text), p.Normal ∧ n ≠ [] ∧ char '/' ∉ n ∧ base = p.sibling n := by
  rcases h with houtput | ⟨-, hpath, rfl⟩
  · obtain ⟨out, -, rfl⟩ := Option.map_eq_some_iff.mp houtput
    have hout := Path.normal_ofText out
    obtain ⟨hne, hslash⟩ := hout.1 _ (Path.name_mem hnames)
    exact ⟨_, _, hout, hne, hslash, (Path.sibling_name hnames).symm⟩
  · have hinput := Path.normal_ofText input
    obtain ⟨hne, hslash⟩ := hinput.1 _ (Path.name_mem hpath)
    exact ⟨_, _, hinput, Path.splitSuffix_ne_nil hne, Path.not_mem_stem hslash, rfl⟩

theorem IsBase.normalize_ne {input : Text} {output : Option Text} {base : Path}
    (h : IsBase (.ofText input) (output.map .ofText) base) (hne : base ≠ .ofText input) :
    base.normalize ≠ .ofText input := by
  rcases h with houtput | ⟨-, hpath, rfl⟩
  · obtain ⟨out, -, rfl⟩ := Option.map_eq_some_iff.mp houtput
    rwa [(Path.normal_ofText out).normalize_eq]
  · have hinput := Path.normal_ofText input
    obtain ⟨hname, hslash⟩ := hinput.1 _ (Path.name_mem hpath)
    have hapart := hinput.normalize_sibling_ne (m := (Path.ofText input).name)
      (Path.splitSuffix_ne_nil hname) (Path.not_mem_stem hslash)
      (mt (Path.sibling_eq_self_iff hpath).mpr hne)
    rwa [Path.sibling_name hpath] at hapart

theorem nodup_four_iff {a b c d : Path} (hab : a ≠ b) (hac : a ≠ c) (hbc : b ≠ c) (hdb : d ≠ b)
    (hdc : d ≠ c) : [a, b, c, d].Nodup ↔ d ≠ a := by
  simp [hab, hac, hbc, hdb.symm, hdc.symm, eq_comm]

theorem append_ne_append {m n s t : Text} (h : s.getLast? ≠ t.getLast?) (hs : s ≠ [])
    (ht : t ≠ []) : m ++ s ≠ n ++ t := by
  intro hmn
  have hlast := congrArg List.getLast? hmn
  rw [List.getLast?_append_of_ne_nil _ hs, List.getLast?_append_of_ne_nil _ ht] at hlast
  exact h hlast

-- The source is given as the output too, and has the suffix that is to keep the executable apart
-- from it.
def SharesName (path : Path) (output : Option Path) : Prop :=
  output = some path ∧ (Path.splitSuffix path.name).2 = ".out"

instance (path : Path) (output : Option Path) : Decidable (SharesName path output) :=
  inferInstanceAs (Decidable (_ ∧ _))

theorem sibling_out_eq_iff {path : Path} {output : Option Path} (hbase : IsBase path output path)
    (hnames : path.names ≠ []) :
    path.sibling ((Path.splitSuffix path.name).1 ++ ".out") = path ↔ SharesName path output := by
  have hsplit := Path.splitSuffix_append path.name
  have hsuffix : (Path.splitSuffix path.name).1 ++ ".out" = path.name ↔
      (Path.splitSuffix path.name).2 = ".out" := by
    constructor
    · intro h
      exact (List.append_cancel_left (h.trans hsplit.symm)).symm
    · intro h
      rw [← h, hsplit]
  rw [Path.sibling_eq_self_iff hnames, hsuffix, SharesName]
  rcases hbase with houtput | ⟨houtput, -, hstem⟩
  · simp [houtput]
  · have hnone : (Path.splitSuffix path.name).2 = [] := by
      rw [eq_comm, Path.sibling_eq_self_iff hnames] at hstem
      rw [hstem] at hsplit
      exact List.append_right_eq_self.mp hsplit
    rw [houtput, hnone]
    exact iff_of_false (by decide) fun h => absurd h.2 (by decide)

theorem executable_apart {input : Text} {output : Option Text} {t : Targets}
    (h : targets (.ofText input) (output.map .ofText) = .ok t) :
    t.executable.normalize ≠ t.assembly ∧ t.executable.normalize ≠ t.object ∧
      (t.executable.normalize = .ofText input ↔
        SharesName (.ofText input) (output.map .ofText)) := by
  obtain ⟨base, hbase, hnames, hassembly, hobject, hexecutable⟩ := targets_cases h
  obtain ⟨p, n, hp, hne, hslash, rfl⟩ := hbase.exists_sibling hnames
  simp only [Path.sibling_sibling, Path.name_sibling] at hassembly hobject
  by_cases hsource : p.sibling n = .ofText input
  · rw [if_pos hsource] at hexecutable
    rw [hsource] at hbase hnames
    have hshares := sibling_out_eq_iff hbase hnames
    rw [← hexecutable] at hshares
    rw [← hsource, Path.sibling_sibling, Path.name_sibling] at hexecutable
    have hnormal : t.executable.Normal := by
      rw [hexecutable]
      exact hp.sibling_append (Path.not_mem_stem hslash) (by decide) (by decide)
    rw [hnormal.normalize_eq]
    refine ⟨?_, ?_, hshares⟩
    · rw [hexecutable, hassembly, Ne, Path.sibling_inj]
      exact append_ne_append (by decide) (by decide) (by decide)
    · rw [hexecutable, hobject, Ne, Path.sibling_inj]
      exact append_ne_append (by decide) (by decide) (by decide)
  · rw [if_neg hsource] at hexecutable
    rw [hexecutable]
    refine ⟨?_, ?_, ?_⟩
    · rw [hassembly]
      exact hp.normalize_sibling_ne hne hslash (by simp [Text.ofString])
    · rw [hobject]
      exact hp.normalize_sibling_ne hne hslash (by simp [Text.ofString])
    · refine iff_of_false (hbase.normalize_ne hsource) ?_
      rintro ⟨houtput, -⟩
      rcases hbase with hgiven | ⟨hnone, -⟩
      · exact hsource (Option.some.inj (hgiven.symm.trans houtput))
      · simp [hnone] at houtput

theorem assembly_apart {input : Text} {output : Option Text} {t : Targets}
    (h : targets (.ofText input) (output.map .ofText) = .ok t) :
    t.assembly.Normal ∧ t.object.Normal ∧ t.assembly ≠ t.object := by
  obtain ⟨base, hbase, hnames, hassembly, hobject, -⟩ := targets_cases h
  obtain ⟨p, n, hp, hne, hslash, rfl⟩ := hbase.exists_sibling hnames
  simp only [Path.sibling_sibling, Path.name_sibling] at hassembly hobject
  rw [hassembly, hobject, Ne, Path.sibling_inj]
  exact ⟨hp.sibling_append hslash (by decide) (by decide),
    hp.sibling_append hslash (by decide) (by decide),
    append_ne_append (by decide) (by decide) (by decide)⟩

theorem mem_commands {files : FileTree} {tools : Toolchain} {path : Path} {o : Options}
    {t : Targets} {c : Command} (h : targets path o.output = .ok t)
    (hc : c ∈ (build files tools path o).2.commands) : c = assemble o t ∨ c = link o t := by
  by_cases hwrites : ∃ assembly t written, Writes files path o assembly t written
  · obtain ⟨assembly, t', written, hwrites⟩ := hwrites
    obtain rfl : t' = t := Except.ok.inj (hwrites.2.named.symm.trans h)
    rw [(build_of_writes tools hwrites).2.1] at hc
    split at hc
    · cases hc
    · simpa using mem_of_mem_started hc
  · rw [(build_of_not_writes tools hwrites).2.1] at hc
    cases hc

-- Past the check, the source and the files that are made are four different ones, also in normal
-- form, unless the source shares its name with the executable; no command is about other files.
theorem targets_apart_iff {input : Text} {output : Option Text} {t : Targets}
    (h : targets (.ofText input) (output.map .ofText) = .ok t)
    (hassembly : Path.ofText input ≠ t.assembly) (hobject : Path.ofText input ≠ t.object) :
    (([.ofText input, t.assembly, t.object, t.executable].map Path.normalize).Nodup ↔
      ¬SharesName (.ofText input) (output.map .ofText)) ∧
    ∀ files tools o, o.output = output.map .ofText →
      ∀ c ∈ (build files tools (.ofText input) o).2.commands,
        c = ⟨o.assembler, ["-felf64", t.assembly.text, "-o", t.object.text]⟩ ∨
          c = ⟨o.linker, [t.object.text, "-o", t.executable.text]⟩ := by
  obtain ⟨hasm, hobj, hapart⟩ := assembly_apart h
  obtain ⟨hexe_asm, hexe_obj, hexe⟩ := executable_apart h
  constructor
  · rw [← hexe]
    simp only [List.map_cons, List.map_nil, (Path.normal_ofText input).normalize_eq,
      hasm.normalize_eq, hobj.normalize_eq]
    exact nodup_four_iff hassembly hobject hapart hexe_asm hexe_obj
  · intro files tools o houtput c hc
    rw [← houtput] at h
    exact mem_commands h hc

-- The stem of a name may be a single dot, so that the executable is the directory of the source.
theorem targets_apart_iff_single_dot :
    let path := Path.ofText "a/..x"
    ∃ t, targets path none = .ok t ∧ path ≠ t.assembly ∧ path ≠ t.object ∧
      t.executable = ⟨.relative, ["a", "."]⟩ ∧
      ([path, t.assembly, t.object, t.executable].map Path.normalize).Nodup := by
  intro path
  have htargets : targets path ((none : Option Text).map .ofText) =
      .ok ⟨.ofText "a/..asm", .ofText "a/..o", ⟨.relative, ["a", "."]⟩⟩ := by decide +kernel
  have hassembly : path ≠ .ofText "a/..asm" := by decide +kernel
  have hobject : path ≠ .ofText "a/..o" := by decide +kernel
  have hapart := (targets_apart_iff htargets hassembly hobject).1.mpr (by decide +kernel)
  exact ⟨_, htargets, hassembly, hobject, rfl, hapart⟩

-- A source with the suffix of executables, given as the output too: the check lets it pass, and the
-- linker is told to write over it.
theorem linker_targets_source :
    let path := Path.ofText "prog.out"
    let files := (FileTree.empty ["w"]).putFile path (Text.Utf8.encode "exit(0);")
    ∃ t, targets path (some path) = .ok t ∧ path ≠ t.assembly ∧ path ≠ t.object ∧
      ¬([path, t.assembly, t.object, t.executable].map Path.normalize).Nodup ∧
      ⟨some "ld", ["prog.out.o", "-o", path.text]⟩ ∈
        (build files ([] : Tools) path { output := some path }).2.commands := by
  refine ⟨⟨.ofText "prog.out.asm", .ofText "prog.out.o", .ofText "prog.out"⟩, ?_⟩
  decide +kernel

end SlotCompiler.Build
