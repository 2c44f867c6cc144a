import SlotCompiler.Proofs.Build.Targets
import SlotCompiler.Proofs.Compile
import SlotCompiler.Proofs.Text.Utf8
import SlotCompiler.Proofs.Token.Failure

namespace SlotCompiler

open CodePoint (char)

theorem Text.lineFeeds_append {t : Text} (h : char '\r' ∉ t) (rest : Text) :
    lineFeeds (t ++ rest) = t ++ lineFeeds rest := by
  induction t with
  | nil => rfl
  | cons c t ih =>
      rw [List.mem_cons, not_or] at h
      have hc : c ≠ char '\r' := Ne.symm h.1
      rw [List.cons_append, lineFeeds.eq_3 _ _ (by simp [hc]), ih h.2, beq_false_of_ne hc]
      rfl

namespace Assembly

-- How every listing starts, up to a character that no program has outside of quotes and comments.
def opening : Text := "global _start\n_start:"

theorem listing_preamble (code : List Instruction) :
    ∃ rest, listing (preamble ++ code) = opening ++ rest := by
  cases code with
  | nil => exact ⟨"\n", rfl⟩
  | cons i code =>
      refine ⟨"\n" ++ listing (i :: code), ?_⟩
      rw [listing, listing]
      rfl

end Assembly

theorem exists_opening {code asm : Text} (h : (runCompile code).1 = .ok asm) :
    ∃ rest, asm = Assembly.opening ++ rest := by
  obtain ⟨tokens, p, htokens, hp, hasm⟩ := runCompile_eq_ok_iff.mp h
  obtain ⟨g, hsteps, rfl⟩ := Assembly.generate_eq_ok_iff.mp hasm
  obtain ⟨-, -, added, -, -, -, hlines, -⟩ :=
    Assembly.Generator.tracks_start.run (Program.fits_of_tokenize htokens hp) hsteps
  rw [hlines]
  exact Assembly.listing_preamble added

theorem Token.passed_word {before rest : Text} {c : CodePoint} (first : CodePoint) (more : Text)
    (h : Token.Passed before (first :: more ++ c :: rest))
    (hword : Text.isNameStart first = true ∧ ∀ d ∈ more, Text.isWord d = true)
    (hc : Text.isWord c = false) : Token.Passed (before ++ first :: more) (c :: rest) :=
  .piece (.word first more hword.1 hword.2) h (by simpa [Token.Piece.Ends, Text.Stops] using hc)

theorem tokenize_opening (rest : Text) :
    ∃ fault, Token.tokenize (Assembly.opening ++ rest) = .error fault := by
  have hglobal : Token.Passed "global" (Text.ofString " _start\n_start:" ++ rest) :=
    Token.passed_word (char 'g') "lobal" .start (by decide) (by decide)
  have hspace : Token.Passed "global " (Text.ofString "_start\n_start:" ++ rest) :=
    hglobal.blank (by decide)
  have hsymbol : Token.Passed "global _start" (Text.ofString "\n_start:" ++ rest) :=
    Token.passed_word (char '_') "start" hspace (by decide) (by decide)
  have hfeed : Token.Passed "global _start\n" (Text.ofString "_start:" ++ rest) :=
    hsymbol.blank (by decide)
  have hlabel : Token.Passed "global _start\n_start" (Text.ofString ":" ++ rest) :=
    Token.passed_word (char '_') "start" hfeed (by decide) (by decide)
  have hcolon : Token.Lexeme.Takes .stray (char ':') [] rest :=
    .stray (by decide) (by decide) (by decide) (by decide) (by decide) (by decide) (by decide)
  have hopening : Assembly.opening = Text.ofString "global _start\n_start" ++ [char ':'] := by
    decide
  rw [hopening, List.append_assoc]
  exact ⟨_, hlabel.tokenize_eq_error hcolon rfl⟩

theorem encode_listing_ne {bytes : List UInt8} {code asm : Text}
    (hdecode : Text.Utf8.decode bytes = .ok code)
    (hcompile : (runCompile code.lineFeeds).1 = .ok asm) : Text.Utf8.encode asm ≠ bytes := by
  rintro rfl
  obtain ⟨rest, rfl⟩ := exists_opening hcompile
  have hencode : Text.Utf8.encode (Assembly.opening ++ rest) =
      Text.Utf8.encode Assembly.opening ++ Text.Utf8.encode rest := List.flatMap_append
  rw [hencode] at hdecode
  obtain ⟨later, rfl⟩ := Text.Utf8.exists_of_decode_encode_append hdecode
  obtain ⟨fault, hfault⟩ := tokenize_opening (Text.lineFeeds later)
  obtain ⟨tokens, program, htokens, -⟩ := runCompile_eq_ok_iff.mp hcompile
  rw [Text.lineFeeds_append (by decide)] at htokens
  exact absurd (htokens.symm.trans hfault) (by simp)

namespace Build

def Overwrites (files : FileTree) (path : Path) (o : Options) : Prop :=
  ∃ assembly t written, Writes files path o assembly t written ∧
    files.open? t.assembly = files.open? path

variable {files : FileTree} {path : Path} {o : Options} {l : Location} {bytes : List UInt8}

-- The file is not merely written again: it has other content afterwards.
theorem find?_build_of_overwrites (tools : Toolchain) (hopen : files.open? path = .ok l)
    (hfile : files.find? l = some (.file bytes)) (h : Overwrites files path o) :
    (build files tools path o).2.files.find? l ≠ some (.file bytes) := by
  obtain ⟨assembly, t, written, hwrites, hsame⟩ := h
  rw [(build_of_writes tools hwrites).1,
    FileTree.find?_write hwrites.2.write (hsame.trans hopen)]
  obtain ⟨source, code, hread, hdecode, hcompile⟩ := hwrites.1
  have hsource : source = bytes :=
    Except.ok.inj (hread.symm.trans (FileTree.read_eq_ok_iff.mpr ⟨l, hopen, hfile⟩))
  rw [← hsource]
  intro heq
  exact encode_listing_ne hdecode hcompile (Entry.file.inj (Option.some.inj heq))

theorem find?_build_of_not_overwrites (tools : Toolchain) (hopen : files.open? path = .ok l)
    (h : ¬Overwrites files path o) :
    (build files tools path o).2.files.find? l = files.find? l := by
  by_cases hwrites : ∃ assembly t written, Writes files path o assembly t written
  · obtain ⟨assembly, t, written, hwrites⟩ := hwrites
    rw [(build_of_writes tools hwrites).1]
    by_contra hne
    have hsame := FileTree.open?_of_find?_write_ne hwrites.2.write hne
    exact h ⟨assembly, t, written, hwrites, hsame.trans hopen.symm⟩
  · rw [(build_of_not_writes tools hwrites).1]

-- Neighbours in a directory are different files, whatever leads to the directory.
theorem not_overwrites_of_none (houtput : o.output = none) (hopen : files.open? path = .ok l) :
    ¬Overwrites files path o := by
  rintro ⟨assembly, t, written, ⟨-, hplaces⟩, hsame⟩
  obtain ⟨base, hbase, -, hassembly, -⟩ := targets_cases hplaces.named
  have hgiven : path.names ≠ [] ∧ base = path.sibling (Path.splitSuffix path.name).1 := by
    simpa [IsBase, houtput] using hbase
  obtain ⟨hnames, rfl⟩ := hgiven
  rw [Path.sibling_sibling, Path.name_sibling] at hassembly
  have hname := Path.sibling_name hnames
  have hplace := FileTree.locate_of_open? hopen
  have hwritten := FileTree.locate_of_open? (hsame.trans hopen)
  rw [← hname] at hplace
  rw [hassembly] at hwritten
  obtain ⟨directory, henter, hl⟩ := FileTree.locate_sibling_cases hplace
  obtain ⟨directory', henter', hl'⟩ := FileTree.locate_sibling_cases hwritten
  obtain rfl : directory = directory' := Except.ok.inj (henter.symm.trans henter')
  have hdown : (Path.splitSuffix path.name).1 ++ ".asm" ≠ ".." :=
    append_ne_append (n := []) (by decide) (by decide) (by decide)
  rw [if_neg hdown, hl] at hl'
  split at hl'
  · have hlength := congrArg List.length hl'
    simp only [List.length_dropLast, List.length_append, List.length_singleton] at hlength
    omega
  · have hsuffix : path.name = (Path.splitSuffix path.name).1 ++ ".asm" := by simpa using hl'
    exact hplaces.assembly_ne (by rw [hassembly, ← hsuffix, hname])

-- Paths from one place that never lead up are different files unless they are written alike.
theorem not_overwrites_of_some {output : Path} (houtput : o.output = some output)
    (hanchor : output.anchor = path.anchor)
    (hup : Text.ofString ".." ∉ output.names ∧ Text.ofString ".." ∉ path.names)
    (hopen : files.open? path = .ok l) : ¬Overwrites files path o := by
  rintro ⟨assembly, t, written, ⟨-, hplaces⟩, hsame⟩
  obtain ⟨base, hbase, -, hassembly, -⟩ := targets_cases hplaces.named
  obtain rfl : output = base := by simpa [IsBase, houtput] using hbase
  have hdown : Text.ofString ".." ∉ t.assembly.names := by
    rw [hassembly, Path.sibling, List.mem_append, List.mem_singleton, not_or]
    refine ⟨fun hmem => hup.1 (List.dropLast_subset _ hmem), Ne.symm ?_⟩
    exact append_ne_append (n := []) (by decide) (by decide) (by decide)
  have hl := FileTree.locate_of_not_mem hup.2 (FileTree.locate_of_open? hopen)
  have hl' := FileTree.locate_of_not_mem hdown (FileTree.locate_of_open? (hsame.trans hopen))
  have hanchor' : t.assembly.anchor = path.anchor := by rw [hassembly, ← hanchor]; rfl
  have horigin : files.origin t.assembly = files.origin path := by
    rw [FileTree.origin, hanchor', FileTree.origin]
  rw [hl, horigin] at hl'
  exact hplaces.assembly_ne (Path.mk.injEq .. |>.mpr ⟨hanchor'.symm, List.append_cancel_left hl'⟩)

-- A build changes the file that the source's path leads to exactly when the path of the assembly
-- leads there too. The check rules that out when no output is named, and for an output that starts
-- from the same place when neither path leads up.
theorem build_keeps_source_iff (tools : Toolchain) (hopen : files.open? path = .ok l)
    (hfile : files.find? l = some (.file bytes)) :
    ((build files tools path o).2.files.find? l = some (.file bytes) ↔
      ¬Overwrites files path o) ∧
    ((∀ output ∈ o.output, output.anchor = path.anchor ∧
        Text.ofString ".." ∉ output.names ∧ Text.ofString ".." ∉ path.names) →
      (build files tools path o).2.files.find? l = some (.file bytes)) := by
  have hkeeps : ¬Overwrites files path o →
      (build files tools path o).2.files.find? l = some (.file bytes) := by
    intro h
    rw [find?_build_of_not_overwrites tools hopen h, hfile]
  refine ⟨⟨fun hkept h => find?_build_of_overwrites tools hopen hfile h hkept, hkeeps⟩, ?_⟩
  intro hplain
  apply hkeeps
  cases houtput : o.output with
  | none => exact not_overwrites_of_none houtput hopen
  | some output =>
      obtain ⟨hanchor, hup⟩ := hplain output houtput
      exact not_overwrites_of_some houtput hanchor hup hopen

-- The output leads up into another directory, where a file of the source's name is written.
theorem build_keeps_source_iff_neighbour :
    let path := Path.ofText "sub/prog.asm"
    let files := (FileTree.empty ["w"]).putFile path (Text.Utf8.encode "exit(0);")
    let o : Options := { output := some (.ofText "sub/../prog") }
    files.open? path = .ok ["w", "sub", "prog.asm"] ∧
      (build files ([] : Tools) path o).2.files.find? ["w", "sub", "prog.asm"] =
        some (.file (Text.Utf8.encode "exit(0);")) ∧
      (build files ([] : Tools) path o).2.files.find? ["w", "prog.asm"] ≠ none := by
  intro path files o
  have hopen : files.open? path = .ok ["w", "sub", "prog.asm"] := by decide +kernel
  have hfile : files.find? ["w", "sub", "prog.asm"] =
      some (.file (Text.Utf8.encode "exit(0);")) := by decide +kernel
  have hwritten : (build files ([] : Tools) path o).2.files.find? ["w", "prog.asm"] ≠ none := by
    decide +kernel
  have hkeeps := build_keeps_source_iff (o := o) ([] : Tools) hopen hfile
  refine ⟨hopen, hkeeps.1.mpr ?_, hwritten⟩
  have htargets : targets path o.output = .ok
      ⟨.ofText "sub/../prog.asm", .ofText "sub/../prog.o", .ofText "sub/../prog"⟩ := by
    decide +kernel
  have hapart : files.open? (.ofText "sub/../prog.asm") ≠ files.open? path := by decide +kernel
  rintro ⟨assembly, t, written, ⟨-, hplaces⟩, hsame⟩
  obtain rfl := Except.ok.inj (hplaces.named.symm.trans htargets)
  exact hapart hsame

-- An output that leads into a directory and back: the build succeeds, and the source is gone.
theorem build_overwrites_source :
    let path := Path.ofText "prog.asm"
    let files := ((FileTree.empty ["w"]).putDirectory (.ofText "sub")).putFile path
      (Text.Utf8.encode "exit(0);")
    let run := build files ([] : Tools) path { output := some (.ofText "sub/../prog") }
    files.read path = .ok (Text.Utf8.encode "exit(0);") ∧ run.1 = .ok 0 ∧
      run.2.files.read path = .ok (Text.Utf8.encode
        "global _start\n_start:\npush 0\nmov rax, 60\npop rdi\nsyscall\n") := by
  decide +kernel

end Build

end SlotCompiler
