import SlotCompiler.Proofs.Build.Effects

namespace SlotCompiler

namespace FileTree

-- The trees differ in nothing but the content of one file.
structure SameBut (l : Location) (t t' : FileTree) : Prop where
  here : t'.here = t.here
  elsewhere : ∀ m, m ≠ l → t'.find? m = t.find? m
  isFile : ∃ bytes, t.find? l = some (.file bytes)
  isFile' : ∃ bytes, t'.find? l = some (.file bytes)

def Holds (t : FileTree) (l : Location) (text : Text) : Prop :=
  ∃ bytes, t.find? l = some (.file bytes) ∧ Text.Utf8.decode bytes = .ok text

def put (t : FileTree) : Option (Location × List UInt8) → FileTree
  | none => t
  | some (l, bytes) => t.insert l (.file bytes)

namespace SameBut

variable {l : Location} {t t' : FileTree}

-- No way leads through a file.
theorem enter_eq (h : SameBut l t t') (start : Location) (names : List Text) :
    t'.enter start names = t.enter start names := by
  obtain ⟨bytes, hfile⟩ := h.isFile
  obtain ⟨bytes', hfile'⟩ := h.isFile'
  induction names generalizing start with
  | nil => rfl
  | cons name rest ih =>
      rw [enter, enter, ih]
      split
      · rfl
      · cases below start name with
        | error reason => rfl
        | ok next =>
            simp only [bind, Except.bind]
            by_cases hnext : next = l
            · rw [hnext, hfile, hfile']
            · rw [h.elsewhere next hnext, ih]

theorem open?_eq (h : SameBut l t t') (p : Path) : t'.open? p = t.open? p := by
  have hlocate : t'.locate p = t.locate p := by simp only [locate, h.here, h.enter_eq]
  rw [open?, open?, hlocate]

theorem isDirectory_iff (h : SameBut l t t') (m : Location) :
    t'.find? m = some .directory ↔ t.find? m = some .directory := by
  obtain ⟨bytes, hfile⟩ := h.isFile
  obtain ⟨bytes', hfile'⟩ := h.isFile'
  by_cases hm : m = l
  · simp [hm, hfile, hfile']
  · rw [h.elsewhere m hm]

end SameBut

theorem sameBut_insert (t : FileTree) {l : Location} (hl : l ≠ []) (bytes bytes' : List UInt8) :
    SameBut l (t.insert l (.file bytes)) (t.insert l (.file bytes')) where
  here := rfl
  elsewhere m hm := by rw [find?_insert_of_ne t _ hm, find?_insert_of_ne t _ hm]
  isFile := ⟨bytes, find?_insert_self t _ hl⟩
  isFile' := ⟨bytes', find?_insert_self t _ hl⟩

theorem write_eq (t : FileTree) (p : Path) (bytes : List UInt8) :
    t.write p bytes =
      (t.open? p).bind fun l =>
        if t.find? l = some .directory then .error (.refused .isDirectory p)
        else .ok (t.put (some (l, bytes))) := by
  rw [write]
  cases t.open? p with
  | error fault => rfl
  | ok l =>
      simp only [bind, Except.bind]
      cases t.find? l with
      | none => rfl
      | some entry => cases entry <;> rfl

-- In all such trees, a write fails for the same reason or goes to the same place.
theorem exists_write_eq (l : Location) (t : FileTree) (p : Path) (bytes : List UInt8) :
    (∃ fault, ∀ t', SameBut l t t' → t'.write p bytes = .error fault) ∨
      ∃ m, ∀ t', SameBut l t t' → t'.write p bytes = .ok (t'.put (some (m, bytes))) := by
  cases hopen : t.open? p with
  | error fault =>
      refine .inl ⟨fault, fun t' hsame => ?_⟩
      rw [write_eq, hsame.open?_eq, hopen]
      rfl
  | ok m =>
      by_cases hm : t.find? m = some .directory
      · refine .inl ⟨.refused .isDirectory p, fun t' hsame => ?_⟩
        rw [write_eq, hsame.open?_eq, hopen, Except.bind,
          if_pos ((hsame.isDirectory_iff m).mpr hm)]
      · refine .inr ⟨m, fun t' hsame => ?_⟩
        rw [write_eq, hsame.open?_eq, hopen, Except.bind,
          if_neg (mt (hsame.isDirectory_iff m).mp hm)]

end FileTree

namespace Build

variable {α β : Type}

def Blind (x : Build α) : Prop :=
  ∀ events commands, ∃ result events' commands', ∀ files,
    Step.runFrom x ⟨files, events, commands⟩ = (result, ⟨files, events', commands'⟩)

theorem blind_pure (a : α) : Blind (pure a) :=
  fun events commands => ⟨.ok a, events, commands, fun _ => rfl⟩

theorem blind_throw (fault : Fault) : Blind (throw fault : Build α) :=
  fun events commands => ⟨.error fault, events, commands, fun _ => rfl⟩

theorem Blind.bind {x : Build α} {f : α → Build β} (hx : Blind x) (hf : ∀ a, Blind (f a)) :
    Blind (x >>= f) := by
  intro events commands
  obtain ⟨result, events₁, commands₁, hrun⟩ := hx events commands
  cases result with
  | error fault =>
      exact ⟨.error fault, events₁, commands₁, fun files => Step.runFrom_bind_error f (hrun files)⟩
  | ok a =>
      obtain ⟨result, events₂, commands₂, hrest⟩ := hf a events₁ commands₁
      refine ⟨result, events₂, commands₂, fun files => ?_⟩
      rw [Step.runFrom_bind_ok f (hrun files), hrest files]

theorem blind_print (text : Text) : Blind (print text) :=
  fun events commands => ⟨.ok (), events ++ [.printed text], commands, fun _ => rfl⟩

theorem blind_log (l : Log) : Blind (log l) :=
  fun events commands => ⟨.ok (), events ++ [.logged l], commands, fun _ => rfl⟩

theorem blind_logs (logs : List Log) : Blind (logs.forM log) := by
  induction logs with
  | nil => exact blind_pure ()
  | cons l rest ih => exact (blind_log l).bind fun _ => ih

theorem blind_runAll (tools : Toolchain) (commands : List Command) :
    Blind (runAll tools commands) := by
  induction commands with
  | nil => exact blind_pure none
  | cons c rest ih =>
      have hnote : Blind (modify fun s => { s with commands := s.commands ++ [c] }) :=
        fun events commands => ⟨.ok (), events, commands ++ [c], fun _ => rfl⟩
      refine (blind_log _).bind fun _ => hnote.bind fun _ => ?_
      cases c.tool with
      | none => exact blind_throw .noTool
      | some tool =>
          dsimp only
          rcases Tool.failure? tools tool c.arguments with fault | _ | message
          · exact blind_throw (.access fault)
          · exact ih
          · exact blind_pure (some message)

-- A step that comes to the same on all these trees: it tells the same, runs the same commands, and
-- makes the same write, if it makes one.
def Uniform (trees : FileTree → Prop) (x : Build α) : Prop :=
  ∀ events commands, ∃ result events' commands' written, ∀ t, trees t →
    Step.runFrom x ⟨t, events, commands⟩ = (result, ⟨t.put written, events', commands'⟩)

variable {trees : FileTree → Prop}

theorem Blind.uniform {x : Build α} (h : Blind x) : Uniform trees x := by
  intro events commands
  obtain ⟨result, events', commands', hrun⟩ := h events commands
  exact ⟨result, events', commands', none, fun t _ => hrun t⟩

theorem Blind.bind_uniform {x : Build α} {f : α → Build β} (hx : Blind x)
    (hf : ∀ a, Uniform trees (f a)) : Uniform trees (x >>= f) := by
  intro events commands
  obtain ⟨result, events₁, commands₁, hrun⟩ := hx events commands
  cases result with
  | error fault =>
      exact ⟨.error fault, events₁, commands₁, none, fun t _ => Step.runFrom_bind_error f (hrun t)⟩
  | ok a =>
      obtain ⟨result, events₂, commands₂, written, hrest⟩ := hf a events₁ commands₁
      refine ⟨result, events₂, commands₂, written, fun t ht => ?_⟩
      rw [Step.runFrom_bind_ok f (hrun t), hrest t ht]

theorem blind_runTools (tools : Toolchain) (o : Options) (t : Targets) :
    Blind (runTools tools o t) := by
  refine (blind_log _).bind fun _ => ?_
  split
  · exact blind_pure 0
  · refine (blind_runAll tools _).bind fun ended => ?_
    cases ended with
    | some message => exact (blind_log _).bind fun _ => blind_pure 1
    | none => exact (blind_log _).bind fun _ => blind_pure 0

theorem uniform_finish (l : Location) (files : FileTree) (tools : Toolchain) (path : Path)
    (o : Options) (assembly : Text) : Uniform (files.SameBut l) (finish tools path o assembly) := by
  cases htargets : targets path o.output with
  | error u =>
      rw [finish, htargets]
      exact (blind_throw (.unnamed u)).uniform
  | ok t =>
      by_cases hcheck : path = t.assembly ∨ path = t.object
      · rw [finish, htargets]
        dsimp only
        rw [if_pos hcheck]
        exact ((blind_print _).bind fun _ => blind_pure 1).uniform
      · intro events commands
        rcases FileTree.exists_write_eq l files t.assembly (Text.Utf8.encode assembly) with
          ⟨fault, hwrite⟩ | ⟨m, hwrite⟩
        · refine ⟨.error (.access fault), events, commands, none, fun t' hsame => ?_⟩
          simp only [finish, htargets, if_neg hcheck, Step.runFrom_bind, Step.runFrom_get,
            hwrite t' hsame]
          rfl
        · -- After the write only the tools are run, which know nothing of the files.
          obtain ⟨result, events', commands', hrun⟩ :=
            blind_runTools tools o t events commands
          refine ⟨result, events', commands', some (m, Text.Utf8.encode assembly),
            fun t' hsame => ?_⟩
          rw [not_or] at hcheck
          have hplaces : Places t' path o.output assembly t _ :=
            ⟨htargets, hcheck.1, hcheck.2, hwrite t' hsame⟩
          exact (runFrom_finish tools (s := ⟨t', events, commands⟩) hplaces).trans (hrun _)

theorem uniform_makeFrom (l : Location) (files : FileTree) (tools : Toolchain) (path : Path)
    (o : Options) (code : Text) :
    Uniform (files.SameBut l) (makeFrom tools path o code) := by
  unfold makeFrom
  obtain ⟨result, logs⟩ := runCompile code
  refine (blind_logs logs).bind_uniform fun _ => ?_
  cases result with
  | ok assembly => exact uniform_finish l files tools path o assembly
  | error fault =>
      cases fault with
      | diagnostic d => exact ((blind_print _).bind fun _ => blind_pure 1).uniform
      | _ => exact (blind_throw _).uniform

-- All that a build knows of the source file is its text with the line ends made alike.
theorem exists_build_eq {l : Location} {files : FileTree} {path : Path}
    (hopen : files.open? path = .ok l) (tools : Toolchain) (o : Options) (code : Text) :
    ∃ result events commands written, ∀ t text, files.SameBut l t → t.Holds l text →
      text.lineFeeds = code →
        build t tools path o = (result, ⟨t.put written, events, commands⟩) := by
  obtain ⟨result, events, commands, written, hrun⟩ :=
    uniform_makeFrom l files tools path o code [] []
  refine ⟨result, events, commands, written, ?_⟩
  rintro t text hsame ⟨bytes, hfile, hdecode⟩ rfl
  have hread : t.read path = .ok bytes :=
    FileTree.read_eq_ok_iff.mpr ⟨l, (hsame.open?_eq path).trans hopen, hfile⟩
  have hsource : Step.runFrom (readSource path) { files := t } =
      (.ok (some text.lineFeeds), { files := t }) := runFrom_readSource hread hdecode
  rw [build, runFrom_make tools o hsource]
  exact hrun t hsame

end Build

end SlotCompiler
