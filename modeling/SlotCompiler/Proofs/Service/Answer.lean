import SlotCompiler.Proofs.Json.Shown
import SlotCompiler.Proofs.Report
import SlotCompiler.Service.Compilation

namespace SlotCompiler.Service

-- A text is handed in that is not too long, and perhaps a name for it. Only objects have members.
structure Submits (limit : Int) (data : Json) (code : Text) (path : Option Json) : Prop where
  code_eq : data.get? "code" = some (.str code)
  path_eq : data.get? "path" = path
  fits : code.length ≤ limit

-- The first rule that is broken, by its message.
inductive Breaks (limit : Int) (data : Json) : Text → Prop where
  | noObject (h : ∀ members, data ≠ .obj members) :
      Breaks limit data "request body must be a JSON object"
  | noText {members : List (Text × Json)} (h : data = .obj members)
      (hcode : ∀ code, data.get? "code" ≠ some (.str code)) :
      Breaks limit data "'code' must be a string"
  | tooLong {code : Text} (hcode : data.get? "code" = some (.str code))
      (hlength : limit < code.length) :
      Breaks limit data ("source longer than " ++ Text.ofInt limit ++ " characters")

-- The name that a text goes by: the requested one, unless there is none or it is void.
def shownName (settings : Settings) (path : Option Json) : Json :=
  (path.filter fun j => !j.isVoid).getD settings.sourceName

def Response.field (response : Response) (key : Text) : Option Json :=
  response.body.bind (·.get? key)

structure Response.Succeeds (response : Response) (code asm : Text) : Prop where
  status : response.status = 200
  error : response.field "error" = some .null
  errors : response.field "errors" = some (.arr [])
  assembly : ∃ lines : List Text, response.field "assembly" = some (.arr (lines.map .str)) ∧
    (∀ line ∈ lines, line.OneLine) ∧ Text.join "\n" lines ++ "\n" = asm
  symbols : ∃ tokens p g, Token.tokenize code = .ok tokens ∧ Program.ofTokens tokens = .ok p ∧
    Assembly.generate p.tree = (.ok asm, g) ∧
    response.field "symbol_table" =
      some (.obj (g.scope.map fun (name, location) => (name.display, .int location)))

structure Response.Reports (response : Response) (code name : Text) (d : Diagnostic) : Prop where
  status : response.status = 200
  error : response.field "error" = some (.obj
    [("kind", .str d.kind.name), ("message", .str d.message), ("line", .int d.span.line),
      ("column", .int d.span.column), ("length", .int d.span.length)])
  errors : ∃ text, response.field "errors" = some (.arr [.str text]) ∧
    text = d.render ⟨code, name⟩ ∧ Text.ofString "--> " ++ name ++ Text.ofString ":" <:+: text
  assembly : response.field "assembly" = some (.arr [])
  symbols : response.field "symbol_table" = some (.obj [])

structure Response.Collects (response : Response) (code : Text) : Prop where
  tokens_eq_nil : response.field "tokens" = some (.arr []) ↔
    ∃ fault, Token.tokenize code = .error fault
  tokens_eq : ∀ tokens, Token.tokenize code = .ok tokens →
    response.field "tokens" = some (.arr (tokens.map Token.toJson))
  ast_eq_empty : response.field "ast" = some (.obj []) ↔
    ∃ fault, (Token.tokenize code).bind Program.ofTokens = .error fault
  ast_eq : ∀ p, (Token.tokenize code).bind Program.ofTokens = .ok p →
    response.field "ast" = some p.tree.toJson

-- The answer says what compilation gives. It is that of a failure when this is neither a text nor a
-- diagnostic, or when the name of the text cannot be shown.
structure Response.Mirrors (response : Response) (room : Nat) (code : Text) (name : Json) :
    Prop where
  broken : response.status = 500 ↔ ¬name.Showable room ∨
    ∃ fault, (runCompile code).1 = .error fault ∧ ∀ d, fault ≠ .diagnostic d
  succeeds : ∀ asm, name.Showable room → (runCompile code).1 = .ok asm →
    response.Succeeds code asm
  reports : ∀ d, name.Showable room → (runCompile code).1 = .error (.diagnostic d) →
    response.Reports code name.display d
  collects : response.status = 200 → response.Collects code

theorem infix_join {t second : Text} (h : t <:+: second) (separator first : Text)
    (rest : List Text) : t <:+: Text.join separator (first :: second :: rest) := by
  rw [Text.join, List.intercalate_cons_cons]
  refine List.infix_append_of_infix_right ?_
  cases rest with
  | nil => rwa [List.intercalate_singleton]
  | cons third rest =>
      rw [List.intercalate_cons_cons, List.append_assoc]
      exact List.infix_append_of_infix_left h

theorem infix_render (d : Diagnostic) (source : Diagnostic.Source) :
    Text.ofString "--> " ++ source.path ++ Text.ofString ":" <:+: d.render source := by
  unfold Diagnostic.render
  extract_lets number place
  refine infix_join ?_ _ _ _
  exact ⟨Diagnostic.spaces number.length, number ++ ":" ++ Text.ofInt (d.span.column + 1),
    by simp [place]⟩

section

variable {response : Response} {found : Report}

theorem Response.fields_eq (h : response.body = some (reportJson found)) :
    response.field "tokens" = some (.arr (found.tokens.map Token.toJson)) ∧
    response.field "ast" = some ((found.program.map (·.tree.toJson)).getD (.obj [])) ∧
    response.field "assembly" = some (.arr (found.assembly.map .str)) ∧
    response.field "errors" = some (.arr (found.errors.map .str)) ∧
    response.field "error" =
      some ((found.diagnostic.map reportJson.diagnosticJson).getD .null) ∧
    response.field "symbol_table" =
      some (.obj (found.symbols.map fun (name, location) => (name.display, .int location))) := by
  simp only [Response.field, h]
  exact ⟨rfl, rfl, rfl, rfl, rfl, rfl⟩

theorem Response.collects {code : Text} (hbody : response.body = some (reportJson found))
    (h : found.Collects code) : response.Collects code := by
  obtain ⟨htokens, hast, -⟩ := Response.fields_eq hbody
  refine ⟨?_, ?_, ?_, ?_⟩
  · rw [htokens, ← h.tokens_eq_nil]
    simp
  · intro tokens hok
    rw [htokens, h.tokens_eq tokens hok]
  · rw [hast, ← h.program_eq_none]
    cases found.program with
    | none => simp
    | some p => simp [Program.tree, Tree.toJson]
  · intro p hok
    rw [hast, h.program_eq p hok]
    rfl

variable {room : Nat} {code : Text} {name : Json}

theorem reportNamed_eq (h : name.Showable room) :
    reportNamed room code name = report ⟨code, name.display⟩ := by
  rw [reportNamed, Json.shown_of_showable h]
  rfl

theorem compileNamed_of_ok (hname : name.Showable room)
    (h : report ⟨code, name.display⟩ = .ok found) :
    (compileNamed room code name).status = 200 ∧
      (compileNamed room code name).body = some (reportJson found) := by
  rw [compileNamed, reportNamed_eq hname, h]
  exact ⟨rfl, rfl⟩

theorem status_of_error {fault : SlotCompiler.Fault}
    (h : reportNamed room code name = .error fault) :
    (compileNamed room code name).status = 500 := by
  rw [compileNamed, h]
  rfl

theorem status_of_not_showable (h : ¬name.Showable room) :
    (compileNamed room code name).status = 500 := by
  obtain ⟨fault, hshown⟩ := Json.exists_shown_eq_error h
  have hreport : reportNamed room code name = .error fault := by
    rw [reportNamed, hshown]
    rfl
  exact status_of_error hreport

theorem report_of_generate {tokens : List Token} {p : Program} {g : Assembly.Generator} {asm : Text}
    (htokens : Token.tokenize code = .ok tokens) (hp : Program.ofTokens tokens = .ok p)
    (hasm : Assembly.generate p.tree = (.ok asm, g)) (path : Text) :
    report ⟨code, path⟩ = .ok
      { tokens, program := p, assembly := Text.splitLines asm, symbols := g.scope } := by
  simp only [report, htokens, hp]
  rw [hasm]

theorem succeeds_compileNamed {asm : Text} (hname : name.Showable room)
    (h : (runCompile code).1 = .ok asm) :
    (compileNamed room code name).Succeeds code asm ∧
      (compileNamed room code name).Collects code := by
  obtain ⟨tokens, p, htokens, hp, hasm⟩ := runCompile_eq_ok_iff.mp h
  have hgenerate : Assembly.generate p.tree = (.ok asm, (Assembly.generate p.tree).2) :=
    Prod.ext hasm rfl
  have hreport := report_of_generate htokens hp hgenerate name.display
  obtain ⟨found, hfound, hcollects, -, -, hlines, -⟩ := report_of_ok h name.display
  obtain rfl := Except.ok.inj (hreport.symm.trans hfound)
  obtain ⟨hstatus, hbody⟩ := compileNamed_of_ok hname hfound
  obtain ⟨-, -, hassembly, herrors, herror, hsymbols⟩ := Response.fields_eq hbody
  refine ⟨?_, Response.collects hbody hcollects⟩
  exact
    { status := hstatus
      error := herror
      errors := herrors
      assembly := ⟨_, hassembly, fun _ => Text.oneLine_of_mem_splitLines, hlines⟩
      symbols := ⟨tokens, p, _, htokens, hp, hgenerate, hsymbols⟩ }

theorem reports_compileNamed {d : Diagnostic} (hname : name.Showable room)
    (h : (runCompile code).1 = .error (.diagnostic d)) :
    (compileNamed room code name).Reports code name.display d ∧
      (compileNamed room code name).Collects code := by
  obtain ⟨before, hreport, hcollects, hlines, hscope⟩ := report_of_error h name.display
  rw [Report.stop] at hreport
  obtain ⟨hstatus, hbody⟩ := compileNamed_of_ok hname hreport
  obtain ⟨-, -, hassembly, herrors, herror, hsymbols⟩ := Response.fields_eq hbody
  constructor
  · exact
      { status := hstatus
        error := herror
        errors := ⟨_, herrors, rfl, infix_render d ⟨code, name.display⟩⟩
        assembly := by rw [hassembly, hlines, List.map_nil]
        symbols := by rw [hsymbols, hscope, List.map_nil] }
  · exact Response.collects hbody ⟨hcollects.tokens_eq_nil, hcollects.tokens_eq,
      hcollects.program_eq_none, hcollects.program_eq⟩

theorem status_of_fault {fault : SlotCompiler.Fault} (hname : name.Showable room)
    (h : (runCompile code).1 = .error fault) (hne : ∀ d, fault ≠ .diagnostic d) :
    (compileNamed room code name).status = 500 := by
  obtain ⟨before, hreport, -⟩ := report_of_error h name.display
  rw [Report.stop_of_ne hne] at hreport
  exact status_of_error ((reportNamed_eq hname).trans hreport)

theorem runCompile_cases (code : Text) :
    (∃ asm, (runCompile code).1 = .ok asm) ∨
    (∃ d, (runCompile code).1 = .error (.diagnostic d)) ∨
    ∃ fault, (runCompile code).1 = .error fault ∧ ∀ d, fault ≠ .diagnostic d := by
  cases (runCompile code).1 with
  | ok asm => exact .inl ⟨asm, rfl⟩
  | error fault =>
      by_cases hdiagnostic : ∃ d, fault = .diagnostic d
      · obtain ⟨d, rfl⟩ := hdiagnostic
        exact .inr (.inl ⟨d, rfl⟩)
      · exact .inr (.inr ⟨fault, rfl, not_exists.mp hdiagnostic⟩)

theorem mirrors_compileNamed (room : Nat) (code : Text) (name : Json) :
    (compileNamed room code name).Mirrors room code name := by
  by_cases hname : name.Showable room
  · rcases runCompile_cases code with ⟨asm, hrun⟩ | ⟨d, hrun⟩ | ⟨fault, hrun, hne⟩
    · obtain ⟨hsucceeds, hcollects⟩ := succeeds_compileNamed hname hrun
      refine ⟨?_, ?_, ?_, fun _ => hcollects⟩
      · simp [hsucceeds.status, hname, hrun]
      · intro asm' _ hasm
        obtain rfl := Except.ok.inj (hrun.symm.trans hasm)
        exact hsucceeds
      · simp [hrun]
    · obtain ⟨hreports, hcollects⟩ := reports_compileNamed hname hrun
      refine ⟨?_, ?_, ?_, fun _ => hcollects⟩
      · simp [hreports.status, hname, hrun]
      · simp [hrun]
      · intro d' _ hd
        obtain rfl : d = d' := by simpa [hrun] using hd
        exact hreports
    · have hstatus : (compileNamed room code name).status = 500 := status_of_fault hname hrun hne
      refine ⟨?_, ?_, ?_, ?_⟩
      · simp [hstatus, hrun, hne]
      · simp [hrun]
      · simp [hrun, hne]
      · simp [hstatus]
  · have hstatus : (compileNamed room code name).status = 500 := status_of_not_showable hname
    refine ⟨?_, ?_, ?_, ?_⟩
    · simp [hstatus, hname]
    · simp [hname]
    · simp [hname]
    · simp [hstatus]

theorem Response.Mirrors.status_ne (h : response.Mirrors room code name) :
    response.status ≠ 400 := by
  by_cases hname : name.Showable room
  · rcases runCompile_cases code with ⟨asm, hrun⟩ | ⟨d, hrun⟩ | hfault
    · simp [(h.succeeds asm hname hrun).status]
    · simp [(h.reports d hname hrun).status]
    · simp [h.broken.mpr (.inr hfault)]
  · simp [h.broken.mpr (.inl hname)]

end

section

variable {room : Nat} {settings : Settings} {limit : Int} {data : Json}

theorem get?_of_not_object (h : ∀ members, data ≠ .obj members) (key : Text) :
    data.get? key = none := by
  cases data with
  | obj members => exact absurd rfl (h members)
  | _ => rfl

theorem sourceName_eq (settings : Settings) (path : Option Json) :
    sourceName settings path = shownName settings path := by
  cases path with
  | none => rfl
  | some j => cases hvoid : j.isVoid <;> simp [sourceName, shownName, Option.filter, hvoid]

theorem breaks_or_submits (limit : Int) (data : Json) :
    (∃ message, Breaks limit data message) ∨ ∃ code path, Submits limit data code path := by
  by_cases hobject : ∃ members, data = .obj members
  · obtain ⟨members, hmembers⟩ := hobject
    by_cases htext : ∃ code, data.get? "code" = some (.str code)
    · obtain ⟨code, hcode⟩ := htext
      by_cases hlength : limit < code.length
      · exact .inl ⟨_, .tooLong hcode hlength⟩
      · exact .inr ⟨code, _, hcode, rfl, Int.not_lt.mp hlength⟩
    · exact .inl ⟨_, .noText hmembers fun code hcode => htext ⟨code, hcode⟩⟩
  · exact .inl ⟨_, .noObject fun members hmembers => hobject ⟨members, hmembers⟩⟩

theorem Breaks.not_submits {message code : Text} {path : Option Json}
    (h : Breaks limit data message) : ¬Submits limit data code path := by
  intro hsubmits
  have hcode := hsubmits.code_eq
  cases h with
  | noObject hobject =>
      rw [get?_of_not_object hobject] at hcode
      cases hcode
  | noText _ hnone => exact hnone code hcode
  | tooLong hlong hlength =>
      rw [hlong] at hcode
      cases hcode
      exact Int.not_lt.mpr hsubmits.fits hlength

theorem compileData_of_code {code : Text} (hcode : data.get? "code" = some (.str code)) :
    compileData room settings data = compileCode room settings code (data.get? "path") := by
  cases data with
  | obj members => rw [compileData, hcode]
  | _ => cases hcode

variable (hlimit : settings.maxSourceLength = .int limit)
include hlimit

theorem compileCode_of_le {code : Text} (h : code.length ≤ limit) (path : Option Json) :
    compileCode room settings code path =
      .ok (compileNamed room code (shownName settings path)) := by
  have hfits : ¬limit < code.length := Int.not_lt.mpr h
  simp only [compileCode, hlimit, exceeds, hfits, decide_false, sourceName_eq]

theorem compileCode_of_lt {code : Text} (h : limit < code.length) (path : Option Json) :
    compileCode room settings code path =
      if Number.Short limit then
        .ok (errorsOnly 400 ("source longer than " ++ Text.ofInt limit ++ " characters"))
      else .error (.unshown .longNumber) := by
  have hexceeds : exceeds code.length (.int limit) = .ok true := by
    rw [exceeds, decide_eq_true h]
  rw [compileCode, hlimit, hexceeds, Json.shown, Json.checkShown]
  by_cases hshort : Number.Short limit
  · rw [if_pos hshort, if_pos hshort]
    rfl
  · rw [if_neg hshort, if_neg hshort]
    rfl

theorem Submits.compileData_eq {code : Text} {path : Option Json}
    (h : Submits limit data code path) :
    compileData room settings data = .ok (compileNamed room code (shownName settings path)) := by
  rw [compileData_of_code h.code_eq, h.path_eq, compileCode_of_le hlimit h.fits]

theorem Breaks.compileData_eq {message : Text} (h : Breaks limit data message) :
    compileData room settings data = .ok (errorsOnly 400 message) ∨
      ¬Number.Short limit ∧ (∃ code, data.get? "code" = some (.str code) ∧ limit < code.length) ∧
        compileData room settings data = .error (.unshown .longNumber) := by
  cases h with
  | noObject h =>
      cases data with
      | obj members => exact absurd rfl (h members)
      | _ => exact .inl rfl
  | noText h hcode =>
      subst h
      refine .inl ?_
      rw [compileData]
      split
      next code heq => exact absurd heq (hcode code)
      next => rfl
  | @tooLong code hcode hlength =>
      rw [compileData_of_code hcode, compileCode_of_lt hlimit hlength]
      by_cases hshort : Number.Short limit
      · exact .inl (if_pos hshort)
      · exact .inr ⟨hshort, ⟨code, hcode, hlength⟩, if_neg hshort⟩

theorem compileData_eq_error_iff (failure : Failure) :
    compileData room settings data = .error failure ↔
      failure = .unshown .longNumber ∧ ¬Number.Short limit ∧
        ∃ code, data.get? "code" = some (.str code) ∧ limit < code.length := by
  constructor
  · intro hfailure
    rcases breaks_or_submits limit data with ⟨message, hbreaks⟩ | ⟨code, path, hsubmits⟩
    · rcases hbreaks.compileData_eq hlimit with hanswer | ⟨hlong, hcode, hanswer⟩
      · cases hanswer.symm.trans hfailure
      · cases hanswer.symm.trans hfailure
        exact ⟨rfl, hlong, hcode⟩
    · cases (hsubmits.compileData_eq hlimit).symm.trans hfailure
  · rintro ⟨rfl, hlong, code, hcode, hlength⟩
    rw [compileData_of_code hcode, compileCode_of_lt hlimit hlength, if_neg hlong]

theorem Breaks.response_eq {message : Text} {response : Response} (h : Breaks limit data message)
    (hanswer : compileData room settings data = .ok response) :
    response = errorsOnly 400 message := by
  rcases h.compileData_eq hlimit with hbroken | ⟨-, -, hfailure⟩
  · exact Except.ok.inj (hanswer.symm.trans hbroken)
  · cases hanswer.symm.trans hfailure

theorem Submits.mirrors {code : Text} {path : Option Json} {response : Response}
    (h : Submits limit data code path) (hanswer : compileData room settings data = .ok response) :
    response.Mirrors room code (shownName settings path) := by
  rw [Except.ok.inj (hanswer.symm.trans (h.compileData_eq hlimit))]
  exact mirrors_compileNamed room code (shownName settings path)

end

-- A request to compile is answered, unless it would have to be told a limit that cannot be shown.
-- It is turned down for the first rule that it breaks, in the order of the rules; otherwise the
-- answer mirrors compilation.
theorem compileData_mirrors_compile {settings : Settings} {limit : Int}
    (hlimit : settings.maxSourceLength = .int limit) (room : Nat) (data : Json) :
    (∀ failure, compileData room settings data = .error failure ↔
      failure = .unshown .longNumber ∧ ¬Number.Short limit ∧
        ∃ code, data.get? "code" = some (.str code) ∧ limit < code.length) ∧
    ∀ response, compileData room settings data = .ok response →
      (response.status = 400 ↔ ¬∃ code path, Submits limit data code path) ∧
      (∀ message, Breaks limit data message → response = errorsOnly 400 message) ∧
      ∀ code path, Submits limit data code path →
        response.Mirrors room code (shownName settings path) := by
  refine ⟨compileData_eq_error_iff hlimit, fun response hanswer => ⟨?_, ?_, ?_⟩⟩
  · rcases breaks_or_submits limit data with ⟨message, hbreaks⟩ | ⟨code, path, hsubmits⟩
    · rw [hbreaks.response_eq hlimit hanswer]
      exact iff_of_true rfl fun ⟨_, _, hsubmits⟩ => hbreaks.not_submits hsubmits
    · exact iff_of_false (hsubmits.mirrors hlimit hanswer).status_ne
        (not_not_intro ⟨code, path, hsubmits⟩)
  · exact fun _ hbreaks => hbreaks.response_eq hlimit hanswer
  · exact fun _ _ hsubmits => hsubmits.mirrors hlimit hanswer

theorem compileData_mirrors_undeclared :
    let settings : Settings := { maxSourceLength := .int 8 }
    let data : Json := .obj [("code", .str "exit(y);"), ("path", .arr [])]
    ∀ room, ∃ response, compileData room settings data = .ok response ∧ response.status = 200 ∧
      response.field "errors" = some (.arr
        [.str "Could not find 'y'\n --> <request>:1:6\n 1 | exit(y);\n          ^"]) ∧
      response.field "assembly" = some (.arr []) := by
  intro settings data room
  have hlimit : settings.maxSourceLength = .int 8 := rfl
  have hsubmits : Submits 8 data "exit(y);" (some (.arr [])) := ⟨rfl, rfl, by decide⟩
  have hrun : (runCompile "exit(y);").1 =
      .error (.diagnostic ⟨.notFound, ⟨0, 5, 1⟩, ["y"], by decide⟩) := by decide +kernel
  obtain ⟨hfails, hanswers⟩ := compileData_mirrors_compile hlimit room data
  cases hanswer : compileData room settings data with
  | error failure =>
      obtain ⟨-, hlong, -⟩ := (hfails failure).mp hanswer
      exact absurd (Number.short_of_lt (by decide)) hlong
  | ok response =>
      obtain ⟨-, -, hmirrors⟩ := hanswers response hanswer
      have hname : (shownName settings (some (.arr []))).Showable room := by
        rw [← Json.checkShown_eq_ok_iff]
        rfl
      have hreports := (hmirrors _ _ hsubmits).reports _ hname hrun
      obtain ⟨text, herrors, rfl, -⟩ := hreports.errors
      refine ⟨response, rfl, hreports.status, ?_, hreports.assembly⟩
      have hrender : Diagnostic.render ⟨.notFound, ⟨0, 5, 1⟩, ["y"], by decide⟩
          ⟨"exit(y);", (shownName settings (some (.arr []))).display⟩ =
            "Could not find 'y'\n --> <request>:1:6\n 1 | exit(y);\n          ^" := by
        decide +kernel
      rw [herrors, hrender]

def nested : Nat → Json
  | 0 => .arr []
  | depth + 1 => .arr [nested depth]

theorem holds_nested (depth : Nat) : (nested depth).Holds depth (.arr []) := by
  induction depth with
  | zero => exact .self _
  | succ depth ih => exact .inside (List.mem_singleton_self _) ih

-- A source that is too long for a limit of very many digits gets no answer, and one that compiles
-- is not compiled under a name of so many digits or one that is nested too deeply.
theorem compileData_unshown :
    let code : Text := "exit(0);"
    let data : Json := .obj [("code", .str code)]
    (-(Number.leastLong : Int) < code.length ∧ ∀ room response,
      compileData room { maxSourceLength := .int (-Number.leastLong) } data ≠ .ok response) ∧
    (∃ asm, (runCompile code).1 = .ok asm) ∧
    ∀ room, ∀ name ∈ [Json.int Number.leastLong, nested (room + 1)], ∃ response,
      compileData room { sourceName := name } data = .ok response ∧ response.status = 500 := by
  intro code data
  have hlength : -(Number.leastLong : Int) < code.length := by decide +kernel
  refine ⟨⟨hlength, fun room response hanswer => ?_⟩, ?_, fun room name hname => ?_⟩
  · have hlong : ¬Number.Short (-Number.leastLong) := by
      rw [Number.Short, Int.natAbs_neg]
      exact Number.not_short_leastLong
    have hfails : compileData room { maxSourceLength := .int (-Number.leastLong) } data =
        .error (.unshown .longNumber) :=
      (compileData_eq_error_iff rfl _).mpr ⟨rfl, hlong, code, rfl, hlength⟩
    cases hfails.symm.trans hanswer
  · have hok : (runCompile code).1.isOk = true := by decide +kernel
    cases hrun : (runCompile code).1 with
    | error fault => rw [hrun] at hok; cases hok
    | ok asm => exact ⟨asm, rfl⟩
  · have hsubmits : Submits 65536 data code none := ⟨rfl, rfl, by decide⟩
    have hunshown : ¬name.Showable room := by
      rcases List.mem_pair.mp hname with rfl | rfl
      · intro h
        exact Number.not_short_leastLong ((h 0 _ (.self _)).2 _ rfl)
      · intro h
        exact Nat.not_succ_le_self room (h _ _ (holds_nested (room + 1))).1
    refine ⟨_, hsubmits.compileData_eq rfl, ?_⟩
    exact (mirrors_compileNamed room code name).broken.mpr (.inl hunshown)

end SlotCompiler.Service
