import SlotCompiler.Proofs.Assembly.Listing
import SlotCompiler.Proofs.Compile

namespace SlotCompiler

namespace Report

structure Collects (r : Report) (code : Text) : Prop where
  tokens_eq_nil : r.tokens = [] ↔ ∃ fault, Token.tokenize code = .error fault
  tokens_eq : ∀ tokens, Token.tokenize code = .ok tokens → r.tokens = tokens
  program_eq_none : r.program = none ↔
    ∃ fault, (Token.tokenize code).bind Program.ofTokens = .error fault
  program_eq : ∀ p, (Token.tokenize code).bind Program.ofTokens = .ok p → r.program = some p

theorem collects {r : Report} {code : Text}
    (htokens : r.tokens = (Token.tokenize code).toOption.getD [])
    (hprogram : r.program = ((Token.tokenize code).bind Program.ofTokens).toOption) :
    r.Collects code where
  tokens_eq_nil := by
    rw [htokens]
    cases h : Token.tokenize code with
    | error fault => simp [Except.toOption]
    | ok tokens =>
        -- The end of input is always among the tokens.
        obtain ⟨front, -, rfl⟩ := Token.exists_standIn_of_tokenize h
        simp [Except.toOption]
  tokens_eq := by
    intro tokens h
    rw [htokens, h]
    rfl
  program_eq_none := by
    rw [hprogram]
    cases (Token.tokenize code).bind Program.ofTokens <;> simp [Except.toOption]
  program_eq := by
    intro p h
    rw [hprogram, h]
    rfl

theorem stop_of_ne {fault : Fault} (h : ∀ d, fault ≠ .diagnostic d) (r : Report)
    (source : Diagnostic.Source) : r.stop source fault = .error fault := by
  cases fault with
  | diagnostic d => exact absurd rfl (h d)
  | _ => rfl

end Report

-- A stage that fails ends both forms with its fault; the report has what was collected before.
theorem report_of_error {code : Text} {fault : Fault} (h : (runCompile code).1 = .error fault)
    (path : Text) :
    ∃ r : Report, report ⟨code, path⟩ = r.stop ⟨code, path⟩ fault ∧ r.Collects code ∧
      r.assembly = [] ∧ r.symbols = [] := by
  rw [fst_runCompile] at h
  cases htokens : Token.tokenize code with
  | error fault' =>
      rw [htokens] at h
      obtain rfl := Except.error.inj h
      refine ⟨{}, ?_, Report.collects ?_ ?_, rfl, rfl⟩
      · simp only [report, htokens]
      · rw [htokens]
        rfl
      · rw [htokens]
        rfl
  | ok tokens =>
      simp only [htokens, Except.bind] at h
      cases hp : Program.ofTokens tokens with
      | error fault' =>
          simp only [hp, Except.error.injEq] at h
          subst h
          refine ⟨{ tokens }, ?_, Report.collects ?_ ?_, rfl, rfl⟩
          · simp only [report, htokens, hp]
          · rw [htokens]
            rfl
          · simp only [htokens, Except.bind, hp]
            rfl
      | ok p =>
          simp only [hp] at h
          refine ⟨{ tokens, program := p }, ?_, Report.collects ?_ ?_, rfl, rfl⟩
          · have hgenerate : Assembly.generate p.tree =
                (.error fault, (Assembly.generate p.tree).2) := Prod.ext h rfl
            simp only [report, htokens, hp]
            rw [hgenerate]
          · rw [htokens]
            rfl
          · simp only [htokens, Except.bind, hp]
            rfl

theorem report_of_ok {code asm : Text} (h : (runCompile code).1 = .ok asm) (path : Text) :
    ∃ r : Report, report ⟨code, path⟩ = .ok r ∧ r.Collects code ∧ r.diagnostic = none ∧
      r.errors = [] ∧ Text.join "\n" r.assembly ++ "\n" = asm ∧
      ∃ p, r.program = some p ∧ r.symbols = Assembly.numbered p.names := by
  obtain ⟨tokens, p, htokens, hp, hasm⟩ := runCompile_eq_ok_iff.mp h
  obtain ⟨g, hsteps, rfl⟩ := Assembly.generate_eq_ok_iff.mp hasm
  obtain ⟨env, -, added, ops, -, htracks, hlines, hadded, -⟩ :=
    Assembly.Generator.tracks_start.run (Program.fits_of_tokenize htokens hp) hsteps
  have hsplit : Text.splitLines (Assembly.listing g.lines.toList) =
      g.lines.toList.map (·.text) := by
    rw [hlines]
    exact Assembly.splitLines_listing hadded
  have hnames : g.names = p.names := Assembly.Generator.names_of_run hsteps
  refine ⟨{ tokens, program := p, assembly := Text.splitLines (Assembly.listing g.lines.toList)
            symbols := g.scope }, ?_, Report.collects ?_ ?_, rfl, rfl, ?_, p, rfl, ?_⟩
  · simp only [report, htokens, hp]
    rw [Assembly.generate_of_steps hsteps]
  · rw [htokens]
    rfl
  · simp only [htokens, Except.bind, hp]
    rfl
  · rw [hsplit]
    rfl
  · rw [← hnames]
    exact htracks.scope_eq_numbered

theorem runCompile_of_report {code path : Text} {r : Report} {d : Diagnostic}
    (h : report ⟨code, path⟩ = .ok r) (hd : r.diagnostic = some d) :
    (runCompile code).1 = .error (.diagnostic d) ∧ r.errors = [d.render ⟨code, path⟩] := by
  cases hrun : (runCompile code).1 with
  | ok asm =>
      obtain ⟨r', hr', -, hnone, -⟩ := report_of_ok hrun path
      obtain rfl := Except.ok.inj (h.symm.trans hr')
      rw [hnone] at hd
      cases hd
  | error fault =>
      obtain ⟨r', hr', -⟩ := report_of_error hrun path
      rw [h] at hr'
      cases fault with
      | diagnostic d' =>
          obtain rfl := Except.ok.inj hr'
          obtain rfl := Option.some.inj hd
          exact ⟨rfl, rfl⟩
      | _ => cases hr'

-- What compilation gives as text is reported without a diagnostic, line by line; its diagnostic is
-- reported as such, and any other fault ends the report too.
theorem report_agrees (code path : Text) :
    (∀ asm, (runCompile code).1 = .ok asm ↔ ∃ r, report ⟨code, path⟩ = .ok r ∧
      r.diagnostic = none ∧ Text.join "\n" r.assembly ++ "\n" = asm) ∧
    (∀ d, (runCompile code).1 = .error (.diagnostic d) ↔ ∃ r, report ⟨code, path⟩ = .ok r ∧
      r.diagnostic = some d) ∧
    (∀ fault, report ⟨code, path⟩ = .error fault ↔
      (runCompile code).1 = .error fault ∧ ∀ d, fault ≠ .diagnostic d) ∧
    ∀ r, report ⟨code, path⟩ = .ok r → r.Collects code ∧
      (r.diagnostic = none → r.errors = [] ∧
        ∃ p, r.program = some p ∧ r.symbols = Assembly.numbered p.names) ∧
      ∀ d, r.diagnostic = some d →
        r.errors = [d.render ⟨code, path⟩] ∧ r.assembly = [] ∧ r.symbols = [] := by
  cases hrun : (runCompile code).1 with
  | ok asm =>
      obtain ⟨r, hreport, hcollects, hnone, herrors, hassembly, hsymbols⟩ :=
        report_of_ok hrun path
      refine ⟨?_, ?_, ?_, ?_⟩
      · simp [hreport, hnone, hassembly]
      · simp [hreport, hnone]
      · simp [hreport]
      · intro r' hr'
        obtain rfl : r = r' := by simpa [hreport] using hr'
        exact ⟨hcollects, fun _ => ⟨herrors, hsymbols⟩, by simp [hnone]⟩
  | error fault =>
      obtain ⟨r, hreport, hcollects, hassembly, hsymbols⟩ := report_of_error hrun path
      by_cases hdiagnostic : ∃ d, fault = .diagnostic d
      · obtain ⟨d, rfl⟩ := hdiagnostic
        rw [Report.stop] at hreport
        refine ⟨?_, ?_, ?_, ?_⟩
        · simp [hreport]
        · simp [hreport]
        · intro fault'
          simp only [hreport]
          constructor
          · rintro ⟨⟩
          · rintro ⟨hfault, hne⟩
            exact absurd (Except.error.inj hfault).symm (hne d)
        · intro r' hr'
          rw [hreport] at hr'
          obtain rfl := Except.ok.inj hr'
          refine ⟨⟨hcollects.tokens_eq_nil, hcollects.tokens_eq, hcollects.program_eq_none,
            hcollects.program_eq⟩, by simp, ?_⟩
          intro d' hd'
          obtain rfl := Option.some.inj hd'
          exact ⟨rfl, hassembly, hsymbols⟩
      · have hne : ∀ d, fault ≠ .diagnostic d := fun d hd => hdiagnostic ⟨d, hd⟩
        rw [Report.stop_of_ne hne] at hreport
        refine ⟨?_, ?_, ?_, ?_⟩
        · simp [hreport]
        · intro d
          simp [hreport, hne d]
        · intro fault'
          simp only [hreport, Except.error.injEq]
          constructor
          · rintro rfl
            exact ⟨rfl, hne⟩
          · exact And.left
        · simp [hreport]

-- A line separator is a blank of the source and ends no line of the assembly.
theorem report_agrees_separator :
    ∃ r, report ⟨"let\u2028a = 1;\nlet b = a;", "p"⟩ = .ok r ∧ r.diagnostic = none ∧ r.errors = [] ∧
      Text.join "\n" r.assembly ++ "\n" = "global _start\n_start:\npush 1\npush QWORD [rsp+0]\n" ∧
      r.symbols = [(.text "a", 8), (.text "b", 16)] := by
  obtain ⟨hok, -, -, hreport⟩ := report_agrees "let\u2028a = 1;\nlet b = a;" "p"
  have hrun : (runCompile "let\u2028a = 1;\nlet b = a;").1 =
      .ok "global _start\n_start:\npush 1\npush QWORD [rsp+0]\n" := by
    decide +kernel
  have hparsed : (Token.tokenize "let\u2028a = 1;\nlet b = a;").bind Program.ofTokens =
      .ok [.binding ⟨.text "a", ⟨0, 4, 1⟩⟩ (.literal (.int 1) .int ⟨0, 8, 1⟩),
        .binding ⟨.text "b", ⟨1, 4, 1⟩⟩ (.name ⟨.text "a", ⟨1, 8, 1⟩⟩)] := by
    decide +kernel
  obtain ⟨r, hr, hnone, hassembly⟩ := (hok _).mp hrun
  obtain ⟨hcollects, hsucceeds, -⟩ := hreport r hr
  obtain ⟨herrors, p, hp, hsymbols⟩ := hsucceeds hnone
  rw [hcollects.program_eq _ hparsed] at hp
  obtain rfl := Option.some.inj hp
  exact ⟨r, hr, hnone, herrors, hassembly, hsymbols⟩

end SlotCompiler
