import SlotCompiler.Proofs.Build.Uniform
import SlotCompiler.Proofs.Excerpt
import SlotCompiler.Proofs.Token.Ends

namespace SlotCompiler

open CodePoint (char)

namespace Diagnostic

theorem sourceLine?_ended (code : Text) (n : Int) :
    (sourceLine? (code.ended .returnFeed) n).map Text.dropReturns =
      (sourceLine? code n).map Text.dropReturns := by
  rw [sourceLine?, sourceLine?]
  split
  · rfl
  · rw [← List.getElem?_map, ← List.getElem?_map, Text.map_dropReturns_sourceLines]

theorem render_ended (d : Diagnostic) (code path : Text) :
    d.render ⟨code.ended .returnFeed, path⟩ = d.render ⟨code, path⟩ := by
  have hlines := sourceLine?_ended code d.span.line
  simp only [render]
  cases hline : sourceLine? code d.span.line with
  | none =>
      rw [hline, Option.map_none, Option.map_eq_none_iff] at hlines
      rw [hlines]
  | some line =>
      rw [hline, Option.map_some, Option.map_eq_some_iff] at hlines
      obtain ⟨line', hline', hdrop⟩ := hlines
      simp only [hline', excerpt, hdrop]

theorem markRow_longer {d : Diagnostic} (h : 0 ≤ d.span.length) :
    d.longer.markRow = d.markRow ++ "^" := by
  have hnat : (d.span.length + 1).toNat = d.span.length.toNat + 1 := by omega
  have hmarks : marks (d.span.length + 1).toNat = marks d.span.length.toNat ++ "^" := by
    rw [hnat, marks, List.replicate_succ']
    rfl
  simp only [markRow, longer, hmarks, List.append_assoc]

theorem render_longer {d : Diagnostic} {source : Source} {line : Text}
    (hline : sourceLine? source.code d.span.line = some line) (hlength : 0 ≤ d.span.length) :
    d.longer.render source = d.render source ++ "^" := by
  have hline' : sourceLine? source.code d.longer.span.line = some line := hline
  have hmessage : d.longer.message = d.message := rfl
  have hplace : d.longer.placeRow source.path = d.placeRow source.path := rfl
  have hshown : d.longer.lineRow line.dropReturns = d.lineRow line.dropReturns := rfl
  rw [render_eq hline', render_eq hline, markRow_longer hlength, hmessage, hplace, hshown]
  simp [Text.join]

-- A quote is not closed before the line feed that ends its line.
def RunsIntoLineFeed (d : Diagnostic) (code : Text) : Prop :=
  d.kind = .unmatched ∧ ∃ before text rest, code = before ++ text ++ char '\n' :: rest ∧
    d.span = .past before text.length

theorem runsIntoLineFeed_iff {d : Diagnostic} {code : Text}
    (h : Token.tokenize code = .error (.diagnostic d)) :
    d.RunsIntoLineFeed code ↔ d.kind = .unmatched ∧ d.span.line < code.count (char '\n') := by
  constructor
  · rintro ⟨hkind, before, text, rest, rfl, hspan⟩
    refine ⟨hkind, ?_⟩
    simp only [hspan, Span.past, List.count_append, List.count_cons_self]
    omega
  · rintro ⟨hkind, hline⟩
    obtain ⟨before, tail, hfails⟩ := Token.exists_failsAt h
    have hcode := hfails.split
    cases hfails.bad with
    | @unclosed more rest hquote hfeed hrest =>
        cases rest with
        | nil =>
            have hnone : (char '\x22' :: more).count (char '\n') = 0 :=
              (List.count_cons_of_ne (by decide)).trans (List.count_eq_zero.mpr hfeed)
            simp only [hcode, Span.past, List.append_nil, List.count_append, hnone] at hline
            omega
        | cons c rest =>
            obtain rfl : c = char '\n' := by simpa using hrest c rfl
            exact ⟨rfl, before, char '\x22' :: more, rest, by simp [hcode], rfl⟩
    | great => cases hkind
    | numeral => cases hkind
    | stray => cases hkind

end Diagnostic

theorem Report.stop_ended (r : Report) (code path : Text) (fault : Fault) :
    r.stop ⟨code.ended .returnFeed, path⟩ fault = r.stop ⟨code, path⟩ fault := by
  cases fault with
  | diagnostic d => rw [stop, stop, Diagnostic.render_ended]
  | _ => rfl

theorem report_of_tokenize_error {code : Text} {fault : Fault}
    (h : Token.tokenize code = .error fault) (path : Text) :
    report ⟨code, path⟩ = Report.stop {} ⟨code, path⟩ fault := by
  simp only [report, h]

theorem report_ended {code path : Text}
    (h : ∀ d, Token.tokenize code = .error (.diagnostic d) → ¬d.RunsIntoLineFeed code) :
    report ⟨code.ended .returnFeed, path⟩ = report ⟨code, path⟩ := by
  have hended := Token.tokenize_ended code
  cases htokens : Token.tokenize code with
  | error fault =>
      have hfault : fault.overReturns (code.count (char '\n')) = fault := by
        cases fault with
        | diagnostic d =>
            have hnot := mt (Diagnostic.runsIntoLineFeed_iff htokens).mpr (h d htokens)
            rw [Fault.overReturns, Diagnostic.overReturns, if_neg hnot]
        | _ => rfl
      rw [htokens, Except.mapError, hfault] at hended
      rw [report_of_tokenize_error hended, report_of_tokenize_error htokens, Report.stop_ended]
  | ok tokens =>
      rw [htokens, Except.mapError] at hended
      simp only [report, hended, htokens, Report.stop_ended]

theorem report_ended_of_runs {code : Text} {d : Diagnostic}
    (h : Token.tokenize code = .error (.diagnostic d)) (hruns : d.RunsIntoLineFeed code)
    (path : Text) :
    report ⟨code.ended .returnFeed, path⟩ =
      .ok { errors := [d.render ⟨code, path⟩ ++ "^"], diagnostic := some d.longer } := by
  have hover := (Diagnostic.runsIntoLineFeed_iff h).mp hruns
  have hended := Token.tokenize_ended code
  rw [h, Except.mapError, Fault.overReturns, Diagnostic.overReturns, if_pos hover] at hended
  obtain ⟨-, -, ⟨line, hline, -, hlength, -⟩, -⟩ := Diagnostic.exists_marks_of_tokenize h
  have hrender : d.longer.render ⟨code, path⟩ = d.render ⟨code, path⟩ ++ "^" :=
    Diagnostic.render_longer hline (Int.le_of_lt hlength)
  rw [report_of_tokenize_error hended, Report.stop_ended, Report.stop, hrender]

-- With returns before the line feeds, the report is the same, except that a quote that is not
-- closed before a line feed is one character longer and has one mark more. A build on a file comes
-- to the same with all three sorts of line ends: the same result, messages and commands, and the
-- same write, if there is one.
theorem forgets_line_ends (code : Text) :
    (∀ path r d, report ⟨code, path⟩ = .ok r → r.diagnostic = some d → d.RunsIntoLineFeed code →
      report ⟨code.ended .returnFeed, path⟩ =
        .ok { r with errors := r.errors.map (· ++ "^"), diagnostic := some d.longer }) ∧
    (∀ path, (∀ r d, report ⟨code, path⟩ = .ok r → r.diagnostic = some d →
        ¬d.RunsIntoLineFeed code) →
      report ⟨code.ended .returnFeed, path⟩ = report ⟨code, path⟩) ∧
    (char '\r' ∉ code → ∀ (files : FileTree) tools path o l, files.open? path = .ok l →
      ∃ result events commands written, ∀ e t, files.SameBut l t → t.Holds l (code.ended e) →
        build t tools path o = (result, ⟨t.put written, events, commands⟩)) := by
  refine ⟨?_, ?_, ?_⟩
  · intro path r d hr hd hruns
    obtain ⟨hrun, -⟩ := runCompile_of_report hr hd
    have htokens := tokenize_of_unmatched hrun hruns.1
    rw [report_of_tokenize_error htokens] at hr
    obtain rfl := Except.ok.inj hr
    exact report_ended_of_runs htokens hruns path
  · intro path hnot
    apply report_ended
    intro d htokens
    exact hnot _ d (report_of_tokenize_error htokens path) rfl
  · intro hcode files tools path o l hopen
    obtain ⟨result, events, commands, written, hbuild⟩ := Build.exists_build_eq hopen tools o code
    refine ⟨result, events, commands, written, ?_⟩
    intro e t hsame hholds
    exact hbuild t _ hsame hholds (Text.lineFeeds_ended e hcode)

-- A quote that runs into a line feed, an undeclared name, and a build that writes its assembly.
theorem forgets_line_ends_open_quote :
    (∃ r d, report ⟨"let s = \"hi;\n", "p"⟩ = .ok r ∧ r.diagnostic = some d ∧
      d.span = ⟨0, 8, 4⟩ ∧
      report ⟨"let s = \"hi;\r\n", "p"⟩ =
        .ok { r with errors := r.errors.map (· ++ "^"), diagnostic := some d.longer }) ∧
    report ⟨"\r\nexit(a);", "p"⟩ = report ⟨"\nexit(a);", "p"⟩ ∧
    let holding := fun text : Text =>
      (FileTree.empty ["w"]).insert ["w", "a.slm"] (.file (Text.Utf8.encode text))
    let run := fun text => build (holding text) ([] : Tools) (.ofText "a.slm") {}
    let asm : Text := "global _start\n_start:\npush 7\nmov rax, 60\npop rdi\nsyscall\n"
    let place : Location := ["w", "a.asm"]
    ∃ result events commands written, result = .ok 0 ∧
      written = some (place, Text.Utf8.encode asm) ∧
      run "exit(\n7);\n" = (result, ⟨(holding "exit(\n7);\n").put written, events, commands⟩) ∧
      run "exit(\r\n7);\r\n" =
        (result, ⟨(holding "exit(\r\n7);\r\n").put written, events, commands⟩) ∧
      run "exit(\r7);\r" =
        (result, ⟨(holding "exit(\r7);\r").put written, events, commands⟩) := by
  refine ⟨?_, ?_, ?_⟩
  · have htokens : Token.tokenize "let s = \"hi;\n" =
        .error (.diagnostic ⟨.unmatched, ⟨0, 8, 4⟩, ["\""], Nat.le_refl 1⟩) := by
      decide +kernel
    have hreport := report_of_tokenize_error htokens "p"
    refine ⟨_, _, hreport, rfl, rfl, (forgets_line_ends _).1 "p" _ _ hreport rfl ?_⟩
    exact ⟨rfl, "let s = ", "\"hi;", [], rfl, rfl⟩
  · refine (forgets_line_ends "\nexit(a);").2.1 "p" ?_
    intro r d hr hd hruns
    have hrun : (runCompile "\nexit(a);").1 =
        .error (.diagnostic ⟨.notFound, ⟨1, 5, 1⟩, ["a"], Nat.le_refl 1⟩) := by
      decide +kernel
    obtain rfl := Fault.diagnostic.inj
      (Except.error.inj (hrun.symm.trans (runCompile_of_report hr hd).1))
    cases hruns.1
  · intro holding run asm place
    obtain ⟨result, events, commands, written, hbuild⟩ :=
      (forgets_line_ends "exit(\n7);\n").2.2 (by decide) (holding "exit(\n7);\n")
        ([] : Tools) (.ofText "a.slm") {} ["w", "a.slm"] (by decide +kernel)
    have hends : ∀ e : Text.LineEnd, build (holding (Text.ended e "exit(\n7);\n"))
        ([] : Tools) (.ofText "a.slm") {} =
          (result, ⟨(holding (Text.ended e "exit(\n7);\n")).put written, events, commands⟩) := by
      intro e
      refine hbuild e _ (FileTree.sameBut_insert _ (by decide) _ _)
        ⟨_, FileTree.find?_insert_self _ _ (by decide), ?_⟩
      cases e <;> decide +kernel
    have hfeed : run "exit(\n7);\n" =
        (result, ⟨(holding "exit(\n7);\n").put written, events, commands⟩) := hends .feed
    have hresult : (run "exit(\n7);\n").1 = .ok 0 := by decide +kernel
    have hfirst : (run "exit(\n7);\n").2.files.entries.head? =
        some (place, .file (Text.Utf8.encode asm)) := by decide +kernel
    rw [hfeed] at hresult hfirst
    refine ⟨result, events, commands, written, hresult, ?_, hfeed, hends .returnFeed,
      hends .carriageReturn⟩
    cases written with
    | none =>
        have hunchanged : (holding "exit(\n7);\n").entries.head? ≠
            some (place, .file (Text.Utf8.encode asm)) := by decide +kernel
        exact absurd hfirst hunchanged
    | some write => simpa [FileTree.put, FileTree.insert, Prod.ext_iff] using hfirst

end SlotCompiler
