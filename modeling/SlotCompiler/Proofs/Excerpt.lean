import SlotCompiler.Proofs.Diagnostic
import SlotCompiler.Proofs.Report
import SlotCompiler.Proofs.Text.Decimal
import SlotCompiler.Proofs.Text.Ends
import SlotCompiler.Proofs.Token.BadLexeme

namespace SlotCompiler

open CodePoint (char)

theorem Text.not_mem_ofInt {n : Int} (hn : 0 ≤ n) : char '\n' ∉ ofInt n :=
  not_mem_of_class (fun _ hc => isAsciiDigit_of_mem_ofInt hn hc) (by decide)

namespace Token

theorem Spells.getLast?_ne {t : Token} {text : Text} (h : t.Spells text) :
    text.getLast? ≠ some (char '\r') := by
  have hlast : ∀ {t : Text}, char '\r' ∉ t → t.getLast? ≠ some (char '\r') :=
    fun hnot h => hnot (List.mem_of_getLast? h)
  obtain ⟨kind, value, span⟩ := t
  cases kind with
  | identifier =>
      obtain ⟨-, -, -, c, more, rfl, hc, hmore⟩ := h
      apply hlast
      rw [List.mem_cons, not_or]
      exact ⟨(Text.ne_of_class hc (by decide)).symm, Text.not_mem_of_class hmore (by decide)⟩
  | number =>
      obtain ⟨-, -, -, hdigits⟩ := h
      exact hlast (Text.not_mem_of_class hdigits (by decide))
  | string =>
      obtain ⟨body, -, rfl⟩ := h
      rw [List.getLast?_concat]
      decide
  | endOfInput => cases h
  | other => cases h
  | _ =>
      obtain ⟨-, rfl⟩ := h
      decide

theorem Spells.not_mem_describe {t : Token} {text found : Text} (h : t.Spells text)
    (htext : char '\n' ∉ text) (hfound : t.describe = .ok found) : char '\n' ∉ found := by
  have haround : ∀ {left right middle : Text}, char '\n' ∉ left → char '\n' ∉ right →
      char '\n' ∉ middle → char '\n' ∉ left ++ middle ++ right := by
    simp_all
  obtain ⟨kind, value, span⟩ := t
  cases kind with
  | identifier =>
      obtain ⟨rfl, -⟩ := h
      obtain rfl := Except.ok.inj hfound
      exact haround (by decide) (by decide) htext
  | number =>
      rw [describe, Atom.shown_of_short h.short] at hfound
      obtain ⟨rfl, -⟩ := h
      obtain rfl := Except.ok.inj hfound
      rw [List.mem_append, not_or]
      exact ⟨by decide, Text.not_mem_ofInt (Int.natCast_nonneg _)⟩
  | string =>
      obtain ⟨body, rfl, rfl⟩ := h
      obtain rfl := Except.ok.inj hfound
      have hbody : char '\n' ∉ body := fun hmem => htext (by simp [hmem])
      exact haround (by decide) (by decide) hbody
  | endOfInput => cases h
  | other => cases h
  | _ =>
      obtain rfl := Except.ok.inj hfound
      decide

theorem not_mem_describe {code : Text} {tokens : List Token} (h : tokenize code = .ok tokens)
    {t : Token} (ht : t ∈ tokens) {found : Text} (hfound : t.describe = .ok found) :
    char '\n' ∉ found := by
  obtain ⟨front, hstand, rfl⟩ := exists_standIn_of_tokenize h
  rcases List.mem_append.mp ht with hfront | hend
  · obtain ⟨p, hp, -⟩ := hstand.exists_piece t hfront
    have hspells : t.Spells p.text := hp ▸ p.spells_token t.span
    exact hspells.not_mem_describe p.not_mem_text hfound
  · obtain rfl := List.mem_singleton.mp hend
    obtain rfl := Except.ok.inj hfound
    decide

end Token

theorem Parser.Awaits.not_mem_wording {front : List Token.Kind} {e : Expected}
    (h : Awaits front e) : char '\n' ∉ e.wording := by
  induction h with
  | start => decide
  | inside hshape =>
      rcases mem_shape_cases hshape (List.mem_append_right _ List.mem_cons_self) with
        rfl | rfl | ⟨mark, hmark, rfl⟩
      · decide
      · decide
      · cases mark with
        | identifier => cases hmark
        | number => cases hmark
        | string => cases hmark
        | endOfInput => cases hmark
        | other => cases hmark
        | _ => decide
  | next _ _ ih => exact ih

theorem Span.Marks.exists_line {s : Span} {code text back : Text} (h : s.Marks code text back) :
    ∃ front, Diagnostic.sourceLine? code s.line = some (front ++ text ++ back) ∧
      s.column = front.length ∧ s.length = text.length ∧ text ≠ [] := by
  obtain ⟨line, hline, hcolumn, hlength, hfits, rfl, rfl⟩ := h
  refine ⟨line.take s.column.toNat, ?_, ?_, ?_, ?_⟩
  · rw [hline, ← List.drop_drop, List.append_assoc, List.take_append_drop, List.take_append_drop]
  · rw [List.length_take]
    omega
  · rw [List.length_take, List.length_drop]
    omega
  · rw [← List.length_pos_iff, List.length_take, List.length_drop]
    omega

namespace Diagnostic

theorem not_mem_fill {texts details : List Text} (htexts : ∀ t ∈ texts, char '\n' ∉ t)
    (hdetails : ∀ t ∈ details, char '\n' ∉ t) : char '\n' ∉ fill texts details := by
  induction texts generalizing details with
  | nil => simp [fill]
  | cons text texts ih =>
      cases details with
      | nil => simp [fill]
      | cons detail details =>
          rw [List.forall_mem_cons] at htexts hdetails
          have hrest := ih htexts.2 hdetails.2
          simp [fill, htexts.1, hdetails.1, hrest]

-- The wordings have no line feeds, so a message has those of its details.
theorem not_mem_message {d : Diagnostic} (h : ∀ detail ∈ d.details, char '\n' ∉ detail) :
    char '\n' ∉ d.message := by
  have hwording : ∀ k : Kind, char '\n' ∉ k.wording.1 ∧ ∀ t ∈ k.wording.2, char '\n' ∉ t := by
    intro k
    cases k <;> decide
  rw [message, List.mem_append, not_or]
  exact ⟨(hwording d.kind).1, not_mem_fill (hwording d.kind).2 h⟩

-- The diagnostic is about this text on one line of the code, with `back` after it. A quote that is
-- not closed reaches to the end of the line; anything else ends before the returns there.
structure PointsAt (d : Diagnostic) (code text back : Text) : Prop where
  marks : d.span.Marks code text back
  reaches : d.kind = .unmatched → back = []
  ends : d.kind ≠ .unmatched → text.getLast? ≠ some (char '\r')
  details : ∀ detail ∈ d.details, char '\n' ∉ detail

theorem pointsAt_invalidToken (before rest : Text) {w : Text} (hne : w ≠ [])
    (hfeed : char '\n' ∉ w) (hreturn : char '\r' ∉ w) :
    ∃ text back, PointsAt ⟨.invalidToken, .past before w.length, [w], Nat.le_refl 1⟩
      (before ++ (w ++ rest)) text back := by
  have hmarks := Span.marks_past before rest hne hfeed
  rw [List.append_assoc] at hmarks
  exact ⟨w, _, hmarks, by simp, fun _ hlast => hreturn (List.mem_of_getLast? hlast), by simpa⟩

theorem exists_pointsAt_of_tokenize {code : Text} {d : Diagnostic}
    (h : Token.tokenize code = .error (.diagnostic d)) :
    ∃ text back, d.PointsAt code text back := by
  obtain ⟨before, tail, hfails⟩ := Token.exists_failsAt h
  obtain rfl := hfails.split
  cases hfails.bad with
  | @unclosed more rest hquote hfeed hrest =>
      have hfeed' : char '\n' ∉ char '\x22' :: more := by
        rw [List.mem_cons, not_or]
        exact ⟨by decide, hfeed⟩
      have hmarks := Span.marks_past before rest (List.cons_ne_nil _ more) hfeed'
      have hback := Text.takeWhile_append (w := []) (by simp) hrest
      rw [List.append_assoc] at hmarks
      refine ⟨_, _, hmarks, fun _ => hback, fun hkind => absurd rfl hkind, ?_⟩
      rw [List.forall_mem_singleton]
      decide
  | @great digits rest hne hdigits =>
      exact pointsAt_invalidToken before rest hne (Text.not_mem_of_class hdigits (by decide))
        (Text.not_mem_of_class hdigits (by decide))
  | @numeral c rest hword =>
      have hclass : ∀ d ∈ [c], Text.isWord d = true := by simpa using hword
      exact pointsAt_invalidToken before rest (List.cons_ne_nil c [])
        (Text.not_mem_of_class hclass (by decide)) (Text.not_mem_of_class hclass (by decide))
  | @stray c rest _ _ hblank =>
      have hclass : ∀ d ∈ [c], (!Text.isBlank d) = true := by simpa using hblank
      exact pointsAt_invalidToken before rest (List.cons_ne_nil c [])
        (Text.not_mem_of_class hclass (by decide)) (Text.not_mem_of_class hclass (by decide))

theorem exists_pointsAt_of_ofTokens {code : Text} {tokens : List Token} {d : Diagnostic}
    (htokens : Token.tokenize code = .ok tokens)
    (h : Program.ofTokens tokens = .error (.diagnostic d)) :
    ∃ text back, d.PointsAt code text back := by
  obtain ⟨text, back, hmarks, hblames⟩ := exists_marks_of_ofTokens htokens h
  obtain ⟨c, hrun⟩ : ∃ c, Step.runFrom Parser.program { rest := tokens } =
      (.error (.diagnostic d), c) := ⟨_, Prod.ext h rfl⟩
  obtain ⟨front, t, rest, e, found, hsplit, -, hawaits, -, hfound, hd⟩ :=
    Parser.exists_misfit htokens hrun
  obtain rfl := Fault.diagnostic.inj hd
  have hspells : ∃ t : Token, t.Spells text := by
    obtain ⟨-, -, t, -, -, -, -, -, -, -, -, ⟨-, hspells⟩ | ⟨-, -, last, -, hspells⟩⟩ := hblames
    · exact ⟨t, hspells⟩
    · exact ⟨last, hspells⟩
  obtain ⟨t', hspells⟩ := hspells
  refine ⟨text, back, hmarks, by simp, fun _ => hspells.getLast?_ne, ?_⟩
  have ht : t ∈ tokens := by rw [hsplit]; simp
  simpa using ⟨hawaits.not_mem_wording, Token.not_mem_describe htokens ht hfound⟩

theorem exists_pointsAt_of_violation {code : Text} {tokens : List Token} {p : Program}
    {v : Violation} (htokens : Token.tokenize code = .ok tokens)
    (hp : Program.ofTokens tokens = .ok p) (hv : v ∈ p.violations []) :
    ∃ text back, v.diagnostic.PointsAt code text back := by
  obtain ⟨t, -, hvt, q, hq, hcovers⟩ := Violation.exists_piece htokens hp hv
  obtain ⟨back, hmarks⟩ := hcovers.exists_marks q.text_ne_nil
  rw [← hvt.span_eq] at hmarks
  have hspells : t.Spells q.text := hq ▸ q.spells_token t.span
  refine ⟨q.text, back, hmarks, fun hkind => absurd hkind v.kind_ne,
    fun _ => hspells.getLast?_ne, ?_⟩
  have hname : ∀ n, t.kind = .identifier ∧ n = Name.ofToken t → char '\n' ∉ n.value.display := by
    rintro n ⟨hkind, rfl⟩
    simp only [Token.Spells, hkind] at hspells
    rw [Name.ofToken, hspells.1]
    exact q.not_mem_text
  cases v with
  | textOperand span =>
      rw [Violation.diagnostic, List.forall_mem_singleton]
      decide
  | _ n =>
      rw [Violation.diagnostic, List.forall_mem_singleton]
      exact hname n hvt

theorem exists_pointsAt {code : Text} {d : Diagnostic}
    (h : (runCompile code).1 = .error (.diagnostic d)) :
    ∃ text back, d.PointsAt code text back := by
  rcases runCompile_eq_error_cases h with
    htokens | ⟨tokens, htokens, hp⟩ | ⟨tokens, p, v, htokens, hp, hv, hd⟩
  · exact exists_pointsAt_of_tokenize htokens
  · exact exists_pointsAt_of_ofTokens htokens hp
  · obtain rfl := Fault.diagnostic.inj hd
    exact exists_pointsAt_of_violation htokens hp hv

def placeRow (d : Diagnostic) (path : Text) : Text :=
  let number := Text.ofInt (d.span.line + 1)
  spaces number.length ++ "--> " ++ path ++ ":" ++ number ++ ":" ++ Text.ofInt (d.span.column + 1)

def lineRow (d : Diagnostic) (line : Text) : Text :=
  " " ++ Text.ofInt (d.span.line + 1) ++ " | " ++ line

def markRow (d : Diagnostic) : Text :=
  spaces (Text.ofInt (d.span.line + 1)).length ++ "    " ++ spaces d.span.column.toNat ++
    marks d.span.length.toNat

theorem render_eq {d : Diagnostic} {source : Source} {line : Text}
    (h : sourceLine? source.code d.span.line = some line) :
    d.render source = Text.join "\n"
      [d.message, d.placeRow source.path, d.lineRow line.dropReturns, d.markRow] := by
  simp only [render, h]
  rfl

-- The marks are so many blanks from the left, and stand below this text.
def Underlines (above row text : Text) : Prop :=
  ∃ front back, above = front ++ text ++ back ∧ row = spaces front.length ++ marks text.length

theorem Underlines.length_le {above row text : Text} (h : Underlines above row text) :
    row.length ≤ above.length := by
  obtain ⟨front, back, rfl, rfl⟩ := h
  simp only [spaces, marks, List.length_append, List.length_replicate]
  omega

theorem length_lineRow (d : Diagnostic) (line : Text) :
    (d.lineRow line).length = (Text.ofInt (d.span.line + 1)).length + 4 + line.length := by
  have hblank : (Text.ofString " ").length = 1 := rfl
  have hbar : (Text.ofString " | ").length = 3 := rfl
  simp only [lineRow, List.length_append, hblank, hbar]
  omega

-- The two rows are indented alike, for numbers of any length.
theorem markRow_eq {d : Diagnostic} {front text : Text} (hcolumn : d.span.column = front.length)
    (hlength : d.span.length = text.length) :
    d.markRow = spaces (d.lineRow front).length ++ marks text.length := by
  have hindent : Text.ofString "    " = spaces 4 := rfl
  rw [markRow, hcolumn, hlength, Int.toNat_natCast, Int.toNat_natCast, length_lineRow, hindent]
  simp only [spaces, List.replicate_append_replicate]

theorem underlines_markRow {d : Diagnostic} {front text : Text}
    (hcolumn : d.span.column = front.length) (hlength : d.span.length = text.length) (back : Text) :
    Underlines (d.lineRow (front ++ text ++ back)) d.markRow text :=
  ⟨d.lineRow front, back, by simp [lineRow], markRow_eq hcolumn hlength⟩

theorem sourceLines_render {d : Diagnostic} {code path line text back : Text}
    (h : d.PointsAt code text back) (hpath : char '\n' ∉ path)
    (hline : sourceLine? code d.span.line = some line) :
    (d.render ⟨code, path⟩).sourceLines =
      [d.message, d.placeRow path, d.lineRow line.dropReturns, d.markRow] := by
  obtain ⟨-, -, hcolumn, -⟩ := h.marks
  have hnumber : 0 ≤ d.span.line ∧ line ∈ code.sourceLines := by
    rw [sourceLine?] at hline
    split at hline
    · cases hline
    · exact ⟨by omega, List.mem_of_getElem? hline⟩
  have hfeed := Text.not_mem_of_mem_sourceLines hnumber.2
  have hshown : char '\n' ∉ line.dropReturns := fun hmem =>
    hfeed ((Text.dropReturns_sublist line).subset hmem)
  have hline' : char '\n' ∉ Text.ofInt (d.span.line + 1) := Text.not_mem_ofInt (by omega)
  have hcolumn' : char '\n' ∉ Text.ofInt (d.span.column + 1) := Text.not_mem_ofInt (by omega)
  rw [render_eq hline]
  apply Text.sourceLines_join (List.cons_ne_nil _ _)
  simp only [List.forall_mem_cons, List.not_mem_nil, false_imp_iff, implies_true, and_true]
  refine ⟨not_mem_message h.details, ?_, ?_, ?_⟩
  · simp [placeRow, spaces, hpath, hline', hcolumn', Text.ofString]
  · simp [lineRow, hline', hshown, Text.ofString]
  · simp [markRow, spaces, marks, Text.ofString]

end Diagnostic

-- A diagnostic is shown in four lines. The third is the line that it is about, without the returns
-- at its end, behind its number. In the fourth, the marks stand where the text in question is in
-- the line as it was written. That is below this text also as it is shown, unless a quote is not
-- closed and its line ends in returns.
theorem report_underlines {code path : Text} {r : Report} {d : Diagnostic}
    (hpath : char '\n' ∉ path) (hr : report ⟨code, path⟩ = .ok r) (hd : r.diagnostic = some d) :
    ∃ shown row line text back, r.errors = [shown] ∧
      Diagnostic.sourceLine? code d.span.line = some line ∧ d.span.Marks code text back ∧
      d.span.length = text.length ∧
      shown.sourceLines = [d.message, d.placeRow path, d.lineRow line.dropReturns, row] ∧
      Diagnostic.Underlines (d.lineRow line) row text ∧
      (Diagnostic.Underlines (d.lineRow line.dropReturns) row text ↔
        ¬(d.kind = .unmatched ∧ line.getLast? = some (char '\r'))) := by
  obtain ⟨hrun, herrors⟩ := runCompile_of_report hr hd
  obtain ⟨text, back, hpoints⟩ := Diagnostic.exists_pointsAt hrun
  obtain ⟨front, hline, hcolumn, hlength, hne⟩ := hpoints.marks.exists_line
  refine ⟨_, d.markRow, _, text, back, herrors, hline, hpoints.marks, hlength,
    Diagnostic.sourceLines_render hpoints hpath hline,
    Diagnostic.underlines_markRow hcolumn hlength back, ?_, ?_⟩
  · rintro hunder ⟨hkind, hlast⟩
    have hshort := Text.length_dropReturns_lt hlast
    have hfits := hunder.length_le
    rw [Diagnostic.markRow_eq hcolumn hlength] at hfits
    simp only [Diagnostic.spaces, Diagnostic.marks, Diagnostic.length_lineRow, List.length_append,
      List.length_replicate, hpoints.reaches hkind, List.append_nil] at hshort hfits
    omega
  · intro hshown
    have hlast : (front ++ text).getLast? ≠ some (char '\r') := by
      by_cases hkind : d.kind = .unmatched
      · intro hreturn
        rw [hpoints.reaches hkind, List.append_nil] at hshown
        exact hshown ⟨hkind, hreturn⟩
      · rw [List.getLast?_append_of_ne_nil _ hne]
        exact hpoints.ends hkind
    rw [Text.dropReturns_append (by simp [hne]) hlast]
    exact Diagnostic.underlines_markRow hcolumn hlength _

-- The line ends in a return, after the name that is not known.
theorem report_underlines_before_return :
    ∃ r d shown row line text back, report ⟨"\nexit(abc);\r\n", "p"⟩ = .ok r ∧
      r.diagnostic = some d ∧ r.errors = [shown] ∧ line = "exit(abc);\r" ∧
      d.span.Marks "\nexit(abc);\r\n" text back ∧ d.span.length = text.length ∧
      shown.sourceLines = [d.message, d.placeRow "p", d.lineRow "exit(abc);", row] ∧
      Diagnostic.Underlines (d.lineRow "exit(abc);") row text := by
  have hrun : (runCompile "\nexit(abc);\r\n").1 =
      .error (.diagnostic ⟨.notFound, ⟨1, 5, 3⟩, ["abc"], Nat.le_refl 1⟩) := by
    decide +kernel
  obtain ⟨r, hr, -⟩ := report_of_error hrun "p"
  obtain ⟨shown, row, line, text, back, herrors, hline, hmarks, hlength, hlines, -, hunder⟩ :=
    report_underlines (by decide) hr rfl
  obtain rfl : line = "exit(abc);\r" := by
    have hsecond : Diagnostic.sourceLine? "\nexit(abc);\r\n" 1 = some "exit(abc);\r" := by
      decide +kernel
    exact Option.some.inj (hline.symm.trans hsecond)
  exact ⟨_, _, shown, row, _, text, back, hr, rfl, herrors, rfl, hmarks, hlength, hlines,
    hunder.mpr (by decide)⟩

-- A quote that is not closed, on a line that ends in a return: there is a mark below nothing.
theorem report_marks_past_line :
    ∃ r d, report ⟨"let s = \"hi;\r\nexit(0);\r\n", "p"⟩ = .ok r ∧ r.diagnostic = some d ∧
      d.span = ⟨0, 8, 5⟩ ∧
      r.errors = ["Unmatched '\"'\n --> p:1:9\n 1 | let s = \"hi;\n             ^^^^^"] ∧
      ¬∃ text, Diagnostic.Underlines " 1 | let s = \"hi;" "             ^^^^^" text := by
  have hrun : (runCompile "let s = \"hi;\r\nexit(0);\r\n").1 =
      .error (.diagnostic ⟨.unmatched, ⟨0, 8, 5⟩, ["\""], Nat.le_refl 1⟩) := by
    decide +kernel
  obtain ⟨r, hr, -⟩ := report_of_error hrun "p"
  refine ⟨_, _, hr, rfl, rfl, ?_, ?_⟩
  · rw [(runCompile_of_report hr rfl).2]
    decide +kernel
  · rintro ⟨text, hunder⟩
    exact absurd hunder.length_le (by decide)

end SlotCompiler
