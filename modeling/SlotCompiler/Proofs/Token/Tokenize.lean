import SlotCompiler.Proofs.Token.Layout
import SlotCompiler.Proofs.Token.Scan

namespace SlotCompiler.Token

open CodePoint (char)
open Lexeme (Takes)
open Text (Stops)

def Piece.Ends : Piece → Text → Prop
  | word .., rest => Stops Text.isWord rest
  | number .., rest => Stops CodePoint.isAsciiDigit rest
  | _, _ => True

theorem Piece.exists_takes (p : Piece) {rest : Text} (h : p.Ends rest) :
    ∃ lexeme c more, p.text = c :: more ∧ Takes lexeme c more rest ∧
      ∀ span, ofLexeme lexeme c more span = .ok (some (p.token span)) := by
  cases p with
  | word first more hfirst hmore =>
      refine ⟨.word, first, more, rfl, .word (Text.isWordStart_of_isNameStart hfirst) hmore h, ?_⟩
      intro span
      rw [ofLexeme, if_pos hfirst]
      rfl
  | number digits hne hdigits hlength hvalue =>
      obtain ⟨c, more, rfl⟩ := List.exists_cons_of_ne_nil hne
      have hc := hdigits c (by simp)
      have hmore : ∀ d ∈ more, d.isAsciiDigit = true := fun d hd => hdigits d (by simp [hd])
      refine ⟨.digits, c, more, rfl, .digits hc hmore h, ?_⟩
      intro span
      have hlimit : ¬Number.digitLimit < more.length + 1 := Nat.not_lt.mpr hlength
      have hmax : ¬maxNumber < Text.decimalValue (c :: more) :=
        Nat.not_lt.mpr (Nat.le_of_lt_succ hvalue)
      simp only [ofLexeme, if_neg hlimit, if_neg hmax]
      rfl
  | quoted body hbody =>
      have hinside : ∀ d ∈ body, Lexeme.inString d = true := by
        intro d hd
        simp [Lexeme.inString, Text.bne_of_not_mem hbody.1 d hd, Text.bne_of_not_mem hbody.2 d hd]
      refine ⟨.string, _, _, rfl, .string hinside, ?_⟩
      intro span
      simp [ofLexeme, token, kind, value]
  | semicolon => exact ⟨_, _, _, rfl, .punctuation rfl, fun _ => rfl⟩
  | openParen => exact ⟨_, _, _, rfl, .punctuation rfl, fun _ => rfl⟩
  | closeParen => exact ⟨_, _, _, rfl, .punctuation rfl, fun _ => rfl⟩
  | assign => exact ⟨_, _, _, rfl, .punctuation rfl, fun _ => rfl⟩

theorem exists_piece {lexeme : Lexeme} {c : CodePoint} {more rest : Text} {span : Span}
    {t : Token} (h : Takes lexeme c more rest)
    (hok : ofLexeme lexeme c more span = .ok (some t)) :
    ∃ p : Piece, p.text = c :: more ∧ p.Ends rest ∧ t = p.token span := by
  cases h with
  | comment => simp [ofLexeme] at hok
  | newline => simp [ofLexeme] at hok
  | @string body _ hbody =>
      have hquote := Text.not_mem_of_class (d := char '\x22') hbody (by decide)
      have hfeed := Text.not_mem_of_class (d := char '\n') hbody (by decide)
      simp only [ofLexeme, List.dropLast_concat, Except.ok.injEq, Option.some.injEq] at hok
      exact ⟨.quoted body ⟨hquote, hfeed⟩, rfl, trivial, hok.symm⟩
  | openQuote => simp [ofLexeme] at hok
  | word hc hmore hrest =>
      by_cases hfirst : Text.isNameStart c = true
      · simp only [ofLexeme, if_pos hfirst, Except.ok.injEq, Option.some.injEq] at hok
        exact ⟨.word c more hfirst hmore, rfl, hrest, hok.symm⟩
      · simp [ofLexeme, hfirst] at hok
  | digits hc hmore hrest =>
      have hdigits : ∀ d ∈ c :: more, d.isAsciiDigit = true := by
        simpa using ⟨hc, hmore⟩
      simp only [ofLexeme] at hok
      split at hok
      · cases hok
      rename_i hlimit
      split at hok
      · cases hok
      rename_i hmax
      simp only [Except.ok.injEq, Option.some.injEq] at hok
      exact ⟨.number (c :: more) (by simp) hdigits (Nat.not_lt.mp hlimit)
        (Nat.lt_succ_of_le (Nat.not_lt.mp hmax)), rfl, hrest, hok.symm⟩
  | punctuation hc =>
      simp only [ofLexeme, Except.ok.injEq, Option.some.injEq] at hok
      rcases Lexeme.punctuation?_eq_some hc with ⟨rfl, rfl⟩ | ⟨rfl, rfl⟩ | ⟨rfl, rfl⟩ | ⟨rfl, rfl⟩
      · exact ⟨.semicolon, rfl, trivial, hok.symm⟩
      · exact ⟨.openParen, rfl, trivial, hok.symm⟩
      · exact ⟨.closeParen, rfl, trivial, hok.symm⟩
      · exact ⟨.assign, rfl, trivial, hok.symm⟩
  | blank => simp [ofLexeme] at hok
  | stray => simp [ofLexeme] at hok

theorem blank_or_comment {lexeme : Lexeme} {c : CodePoint} {more rest : Text} {span : Span}
    (h : Takes lexeme c more rest) (hok : ofLexeme lexeme c more span = .ok none) :
    Text.isBlank c = true ∧ more = [] ∨
      c = char '#' ∧ char '\n' ∉ more ∧ Stops (· != char '\n') rest := by
  cases h with
  | comment hmore hrest => exact .inr ⟨rfl, hmore, hrest⟩
  | newline => exact .inl ⟨by decide, rfl⟩
  | string => simp [ofLexeme] at hok
  | openQuote => simp [ofLexeme] at hok
  | word =>
      simp only [ofLexeme] at hok
      split at hok <;> cases hok
  | digits =>
      simp only [ofLexeme] at hok
      split at hok
      · cases hok
      · split at hok <;> cases hok
  | punctuation => simp [ofLexeme] at hok
  | blank hc => exact .inl ⟨hc, rfl⟩
  | stray => simp [ofLexeme] at hok

theorem scanAfter_blank {c : CodePoint} (hc : Text.isBlank c = true) (before rest : Text) :
    scanAfter before (c :: rest) = scanAfter (before ++ [c]) rest := by
  by_cases hfeed : c = char '\n'
  · subst hfeed
    exact scanAfter_takes .newline before
  · exact scanAfter_takes (.blank hc hfeed) before

theorem scanAfter_comment {body rest : Text} (hbody : char '\n' ∉ body)
    (hrest : Stops (· != char '\n') rest) (before : Text) :
    scanAfter before (char '#' :: body ++ rest) = scanAfter (before ++ char '#' :: body) rest :=
  scanAfter_takes (.comment hbody hrest) before

theorem scanAfter_trivia {gap : Text} (h : Trivia gap) (before rest : Text) :
    scanAfter before (gap ++ rest) = scanAfter (before ++ gap) rest := by
  induction h generalizing before with
  | nil => simp
  | blank hc hrest ih => rw [List.cons_append, scanAfter_blank hc, ih, ← List.append_cons]
  | @comment body tail hbody hrest ih =>
      rw [List.append_assoc, scanAfter_comment hbody (by simp [Stops]), ih]
      simp

theorem scanAfter_closing {last : Text} (h : ClosingTrivia last) (before : Text) :
    scanAfter before last = ⟨[], .past (before ++ last), none⟩ := by
  rcases h with htrivia | ⟨front, body, rfl, hfront, hbody⟩
  · simpa using scanAfter_trivia htrivia before []
  · have hstops : Stops (· != char '\n') [] := by simp [Stops]
    have hcomment := scanAfter_comment hbody hstops (before ++ front)
    rw [List.append_nil] at hcomment
    rw [scanAfter_trivia hfront, hcomment, scanAfter_nil, List.append_assoc]

theorem scanAfter_piece (p : Piece) {rest : Text} (h : p.Ends rest) (before : Text) :
    scanAfter before (p.text ++ rest) =
      (scanAfter (before ++ p.text) rest).prepend
        (some (p.token (.past before p.text.length))) := by
  obtain ⟨lexeme, c, more, htext, htakes, htoken⟩ := p.exists_takes h
  rw [htext, scanAfter_takes htakes, htoken]
  rfl

-- Trivia starts with no character that goes on with a word or a number.
theorem Trivia.stops {gap : Text} (h : Trivia gap) (hne : gap ≠ []) (rest : Text) :
    Stops Text.isWord (gap ++ rest) ∧ Stops CodePoint.isAsciiDigit (gap ++ rest) := by
  cases h with
  | nil => exact absurd rfl hne
  | blank hc =>
      have hword := Text.isWord_eq_false_of_isBlank hc
      have hdigit := Text.isAsciiDigit_eq_false_of_isBlank hc
      simp [Stops, hword, hdigit]
  | comment =>
      have hword : Text.isWord (char '#') = false := by decide
      have hdigit : (char '#').isAsciiDigit = false := by decide
      simp [Stops, hword, hdigit]

theorem ClosingTrivia.stops {last : Text} (h : ClosingTrivia last) :
    Stops Text.isWord last ∧ Stops CodePoint.isAsciiDigit last := by
  have hhash : ∀ body, Stops Text.isWord (char '#' :: body) ∧
      Stops CodePoint.isAsciiDigit (char '#' :: body) := by
    intro body
    have hword : Text.isWord (char '#') = false := by decide
    have hdigit : (char '#').isAsciiDigit = false := by decide
    simp [Stops, hword, hdigit]
  rcases h with htrivia | ⟨front, body, rfl, hfront, -⟩
  · by_cases hne : last = []
    · simp [hne, Stops]
    · simpa using htrivia.stops hne []
  · by_cases hne : front = []
    · rw [hne]
      exact hhash body
    · exact hfront.stops hne _

-- One piece ends before another exactly when the two need not be kept apart.
theorem Piece.ends_append_iff (p q : Piece) (rest : Text) :
    p.Ends (q.text ++ rest) ↔ p.runsInto q = false := by
  have hname : ∀ {c : CodePoint}, Text.isNameStart c = true →
      Text.isWord c = true ∧ c.isAsciiDigit = false := by
    intro c hc
    have hstart := Text.isWordStart_of_isNameStart hc
    refine ⟨Text.isWord_of_isWordStart hstart, ?_⟩
    rw [Bool.eq_false_iff]
    intro hdigit
    simp [Text.isWordStart_eq_false_of_isAsciiDigit hdigit] at hstart
  have hdigit : ∀ {c : CodePoint}, c.isAsciiDigit = true → Text.isWord c = true := by
    intro c hc
    simp [Text.isWord, Text.isDecimalDigit_of_isAsciiDigit hc]
  cases p with
  | word =>
      cases q with
      | word first more hfirst => simp [Ends, runsInto, text, Stops, hname hfirst]
      | number digits hne hdigits =>
          obtain ⟨c, more, rfl⟩ := List.exists_cons_of_ne_nil hne
          simp [Ends, runsInto, text, Stops, hdigit (hdigits c (by simp))]
      | _ => exact iff_of_true (by simp [Ends, text, Stops]; decide) rfl
  | number =>
      cases q with
      | word first more hfirst => simp [Ends, runsInto, text, Stops, hname hfirst]
      | number digits hne hdigits =>
          obtain ⟨c, more, rfl⟩ := List.exists_cons_of_ne_nil hne
          simp [Ends, runsInto, text, Stops, hdigits c (by simp)]
      | _ => exact iff_of_true (by simp [Ends, text, Stops]; decide) rfl
  | _ => simp [Ends, runsInto]

theorem Piece.ends_items (p : Piece) {items : List Item} {last : Text}
    (hclosing : ClosingTrivia last)
    (hapart : ∀ j ∈ items.head?, p.runsInto j.piece = true → j.gap ≠ []) :
    p.Ends (items.flatMap Item.text ++ last) := by
  have hstops : ∀ {t : Text}, Stops Text.isWord t ∧ Stops CodePoint.isAsciiDigit t → p.Ends t := by
    intro t ht
    cases p with
    | word => exact ht.1
    | number => exact ht.2
    | _ => trivial
  cases items with
  | nil => exact hstops hclosing.stops
  | cons j rest =>
      rw [List.flatMap_cons, Item.text, List.append_assoc, List.append_assoc]
      by_cases hgap : j.gap = []
      · rw [hgap, List.nil_append, p.ends_append_iff, Bool.eq_false_iff]
        intro hruns
        exact hapart j rfl hruns hgap
      · exact hstops (j.trivia.stops hgap _)

theorem scanAfter_items {items : List Item} {last : Text} (hclosing : ClosingTrivia last)
    (hapart : items.IsChain fun i j => i.piece.runsInto j.piece = true → j.gap ≠ [])
    (before : Text) :
    scanAfter before (items.flatMap Item.text ++ last) =
      ⟨placed before items, .past (before ++ (items.flatMap Item.text ++ last)), none⟩ := by
  induction items generalizing before with
  | nil => exact scanAfter_closing hclosing before
  | cons i rest ih =>
      obtain ⟨hhead, htail⟩ := List.isChain_cons.mp hapart
      have hends := i.piece.ends_items hclosing hhead
      rw [List.flatMap_cons, Item.text, List.append_assoc, List.append_assoc,
        scanAfter_trivia i.trivia, scanAfter_piece i.piece hends, ih htail]
      simp [Scanned.prepend, placed, Item.text]

theorem ClosingTrivia.blank {c : CodePoint} {last : Text} (hc : Text.isBlank c = true)
    (h : ClosingTrivia last) : ClosingTrivia (c :: last) := by
  rcases h with htrivia | ⟨front, body, rfl, hfront, hbody⟩
  · exact .inl (.blank hc htrivia)
  · exact .inr ⟨c :: front, body, rfl, .blank hc hfront, hbody⟩

theorem ClosingTrivia.comment {body last : Text} (hbody : char '\n' ∉ body)
    (hlast : Stops (· != char '\n') last) (h : ClosingTrivia last) :
    ClosingTrivia (char '#' :: body ++ last) := by
  cases last with
  | nil => exact .inr ⟨[], body, by simp, .nil, hbody⟩
  | cons d last =>
      obtain rfl : d = char '\n' := by simpa using hlast d rfl
      rcases h with htrivia | ⟨front, tail, heq, hfront, htail⟩
      · exact .inl (.comment hbody htrivia)
      · cases front with
        | nil => simp at heq
        | cons e front =>
            obtain ⟨rfl, rfl⟩ := List.cons.inj heq
            exact .inr ⟨char '#' :: body ++ char '\n' :: front, tail, by simp,
              .comment hbody hfront, htail⟩

-- Text put in front of a layout joins the trivia that it starts with.
theorem Layout.exists_indented (l : Layout) (front : Text)
    (hgap : ∀ i ∈ l.items.head?, Trivia (front ++ i.gap))
    (hlast : l.items = [] → ClosingTrivia (front ++ l.last)) :
    ∃ m : Layout, m.text = front ++ l.text ∧
      ∀ before, placed before m.items = placed (before ++ front) l.items := by
  obtain ⟨items, last, closing, apart⟩ := l
  cases items with
  | nil => exact ⟨⟨[], front ++ last, hlast rfl, .nil⟩, by simp [text], fun _ => rfl⟩
  | cons i rest =>
      have hchain := List.isChain_cons.mp apart
      refine ⟨⟨⟨front ++ i.gap, i.piece, hgap i rfl⟩ :: rest, last, closing,
        List.isChain_cons.mpr hchain⟩, ?_, ?_⟩
      · simp [text, Item.text]
      · intro before
        simp [placed, Item.text]

theorem Layout.exists_blank (l : Layout) {c : CodePoint} (hc : Text.isBlank c = true) :
    ∃ m : Layout, m.text = c :: l.text ∧
      ∀ before, placed before m.items = placed (before ++ [c]) l.items :=
  l.exists_indented [c] (fun i _ => .blank hc i.trivia) (fun _ => l.closing.blank hc)

theorem Layout.exists_comment (l : Layout) {body : Text} (hbody : char '\n' ∉ body)
    (hstops : Stops (· != char '\n') l.text) :
    ∃ m : Layout, m.text = char '#' :: body ++ l.text ∧
      ∀ before, placed before m.items = placed (before ++ char '#' :: body) l.items := by
  apply l.exists_indented
  · intro i hi
    obtain ⟨rest, hitems⟩ : ∃ rest, l.items = i :: rest := List.head?_eq_some_iff.mp hi
    have htext : l.text = i.gap ++ (i.piece.text ++ (rest.flatMap Item.text ++ l.last)) := by
      simp [text, hitems, Item.text]
    rw [htext] at hstops
    cases hgap : i.gap with
    | nil =>
        -- The comment would run into the piece.
        obtain ⟨c, more, hpiece⟩ := List.exists_cons_of_ne_nil i.piece.text_ne_nil
        have hc : c = char '\n' := by simpa [hgap, hpiece, Stops] using hstops
        exact absurd (by simp [hpiece, hc]) i.piece.not_mem_text
    | cons d gap =>
        obtain rfl : d = char '\n' := by simpa [hgap, Stops] using hstops
        exact .comment hbody (hgap ▸ i.trivia)
  · intro hitems
    apply ClosingTrivia.comment hbody _ l.closing
    simpa [text, hitems] using hstops

theorem Layout.exists_piece (l : Layout) {p : Piece} (h : p.Ends l.text) :
    ∃ m : Layout, m.text = p.text ++ l.text ∧ ∀ before, placed before m.items =
      p.token (.past before p.text.length) :: placed (before ++ p.text) l.items := by
  have hapart : ∀ j ∈ l.items.head?, p.runsInto j.piece = true → j.gap ≠ [] := by
    intro j hj hruns hgap
    obtain ⟨rest, hitems⟩ := List.head?_eq_some_iff.mp hj
    have htext : l.text = j.piece.text ++ (rest.flatMap Item.text ++ l.last) := by
      simp [text, hitems, Item.text, hgap]
    rw [htext, p.ends_append_iff] at h
    simp [h] at hruns
  refine ⟨⟨⟨[], p, .nil⟩ :: l.items, l.last, l.closing,
    List.isChain_cons.mpr ⟨hapart, l.apart⟩⟩, ?_, ?_⟩
  · simp [text, Item.text]
  · intro before
    simp [placed, Item.text]

-- A scan that does not fail has read a layout: the first lexeme is put in front of the layout of
-- the text after it.
theorem exists_layout {text before : Text} (h : (scanAfter before text).fault = none) :
    ∃ l : Layout, l.text = text ∧ (scanAfter before text).tokens = placed before l.items := by
  induction text using Lexeme.takes_induction generalizing before with
  | nil => exact ⟨⟨[], [], .inl .nil, .nil⟩, rfl, rfl⟩
  | @lexeme lexeme c more rest htakes ih =>
      have hstep := scanAfter_takes htakes before
      cases hlexeme : ofLexeme lexeme c more (Span.past before (more.length + 1)) with
      | error fault =>
          rw [hstep, hlexeme] at h
          cases h
      | ok token =>
          simp only [hlexeme] at hstep
          have hrest : (scanAfter (before ++ c :: more) rest).fault = none := by
            rw [hstep] at h
            exact h
          obtain ⟨l, rfl, htokens⟩ := ih hrest
          cases token with
          | some t =>
              obtain ⟨p, hp, hends, rfl⟩ := exists_piece htakes hlexeme
              obtain ⟨m, hm, hplaced⟩ := l.exists_piece hends
              refine ⟨m, by rw [hm, hp], ?_⟩
              rw [hstep, hplaced, hp]
              simp [Scanned.prepend, htokens]
          | none =>
              rcases blank_or_comment htakes hlexeme with ⟨hc, rfl⟩ | ⟨rfl, hmore, hstops⟩
              · obtain ⟨m, hm, hplaced⟩ := l.exists_blank hc
                refine ⟨m, hm, ?_⟩
                rw [hstep, hplaced]
                simp [Scanned.prepend, htokens]
              · obtain ⟨m, hm, hplaced⟩ := l.exists_comment hmore hstops
                refine ⟨m, hm, ?_⟩
                rw [hstep, hplaced]
                simp [Scanned.prepend, htokens]

theorem tokenize_eq (code : Text) :
    tokenize code =
      match (scanAfter [] code).fault with
      | some fault => .error fault
      | none => .ok ((scanAfter [] code).tokens ++ [endToken (scanAfter [] code).tokens]) := by
  have hstart : scan {} 0 0 code = scanAfter [] code := rfl
  simp only [tokenize, Scanner.read, hstart, List.nil_append]
  cases (scanAfter [] code).fault <;> rfl

theorem tokenize_eq_error_iff {code : Text} {fault : Fault} :
    tokenize code = .error fault ↔ (scanAfter [] code).fault = some fault := by
  rw [tokenize_eq]
  cases (scanAfter [] code).fault <;> simp

theorem tokenize_eq_ok_iff {code : Text} {tokens : List Token} :
    tokenize code = .ok tokens ↔ (scanAfter [] code).fault = none ∧
      tokens = (scanAfter [] code).tokens ++ [endToken (scanAfter [] code).tokens] := by
  rw [tokenize_eq]
  cases (scanAfter [] code).fault <;> simp [eq_comm]

-- Printing then tokenizing is the identity, for every layout.
theorem tokenize_layout (l : Layout) :
    tokenize l.text = .ok (l.tokens ++
      [⟨.endOfInput, .text [], (l.tokens.getLast?.map (·.span)).getD ⟨0, 0, 0⟩⟩]) := by
  have hscan := scanAfter_items l.closing l.apart []
  rw [tokenize_eq, Layout.text, hscan]
  rfl

theorem exists_layout_of_tokenize {code : Text} {tokens : List Token}
    (h : tokenize code = .ok tokens) :
    ∃ l : Layout, l.text = code ∧ tokens = l.tokens ++ [endToken l.tokens] := by
  obtain ⟨hfault, rfl⟩ := tokenize_eq_ok_iff.mp h
  obtain ⟨l, rfl, htokens⟩ := exists_layout hfault
  rw [htokens]
  exact ⟨l, rfl, rfl⟩

theorem Spells.kind_ne {t : Token} {text : Text} (h : t.Spells text) : t.kind ≠ .endOfInput := by
  intro hkind
  simp [Spells, hkind] at h

structure StandIn (code : Text) (front : List Token) : Prop where
  exists_piece : ∀ t ∈ front, ∃ p : Piece, t = p.token t.span ∧ t.span.Covers code p.text
  ordered : front.Pairwise fun s t => s.span.Precedes t.span

theorem StandIn.exists_spells {code : Text} {front : List Token} (h : StandIn code front)
    {t : Token} (ht : t ∈ front) : ∃ text, t.Spells text := by
  obtain ⟨p, hp, -⟩ := h.exists_piece t ht
  exact ⟨p.text, hp ▸ p.spells_token t.span⟩

theorem StandIn.kind_ne {code : Text} {front : List Token} (h : StandIn code front) :
    ∀ t ∈ front, t.kind ≠ .endOfInput := by
  intro t ht
  obtain ⟨text, hspells⟩ := h.exists_spells ht
  exact hspells.kind_ne

theorem exists_standIn_of_tokenize {code : Text} {tokens : List Token}
    (h : tokenize code = .ok tokens) :
    ∃ front, StandIn code front ∧ tokens = front ++ [endToken front] := by
  obtain ⟨l, rfl, rfl⟩ := exists_layout_of_tokenize h
  refine ⟨l.tokens, ⟨?_, pairwise_placed [] l.items⟩, rfl⟩
  exact fun t ht => exists_piece_of_mem_placed l.last ht

-- Nothing of a source is lost: it is a layout of its tokens, each of which stands where it says.
theorem tokenize_sound {code : Text} {tokens : List Token} (h : tokenize code = .ok tokens) :
    ∃ l : Layout, l.text = code ∧
      tokens = l.tokens ++
        [⟨.endOfInput, .text [], (l.tokens.getLast?.map (·.span)).getD ⟨0, 0, 0⟩⟩] ∧
      (∀ t ∈ l.tokens, t.kind ≠ .endOfInput ∧ ∃ text, t.Spells text ∧ t.span.Covers code text) ∧
      l.tokens.Pairwise fun s t => s.span.Precedes t.span := by
  obtain ⟨l, rfl, htokens⟩ := exists_layout_of_tokenize h
  refine ⟨l, rfl, htokens, ?_, pairwise_placed [] l.items⟩
  intro t ht
  obtain ⟨text, hspells, hcovers⟩ := covers_of_mem_placed l.last ht
  exact ⟨hspells.kind_ne, text, hspells, hcovers⟩

-- A hash inside quotes starts no comment, and the end of input stands at the last token.
theorem tokenize_sound_quoted_hash :
    ∃ l : Layout, l.text = "let a =\n\"#\"; # b" ∧
      [⟨.letKeyword, .text "let", ⟨0, 0, 3⟩⟩, ⟨.identifier, .text "a", ⟨0, 4, 1⟩⟩,
        ⟨.assign, .text "=", ⟨0, 6, 1⟩⟩, ⟨.string, .text "#", ⟨1, 0, 3⟩⟩,
        ⟨.semicolon, .text ";", ⟨1, 3, 1⟩⟩, ⟨.endOfInput, .text [], ⟨1, 3, 1⟩⟩] = l.tokens ++
        [⟨.endOfInput, .text [], (l.tokens.getLast?.map (·.span)).getD ⟨0, 0, 0⟩⟩] ∧
      (∀ t ∈ l.tokens, t.kind ≠ .endOfInput ∧ ∃ text, t.Spells text ∧
        t.span.Covers "let a =\n\"#\"; # b" text) ∧
      l.tokens.Pairwise fun s t => s.span.Precedes t.span :=
  tokenize_sound (by decide +kernel)

end SlotCompiler.Token
