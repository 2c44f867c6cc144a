import Mathlib.Data.List.Chain
import SlotCompiler.Proofs.Atom
import SlotCompiler.Proofs.Text.Classes
import SlotCompiler.Proofs.Text.Place
import SlotCompiler.Token.Lexeme

namespace SlotCompiler.Token

open CodePoint (char)
open Text (Stops)

-- Text without tokens. A comment ends at a line feed, which is a blank too.
inductive Trivia : Text → Prop where
  | nil : Trivia []
  | blank {c : CodePoint} {rest : Text} (hc : Text.isBlank c = true) (hrest : Trivia rest) :
      Trivia (c :: rest)
  | comment {body rest : Text} (hbody : char '\n' ∉ body) (hrest : Trivia (char '\n' :: rest)) :
      Trivia (char '#' :: body ++ char '\n' :: rest)

-- Text without tokens at the end of a source: its last comment may end there.
def ClosingTrivia (t : Text) : Prop :=
  Trivia t ∨ ∃ front body, t = front ++ char '#' :: body ∧ Trivia front ∧ char '\n' ∉ body

inductive Piece where
  | word (first : CodePoint) (more : Text) (hfirst : Text.isNameStart first = true)
      (hmore : ∀ c ∈ more, Text.isWord c = true)
  | number (digits : Text) (hne : digits ≠ []) (hdigits : ∀ c ∈ digits, c.isAsciiDigit = true)
      (hlength : digits.length ≤ 4300) (hvalue : digits.decimalValue < UInt64.size)
  | quoted (body : Text) (hbody : char '\x22' ∉ body ∧ char '\n' ∉ body)
  | semicolon
  | openParen
  | closeParen
  | assign

namespace Piece

def text : Piece → Text
  | word first more _ _ => first :: more
  | number digits _ _ _ _ => digits
  | quoted body _ => char '\x22' :: body ++ [char '\x22']
  | semicolon => [char ';']
  | openParen => [char '(']
  | closeParen => [char ')']
  | assign => [char '=']

def kind : Piece → Kind
  | word first more _ _ =>
    if first :: more = "let" then .letKeyword
    else if first :: more = "return" then .returnKeyword
    else .identifier
  | number _ _ _ _ _ => .number
  | quoted _ _ => .string
  | semicolon => .semicolon
  | openParen => .openParen
  | closeParen => .closeParen
  | assign => .assign

def value : Piece → Atom
  | number digits _ _ _ _ => .int digits.decimalValue
  | quoted body _ => .text body
  | p => .text p.text

def token (p : Piece) (span : Span) : Token := ⟨p.kind, p.value, span⟩

-- Written side by side, the two would be read differently.
def runsInto : Piece → Piece → Bool
  | word .., word .. => true
  | word .., number .. => true
  | number .., number .. => true
  | _, _ => false

end Piece

structure Item where
  gap : Text
  piece : Piece
  trivia : Trivia gap

def Item.text (i : Item) : Text := i.gap ++ i.piece.text

def placed (before : Text) : List Item → List Token
  | [] => []
  | i :: rest =>
    i.piece.token (.past (before ++ i.gap) i.piece.text.length) :: placed (before ++ i.text) rest

structure Layout where
  items : List Item
  last : Text
  closing : ClosingTrivia last
  apart : items.IsChain fun i j => i.piece.runsInto j.piece = true → j.gap ≠ []

namespace Layout

def text (l : Layout) : Text := l.items.flatMap Item.text ++ l.last

def tokens (l : Layout) : List Token := placed [] l.items

end Layout

-- How a token is written: a name or a keyword, a punctuation mark, a quoted text, or the digits of
-- a number of 64 bits.
def Spells (t : Token) (text : Text) : Prop :=
  match t.kind with
  | .identifier => t.value = .text text ∧ text ≠ "let" ∧ text ≠ "return" ∧
      ∃ c more, text = c :: more ∧ Text.isNameStart c = true ∧ ∀ d ∈ more, Text.isWord d = true
  | .number => t.value = .int text.decimalValue ∧ text.decimalValue < UInt64.size ∧ text ≠ [] ∧
      ∀ c ∈ text, c.isAsciiDigit = true
  | .string => ∃ body, t.value = .text body ∧ text = char '\x22' :: body ++ [char '\x22']
  | .letKeyword => t.value = .text text ∧ text = "let"
  | .returnKeyword => t.value = .text text ∧ text = "return"
  | .assign => t.value = .text text ∧ text = "="
  | .semicolon => t.value = .text text ∧ text = ";"
  | .openParen => t.value = .text text ∧ text = "("
  | .closeParen => t.value = .text text ∧ text = ")"
  | .endOfInput => False
  | .other _ => False

theorem Spells.short {t : Token} {text : Text} (h : t.Spells text) : t.value.Short := by
  obtain ⟨kind, value, span⟩ := t
  cases kind with
  | number =>
      obtain ⟨rfl, hbound, -⟩ := h
      exact Number.short_of_lt hbound
  | string =>
      obtain ⟨body, rfl, -⟩ := h
      trivial
  | endOfInput => cases h
  | other name => cases h
  | _ =>
      obtain ⟨rfl, -⟩ := h
      trivial

namespace Piece

theorem text_ne_nil (p : Piece) : p.text ≠ [] := by
  cases p with
  | number digits hne => exact hne
  | _ => simp [text]

theorem not_mem_text (p : Piece) : char '\n' ∉ p.text := by
  cases p with
  | word first more hfirst hmore =>
      intro h
      rcases List.mem_cons.mp h with rfl | hmem
      · exact absurd hfirst (by decide)
      · exact Text.not_mem_of_class hmore (by decide) hmem
  | number digits hne hdigits => exact Text.not_mem_of_class hdigits (by decide)
  | quoted body hbody => simpa [text] using hbody.2
  | _ => decide

theorem spells_token (p : Piece) (span : Span) : (p.token span).Spells p.text := by
  cases p with
  | word first more hfirst hmore =>
      by_cases hlet : first :: more = "let"
      · simp only [Spells, token, kind, if_pos hlet]
        exact ⟨rfl, hlet⟩
      by_cases hreturn : first :: more = "return"
      · simp only [Spells, token, kind, if_neg hlet, if_pos hreturn]
        exact ⟨rfl, hreturn⟩
      simp only [Spells, token, kind, if_neg hlet, if_neg hreturn]
      exact ⟨rfl, hlet, hreturn, first, more, rfl, hfirst, hmore⟩
  | number digits hne hdigits hlength hvalue =>
      exact ⟨rfl, hvalue, hne, hdigits⟩
  | quoted body => exact ⟨body, rfl, rfl⟩
  | _ => exact ⟨rfl, rfl⟩

end Piece

theorem exists_piece_of_mem_placed {items : List Item} {before : Text} {t : Token} (last : Text)
    (h : t ∈ placed before items) :
    ∃ p : Piece, t = p.token t.span ∧
      t.span.Covers (before ++ items.flatMap Item.text ++ last) p.text := by
  induction items generalizing before with
  | nil => simp [placed] at h
  | cons i rest ih =>
      rcases List.mem_cons.mp h with rfl | hrest
      · refine ⟨i.piece, rfl, ?_⟩
        have hcovers := Span.covers_past (before ++ i.gap) (rest.flatMap Item.text ++ last)
          i.piece.not_mem_text
        simpa [Item.text, Piece.token] using hcovers
      · obtain ⟨p, ht, hcovers⟩ := ih hrest
        exact ⟨p, ht, by simpa using hcovers⟩

theorem covers_of_mem_placed {items : List Item} {before : Text} {t : Token} (last : Text)
    (h : t ∈ placed before items) :
    ∃ text, t.Spells text ∧ t.span.Covers (before ++ items.flatMap Item.text ++ last) text := by
  obtain ⟨p, ht, hcovers⟩ := exists_piece_of_mem_placed last h
  exact ⟨p.text, ht ▸ p.spells_token t.span, hcovers⟩

theorem span_of_mem_placed {items : List Item} {before : Text} {t : Token}
    (h : t ∈ placed before items) :
    ∃ between length, t.span = .past (before ++ between) length := by
  induction items generalizing before with
  | nil => simp [placed] at h
  | cons i rest ih =>
      rcases List.mem_cons.mp h with rfl | hrest
      · exact ⟨i.gap, _, rfl⟩
      · obtain ⟨between, length, hspan⟩ := ih hrest
        exact ⟨i.text ++ between, length, by rw [hspan, List.append_assoc]⟩

theorem pairwise_placed (before : Text) (items : List Item) :
    (placed before items).Pairwise fun s t => s.span.Precedes t.span := by
  induction items generalizing before with
  | nil => exact .nil
  | cons i rest ih =>
      refine .cons ?_ (ih _)
      intro t ht
      obtain ⟨between, length, hspan⟩ := span_of_mem_placed ht
      have hprecedes := Span.precedes_past (before ++ i.gap) between i.piece.text_ne_nil
        i.piece.not_mem_text length
      rw [hspan]
      simpa [Item.text, Piece.token] using hprecedes

end SlotCompiler.Token
