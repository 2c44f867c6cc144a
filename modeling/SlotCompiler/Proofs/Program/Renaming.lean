import Mathlib.Logic.Function.Defs
import SlotCompiler.Proofs.Program.Meaning

namespace SlotCompiler

open Function (Injective)

section

variable (r : Atom → Atom)

inductive Expr.Renames : Expr → Expr → Prop where
  | literal (value : Atom) (type : LiteralType) (span span' : Span) :
      Renames (.literal value type span) (.literal value type span')
  | name {n n' : Name} (h : n'.value = r n.value) : Renames (.name n) (.name n')

inductive Statement.Renames : Statement → Statement → Prop where
  | binding {bound bound' : Name} {value value' : Expr} (hname : bound'.value = r bound.value)
      (h : value.Renames r value') : Renames (.binding bound value) (.binding bound' value')
  | call {callee callee' : Name} {argument argument' : Expr} (hname : callee'.value = callee.value)
      (h : argument.Renames r argument') :
      Renames (.call callee argument) (.call callee' argument')

def Program.Renames (p q : Program) : Prop := List.Forall₂ (Statement.Renames r) p q

end

-- What a diagnostic can point at, and the variable that is named there.
structure Site where
  span : Span
  named? : Option Atom

def Expr.site : Expr → Site
  | .literal _ _ span => ⟨span, none⟩
  | .name n => ⟨n.span, some n.value⟩

inductive Statement.Node where
  | name
  | operand

def Statement.site : Statement → Statement.Node → Site
  | .binding bound _, .name => ⟨bound.span, some bound.value⟩
  | .call callee _, .name => ⟨callee.span, none⟩
  | s, .operand => s.operand.site

-- The diagnostic for a site, and the one for the site it is renamed to: a variable that is named
-- there is quoted, and nothing else is.
structure Diagnostic.Renames (r : Atom → Atom) (site site' : Site) (d d' : Diagnostic) : Prop where
  kind : d'.kind = d.kind
  span : d.span = site.span
  span' : d'.span = site'.span
  details :
    match site.named? with
    | some x => d.details = [x.display] ∧ d'.details = [(r x).display]
    | none => d'.details = d.details

-- A variable may have a name that cannot be shown, or get one.
inductive Fault.Renames (r : Atom → Atom) (site site' : Site) : Fault → Fault → Prop where
  | diagnostic {d d' : Diagnostic} (h : Diagnostic.Renames r site site' d d') :
      Renames r site site' (.diagnostic d) (.diagnostic d')
  | longNumber : Renames r site site' .longNumber .longNumber
  | fromLong {x : Atom} {d' : Diagnostic} (hnamed : site.named? = some x) (h : ¬x.Short) :
      Renames r site site' .longNumber (.diagnostic d')
  | toLong {x : Atom} {d : Diagnostic} (hnamed : site.named? = some x) (h : ¬(r x).Short) :
      Renames r site site' (.diagnostic d) .longNumber

section

variable {r : Atom → Atom} {kind : Diagnostic.Kind}

theorem Fault.Renames.report (hkind : kind.arity = 1) (x : Atom) (span span' : Span)
    (named' : Option Atom) :
    Fault.Renames r ⟨span, some x⟩ ⟨span', named'⟩ (.report kind span [x])
      (.report kind span' [r x]) := by
  by_cases hx : x.Short
  · rw [report_of_short span hx hkind.le]
    by_cases hr : (r x).Short
    · rw [report_of_short span' hr hkind.le]
      exact .diagnostic ⟨rfl, rfl, rfl, rfl, rfl⟩
    · rw [report_of_long span' hr hkind]
      exact .toLong rfl hr
  · rw [report_of_long span hx hkind]
    by_cases hr : (r x).Short
    · rw [report_of_short span' hr hkind.le]
      exact .fromLong rfl hx
    · rw [report_of_long span' hr hkind]
      exact .longNumber

theorem Fault.Renames.report_same (hkind : kind.arity = 1) (x : Atom) (span span' : Span)
    (named' : Option Atom) :
    Fault.Renames r ⟨span, none⟩ ⟨span', named'⟩ (.report kind span [x])
      (.report kind span' [x]) := by
  by_cases hx : x.Short
  · rw [report_of_short span hx hkind.le, report_of_short span' hx hkind.le]
    exact .diagnostic ⟨rfl, rfl, rfl, rfl⟩
  · rw [report_of_long span hx hkind, report_of_long span' hx hkind]
    exact .longNumber

end

theorem Diagnostic.message_congr {d d' : Diagnostic} (hkind : d'.kind = d.kind)
    (hdetails : d'.details = d.details) : d'.message = d.message := by
  rw [message, message, hkind, hdetails]

theorem Diagnostic.Renames.message_eq {site site' : Site} {d d' : Diagnostic}
    (h : Diagnostic.Renames id site site' d d') : d'.message = d.message := by
  apply message_congr h.kind
  have hdetails := h.details
  split at hdetails
  · exact hdetails.2.trans hdetails.1.symm
  · exact hdetails

end SlotCompiler
