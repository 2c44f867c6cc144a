import SlotCompiler.Json.Basic
import SlotCompiler.Token
import SlotCompiler.Tree

namespace SlotCompiler

def Span.toJson (s : Span) : Json :=
  .obj [("line", .int s.line), ("column", .int s.column), ("length", .int s.length)]

def Span.ofJson? (j : Json) : Option Span :=
  match j.get? "line", j.get? "column", j.get? "length" with
  | some (.int line), some (.int column), some (.int length) => some ⟨line, column, length⟩
  | _, _, _ => none

def Span.member? (j : Json) : Option Span :=
  match j.get? "position" with
  | none | some .null => some .zero
  | some p => ofJson? p

def Atom.toJson : Atom → Json
  | text t => .str t
  | int n => .int n

def Atom.ofJson? : Json → Option Atom
  | .str t => some (.text t)
  | .int n => some (.int n)
  | _ => none

def Token.toJson (t : Token) : Json :=
  .obj [("type", .str t.kind.name), ("value", t.value.toJson), ("position", t.span.toJson)]

def Token.ofJson? (j : Json) : Option Token :=
  match j.get? "type", (j.get? "value").bind Atom.ofJson?, Span.member? j with
  | some (.str kind), some value, some span => some ⟨.ofName kind, value, span⟩
  | _, _, _ => none

namespace Tree

mutual

def toJson : Tree → Json
  | program statements =>
    .obj [("type", .str "Program"), ("statements", .arr (listJson statements))]
  | binding name value =>
    .obj [("type", .str "Let"), ("identifier", toJson name), ("expression", toJson value)]
  | call callee argument =>
    .obj [("type", .str "Call"), ("identifier", toJson callee), ("argument", toJson argument)]
  | identifier name span =>
    .obj [("type", .str "Identifier"), ("name", name.toJson), ("position", span.toJson)]
  | literal value type span =>
    .obj [("type", .str "Literal"), ("value", (value.map Atom.toJson).getD .null),
      ("typ", .str type), ("position", span.toJson)]
  | bare => .obj [("type", .str "Node")]
  | absent => .null

def listJson : List Tree → List Json
  | [] => []
  | t :: rest => toJson t :: listJson rest

end

structure Member where
  node : Option Tree
  nodes : Option (List Tree)

-- The node that a member holds. A member that is not given is a missing node.
def child (read : List (Text × Member)) (key : Text) : Option Tree :=
  match read.lookup key with
  | some m => m.node
  | none => some absent

def children (read : List (Text × Member)) (key : Text) : Option (List Tree) :=
  (read.lookup key).bind (·.nodes)

-- The node with these members, of which `read` has those that are nodes.
def build (members : List (Text × Json)) (read : List (Text × Member)) : Option Tree :=
  let j := Json.obj members
  match j.get? "type" with
  | some (.str name) =>
    if name = "Program" then (children read "statements").map program
    else if name = "Let" then do
      return binding (← child read "identifier") (← child read "expression")
    else if name = "Call" then do
      return call (← child read "identifier") (← child read "argument")
    else if name = "Identifier" then do
      return identifier (← (j.get? "name").bind Atom.ofJson?) (← Span.member? j)
    else if name = "Literal" then
      match j.get? "value", j.get? "typ", Span.member? j with
      | none, some (.str type), some span => some (literal none type span)
      | some .null, some (.str type), some span => some (literal none type span)
      | some v, some (.str type), some span =>
        (Atom.ofJson? v).map fun value => literal (some value) type span
      | _, _, _ => none
    else some bare
  | _ => none

mutual

def ofJson? : Json → Option Tree
  | .null => some absent
  | .obj members => build members (readMembers members)
  | _ => none

def ofJsonList? : List Json → Option (List Tree)
  | [] => some []
  | j :: rest =>
    match ofJson? j, ofJsonList? rest with
    | some t, some ts => some (t :: ts)
    | _, _ => none

def readMembers : List (Text × Json) → List (Text × Member)
  | [] => []
  | (key, .arr items) :: rest => (key, ⟨none, ofJsonList? items⟩) :: readMembers rest
  | (key, j) :: rest => (key, ⟨ofJson? j, none⟩) :: readMembers rest

end

end Tree

end SlotCompiler
