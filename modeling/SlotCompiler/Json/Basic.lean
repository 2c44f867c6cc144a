import SlotCompiler.Number.Shortest
import SlotCompiler.Text.Quoted

namespace SlotCompiler

inductive Json where
  | null
  | bool (b : Bool)
  | int (n : Int)
  | float (x : Number.Binary64)
  | str (t : Text)
  | arr (items : List Json)
  | obj (members : List (Text × Json))

namespace Json

def get? (j : Json) (key : Text) : Option Json :=
  match j with
  | obj members => members.lookup key
  | _ => none

-- A member that occurs again takes the later value and stays at its first place.
def putMember (key : Text) (value : Json) : List (Text × Json) → List (Text × Json)
  | [] => [(key, value)]
  | (k, v) :: rest => if k == key then (k, value) :: rest else (k, v) :: putMember key value rest

-- Values that stand for "nothing given": null, false, zero and everything empty.
def isVoid : Json → Bool
  | null => true
  | bool b => !b
  | int n => n == 0
  | float x => x.isZero
  | str t => t.isEmpty
  | arr items => items.isEmpty
  | obj members => members.isEmpty

mutual

def nested : Json → Text
  | null => "None"
  | bool b => if b then "True" else "False"
  | int n => .ofInt n
  | float x => x.text
  | str t => t.quoted
  | arr items => "[" ++ Text.join ", " (nestedItems items) ++ "]"
  | obj members => "\x7b" ++ Text.join ", " (nestedMembers members) ++ "\x7d"

def nestedItems : List Json → List Text
  | [] => []
  | item :: rest => nested item :: nestedItems rest

def nestedMembers : List (Text × Json) → List Text
  | [] => []
  | (key, value) :: rest => (key.quoted ++ ": " ++ nested value) :: nestedMembers rest

end

def typeName : Json → Text
  | null => "NoneType"
  | bool _ => "bool"
  | int _ => "int"
  | float _ => "float"
  | str _ => "str"
  | arr _ => "list"
  | obj _ => "dict"

-- The text of a value as messages show it: a string stands for itself.
def display : Json → Text
  | str t => t
  | j => nested j

end Json

end SlotCompiler
