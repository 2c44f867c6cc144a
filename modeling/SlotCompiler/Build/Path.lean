import SlotCompiler.Text.Quoted

namespace SlotCompiler

open CodePoint (char)

namespace Path

-- Where a path starts. Exactly two leading slashes are kept apart from one.
inductive Anchor where
  | relative
  | root
  | doubleRoot
deriving DecidableEq, Repr

def Anchor.text : Anchor → Text
  | relative => ""
  | root => "/"
  | doubleRoot => "//"

end Path

structure Path where
  anchor : Path.Anchor
  names : List Text
deriving DecidableEq, Repr

namespace Path

def anchorOf (t : Text) : Anchor :=
  match (t.takeWhile (· == char '/')).length with
  | 0 => .relative
  | 2 => .doubleRoot
  | _ => .root

def ofText (t : Text) : Path :=
  ⟨anchorOf t, (t.splitOn (char '/')).filter fun segment => segment != "" && segment != "."⟩

def text (p : Path) : Text :=
  if p.anchor == .relative && p.names.isEmpty then "."
  else p.anchor.text ++ Text.join "/" p.names

def name (p : Path) : Text := p.names.getLast?.getD []

structure Unnamed where
  path : Path
deriving DecidableEq, Repr

def Unnamed.message (u : Unnamed) : Text :=
  "PosixPath(" ++ u.path.text.quoted ++ ") has an empty name"

def withName (p : Path) (name : Text) : Except Unnamed Path :=
  if p.names.isEmpty then .error ⟨p⟩ else .ok { p with names := p.names.dropLast ++ [name] }

-- A name divided before its last dot, unless that dot is the first or the last character.
def splitSuffix (name : Text) : Text × Text :=
  let tail := (name.reverse.takeWhile (· != char '.')).reverse
  let stem := name.take (name.length - tail.length - 1)
  if name.contains (char '.') && !stem.isEmpty && !tail.isEmpty then (stem, char '.' :: tail)
  else (name, [])

def withSuffix (p : Path) (suffix : Text) : Except Unnamed Path :=
  p.withName ((splitSuffix p.name).1 ++ suffix)

end Path

end SlotCompiler
