import SlotCompiler.Build.Path
import SlotCompiler.Text.Utf8

namespace SlotCompiler

-- Why the system refuses an access. Only a tool can be denied: the tree has no permissions.
inductive Refusal where
  | missing
  | denied
  | notDirectory
  | isDirectory
  | nameTooLong
deriving DecidableEq, Repr

namespace Refusal

def code : Refusal → Nat
  | missing => 2
  | denied => 13
  | notDirectory => 20
  | isDirectory => 21
  | nameTooLong => 36

def text : Refusal → Text
  | missing => "No such file or directory"
  | denied => "Permission denied"
  | notDirectory => "Not a directory"
  | isDirectory => "Is a directory"
  | nameTooLong => "File name too long"

def message (r : Refusal) (subject : Text) : Text :=
  "[Errno " ++ toString r.code ++ "] " ++ r.text ++ ": " ++ subject.quoted

end Refusal

inductive AccessFault where
  | refused (reason : Refusal) (path : Path)
  | nullCharacter
deriving DecidableEq, Repr

def AccessFault.message : AccessFault → Text
  | refused reason path => reason.message path.text
  | nullCharacter => "embedded null byte"

abbrev Location := List Text

inductive Entry where
  | file (bytes : List UInt8)
  | directory
deriving DecidableEq, Repr

-- There are files and directories, but no links, and everything may be read and written; `here` is
-- the working directory.
structure FileTree where
  here : Location
  entries : List (Location × Entry)
deriving DecidableEq, Repr

namespace FileTree

def find? (t : FileTree) (l : Location) : Option Entry :=
  if l.isEmpty then some .directory else t.entries.lookup l

def insert (t : FileTree) (l : Location) (e : Entry) : FileTree :=
  { t with entries := (l, e) :: t.entries.filter (·.1 != l) }

-- The most bytes that a segment of a path may have, and a whole path.
def nameLimit : Nat := 255

def pathLimit : Nat := 4095

def below (l : Location) (name : Text) : Except Refusal Location :=
  if nameLimit < (Text.Utf8.encode name).length then .error .nameTooLong else .ok (l ++ [name])

def enter (t : FileTree) : Location → List Text → Except Refusal Location
  | l, [] => .ok l
  | l, name :: rest =>
    if name = ".." then t.enter l.dropLast rest
    else do
      let next ← below l name
      match t.find? next with
      | some .directory => t.enter next rest
      | some (.file _) => .error .notDirectory
      | none => .error .missing

-- The place a path names. Everything up to its last segment has to exist.
def locate (t : FileTree) (p : Path) : Except Refusal Location := do
  let start := if p.anchor == .relative then t.here else []
  match p.names.getLast? with
  | none => return start
  | some last =>
    let directory ← t.enter start p.names.dropLast
    if last = ".." then return directory.dropLast else below directory last

def open? (t : FileTree) (p : Path) : Except AccessFault Location :=
  if p.text.contains (.char '\x00') then .error .nullCharacter
  else if pathLimit < (Text.Utf8.encode p.text).length then .error (.refused .nameTooLong p)
  else
    match t.locate p with
    | .ok l => .ok l
    | .error reason => .error (.refused reason p)

def read (t : FileTree) (p : Path) : Except AccessFault (List UInt8) := do
  let l ← t.open? p
  match t.find? l with
  | some (.file bytes) => return bytes
  | some .directory => throw (.refused .isDirectory p)
  | none => throw (.refused .missing p)

-- Writing replaces what a file held, or makes the file.
def write (t : FileTree) (p : Path) (bytes : List UInt8) : Except AccessFault FileTree := do
  let l ← t.open? p
  match t.find? l with
  | some .directory => throw (.refused .isDirectory p)
  | _ => return t.insert l (.file bytes)

-- The directories that names lead through from `l` on, and the place where they end.
def makeWay (t : FileTree) (l : Location) : List Text → FileTree × Location
  | [] => (t, l)
  | name :: rest =>
    if name = ".." then t.makeWay l.dropLast rest
    else
      let d := l ++ [name]
      (if (t.find? d).isSome then t else t.insert d .directory).makeWay d rest

def empty (here : Location) : FileTree := (makeWay ⟨here, []⟩ [] here).1

def putDirectory (t : FileTree) (p : Path) : FileTree := (t.makeWay t.here p.names).1

def putFile (t : FileTree) (p : Path) (bytes : List UInt8) : FileTree :=
  let (made, l) := t.makeWay t.here p.names.dropLast
  made.insert (l ++ [p.name]) (.file bytes)

def files (t : FileTree) : List (Text × List UInt8) :=
  let found := t.entries.filterMap fun (l, e) =>
    match e with
    | .file bytes =>
      if t.here.isPrefixOf l then some (Text.join "/" (l.drop t.here.length), bytes) else none
    | .directory => none
  found.mergeSort fun a b => a.1.le b.1

end FileTree

end SlotCompiler
