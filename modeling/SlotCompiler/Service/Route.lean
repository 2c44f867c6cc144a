import SlotCompiler.Text

namespace SlotCompiler.Service

open CodePoint (char)

inductive Endpoint where
  | health
  | compile
  | file
deriving DecidableEq, Repr

-- The endpoint of a path. The name of a file may have slashes, but not in front, and line feeds
-- nowhere but in front.
def Endpoint.ofPath? (path : Text) : Option Endpoint :=
  if path = "/health" then some health
  else if path = "/compile" then some compile
  else if ("/static/" : Text).isPrefixOf path then
    match path.drop 8 with
    | first :: rest =>
      if first != char '/' && !rest.contains (char '\n') then some file else none
    | [] => none
  else none

def Endpoint.methods : Endpoint → List Text
  | health => ["GET", "HEAD", "OPTIONS"]
  | compile => ["POST", "OPTIONS"]
  | file => ["GET", "HEAD", "OPTIONS"]

def mergeSlashes : Text → Text
  | char '/' :: char '/' :: rest => mergeSlashes (char '/' :: rest)
  | c :: rest => c :: mergeSlashes rest
  | [] => []

inductive Route where
  | found (endpoint : Endpoint)
  | elsewhere (path : Text)
  | wrongMethod
  | unknown
deriving DecidableEq, Repr

def rooted (path : Text) : Text := char '/' :: path.dropWhile (· == char '/')

def Route.of (method path : Text) : Route :=
  let straight := Endpoint.ofPath? (rooted path)
  let merged := Endpoint.ofPath? (mergeSlashes (rooted path))
  let serves (e : Endpoint) : Bool := e.methods.contains method
  match straight.filter serves, merged.filter serves with
  | some e, _ => .found e
  | none, some _ => .elsewhere (mergeSlashes (rooted path))
  | none, none => if straight.isSome || merged.isSome then .wrongMethod else .unknown

end SlotCompiler.Service
