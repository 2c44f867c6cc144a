import SlotCompiler.Compile
import SlotCompiler.Tree.Json

namespace SlotCompiler.Service

structure Settings where
  sourceName : Json := .str "<request>"
  maxSourceLength : Json := .int 65536

structure Response where
  status : Nat
  -- None if the body is not JSON.
  body : Option Json := none
  logs : List Log := []

def errorsOnly (status : Nat) (message : Text) : Response :=
  { status, body := some (.obj [("errors", .arr [.str message])]) }

inductive Failure where
  | incomparable (type : Text)
  | unshown (fault : SlotCompiler.Fault)
deriving DecidableEq

def Failure.message : Failure → Text
  | incomparable type => "'>' not supported between instances of 'int' and '" ++ type ++ "'"
  | unshown fault => fault.message

-- Whether a length is greater than a setting allows, or the type of the setting if it is nothing
-- that a length can be compared with.
def exceeds (length : Nat) : Json → Except Text Bool
  | .int n => .ok (n < length)
  | .bool b => .ok ((if b then 1 else 0) < length)
  | .float x => .ok (x.belowNat length)
  | j => .error j.typeName

def reportJson (r : Report) : Json :=
  .obj
    [("tokens", .arr (r.tokens.map Token.toJson)),
     ("ast", (r.program.map (·.tree.toJson)).getD (.obj [])),
     ("assembly", .arr (r.assembly.map .str)),
     ("errors", .arr (r.errors.map .str)),
     ("error", (r.diagnostic.map diagnosticJson).getD .null),
     ("symbol_table", .obj (r.symbols.map fun (name, location) => (name.display, .int location)))]
where
  diagnosticJson (d : Diagnostic) : Json :=
    .obj [("kind", .str d.kind.name), ("message", .str d.message), ("line", .int d.span.line),
      ("column", .int d.span.column), ("length", .int d.span.length)]

def brokenOff (message : Text) : Response :=
  { status := 500
    body := some (.obj
      [("tokens", .arr []), ("ast", .obj []), ("assembly", .arr []),
       ("errors", .arr [.str ("Unexpected error: " ++ message)]), ("error", .null),
       ("symbol_table", .obj [])])
    logs := [⟨.error, "compile request failed"⟩] }

-- The name that messages give the source: the requested one, unless it is void.
def sourceName (settings : Settings) : Option Json → Json
  | some j => if j.isVoid then settings.sourceName else j
  | none => settings.sourceName

def compileNamed (room : Nat) (code : Text) (name : Json) : Response :=
  match reportNamed room code name with
  | .error fault => brokenOff fault.message
  | .ok r =>
    { status := 200
      body := some (reportJson r)
      logs := r.diagnostic.toList.map fun d => ⟨.debug, "compile error: " ++ d.message⟩ }

def compileCode (room : Nat) (settings : Settings) (code : Text) (requested : Option Json) :
    Except Failure Response :=
  match exceeds code.length settings.maxSourceLength with
  | .error type => .error (.incomparable type)
  | .ok true =>
    match settings.maxSourceLength.shown room with
    | .error fault => .error (.unshown fault)
    | .ok limit => .ok (errorsOnly 400 ("source longer than " ++ limit ++ " characters"))
  | .ok false => .ok (compileNamed room code (sourceName settings requested))

-- The answer to a request to compile, by the value that its body was read as; a body that could not
-- be read counts as null.
def compileData (room : Nat) (settings : Settings) (data : Json) : Except Failure Response :=
  match data with
  | .obj _ =>
    match data.get? "code" with
    | some (.str code) => compileCode room settings code (data.get? "path")
    | _ => .ok (errorsOnly 400 "'code' must be a string")
  | _ => .ok (errorsOnly 400 "request body must be a JSON object")

end SlotCompiler.Service
