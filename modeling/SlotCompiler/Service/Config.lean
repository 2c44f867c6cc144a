import SlotCompiler.Json.Reader
import SlotCompiler.Service.Compilation

namespace SlotCompiler

namespace Service

open CodePoint (char)

-- A setting may be any JSON value; what cannot be used shows when a request needs it. One is given
-- as a span of time, which is no JSON value.
inductive Setting where
  | json (value : Json)
  | timeSpan

structure Config where
  settings : List (Text × Setting)

namespace Config

inductive Fault where
  | noMembers (type : Text)
  | noAssignment (type : Text)
  | listIndex
  | textIndex
  | nullCharacter
  | equalsSign
  | emptyName
deriving DecidableEq, Repr

def Fault.message : Fault → Text
  | noMembers type => "argument of type '" ++ type ++ "' is not iterable"
  | noAssignment type => "'" ++ type ++ "' object does not support item assignment"
  | listIndex => "list indices must be integers or slices, not str"
  | textIndex => "string indices must be integers, not 'str'"
  | nullCharacter => "embedded null byte"
  | equalsSign => "illegal environment variable name"
  | emptyName => "[Errno 22] Invalid argument"

inductive Misuse where
  | noOperation (type operation : Text)
  | notIterable (type : Text)
  | noKey (type : Text)
deriving DecidableEq, Repr

def Misuse.message : Misuse → Text
  | noOperation type operation =>
    "'" ++ type ++ "' object has no attribute '" ++ operation ++ "'"
  | notIterable type => "'" ++ type ++ "' object is not iterable"
  | noKey type => "unhashable type: '" ++ type ++ "'"

def depthLimit : Nat := 990

def hosted : List (Text × Setting) :=
  [("DEBUG", .json (.bool false)), ("TESTING", .json (.bool false)),
   ("PROPAGATE_EXCEPTIONS", .json .null), ("SECRET_KEY", .json .null),
   ("SECRET_KEY_FALLBACKS", .json .null), ("PERMANENT_SESSION_LIFETIME", .timeSpan),
   ("USE_X_SENDFILE", .json (.bool false)), ("TRUSTED_HOSTS", .json .null),
   ("SERVER_NAME", .json .null), ("APPLICATION_ROOT", .json (.str "/")),
   ("SESSION_COOKIE_NAME", .json (.str "session")), ("SESSION_COOKIE_DOMAIN", .json .null),
   ("SESSION_COOKIE_PATH", .json .null), ("SESSION_COOKIE_HTTPONLY", .json (.bool true)),
   ("SESSION_COOKIE_SECURE", .json (.bool false)),
   ("SESSION_COOKIE_PARTITIONED", .json (.bool false)),
   ("SESSION_COOKIE_SAMESITE", .json .null),
   ("SESSION_REFRESH_EACH_REQUEST", .json (.bool true)), ("MAX_CONTENT_LENGTH", .json .null),
   ("MAX_FORM_MEMORY_SIZE", .json (.int 500000)), ("MAX_FORM_PARTS", .json (.int 1000)),
   ("SEND_FILE_MAX_AGE_DEFAULT", .json .null), ("TRAP_BAD_REQUEST_ERRORS", .json .null),
   ("TRAP_HTTP_EXCEPTIONS", .json (.bool false)),
   ("EXPLAIN_TEMPLATE_LOADING", .json (.bool false)),
   ("PREFERRED_URL_SCHEME", .json (.str "http")), ("TEMPLATES_AUTO_RELOAD", .json .null),
   ("MAX_COOKIE_SIZE", .json (.int 4093)), ("PROVIDE_AUTOMATIC_OPTIONS", .json (.bool true))]

def defaults : Config :=
  let own : Settings := {}
  let added : List (Text × Setting) :=
    [("SOURCE_NAME", .json own.sourceName), ("MAX_SOURCE_LENGTH", .json own.maxSourceLength)]
  ⟨hosted ++ added⟩

def get (c : Config) (key : Text) : Json :=
  match c.settings.lookup key with
  | some (.json value) => value
  | _ => .null

def own (c : Config) : Settings :=
  { sourceName := c.get "SOURCE_NAME", maxSourceLength := c.get "MAX_SOURCE_LENGTH" }

def isOn (c : Config) (key : Text) : Bool := !(c.get key).isVoid

def put (c : Config) (key : Text) (value : Json) : Config :=
  if c.settings.any (·.1 == key) then
    ⟨c.settings.map fun (k, v) => (k, if k == key then .json value else v)⟩
  else ⟨c.settings ++ [(key, .json value)]⟩

def passesOn (c : Config) : Bool :=
  match c.get "PROPAGATE_EXCEPTIONS" with
  | .null => c.isOn "TESTING" || c.isOn "DEBUG"
  | j => !j.isVoid

-- Sessions are kept if there is a key for them. The key may have been changed: then the earlier
-- ones are gone through, and the session is looked up by its name.
def checkSession (c : Config) : Except Misuse Unit := do
  if c.isOn "SECRET_KEY" then
    if c.isOn "SECRET_KEY_FALLBACKS" then
      match c.get "SECRET_KEY_FALLBACKS" with
      | .str _ | .arr _ | .obj _ => pure ()
      | j => throw (.notIterable j.typeName)
    match c.get "SESSION_COOKIE_NAME" with
    | .arr l => throw (.noKey (Json.arr l).typeName)
    | .obj l => throw (.noKey (Json.obj l).typeName)
    | _ => pure ()

-- A variable's text is read as JSON, and stands for itself if it is none.
def ofText (t : Text) : Json :=
  match Json.ofText depthLimit t with
  | .ok j => j
  | .error _ => .str t

def stepsFrom (step : Text) : Text → List Text
  | [] => [step.reverse]
  | char '_' :: char '_' :: rest => step.reverse :: stepsFrom [] rest
  | c :: rest => stepsFrom (c :: step) rest

def setMember (key : Text) (value : Json) : Json → Except Fault Json
  | .obj members => .ok (.obj (Json.putMember key value members))
  | .arr _ => .error .listIndex
  | j => .error (.noAssignment j.typeName)

-- The member that a step leads to. An object gets a new one if it has none of that name.
def member (key : Text) : Json → Except Fault Json
  | .obj members => .ok ((members.lookup key).getD (.obj []))
  | .arr _ => .error .listIndex
  | .str t => .error (if key.occursIn t then .textIndex else .noAssignment (Json.str t).typeName)
  | j => .error (.noMembers j.typeName)

def assign (value : Json) : List Text → Json → Except Fault Json
  | [], j => .ok j
  | [key], j => setMember key value j
  | key :: rest, j => do setMember key (← assign value rest (← member key j)) j

def assignSetting (c : Config) (value : Json) : List Text → Except Fault Config
  | [] => .ok c
  | [key] => .ok (c.put key value)
  | key :: rest =>
    match c.settings.lookup key with
    | some .timeSpan =>
      .error (if rest.length == 1 then .noAssignment "datetime.timedelta"
        else .noMembers "datetime.timedelta")
    | some (.json j) => do return c.put key (← assign value rest j)
    | none => do return c.put key (← assign value rest (.obj []))

def takeUp (c : Config) : Text × Text → Except Fault Config
  | (name, value) =>
    match Json.after? "SLM_" name with
    | some key => c.assignSetting (ofText value) (stepsFrom [] key)
    | none => .ok c

def checkVariable : Text × Text → Except Fault Unit
  | (name, value) =>
    if name.contains (char '\x00') || value.contains (char '\x00') then .error .nullCharacter
    else if name.contains (char '=') then .error .equalsSign
    else if name.isEmpty then .error .emptyName
    else .ok ()

-- The configuration from variables, which are taken up in the order of their names, and settings.
def make (environment : List (Text × Text)) (settings : List (Text × Json)) :
    Except Fault Config := do
  environment.forM checkVariable
  let sorted := environment.mergeSort fun a b => a.1.le b.1
  let config ← sorted.foldlM takeUp defaults
  return settings.foldl (fun c (key, value) => c.put key value) config

end Config

end Service

end SlotCompiler
