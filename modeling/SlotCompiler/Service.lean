import SlotCompiler.Service.Refusal
import SlotCompiler.Service.Route
import SlotCompiler.Service.Trust
import SlotCompiler.Text.Case

namespace SlotCompiler.Service

open CodePoint (char)

structure Request where
  method : Text := "POST"
  target : Text := "/compile"
  body : List UInt8 := []
  contentType : Option Text := some "application/json"

inductive Fault where
  | target (fault : Target.Fault)
  | headerLines
  | trust (fault : Trust.Fault)
  | setting (misuse : Config.Misuse)
  -- The service fails and passes its failure on: a refusal that counts as a failure, a failure to
  -- compile, or a body that is nested too deeply.
  | refusal (r : Refusal)
  | failure (f : Failure)
  | tooDeep (container : Json.Container)
deriving DecidableEq

def Fault.message : Fault → Text
  | target fault => fault.message
  | headerLines => "Header values must not contain newline characters."
  | trust fault => fault.message
  | setting misuse => misuse.message
  | refusal r => r.message
  | failure f => f.message
  | tooDeep .array =>
    "maximum recursion depth exceeded while decoding a JSON array from a unicode string"
  | tooDeep .object =>
    "maximum recursion depth exceeded while decoding a JSON object from a unicode string"

def logger : Text := "slm_app"

-- How deeply a body may be nested, and how much room there is in a name that is shown.
def bodyDepthLimit : Nat := 979

def nameRoom : Nat := 982

def isHeaderBlank (c : CodePoint) : Bool := c == char ' ' || c == char '\t'

def trimHeader (t : Text) : Text :=
  (((t.dropWhile isHeaderBlank).reverse).dropWhile isHeaderBlank).reverse

def announcesJson (contentType : Text) : Bool :=
  let media := (trimHeader (contentType.takeWhile (· != char ';'))).map (·.asciiLower)
  media == "application/json" ||
    (("application/" : Text).isPrefixOf media && ("+json" : Text).isSuffixOf media)

-- A request on its way: what it is answered with depends on the settings, its method in upper case
-- and its target.
structure Exchange where
  config : Config
  method : Text
  target : Target

def failed (x : Exchange) (fault : Fault) (more : List Log := []) : Except Fault Response :=
  if x.config.passesOn then .error fault
  else
    let place := rooted x.target.path ++ " [" ++ x.method ++ "]"
    .ok { status := 500, logs := ⟨.error, "Exception on " ++ place⟩ :: more }

def refused (x : Exchange) (refusal : Refusal) : Except Fault Response :=
  if refusal.isFailure x.config then failed x (.refusal refusal)
  else .ok { status := refusal.status }

def compileRead (x : Exchange) (data : Json) : Except Fault Response :=
  match compileData nameRoom x.config.own data with
  | .ok response => .ok response
  | .error failure => failed x (.failure failure)

def compileBody (x : Exchange) (body : List UInt8) : Except Fault Response :=
  match Json.ofBytes bodyDepthLimit body with
  | .error (.tooDeep container) => failed x (.tooDeep container)
  | .error .malformed => compileRead x .null
  | .ok data => compileRead x data

-- Whether a body is longer than the service accepts. An empty body has no length to compare.
def bodyExceeds (config : Config) (body : List UInt8) : Except Text Bool :=
  match config.get "MAX_CONTENT_LENGTH" with
  | .null => .ok false
  | limit => if body.isEmpty then .ok false else exceeds body.length limit

def compileRequest (x : Exchange) (r : Request) : Except Fault Response :=
  if !r.contentType.any announcesJson then
    compileRead x .null
  else
    match bodyExceeds x.config r.body with
    | .error type => failed x (.failure (.incomparable type))
    | .ok true => refused x .longBody
    | .ok false => compileBody x r.body

def respond (x : Exchange) (r : Request) (endpoint : Endpoint) : Except Fault Response :=
  if x.method = "OPTIONS" then .ok { status := 200 }
  else
    match endpoint with
    | .health =>
      .ok { status := 200
            body := if x.method = "GET" then some (.obj [("status", .str "ok")]) else none }
    | .compile => compileRequest x r
    | .file => refused x .unknownPath

-- The host that the service takes itself to be on: the one in the settings or else the requested.
def ownHost (x : Exchange) : Except Fault (Except Refusal Text) :=
  match x.config.get "SERVER_NAME" with
  | .null => .ok (.ok x.target.knownHost)
  | .str name =>
    let host := Target.withoutUsualNumber x.target.scheme name.lower
    let (name, number) := Target.splitNumber host
    .ok (match Host.encode name with
      | .ok encoded => .ok (encoded ++ number)
      | .error _ => .error .badHost)
  | j => .error (.setting (.noOperation j.typeName "lower"))

def accept (x : Exchange) : Except Fault (Except Refusal Text) := do
  if ← (Trust.holds x.config x.target).mapError .trust then ownHost x
  else return .error (.untrustedHost x.target.host)

def location (x : Exchange) (host path : Text) : Text :=
  let root : Text := if x.target.root.isEmpty then [] else "/" ++ x.target.root
  Reference.text
    { scheme := if x.target.scheme.isEmpty then "http" else x.target.scheme
      authority := host
      path := root ++ Reference.escaped "!$&'()*+,/:;=@" path
      query := x.target.query }

def dispatch (x : Exchange) (r : Request) (host : Text) : Except Fault Response :=
  match Route.of x.method x.target.path with
  | .found endpoint => respond x r endpoint
  | .elsewhere path => refused x (.elsewhere (location x host path))
  | .wrongMethod => refused x .wrongMethod
  | .unknown => refused x .unknownPath

def answer (config : Config) (r : Request) : Except Fault Response := do
  let target ← (Target.read config r.target).mapError .target
  if r.contentType.any fun t => t.contains (char '\r') || t.contains (char '\n') then
    throw .headerLines
  target.checkShown.mapError .target
  let x : Exchange := { config, method := r.method.upper, target }
  let accepted ← accept x
  match config.checkSession with
  | .error misuse =>
    failed x (.setting misuse)
      [⟨.error, "Request finalizing failed with an error while error handling"⟩]
  | .ok _ =>
    match accepted with
    | .error refusal => refused x refusal
    | .ok host => dispatch x r host

def answerAll (config : Config) (requests : List Request) : Except Fault (List Response) :=
  requests.mapM (answer config)

end SlotCompiler.Service
