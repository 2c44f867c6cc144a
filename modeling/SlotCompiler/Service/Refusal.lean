import SlotCompiler.Service.Config
import SlotCompiler.Text.Quoted

namespace SlotCompiler.Service

inductive Refusal where
  | untrustedHost (host : Text)
  | badHost
  | unknownPath
  | wrongMethod
  | elsewhere (location : Text)
  | longBody
deriving DecidableEq, Repr

namespace Refusal

def status : Refusal → Nat
  | untrustedHost _ => 400
  | badHost => 400
  | unknownPath => 404
  | wrongMethod => 405
  | elsewhere _ => 308
  | longBody => 413

def reason : Refusal → Text
  | untrustedHost host => "Bad Request: Host " ++ host.quoted ++ " is not trusted."
  | badHost =>
    "Bad Request: The browser (or proxy) sent a request that this server could not understand."
  | unknownPath =>
    "Not Found: The requested URL was not found on the server. If you entered the URL manually " ++
      "please check your spelling and try again."
  | wrongMethod => "Method Not Allowed: The method is not allowed for the requested URL."
  | elsewhere location => "Permanent Redirect: " ++ location
  | longBody =>
    "Request Entity Too Large: The data value transmitted exceeds the capacity limit."

def message (r : Refusal) : Text := toString r.status ++ " " ++ r.reason

-- Settings may turn refusals into failures of the service: all of them, or those of bad requests.
def isFailure (config : Config) (r : Refusal) : Bool :=
  config.isOn "TRAP_HTTP_EXCEPTIONS" ||
    (config.isOn "TRAP_BAD_REQUEST_ERRORS" && r.status == 400)

end Refusal

end SlotCompiler.Service
