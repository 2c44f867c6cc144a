import SlotCompiler.Service.Target

namespace SlotCompiler.Service.Trust

open CodePoint (char)
open Text (splitFirst)

inductive Fault where
  | setting (misuse : Config.Misuse)
  | name (fault : Host.LabelFault)
deriving DecidableEq, Repr

def Fault.message : Fault → Text
  | setting misuse => misuse.message
  | name fault => (Reference.Fault.name fault).message

-- An entry with a point in front stands for all hosts below it as well.
def covers (entry host : Text) : Except Host.LabelFault Bool := do
  match entry with
  | char '.' :: rest =>
    let name ← Host.encode (splitFirst (char ':') rest).1
    return name == host || ("." ++ name).isSuffixOf host
  | _ => return (← Host.encode (splitFirst (char ':') entry).1) == host

def anyCovers (host : Text) : List Json → Except Fault Bool
  | [] => .ok false
  | .str entry :: rest => do
    if ← (covers entry host).mapError .name then return true
    anyCovers host rest
  | j :: _ => .error (.setting (.noOperation j.typeName "startswith"))

def entries : Json → Except Fault (List Json)
  | .str entry => .ok [.str entry]
  | .arr l => .ok l
  | .obj members => .ok (members.map fun (key, _) => .str key)
  | j => .error (.setting (.notIterable j.typeName))

-- Whether a target's host is one of the trusted ones. With none named every host is trusted.
def holds (config : Config) (target : Target) : Except Fault Bool := do
  match config.get "TRUSTED_HOSTS" with
  | .null => return true
  | hosts =>
    if target.knownHost.isEmpty then return false
    if hosts.isVoid then return true
    anyCovers (splitFirst (char ':') target.knownHost).1 (← entries hosts)

end SlotCompiler.Service.Trust
