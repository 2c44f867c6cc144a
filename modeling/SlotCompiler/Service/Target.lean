import SlotCompiler.Service.Config
import SlotCompiler.Service.Reference

namespace SlotCompiler.Service

open CodePoint (char)
open Text (splitFirst)

structure Target where
  scheme : Text
  -- As the request names it, without a number that goes without saying.
  host : Text
  -- Where the service begins, and the path below; both decoded.
  root : Text
  path : Text
  query : Text
deriving DecidableEq, Repr

namespace Target

inductive Fault where
  | reference (fault : Reference.Fault)
  | setting (misuse : Config.Misuse)
  | furnishedBase
deriving DecidableEq, Repr

def Fault.message : Fault → Text
  | reference fault => fault.message
  | setting misuse => misuse.message
  | furnishedBase => "base url must not contain a query string or fragment"

def unescape : Text → List UInt8
  | char '%' :: a :: b :: rest =>
    match a.hexValue?, b.hexValue? with
    | some x, some y => UInt8.ofNat (x * 16 + y) :: unescape rest
    | _, _ => 0x25 :: unescape (a :: b :: rest)
  | c :: rest => Text.Utf8.encodePoint c ++ unescape rest
  | [] => []

def decoded (t : Text) : Text := Text.Utf8.decodeReplacing (unescape t)

def base (config : Config) (r : Reference) : Except Fault Text := do
  let scheme := if r.scheme.isEmpty then (config.get "PREFERRED_URL_SCHEME").display else r.scheme
  let host :=
    if !r.authority.isEmpty then r.authority
    else if config.isOn "SERVER_NAME" then (config.get "SERVER_NAME").display
    else "localhost"
  match config.get "APPLICATION_ROOT" with
  | .str root => return scheme ++ "://" ++ host ++ "/" ++ root.dropWhile (· == char '/')
  | j => throw (.setting (.noOperation j.typeName "lstrip"))

def withoutEnd (ending t : Text) : Text :=
  if ending.isSuffixOf t then t.take (t.length - ending.length) else t

def withoutUsualNumber (scheme host : Text) : Text :=
  if scheme = "http" ∨ scheme = "ws" then withoutEnd ":80" host
  else if scheme = "https" ∨ scheme = "wss" then withoutEnd ":443" host
  else host

def stripSlashes (t : Text) : Text :=
  ((t.dropWhile (· == char '/')).reverse.dropWhile (· == char '/')).reverse

-- A reference is taken apart by the sender, who puts the base together, and again when the request
-- is put together, where only the path counts.
def read (config : Config) (t : Text) : Except Fault Target := do
  let outer ← (Reference.ofText t).mapError .reference
  let base ← base config outer
  let query : Text := if outer.query.isEmpty then [] else "?" ++ outer.query
  let inner ← (Reference.ofText (outer.path ++ query)).mapError .reference
  let path ← (Reference.ofText inner.path >>= Reference.sent).mapError .reference
  let base ← (Reference.ofText base >>= Reference.sent >>= fun r =>
    Reference.ofText r.text).mapError .reference
  if !base.query.isEmpty || !base.fragment.isEmpty then throw .furnishedBase
  return { scheme := base.scheme
           host := withoutUsualNumber base.scheme base.authority
           root := stripSlashes (decoded base.path)
           path := decoded path.text
           query := inner.query }

def isHost (t : Text) : Bool :=
  match t with
  | char '[' :: rest =>
    match rest.splitOn (char ']') with
    | [address, []] =>
      match address.dropWhile (·.hexValue?.isSome) with
      | char ':' :: back =>
        !back.isEmpty && back.all fun c => c.hexValue?.isSome || c == char '.' || c == char ':'
      | _ => false
    | _ => false
  | _ =>
    !t.isEmpty &&
      t.all fun c => c.isAsciiLetter || c.isAsciiDigit || c == char '.' || c == char '-'

def isNumber : Text → Bool
  | [] => true
  | c :: digits => c == char ':' && !digits.isEmpty && digits.all (·.isAsciiDigit)

def splitNumber (t : Text) : Text × Text :=
  let host := match t with
    | char '[' :: _ =>
      t.takeWhile (· != char ']') ++ (t.dropWhile (· != char ']')).take 1
    | _ => t.takeWhile (· != char ':')
  (host, t.drop host.length)

-- The host, if it is one; a request may name something else, which is then as good as nothing.
def knownHost (target : Target) : Text :=
  let (host, number) := splitNumber target.host
  if isHost host && isNumber number then target.host else []

def checkShown (target : Target) : Except Fault Unit :=
  (Reference.shownAuthority target.knownHost >>= Reference.checkAuthority).mapError .reference

end Target

end SlotCompiler.Service
