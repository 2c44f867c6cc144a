import SlotCompiler.Number.Limit
import SlotCompiler.Service.Address
import SlotCompiler.Service.Host.Name
import SlotCompiler.Text.Case
import SlotCompiler.Text.Utf8

namespace SlotCompiler.Service

open CodePoint (char)
open Text (splitFirst splitLast)

structure Reference where
  scheme : Text := []
  authority : Text := []
  path : Text := []
  query : Text := []
  fragment : Text := []
deriving DecidableEq, Repr

namespace Reference

inductive Fault where
  | strayBracket
  | futureAddress
  | ipv4Address
  | noAddress (host : Text)
  | dividingCharacter (authority : Text)
  | noNumber (text : Text)
  | longNumber (length : Nat)
  | greatNumber
  | name (fault : Host.LabelFault)
  | writtenName (fault : Host.DecodeFault)
deriving DecidableEq, Repr

def Fault.message : Fault → Text
  | strayBracket => "Invalid IPv6 URL"
  | futureAddress => "IPvFuture address is invalid"
  | ipv4Address => "An IPv4 address cannot be in brackets"
  | noAddress host => host.quoted ++ " does not appear to be an IPv4 or IPv6 address"
  | dividingCharacter authority =>
    "netloc '" ++ authority ++ "' contains invalid characters under NFKC normalization"
  | noNumber text => "Port could not be cast to integer value as " ++ text.quoted
  | longNumber length =>
    "Exceeds the limit (" ++ toString Number.digitLimit ++
      " digits) for integer string conversion: value has " ++ toString length ++
      " digits; use sys.set_int_max_str_digits() to increase the limit"
  | greatNumber => "Port out of range 0-65535"
  | name fault => "encoding with 'idna' codec failed (UnicodeError: " ++ fault.message ++ ")"
  | writtenName fault => fault.message

def isSchemePoint (c : CodePoint) : Bool :=
  c.isAsciiLetter || c.isAsciiDigit || c == char '+' || c == char '-' || c == char '.'

def splitScheme (t : Text) : Text × Text :=
  let name := t.takeWhile (· != char ':')
  if name.length < t.length && name.head?.any (·.isAsciiLetter) && name.all isSchemePoint then
    (name.map (·.asciiLower), t.drop (name.length + 1))
  else ([], t)

def isDivider (c : CodePoint) : Bool := c == char '/' || c == char '?' || c == char '#'

def splitAuthority : Text → Text × Text
  | char '/' :: char '/' :: rest =>
    let authority := rest.takeWhile fun c => !isDivider c
    (authority, rest.drop authority.length)
  | t => ([], t)

def checkBracketed (host : Text) : Except Fault Unit :=
  if host.head? == some (char 'v') then
    if Address.isFuture host then .ok () else .error .futureAddress
  else if Address.isIpv4 host then .error .ipv4Address
  else if Address.isIpv6 host then .ok ()
  else .error (.noAddress host)

-- An authority with brackets has them around the host, and nothing but a number after them.
def checkBrackets (authority : Text) : Except Fault Unit :=
  let place := (splitLast (char '@') authority).2
  if place.contains (char '[') then
    let (before, bracketed) := splitFirst (char '[') place
    let (host, after) := splitFirst (char ']') bracketed
    if before.isEmpty && after.head?.all (· == char ':') then checkBracketed host
    else .error .strayBracket
  else checkBracketed (splitFirst (char ':') place).1

-- The characters whose compatibility form has a character that divides references.
def disguisedDividers : List Nat :=
  [0x2047, 0x2048, 0x2049, 0x2100, 0x2101, 0x2105, 0x2106, 0x2a74, 0xfe13, 0xfe16, 0xfe55, 0xfe56,
   0xfe5f, 0xfe6b, 0xff03, 0xff0f, 0xff1a, 0xff1f, 0xff20]

def checkAuthority (authority : Text) : Except Fault Unit := do
  let opens := authority.contains (char '[')
  let closes := authority.contains (char ']')
  if opens != closes then throw .strayBracket
  if opens then checkBrackets authority
  if authority.any fun c => disguisedDividers.contains c.toNat then
    throw (.dividingCharacter authority)

-- Controls and spaces in front are dropped, and tabs and line ends anywhere.
def cleaned (t : Text) : Text :=
  (t.dropWhile (·.toNat ≤ 0x20)).filter fun c => c != char '\t' && c != char '\r' && c != char '\n'

def ofText (t : Text) : Except Fault Reference := do
  let (scheme, afterScheme) := splitScheme (cleaned t)
  let (authority, rest) := splitAuthority afterScheme
  checkAuthority authority
  let (rest, fragment) := splitFirst (char '#') rest
  let (path, query) := splitFirst (char '?') rest
  return { scheme, authority, path, query, fragment }

-- A path that looks like an authority gets an empty one in front.
def text (r : Reference) : Text :=
  let scheme : Text := if r.scheme.isEmpty then [] else r.scheme ++ ":"
  let isRooted := r.path.isEmpty || r.path.head? == some (char '/')
  let rest : Text :=
    if r.authority.isEmpty && !("//" : Text).isPrefixOf r.path then r.path
    else "//" ++ r.authority ++ (if isRooted then r.path else char '/' :: r.path)
  let query : Text := if r.query.isEmpty then [] else "?" ++ r.query
  let fragment : Text := if r.fragment.isEmpty then [] else "#" ++ r.fragment
  scheme ++ rest ++ query ++ fragment

def hostAndNumber (authority : Text) : Text × Text :=
  let place := (splitLast (char '@') authority).2
  if place.contains (char '[') then
    let (host, rest) := splitFirst (char ']') (splitFirst (char '[') place).2
    (host, (splitFirst (char ':') rest).2)
  else splitFirst (char ':') place

def host (authority : Text) : Text :=
  let given := (hostAndNumber authority).1
  let name : Text := given.takeWhile (· != char '%')
  name.lower ++ given.drop name.length

def numberText (text : Text) : Except Fault Text :=
  if text.isEmpty then .ok []
  else if !text.all (·.isAsciiDigit) then .error (.noNumber text)
  else if Number.digitLimit < text.length then .error (.longNumber text.length)
  else if 65535 < text.decimalValue then .error .greatNumber
  else if text.decimalValue == 0 then .ok []
  else .ok (":" ++ toString text.decimalValue)

-- The text with percent escapes for all bytes but those of ASCII letters, digits and `kept`.
def escaped (kept t : Text) : Text :=
  (Text.Utf8.encode t).flatMap fun b =>
    let c := CodePoint.ofNat b.toNat
    if c.isAsciiLetter || c.isAsciiDigit || ("_.-~" : Text).contains c || kept.contains c then [c]
    else "%" ++ (Text.hexDigits 2 b.toNat).upper

def userText (authority : Text) : Text :=
  match (splitLast (char '@') authority).1 with
  | none => []
  | some info =>
    let (user, password) := splitFirst (char ':') info
    let rest : Text := if password.isEmpty then [] else ":" ++ escaped "%!$&'()*+,;=" password
    escaped "%!$&'()*+,;=" user ++ rest ++ "@"

def bracketed (host : Text) : Text :=
  if host.contains (char ':') then "[" ++ host ++ "]" else host

-- An authority in the form that is sent: the name of the host in ASCII, the number without leading
-- zeros.
def sentAuthority (authority : Text) : Except Fault Text := do
  let name ← (Host.encode (host authority)).mapError .name
  let number ← numberText (hostAndNumber authority).2
  return userText authority ++ bracketed name ++ number

def sent (r : Reference) : Except Fault Reference := do
  return { r with authority := ← sentAuthority r.authority }

-- An authority in the form that is shown: the name of the host read back.
def shownAuthority (authority : Text) : Except Fault Text := do
  let name ← (Host.decode (host authority)).mapError .writtenName
  let number ← numberText (hostAndNumber authority).2
  return bracketed name ++ number

end Reference

end SlotCompiler.Service
