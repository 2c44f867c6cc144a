import SlotCompiler.Text

namespace SlotCompiler.Service.Address

open CodePoint (char)

def isOctet (t : Text) : Bool :=
  !t.isEmpty && t.all (·.isAsciiDigit) && t.length ≤ 3 && t.decimalValue ≤ 255 &&
    (t.length == 1 || t.head? != some (char '0'))

def isIpv4 (t : Text) : Bool :=
  let octets := t.splitOn (char '.')
  octets.length == 4 && octets.all isOctet

def isGroup (t : Text) : Bool :=
  !t.isEmpty && t.length ≤ 4 && t.all fun c => c.hexValue?.isSome

-- The groups of an address; the last two may be written as four octets.
def groups? (t : Text) : Option (List Text) :=
  let parts := t.splitOn (char ':')
  match parts.getLast? with
  | some last =>
    if last.contains (char '.') then
      if isIpv4 last then some (parts.dropLast ++ (["0", "0"] : List Text)) else none
    else some parts
  | none => none

-- The groups on one side of a gap. A gap at the end of the address leaves one empty part there.
def isSide (parts : List Text) : Bool := parts == [[]] || parts.all isGroup

-- Eight groups with colons between them; one gap may stand for a run of zero groups.
def areGroups (parts : List Text) : Bool :=
  let inner := (parts.drop 1).dropLast
  match inner.count [] with
  | 0 => parts.length == 8 && parts.all isGroup
  | 1 =>
    let gap := inner.findIdx (·.isEmpty) + 1
    let front := parts.take gap
    let back := parts.drop (gap + 1)
    isSide front && isSide back && ((front ++ back).filter (!·.isEmpty)).length ≤ 7
  | _ => false

def isIpv6 (t : Text) : Bool :=
  let address := t.takeWhile (· != char '%')
  let zone := t.drop address.length
  (zone.isEmpty || (1 < zone.length && !(zone.drop 1).contains (char '%'))) &&
    (groups? address).any fun parts => 3 ≤ parts.length && areGroups parts

def isFuture (t : Text) : Bool :=
  let version := (t.drop 1).takeWhile fun c => c.hexValue?.isSome
  !version.isEmpty &&
    match t.drop (version.length + 1) with
    | char '.' :: rest => !rest.isEmpty
    | _ => false

end SlotCompiler.Service.Address
