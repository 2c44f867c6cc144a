import SlotCompiler.Fault
import SlotCompiler.Json.Basic

namespace SlotCompiler.Json

mutual

-- Checks that a value can be shown, if there is room for this many values inside each other in it.
def checkShown (room : Nat) : Json → Except Fault Unit
  | int n => if Number.Short n then .ok () else .error .longNumber
  | arr items => checkItems room items
  | obj members => checkMembers room members
  | _ => .ok ()

def checkItems : Nat → List Json → Except Fault Unit
  | _, [] => .ok ()
  | 0, _ :: _ => .error .deepValue
  | room + 1, item :: rest => do
    checkShown room item
    checkItems (room + 1) rest

def checkMembers : Nat → List (Text × Json) → Except Fault Unit
  | _, [] => .ok ()
  | 0, _ :: _ => .error .deepValue
  | room + 1, (_, value) :: rest => do
    checkShown room value
    checkMembers (room + 1) rest

end

def shown (room : Nat) (j : Json) : Except Fault Text := do
  checkShown room j
  return j.display

end SlotCompiler.Json
