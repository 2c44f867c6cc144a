import SlotCompiler.Text

namespace SlotCompiler.Text

open CodePoint (char)

structure Run where
  first : Nat
  last : Nat
  step : Nat
  -- Of the first code point.
  image : List Nat

namespace Run

def hexNumber (t : Text) : Nat := t.foldl (fun n d => n * 16 + d.hexValue?.getD 0) 0

def ofText (t : Text) : Run :=
  let (source, image) := splitFirst (char ':') t
  let (ends, step) := splitFirst (char '/') source
  let (first, last) := splitFirst (char '-') ends
  { first := hexNumber first
    last := hexNumber (if last.isEmpty then first else last)
    step := if step.isEmpty then 1 else hexNumber step
    image := (image.splitOn (char '+')).map hexNumber }

def holds (r : Run) (n : Nat) : Bool :=
  r.first ≤ n && n ≤ r.last && (n - r.first) % r.step == 0

end Run

structure Table where
  runs : List Run

namespace Table

def ofLines (lines : List String) : Table :=
  ⟨lines.flatMap fun line => ((ofString line).splitOn (char ' ')).map Run.ofText⟩

-- The runs ascend, so the search ends at the first run above the code point.
def search (n : Nat) : List Run → Option (List Nat)
  | [] => none
  | r :: rest =>
    if n < r.first then none
    else if r.holds n then some (r.image.map (· + (n - r.first)))
    else search n rest

def find? (t : Table) (n : Nat) : Option (List Nat) := search n t.runs

def image (t : Table) (c : CodePoint) : Text :=
  match t.find? c.toNat with
  | some points => points.map .ofNat
  | none => [c]

end Table

end SlotCompiler.Text
