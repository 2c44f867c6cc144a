namespace SlotCompiler.Number

-- The longest run of digits that is read as an integer, leading zeros included, and the most digits
-- that an integer is written with.
def digitLimit : Nat := 4300

def leastLong : Nat := Nat.pow 10 digitLimit

def Short (n : Int) : Prop := n.natAbs < leastLong

instance (n : Int) : Decidable (Short n) := inferInstanceAs (Decidable (_ < _))

end SlotCompiler.Number
