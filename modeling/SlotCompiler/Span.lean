namespace SlotCompiler

structure Span where
  line : Int
  column : Int
  length : Int
deriving DecidableEq, Repr

-- The span of nothing, for a text without any token.
def Span.zero : Span := ⟨0, 0, 0⟩

end SlotCompiler
