import SlotCompiler.Text

namespace SlotCompiler

namespace Log

inductive Level where
  | debug
  | info
  | error
deriving DecidableEq, Repr

def Level.name : Level → Text
  | debug => "DEBUG"
  | info => "INFO"
  | error => "ERROR"

end Log

structure Log where
  level : Log.Level
  message : Text
deriving DecidableEq, Repr

end SlotCompiler
