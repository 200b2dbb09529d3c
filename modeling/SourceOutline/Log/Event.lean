import SourceOutline.Data.Value

/-!
# Events

What happens during a run is told as events: a level, a name and some fields.
Nothing in this library writes a log while it works; functions return the events
they would tell, in order, and delivery is decided elsewhere.
-/

namespace SourceOutline

inductive Level where
  | debug
  | info
  | warning
  | error
  | critical
  deriving DecidableEq, Repr

namespace Level

/-- The severity of a level; a higher one is more severe. -/
def severity : Level → Int
  | debug => 10
  | info => 20
  | warning => 30
  | error => 40
  | critical => 50

def word : Level → String
  | debug => "debug"
  | info => "info"
  | warning => "warning"
  | error => "error"
  | critical => "critical"

def name : Level → String
  | debug => "DEBUG"
  | info => "INFO"
  | warning => "WARNING"
  | error => "ERROR"
  | critical => "CRITICAL"

def all : List Level := [debug, info, warning, error, critical]

def named? (text : String) : Option Level :=
  all.find? (·.name == text)

end Level

structure Event where
  level : Level
  name : String
  fields : List (String × Value) := []
  deriving Repr

end SourceOutline
