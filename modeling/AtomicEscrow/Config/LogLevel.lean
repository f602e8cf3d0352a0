import AtomicEscrow.Number.Decimal

set_option autoImplicit false

/-! # Log levels

How much the engine tells while it runs: a name in any case, or a number from one (least) to five
(most). There is one subscriber for what it tells, and a second one cannot be installed.
-/

namespace AtomicEscrow

/-- How much is told. -/
inductive LogLevel
  | error
  | warn
  | info
  | debug
  | trace
deriving DecidableEq

namespace LogLevel

/-- Every level, from the one that tells least. -/
def all : List LogLevel := [error, warn, info, debug, trace]

def name : LogLevel → String
  | error => "error"
  | warn => "warn"
  | info => "info"
  | debug => "debug"
  | trace => "trace"

/-- The level of a number, counted from one. -/
def ofNumber? : Nat → Option LogLevel
  | 0 => none
  | n + 1 => all[n]?

/-- The level of a name, in any case. -/
def ofName? (s : String) : Option LogLevel :=
  all.find? fun level => level.name.toList = s.toList.map Char.toLower

def ofText? (s : String) : Option LogLevel :=
  match naturalText? s.toList with
  | some n => ofNumber? n
  | none => ofName? s

end LogLevel

/-- Why nothing will be told. -/
inductive LoggingError
  | unknownLevel (text : String)
  /-- There is a subscriber already. -/
  | alreadyInstalled
deriving DecidableEq

namespace LoggingError

def message : LoggingError → String
  | unknownLevel text => s!"unknown log level: {text}"
  | alreadyInstalled =>
      "failed to install tracing subscriber: a global default trace dispatcher has already been set"

end LoggingError

/-- The level of a new subscriber, if its name is known and there is no subscriber yet. -/
def LogLevel.install (text : String) (installed : Bool) : Except LoggingError LogLevel :=
  match ofText? text with
  | none => .error (.unknownLevel text)
  | some level => if installed then .error .alreadyInstalled else .ok level

end AtomicEscrow
