namespace ConferenceBridge.Log

/-! Log records. -/

inductive Severity
  | error
  | warn
  | info
  | debug
  | trace
  deriving DecidableEq, Repr

namespace Severity

def all : List Severity :=
  [error, warn, info, debug, trace]

def name : Severity → String
  | error => "error"
  | warn => "warn"
  | info => "info"
  | debug => "debug"
  | trace => "trace"

def label : Severity → String
  | error => "ERROR"
  | warn => "WARN"
  | info => "INFO"
  | debug => "DEBUG"
  | trace => "TRACE"

def rank : Severity → Nat
  | error => 1
  | warn => 2
  | info => 3
  | debug => 4
  | trace => 5

def ofName? (name : String) : Option Severity :=
  all.find? fun severity => severity.name == name

end Severity

inductive FieldValue
  | text (value : String)
  | quoted (value : String)
  | count (value : Nat)
  | code (value : Int32)
  | flag (value : Bool)
  /-- A text that is only meant to be read. -/
  | remark (value : String)
  deriving DecidableEq, Repr

structure Record where
  severity : Severity
  target : String
  message : String
  fields : List (String × FieldValue)
  deriving DecidableEq, Repr

/-- The message counts as a field. -/
def Record.hasField (record : Record) (name : String) : Bool :=
  name == "message" || record.fields.any fun field => field.1 == name

end ConferenceBridge.Log
