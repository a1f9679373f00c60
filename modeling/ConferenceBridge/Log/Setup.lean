import ConferenceBridge.Log.Filter
import ConferenceBridge.Log.Layout

namespace ConferenceBridge.Log

/-! What the log is set up with. -/

inductive SetupError
  | filter (text : String)
  | format (text : String)
  | alreadySetUp
  deriving DecidableEq, Repr

def SetupError.message : SetupError → String
  | filter text => s!"Ungueltiger Log-Filter '{text}'"
  | format text => s!"Ungueltiges Log-Format '{text}' (erlaubt: text, json)"
  | alreadySetUp => "Logging bereits initialisiert"

structure Setup where
  filter : Filter
  format : Format
  deriving DecidableEq, Repr

def parseFilter (text : String) : Except SetupError Filter :=
  (Filter.parse? text).elim (.error (.filter text)) .ok

def parseFormat (text : String) : Except SetupError Format :=
  (Format.ofName? text).elim (.error (.format text)) .ok

/-- The filter is looked at before the format, and both before an earlier setup. -/
def setUp (alreadySetUp : Bool) (filter format : String) : Except SetupError Setup := do
  let filter ← parseFilter filter
  let format ← parseFormat format
  if alreadySetUp then .error .alreadySetUp else .ok { filter, format }

def Setup.admitted (setup : Setup) (records : List Record) : List Record :=
  records.filter setup.filter.admits

def Setup.lines (setup : Setup) (records : List Record) : List String :=
  (setup.admitted records).map fun record => record.write setup.format

end ConferenceBridge.Log
