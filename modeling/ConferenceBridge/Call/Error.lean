namespace ConferenceBridge

/-! Values that are refused, and the words for it. -/

inductive ValueError
  | stateCode (code : Int32)
  | stateName (name : String)
  | endpoint (text : String)
  | configuration (text : String)
  | internal (text : String)
  | other (text : String)
  deriving DecidableEq, Repr

namespace ValueError

def message : ValueError → String
  | stateCode code => s!"Ungueltiger Verbindungszustand: Code {code.toInt}"
  | stateName name => s!"Ungueltiger Verbindungszustand: '{name}'"
  | endpoint text => s!"Ungueltiger Endpunkt: {text}"
  | configuration text => s!"Konfigurationsfehler: {text}"
  | internal text => s!"Interner Fehler: {text}"
  | other text => text

def isInputFault : ValueError → Bool
  | stateCode _ | stateName _ | endpoint _ => true
  | configuration _ | internal _ | other _ => false

end ValueError

inductive SignallingError
  | state (text : String)
  | noCall
  | unavailable (text : String)
  deriving DecidableEq, Repr

namespace SignallingError

def message : SignallingError → String
  | state text => s!"Ungueltiger Anrufzustand: {text}"
  | noCall => "Kein Anruf vorhanden"
  | unavailable text => s!"Signalisierung nicht verfuegbar: {text}"

end SignallingError

end ConferenceBridge
