import ConferenceBridge.Call.Error
import ConferenceBridge.Call.Identity
import ConferenceBridge.Conference.Config

namespace ConferenceBridge

/-! Why a conference could not be made or reached. -/

inductive ConferenceError
  | value (error : ValueError)
  | signalling (error : SignallingError)
  | notFound (id : ConferenceId)
  | tornDown (id : ConferenceId)
  | configuration (text : String)
  deriving DecidableEq, Repr

namespace ConferenceError

def message : ConferenceError → String
  | value error => error.message
  | signalling error => s!"Signalisierungsfehler: {error.message}"
  | notFound id => s!"Konferenz nicht gefunden: {id.display}"
  | tornDown id => s!"Konferenz bereits abgebaut: {id.display}"
  | configuration text => s!"Konfigurationsfehler: {text}"

def ofFault (fault : ConferenceConfig.Fault) : ConferenceError :=
  configuration fault.message

end ConferenceError

end ConferenceBridge
