import ConferenceBridge.Call.Cause
import ConferenceBridge.Call.Endpoint
import ConferenceBridge.Call.State

namespace ConferenceBridge

/-! What the signalling layer reports about the host connection of a conference. -/

structure Snapshot where
  endpoint : Endpoint
  state : ConnectionState
  displayName : Option String := none
  userUri : Option String := none
  deriving DecidableEq, Repr

def Snapshot.withDisplayName (snapshot : Snapshot) (name : String) : Snapshot :=
  { snapshot with displayName := some name }

inductive HostEvent
  /-- A new state of the host connection, as a code that may be invalid. -/
  | stateChanged (code : Int32)
  | disconnected (cause : SignallingCause)
  | destroyed
  | participantsChanged (participants : List Snapshot)
  deriving DecidableEq, Repr

namespace HostEvent

def name : HostEvent → String
  | stateChanged _ => "zustand_geaendert"
  | disconnected _ => "getrennt"
  | destroyed => "zerstoert"
  | participantsChanged _ => "teilnehmer_geaendert"

def ofState (state : ConnectionState) : HostEvent :=
  stateChanged state.code

end HostEvent

end ConferenceBridge
