import ConferenceBridge.Conference.Notice
import ConferenceBridge.Event.Conference

namespace ConferenceBridge

/-! What can be seen of a conference from outside, one thing after the other. -/

structure Publication where
  /-- Its place among all participants that the conference ever had. -/
  number : Nat
  account : AccountHandle
  endpoint : Endpoint
  state : ConnectionState
  displayName : Option String
  deriving DecidableEq, Repr

inductive Effect
  | changed (change : Change)
  | published (publication : Publication)
  | called (command : HostCommand)
  | joined (phone : PhoneId)
  | noted (notice : Notice)
  deriving DecidableEq, Repr

namespace Effect

def change? : Effect → Option Change
  | changed change => some change
  | _ => none

def publication? : Effect → Option Publication
  | published publication => some publication
  | _ => none

def command? : Effect → Option HostCommand
  | called command => some command
  | _ => none

def phone? : Effect → Option PhoneId
  | joined phone => some phone
  | _ => none

def notice? : Effect → Option Notice
  | noted notice => some notice
  | _ => none

end Effect

end ConferenceBridge
