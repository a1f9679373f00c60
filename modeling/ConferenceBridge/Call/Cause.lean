namespace ConferenceBridge

/-! Why a call ended: as the signalling layer reports it, and as the call list keeps it. -/

inductive SignallingCause
  | normal
  | localHangup
  | busy
  | congestion
  | incomingMissed
  | incomingRejected
  | unreachable
  | invalidNumber
  | outOfService
  | networkError
  | aborted
  | unknown
  deriving DecidableEq, Repr

inductive DisconnectCause
  | unknown
  | error
  | localHangup
  | remote
  | aborted
  | missed
  | rejected
  | busy
  | restricted
  | other
  deriving DecidableEq, Repr

namespace SignallingCause

def all : List SignallingCause :=
  [normal, localHangup, busy, congestion, incomingMissed, incomingRejected, unreachable,
    invalidNumber, outOfService, networkError, aborted, unknown]

def name : SignallingCause → String
  | normal => "normal"
  | localHangup => "lokal"
  | busy => "besetzt"
  | congestion => "ueberlastung"
  | incomingMissed => "verpasst_eingehend"
  | incomingRejected => "abgelehnt_eingehend"
  | unreachable => "nicht_erreichbar"
  | invalidNumber => "ungueltige_nummer"
  | outOfService => "kein_dienst"
  | networkError => "netzfehler"
  | aborted => "abgebrochen"
  | unknown => "unbekannt"

def disconnectCause : SignallingCause → DisconnectCause
  | normal => .remote
  | localHangup => .localHangup
  | busy | congestion => .busy
  | incomingMissed => .missed
  | incomingRejected => .rejected
  | unreachable | invalidNumber | outOfService | networkError => .error
  | aborted => .aborted
  | unknown => .unknown

end SignallingCause

namespace DisconnectCause

def all : List DisconnectCause :=
  [unknown, error, localHangup, remote, aborted, missed, rejected, busy, restricted, other]

def name : DisconnectCause → String
  | unknown => "unbekannt"
  | error => "fehler"
  | localHangup => "lokal"
  | remote => "entfernt"
  | aborted => "abgebrochen"
  | missed => "verpasst"
  | rejected => "abgelehnt"
  | busy => "besetzt"
  | restricted => "beschraenkt"
  | other => "sonstiges"

/-- Whether the call list shows a call that ended this way. -/
def isLoggable (cause : DisconnectCause) : Bool :=
  cause != aborted

end DisconnectCause

end ConferenceBridge
