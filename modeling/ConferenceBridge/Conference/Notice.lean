import ConferenceBridge.Call.Capabilities
import ConferenceBridge.Conference.Command
import ConferenceBridge.Log.Record

namespace ConferenceBridge

/-! What a conference writes to the log, and how that reads as a record. -/

inductive ParticipantNotice
  | stateKept (next : ConnectionState)
  | stateChanged (previous next : ConnectionState)
  | disconnected (cause : DisconnectCause)
  deriving DecidableEq, Repr

inductive HostNotice
  | attached (phone : PhoneId)
  | released
  | refused (command : HostCommand)
  | passed (command : HostCommand)
  | withoutCall (command : HostCommand)
  | failed (command : HostCommand) (error : SignallingError)
  deriving DecidableEq, Repr

inductive ConferenceNotice
  | created
  | eventIgnored (event : HostEvent)
  | codeRefused (code : Int32)
  | listReceived (count : Nat)
  | hostState (state : ConnectionState)
  | stateChanged (previous next : ConnectionState)
  | disconnected (cause : DisconnectCause)
  | hostDestroyed
  | tornDown
  | reconcileIgnored
  | reconcileCut (added removed : Nat)
  | reconciled (added removed updated size : Nat)
  | participantAdded (endpoint : Endpoint) (account : AccountHandle)
  | participantRemoved (endpoint : Endpoint)
  /-- A participant that was destroyed from outside has left the roster. -/
  | destroyedRemoved (endpoint : Endpoint)
  | allDismissed (count : Nat)
  | manageChecked (could can : Bool)
  | hangUpAsked
  | splitRefused (endpoint : Endpoint)
  | mergeWithoutPhone (connection : String)
  | mergeAsked (connection : String) (phone : PhoneId)
  | mergeFailed (connection : String) (error : SignallingError)
  | offerIgnored (connection : String)
  | queueEnded
  deriving DecidableEq, Repr

inductive Notice
  | participant (endpoint : Endpoint) (notice : ParticipantNotice)
  | host (notice : HostNotice)
  | conference (notice : ConferenceNotice)
  deriving DecidableEq, Repr

open Log in
def ParticipantNotice.record (endpoint : Endpoint) : ParticipantNotice → Record
  | stateKept next => entry "Zustandswechsel nach Getrennt ignoriert" [("neu", .text next.name)]
  | stateChanged previous next =>
      entry "Teilnehmer-Zustand" [("alt", .text previous.name), ("neu", .text next.name)]
  | disconnected cause =>
      entry "Teilnehmer getrennt"
        [("grund", .text cause.name), ("protokollierbar", .flag cause.isLoggable)]
where
  entry (message : String) (fields : List (String × FieldValue)) : Record :=
    ⟨.debug, "callbridge_conference::participant", message,
      ("endpoint", .text endpoint.text) :: fields⟩

open Log in
def HostNotice.record (label : String) : HostNotice → Record
  | attached phone => entry .debug "Host-Verbindung angelegt" [("telefon", .text phone.display)]
  | released => entry .debug "Host-Verbindung freigegeben" []
  | refused command => entry .debug "Host bereits freigegeben" [action command]
  | passed command => entry .debug "An Signalisierung uebergeben" [action command]
  | withoutCall command => entry .debug "Kein Anruf vorhanden" [action command]
  | failed command error =>
      entry .error "Signalisierungsaufruf fehlgeschlagen"
        [action command, ("fehler", .text error.message)]
where
  action (command : HostCommand) : String × FieldValue := ("aktion", .quoted command.name)
  entry (severity : Severity) (message : String) (fields : List (String × FieldValue)) : Record :=
    ⟨severity, "callbridge_conference::host", message, ("host", .text label) :: fields⟩

open Log in
/-- Times are not kept: a participant that leaves has stayed for no time. -/
def ConferenceNotice.record (id : ConferenceId) (label : String) : ConferenceNotice → Record
  | created => entry .info "Konferenz angelegt" [("host", .text label)]
  | eventIgnored event =>
      entry .debug "Ereignis nach Abbau ignoriert" [("ereignis", .quoted event.name)]
  | codeRefused code =>
      entry .warn "Ungueltiger Host-Zustand verworfen"
        [("code", .code code), ("fehler", .text (ValueError.stateCode code).message)]
  | listReceived count =>
      entry .debug "Konferenz-Ereignispaket empfangen" [("anzahl", .count count)]
  | hostState state => entry .debug "Host-Zustand" [("zustand", .text state.name)]
  | stateChanged previous next =>
      entry .info "Konferenz-Zustand" [("alt", .text previous.name), ("neu", .text next.name)]
  | disconnected cause => entry .info "Konferenz getrennt" [("grund", .text cause.name)]
  | hostDestroyed => entry .info "Host-Verbindung zerstoert" []
  | tornDown => entry .info "Konferenz abgebaut" []
  | reconcileIgnored => entry .debug "Abgleich nach Abbau ignoriert" []
  | reconcileCut added removed =>
      entry .debug "Abgleich durch Abbau beendet"
        [("hinzugefuegt", .count added), ("entfernt", .count removed)]
  | reconciled added removed updated size =>
      entry .debug "Roster abgeglichen"
        [("hinzugefuegt", .count added), ("entfernt", .count removed),
          ("aktualisiert", .count updated), ("teilnehmer", .count size)]
  | participantAdded endpoint account =>
      entry .info "Teilnehmer hinzugefuegt" [address endpoint, ("konto", .text account.display)]
  | participantRemoved endpoint =>
      entry .info "Teilnehmer entfernt" [address endpoint, ("dauer_ms", .remark "0")]
  | destroyedRemoved endpoint => entry .info "Zerstoerter Teilnehmer entfernt" [address endpoint]
  | allDismissed count => entry .info "Alle Teilnehmer werden getrennt" [("anzahl", .count count)]
  | manageChecked could can =>
      entry .debug "Konferenz-Verwaltung" [("war", yesNo could), ("ist", yesNo can)]
  | hangUpAsked => entry .info "Konferenz wird aufgelegt" []
  | splitRefused endpoint =>
      entry .error "Abspalten von Teilnehmern wird nicht unterstuetzt"
        [address endpoint, ("defekt", .flag true)]
  | mergeWithoutPhone connection =>
      entry .warn "Zusammenfuehren ohne Telefon nicht moeglich" [other connection]
  | mergeAsked connection phone =>
      entry .info "Zusammenfuehren angefordert" [other connection, ("telefon", .text phone.display)]
  | mergeFailed connection error =>
      entry .error "Zusammenfuehren fehlgeschlagen"
        [other connection, ("fehler", .text error.message)]
  | offerIgnored connection => entry .trace "Externe Verbindung ignoriert" [other connection]
  | queueEnded => entry .debug "Host-Ereignisschleife beendet" []
where
  address (endpoint : Endpoint) : String × FieldValue := ("endpoint", .text endpoint.text)
  other (connection : String) : String × FieldValue := ("verbindung", .text connection)
  yesNo (flag : Bool) : FieldValue := .quoted (if flag then "J" else "N")
  entry (severity : Severity) (message : String) (fields : List (String × FieldValue)) : Record :=
    ⟨severity, "callbridge_conference::session", message,
      ("konferenz", .text id.display) :: fields⟩

def Notice.record (id : ConferenceId) (label : String) : Notice → Log.Record
  | participant endpoint notice => notice.record endpoint
  | host notice => notice.record label
  | conference notice => notice.record id label

end ConferenceBridge
