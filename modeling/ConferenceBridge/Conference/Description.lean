import ConferenceBridge.Conference.Participant
import ConferenceBridge.Text.Quoted

namespace ConferenceBridge

/-! How a participant is described: briefly, and in detail. Both descriptions go on with the time
since when the participant exists, which is not part of it here. -/

def ConnectionState.label : ConnectionState → String
  | initializing => "Initialisierung"
  | new => "Neu"
  | ringing => "Klingelt"
  | dialing => "Waehlt"
  | active => "Aktiv"
  | held => "Gehalten"
  | disconnected => "Getrennt"

namespace Participant

def description (participant : Participant) : String :=
  s!"[Teilnehmer {participant.endpoint.text} zustand={participant.state.name}"

def detail (participant : Participant) : String :=
  "ParticipantConnection \x7b endpoint: Endpoint(" ++ Text.quote participant.endpoint.text ++
    "), zustand: " ++ participant.state.label

end Participant

end ConferenceBridge
