import ConferenceBridge.Conference.Registry
import ConferenceBridge.Replay.Line
import ConferenceBridge.Replay.SimulatedHost

namespace ConferenceBridge

/-! A replay of lines: each conference that a line names gets a simulated host with a telephone of
its own, and lives until it is torn down. -/

structure Statistics where
  lines : Nat := 0
  events : Nat := 0
  actions : Nat := 0
  faulty : Nat := 0
  created : Nat := 0
  dismantled : Nat := 0
  deriving DecidableEq, Repr

/-- A conference that is open, under its name in the lines. -/
structure Room where
  name : String
  id : ConferenceId
  host : SimulatedHost
  deriving DecidableEq, Repr

inductive ReplayNotice
  | lineRefused (line : Nat) (fault : Json.Fault)
  | lineNotApplied (line : Nat) (error : ConferenceError)
  | opened (name : String) (id : ConferenceId) (phone : PhoneId)
  | acted (name : String) (action : LineAction) (accepted : Bool)
  deriving DecidableEq, Repr

open Log in
def ReplayNotice.record : ReplayNotice → Record
  | lineRefused line fault =>
      entry .warn "Ungueltige Zeile verworfen"
        [("zeile", .count line), ("fehler", .remark (Line.faultMessage fault))]
  | lineNotApplied line error =>
      entry .warn "Zeile nicht anwendbar"
        [("zeile", .count line), ("fehler", .text error.message)]
  | opened name id phone =>
      entry .info "Konferenz eroeffnet"
        [("name", .quoted name), ("konferenz", .text id.display), ("telefon", .text phone.display)]
  | acted name action accepted =>
      entry .debug "Aktion"
        [("konferenz", .text name), ("aktion", .remark action.toJson.print),
          ("angenommen", .flag accepted)]
where
  entry (severity : Severity) (message : String) (fields : List (String × FieldValue)) : Record :=
    ⟨severity, "callbridge_server", message, fields⟩

open Log in
def Publication.record (publication : Publication) : Record :=
  ⟨.info, "callbridge_server::simulation", "Teilnehmer veroeffentlicht",
    [("konto", .text publication.account.display),
      ("endpoint", .text publication.endpoint.text),
      ("anzeigename", .quoted (publication.displayName.getD "-"))]⟩

def Room.records (room : Room) : Effect → List Log.Record
  | .noted notice => [notice.record room.id room.name]
  | .called command => (room.host.record? command).toList
  | .published publication => [publication.record]
  | .changed _ | .joined _ => []

structure Server where
  registry : Registry
  /-- The id of each conference, by how many were created before it. -/
  ids : Nat → ConferenceId
  nextPhone : PhoneId
  rooms : List Room := []
  statistics : Statistics := {}
  published : Nat := 0
  journal : List Log.Record := []

namespace Server

def open? (config : ConferenceConfig) (firstPhone : PhoneId) (ids : Nat → ConferenceId) :
    Except ConferenceError Server := do
  let registry ← Registry.open? config
  return { registry, ids, nextPhone := firstPhone }

def write (records : List Log.Record) (server : Server) : Server :=
  { server with journal := records.reverse ++ server.journal }

def recordsAfter (count : Nat) (server : Server) : List Log.Record :=
  (server.journal.take (server.journal.length - count)).reverse

def room? (server : Server) (name : String) : Option Room :=
  server.rooms.find? fun room => room.name == name

def conference? (server : Server) (name : String) : Option Scene := do
  let room ← server.room? name
  server.registry.scene? room.id

def setRoom (room : Room) (server : Server) : Server :=
  { server with
    rooms := server.rooms.map fun other => if other.name = room.name then room else other }

/-- Takes over what was seen of a conference since it had `count` effects. -/
def observe (room : Room) (count : Nat) (server : Server) : Server :=
  match server.registry.scene? room.id with
  | none => server
  | some scene =>
      let effects := scene.effectsAfter count
      let host := (effects.filterMap Effect.command?).foldl
        (fun host command => host.perform command) room.host
      { server with published := server.published + (effects.filterMap Effect.publication?).length }
      |>.setRoom { room with host }
      |>.write (effects.flatMap room.records)

def effectCount (room : Room) (server : Server) : Nat :=
  ((server.registry.scene? room.id).map fun scene => scene.history.length).getD 0

def openRoom (name : String) (server : Server) : Room × Server :=
  let id := server.ids server.statistics.created
  let phone := server.nextPhone
  let host : SimulatedHost := { name, phone }
  let (registry, notice) := server.registry.promote id host.handle
  let room : Room := { name, id, host }
  let server :=
    { server with
      registry
      nextPhone := phone.next
      rooms := server.rooms ++ [room]
      statistics := { server.statistics with created := server.statistics.created + 1 } }
    |>.observe room 0
    |>.write [notice.record, (ReplayNotice.opened name id phone).record]
  (room, server)

def enterRoom (name : String) (server : Server) : Room × Server :=
  match server.room? name with
  | some room => (room, server)
  | none => server.openRoom name

def applyEvent (room : Room) (event : HostEvent) (server : Server) :
    Except ConferenceError Server := do
  let room := { room with host := room.host.hear event }
  let server := server.setRoom room
  let count := server.effectCount room
  let registry ← (server.registry.update room.id fun scene =>
    { scene with handle := room.host.handle }).deliver room.id event
  return { server with registry }.observe room count

def applyAction (room : Room) (action : LineAction) (server : Server) : Server :=
  match server.registry.scene? room.id with
  | none => server
  | some scene =>
      let wanted : UserAction := match action with
        | .command command => .command command
        | .split endpoint => .split endpoint
      let (scene, accepted) := { scene with handle := room.host.handle }.act wanted
      let count := server.effectCount room
      { server with registry := server.registry.update room.id fun _ => scene }
      |>.observe room count
      |>.write [(ReplayNotice.acted room.name action accepted).record]

def countEvent (server : Server) : Server :=
  { server with
    statistics := { server.statistics with events := server.statistics.events + 1 } }

def countAction (server : Server) : Server :=
  { server with
    statistics := { server.statistics with actions := server.statistics.actions + 1 } }

def countFaulty (server : Server) : Server :=
  { server with
    statistics := { server.statistics with faulty := server.statistics.faulty + 1 } }

def countLine (server : Server) : Server :=
  { server with
    statistics := { server.statistics with lines := server.statistics.lines + 1 } }

def apply (line : Line) (server : Server) : Server :=
  let (room, server) := server.enterRoom line.conference
  match line.content with
  | .event event =>
      let server := server.countEvent
      match server.applyEvent room event with
      | .ok server => server
      | .error error =>
          server.countFaulty.write
            [(ReplayNotice.lineNotApplied server.statistics.lines error).record]
  | .action action => server.countAction.applyAction room action

def purge (server : Server) : Server :=
  let (registry, purged) := server.registry.purge
  { server with
    registry
    rooms := server.rooms.filter fun room => room.id ∉ purged
    statistics :=
      { server.statistics with dismantled := server.statistics.dismantled + purged.length } }
  |>.write ((Registry.purgeNotice? purged).toList.map RegistryNotice.record)

/-- One line of a replay. A line that cannot be read changes no conference. -/
def take (text : String) (server : Server) : Server :=
  let server := server.countLine
  match Line.parse text with
  | .ok none => server
  | .ok (some line) => (server.apply line).purge
  | .error fault =>
      server.countFaulty.write [(ReplayNotice.lineRefused server.statistics.lines fault).record]

end Server

end ConferenceBridge
