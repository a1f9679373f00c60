import ConferenceBridge.Conference.Reconcile

namespace ConferenceBridge

/-! What may be asked of a conference from outside. -/

namespace Scene

/-- Passes a command to the handle, which may call back before it answers. Says whether the handle
took it. -/
def pass (command : HostCommand) (scene : Scene) : Scene × Bool :=
  match scene.conference.host.obstacle? scene.handle command with
  | some notice => (scene.noteHost notice, false)
  | none =>
      let answer := scene.handle.answer command
      let scene := answer.allCalls.foldl perform (scene.record (.called command))
      (scene.noteHost (HostLine.verdict command answer.result), answer.result.isOk)

def command (command : HostCommand) (scene : Scene) : Scene × Bool :=
  (if command = .hangUp then scene.note .hangUpAsked else scene).pass command

/-- A single participant cannot be split off; to ask for it is a defect of the one who asks. -/
def split (endpoint : Endpoint) (scene : Scene) : Scene :=
  scene.note (.splitRefused endpoint)

def merge (connection : ExternalConnection) (scene : Scene) : Scene × Bool :=
  match connection.phone with
  | none => (scene.note (.mergeWithoutPhone connection.label), false)
  | some (phone, result) =>
      let scene := scene.record (.joined phone)
      match result with
      | .ok () => (scene.note (.mergeAsked connection.label phone), true)
      | .error error => (scene.note (.mergeFailed connection.label error), false)

def offer (connection : ExternalConnection) (scene : Scene) : Scene :=
  scene.note (.offerIgnored connection.label)

/-- No single participant stands for the whole conference. -/
def primary? (_scene : Scene) : Option Nat :=
  none

def processQueue : List HostEvent → Scene → Scene
  | [], scene => scene.note .queueEnded
  | event :: events, scene =>
      let scene := scene.process event
      if scene.conference.tornDown then scene.note .queueEnded else scene.processQueue events

end Scene

inductive UserAction
  | command (command : HostCommand)
  | split (endpoint : Endpoint)
  | merge (connection : ExternalConnection)
  | offer (connection : ExternalConnection)

inductive Request
  | event (event : HostEvent)
  | queue (events : List HostEvent)
  | hostState (state : ConnectionState)
  | reconcile (entries : List Snapshot)
  | action (action : UserAction)
  | participant (number : Nat) (call : ParticipantCall)
  | handleChanged (handle : Handle)
  | registerChanged (register : List (List RegisterCall))

namespace Scene

def act (action : UserAction) (scene : Scene) : Scene × Bool :=
  match action with
  | .command command => scene.command command
  | .split endpoint => (scene.split endpoint, false)
  | .merge connection => scene.merge connection
  | .offer connection => (scene.offer connection, false)

def serve (scene : Scene) : Request → Scene
  | .event event => scene.process event
  | .queue events => scene.processQueue events
  | .hostState state => scene.applyHostState state
  | .reconcile entries => (scene.reconcile entries).1
  | .action action => (scene.act action).1
  | .participant number call => scene.callParticipant number call
  | .handleChanged handle => { scene with handle }
  | .registerChanged register => { scene with register }

def run (requests : List Request) (scene : Scene) : Scene :=
  requests.foldl serve scene

@[simp] theorem run_nil (scene : Scene) : scene.run [] = scene := rfl

@[simp] theorem run_cons (request : Request) (requests : List Request) (scene : Scene) :
    scene.run (request :: requests) = (scene.serve request).run requests := rfl

theorem run_append (first second : List Request) (scene : Scene) :
    scene.run (first ++ second) = (scene.run first).run second := by
  simp [run]

end Scene

end ConferenceBridge
