import ConferenceBridge.Conference.Scene

namespace ConferenceBridge

/-! Host events, and the reconcile of the roster with a complete list of participants.

While a participant is handed to the call list, that may call back into the conference. Functions
whose names end in `With` take what then happens as their argument `react`; at the end of the
module the recursion is closed over the calls that the call list still has to make. -/

structure Reconciliation where
  added : List Endpoint := []
  removed : List Endpoint := []
  /-- How many participants that were there before have another state now. -/
  updated : Nat := 0
  deriving DecidableEq, Repr

def Reconciliation.membershipChanged (result : Reconciliation) : Bool :=
  !result.added.isEmpty || !result.removed.isEmpty

/-- A participant that a running reconcile created, with the last state reported for it. -/
structure Newcomer where
  endpoint : Endpoint
  number : Nat
  state : ConnectionState
  deriving DecidableEq, Repr

structure Walk where
  scene : Scene
  reported : List Endpoint := []
  newcomers : List Newcomer := []
  updated : Nat := 0

abbrev React := List RegisterCall → Scene → Scene

namespace Scene

/-- What the call list does next, and a scene in which that is over. -/
def nextCalls (scene : Scene) : List RegisterCall × Scene :=
  match scene.register with
  | [] => ([], scene)
  | calls :: register => (calls, { scene with register })

def create (snapshot : Snapshot) (scene : Scene) : Nat × Scene :=
  let conference := scene.conference
  let participant := Participant.ofSnapshot snapshot conference.config.initialState
  (conference.participants.length,
    { scene with conference := { conference with
        participants := conference.participants ++ [participant] } })

/-- Hands a participant to the call list, and tells the subscribers afterwards. -/
def publishWith (react : React) (number : Nat) (scene : Scene) : Scene :=
  match scene.participant? number with
  | none => scene
  | some participant =>
      let account := AccountHandle.forPhone scene.conference.host.phone
      let (calls, scene) := scene.nextCalls
      let scene := scene.record (.published {
        number, account
        endpoint := participant.endpoint
        state := participant.state
        displayName := participant.displayName })
      react calls scene
      |>.note (.participantAdded participant.endpoint account)
      |>.announce (.participantAdded participant.endpoint)

end Scene

namespace Newcomer

def hear (entry : Snapshot) (newcomer : Newcomer) : Newcomer :=
  if newcomer.endpoint = entry.endpoint then { newcomer with state := entry.state } else newcomer

end Newcomer

namespace Walk

def knows (walk : Walk) (endpoint : Endpoint) : Bool :=
  walk.newcomers.any fun newcomer => newcomer.endpoint == endpoint

/-- One entry of the list. After a teardown nothing is created any more. -/
def enterWith (react : React) (walk : Walk) (entry : Snapshot) : Walk :=
  if walk.scene.conference.tornDown then walk
  else
    let walk := { walk with reported := entry.endpoint :: walk.reported }
    if walk.knows entry.endpoint then
      { walk with newcomers := walk.newcomers.map (·.hear entry) }
    else
      let (number, scene) := walk.scene.create entry
      match walk.scene.conference.roster.insertIfAbsent entry.endpoint number with
      | .present number =>
          let changes := walk.scene.accepts number (.call (.update entry.state))
          { walk with
            scene := walk.scene.callParticipant number (.update entry.state)
            updated := walk.updated + changes.toNat }
      | .stored roster =>
          { walk with
            scene := (scene.setRoster roster).publishWith react number
            newcomers := walk.newcomers ++ [⟨entry.endpoint, number, entry.state⟩] }

def bringUp (walk : Walk) : Scene :=
  walk.newcomers.foldl
    (fun scene newcomer => scene.callParticipant newcomer.number (.update newcomer.state))
    walk.scene

def added (walk : Walk) : List Endpoint :=
  walk.newcomers.map (·.endpoint)

/-- The end of a reconcile during which the conference was torn down: who came after the teardown
leaves again. -/
def finishTornDown (walk : Walk) (scene : Scene) : Scene × Reconciliation :=
  let (scene, removed) := scene.dismissAll
  let result := { added := walk.added, removed, updated := walk.updated }
  (scene.note (.reconcileCut result.added.length removed.length), result)

def finish (walk : Walk) (scene : Scene) : Scene × Reconciliation :=
  let (roster, leaving) := scene.conference.roster.splitBy walk.reported
  let scene := (scene.setRoster roster).dismantleAll leaving
  let removed := leaving.map Prod.fst
  let result := { added := walk.added, removed, updated := walk.updated }
  let scene := if result.membershipChanged then scene.refreshManage else scene
  (scene.note (.reconciled result.added.length removed.length result.updated
    scene.conference.roster.size), result)

end Walk

namespace Scene

def reconcileWith (react : React) (entries : List Snapshot) (scene : Scene) :
    Scene × Reconciliation :=
  if scene.conference.tornDown then (scene.note .reconcileIgnored, {})
  else
    let walk := entries.foldl (Walk.enterWith react) { scene }
    let scene := walk.bringUp
    if scene.conference.tornDown then walk.finishTornDown scene else walk.finish scene

def processWith (react : React) (event : HostEvent) (scene : Scene) : Scene :=
  if scene.conference.tornDown then scene.note (.eventIgnored event)
  else
    match event with
    | .stateChanged code =>
        match ConnectionState.ofCode? code with
        | none => scene.note (.codeRefused code)
        | some state =>
            let conference := scene.conference
            { scene with conference := { conference with host := conference.host.remember state } }
            |>.applyHostState state
    | .disconnected cause => scene.setDisconnected cause.disconnectCause
    | .destroyed => (scene.note .hostDestroyed).tearDown
    | .participantsChanged entries =>
        ((scene.note (.listReceived entries.length)).reconcileWith react entries).1

def performWith (react : React) (scene : Scene) : RegisterCall → Scene
  | .event event => scene.processWith react event
  | .participant number call => scene.callParticipant number call

/-! Each publication takes one entry from what the call list still has to do, so calls are nested
at most as deep as there are entries. -/

def reactAt : Nat → React
  | 0, _, scene => scene
  | depth + 1, calls, scene => calls.foldl (performWith (reactAt depth)) scene

def process (event : HostEvent) (scene : Scene) : Scene :=
  scene.processWith (reactAt scene.register.length) event

def perform (scene : Scene) (call : RegisterCall) : Scene :=
  scene.performWith (reactAt scene.register.length) call

def reconcile (entries : List Snapshot) (scene : Scene) : Scene × Reconciliation :=
  scene.reconcileWith (reactAt scene.register.length) entries

end Scene

end ConferenceBridge
