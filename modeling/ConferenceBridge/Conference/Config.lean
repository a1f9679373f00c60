import ConferenceBridge.Call.State

namespace ConferenceBridge

/-! Settings shared by all conferences. -/

structure ConferenceConfig where
  eventCapacity : UInt64 := 256
  hostCapacity : UInt64 := 64
  /-- The state of a participant until its reported one is applied. -/
  initialState : ConnectionState := .held
  deriving DecidableEq, Repr

namespace ConferenceConfig

inductive Fault
  | eventCapacity
  | hostCapacity
  | initialState (state : ConnectionState)
  deriving DecidableEq, Repr

def Fault.message : Fault → String
  | eventCapacity => "ereignis_kanal_groesse muss groesser 0 sein"
  | hostCapacity => "host_kanal_groesse muss groesser 0 sein"
  | initialState state => s!"initialer_teilnehmer_zustand '{state.name}' nicht erlaubt"

def validate (config : ConferenceConfig) : Except Fault Unit :=
  if config.eventCapacity = 0 then .error .eventCapacity
  else if config.hostCapacity = 0 then .error .hostCapacity
  else if config.initialState = .active ∨ config.initialState = .disconnected then
    .error (.initialState config.initialState)
  else .ok ()

theorem validate_eq_ok_iff {config : ConferenceConfig} :
    config.validate = .ok () ↔
      config.eventCapacity ≠ 0 ∧ config.hostCapacity ≠ 0 ∧
        config.initialState ≠ .active ∧ config.initialState ≠ .disconnected := by
  unfold validate
  split
  · simp_all
  · split
    · simp_all
    · split
      · grind
      · simp_all

end ConferenceConfig

end ConferenceBridge
