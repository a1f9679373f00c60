import ConferenceBridge.Conference.Notice

namespace ConferenceBridge

/-! The conference's end of the host connection. -/

structure HostLine where
  label : String
  phone : PhoneId
  released : Bool := false
  /-- The last valid state the host reported. -/
  lastState : Option ConnectionState := none
  deriving DecidableEq, Repr

namespace HostLine

def ofHandle (handle : Handle) : HostLine where
  label := handle.label
  phone := handle.phone

def display (line : HostLine) : String :=
  if line.released then s!"{line.label} (freigegeben)" else line.label

/-- A released line knows no cause any more. -/
def cause (line : HostLine) (handle : Handle) : SignallingCause :=
  if line.released then .unknown else handle.cause

def remember (line : HostLine) (state : ConnectionState) : HostLine :=
  { line with lastState := some state }

def release (line : HostLine) : HostLine × List HostNotice :=
  if line.released then (line, []) else ({ line with released := true }, [.released])

def obstacle? (line : HostLine) (handle : Handle) (command : HostCommand) : Option HostNotice :=
  if line.released then some (.refused command)
  else if command = .hangUp ∧ handle.hasCall = false then some (.withoutCall command)
  else none

def verdict (command : HostCommand) : Except SignallingError Unit → HostNotice
  | .ok () => .passed command
  | .error .noCall => .withoutCall command
  | .error error => .failed command error

theorem obstacle?_eq_none_iff {line : HostLine} {handle : Handle} {command : HostCommand} :
    line.obstacle? handle command = none ↔
      line.released = false ∧ (command = .hangUp → handle.hasCall = true) := by
  unfold obstacle?
  cases line.released <;> cases handle.hasCall <;> simp

end HostLine

end ConferenceBridge
