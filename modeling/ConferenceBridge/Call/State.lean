namespace ConferenceBridge

/-! The state of a call, of a participant and of a whole conference. -/

inductive ConnectionState
  | initializing
  | new
  | ringing
  | dialing
  | active
  | held
  | disconnected
  deriving DecidableEq, Repr

namespace ConnectionState

/-- All states, each at the place of its code. -/
def all : List ConnectionState :=
  [initializing, new, ringing, dialing, active, held, disconnected]

def name : ConnectionState → String
  | initializing => "initialisierung"
  | new => "neu"
  | ringing => "klingelt"
  | dialing => "waehlt"
  | active => "aktiv"
  | held => "gehalten"
  | disconnected => "getrennt"

def ofName? (name : String) : Option ConnectionState :=
  all.find? fun state => state.name == name

def code : ConnectionState → Int32
  | initializing => 0
  | new => 1
  | ringing => 2
  | dialing => 3
  | active => 4
  | held => 5
  | disconnected => 6

def ofCode? (code : Int32) : Option ConnectionState :=
  all.find? fun state => state.code == code

def isFinal (state : ConnectionState) : Bool :=
  state == disconnected

def isForeground (state : ConnectionState) : Bool :=
  state == active

@[simp] theorem ofName?_name (state : ConnectionState) : ofName? state.name = some state := by
  cases state <;> decide

@[simp] theorem ofCode?_code (state : ConnectionState) : ofCode? state.code = some state := by
  cases state <;> decide

@[simp] theorem mem_all (state : ConnectionState) : state ∈ all := by
  cases state <;> decide

end ConnectionState

end ConferenceBridge
