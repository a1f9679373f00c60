namespace ConferenceBridge

/-! What may be offered for a call, one bit each. -/

structure Capabilities where
  bits : UInt32
  deriving DecidableEq, Repr

namespace Capabilities

def none : Capabilities := ⟨0⟩

def supportHold : Capabilities := ⟨1⟩

def hold : Capabilities := ⟨2⟩

def mute : Capabilities := ⟨4⟩

def manageConference : Capabilities := ⟨8⟩

def add (mask other : Capabilities) : Capabilities :=
  ⟨mask.bits ||| other.bits⟩

def remove (mask other : Capabilities) : Capabilities :=
  ⟨mask.bits &&& ~~~other.bits⟩

def set (mask other : Capabilities) (present : Bool) : Capabilities :=
  if present then mask.add other else mask.remove other

/-- Whether all bits of `other` are there. -/
def can (mask other : Capabilities) : Bool :=
  mask.bits &&& other.bits == other.bits

def atStart : Capabilities :=
  (supportHold.add hold).add mute

def named : List (String × Capabilities) :=
  [("halten_unterstuetzt", supportHold), ("halten", hold), ("stumm", mute),
    ("konferenz_verwalten", manageConference)]

def display (mask : Capabilities) : String :=
  "[" ++ "|".intercalate ((named.filter fun entry => mask.can entry.2).map (·.1)) ++ "]"

private theorem or_and_self (mask other : UInt32) : (mask ||| other) &&& other = other := by
  apply UInt32.toBitVec_inj.1
  ext place hplace
  simp
  exact Or.inr

private theorem and_not_and_self (mask other : UInt32) : mask &&& ~~~other &&& other = 0 := by
  apply UInt32.toBitVec_inj.1
  ext place hplace
  simp

private theorem and_not_or_self (mask other : UInt32) :
    mask &&& ~~~other ||| other = mask ||| other := by
  apply UInt32.toBitVec_inj.1
  ext place hplace
  simp
  cases other.toBitVec[place] <;> simp

private theorem or_and_not_self (mask other : UInt32) :
    (mask ||| other) &&& ~~~other = mask &&& ~~~other := by
  apply UInt32.toBitVec_inj.1
  ext place hplace
  simp
  cases other.toBitVec[place] <;> simp

theorem can_add (mask other : Capabilities) : (mask.add other).can other := by
  simp [can, add, or_and_self]

theorem can_set {mask other : Capabilities} (hother : other.bits ≠ 0) (present : Bool) :
    (mask.set other present).can other = present := by
  cases present
  · simpa [set, remove, can, and_not_and_self] using hother.symm
  · exact can_add mask other

theorem set_set (mask other : Capabilities) (first second : Bool) :
    (mask.set other first).set other second = mask.set other second := by
  cases first <;> cases second <;>
    simp [set, add, remove, and_not_or_self, or_and_not_self, UInt32.or_assoc, UInt32.and_assoc]

end Capabilities

end ConferenceBridge
