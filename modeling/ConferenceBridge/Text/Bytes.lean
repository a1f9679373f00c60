namespace ConferenceBridge.Text

/-! Places in a text, counted in bytes of UTF-8. -/

def byteCount : List Char → Nat
  | [] => 0
  | c :: rest => c.utf8Size + byteCount rest

/-- The characters that begin at a byte from `start` on and before `stop`. -/
def between (start stop : Nat) : List Char → List Char
  | [] => []
  | c :: rest =>
      let later := between (start - c.utf8Size) (stop - c.utf8Size) rest
      if start = 0 ∧ 0 < stop then c :: later else later

theorem between_zero_zero (cs : List Char) : between 0 0 cs = [] := by
  induction cs with
  | nil => rfl
  | cons c rest ih => simp [between, ih]

theorem between_zero_byteCount (cs rest : List Char) :
    between 0 (byteCount cs) (cs ++ rest) = cs := by
  induction cs with
  | nil => exact between_zero_zero rest
  | cons c cs ih => simp [between, byteCount, Nat.add_pos_left c.utf8Size_pos, ih]

theorem between_byteCount_append (cs part rest : List Char) :
    between (byteCount cs) (byteCount cs + byteCount part) (cs ++ part ++ rest) = part := by
  induction cs with
  | nil => simpa [byteCount] using between_zero_byteCount part rest
  | cons c cs ih =>
      have hsize := c.utf8Size_pos
      have hstop : c.utf8Size + byteCount cs + byteCount part - c.utf8Size =
          byteCount cs + byteCount part := by omega
      have hstart : c.utf8Size + byteCount cs - c.utf8Size = byteCount cs := by omega
      have hne : c.utf8Size + byteCount cs ≠ 0 := by omega
      simp only [byteCount, List.cons_append, between, hne, false_and, if_false, hstart, hstop]
      simpa using ih

end ConferenceBridge.Text
