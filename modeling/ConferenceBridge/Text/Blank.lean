namespace ConferenceBridge.Text

/-! Characters with the Unicode property White_Space, and texts made of them. -/

/-- Closed ranges of code points with White_Space, in order. -/
def blankRanges : List (Nat × Nat) :=
  [(0x9, 0xd), (0x20, 0x20), (0x85, 0x85), (0xa0, 0xa0), (0x1680, 0x1680),
    (0x2000, 0x200a), (0x2028, 0x2029), (0x202f, 0x202f), (0x205f, 0x205f),
    (0x3000, 0x3000)]

def isBlank (c : Char) : Bool :=
  blankRanges.any fun range => range.1 ≤ c.toNat && c.toNat ≤ range.2

def allBlank (text : String) : Bool :=
  text.toList.all isBlank

def trimStart (cs : List Char) : List Char :=
  cs.dropWhile isBlank

def trimEnd (cs : List Char) : List Char :=
  (cs.reverse.dropWhile isBlank).reverse

def trim (cs : List Char) : List Char :=
  trimEnd (trimStart cs)

example : (blankRanges.map fun range => range.2 + 1 - range.1).sum = 25 := by decide

theorem isBlank_of_isWhitespace {c : Char} (h : c.isWhitespace) : isBlank c := by
  simp only [Char.isWhitespace, Bool.or_eq_true, decide_eq_true_eq] at h
  rcases h with ((rfl | rfl) | rfl) | rfl <;> decide

@[simp] theorem trimStart_nil : trimStart [] = [] := rfl

theorem trimStart_append_of_blank {blank : List Char} (h : ∀ c ∈ blank, isBlank c)
    (cs : List Char) : trimStart (blank ++ cs) = trimStart cs := by
  simp only [trimStart]
  induction blank with
  | nil => rfl
  | cons c rest ih =>
      simp only [List.mem_cons, forall_eq_or_imp] at h
      simp [h.1, ih h.2]

theorem trimEnd_append_of_blank {blank : List Char} (h : ∀ c ∈ blank, isBlank c)
    (cs : List Char) : trimEnd (cs ++ blank) = trimEnd cs := by
  have hreverse : ∀ c ∈ blank.reverse, isBlank c := by simpa using h
  have := trimStart_append_of_blank hreverse cs.reverse
  simpa [trimEnd, trimStart] using this

end ConferenceBridge.Text
