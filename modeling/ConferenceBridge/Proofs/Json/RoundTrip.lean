import ConferenceBridge.Json.Decoder
import ConferenceBridge.Proofs.Json.Scanning

namespace ConferenceBridge.Json

/-! What is printed is read back as it was. -/

variable {cs rest : List Char} {token : Token} {value : Json} {room : Nat}
variable {expect expect' : Expect} {stack stack' inner : List Frame}

namespace Token

theorem next?_of_isSpace {c : Char} (hc : isSpace c) (rest : List Char) :
    next? (c :: rest) = none := by
  simp only [isSpace, Bool.or_eq_true, decide_eq_true_eq] at hc
  rcases hc with ((rfl | rfl) | rfl) | rfl <;>
    simp [next?, numeral?, magnitude?, wholePart?, digitsOf]

theorem skipSpace_of_next? (h : next? cs = some (token, rest)) : skipSpace cs = cs := by
  cases cs with
  | nil => rfl
  | cons c tail =>
      have hc : isSpace c = false := by
        rw [← Bool.not_eq_true]
        intro hspace
        rw [next?_of_isSpace hspace] at h
        cases h
      simp [skipSpace, hc]

theorem scan_of_next? (h : next? cs = some (token, rest)) :
    scan cs = (token :: (scan rest).1, (scan rest).2) := by
  rw [scan]
  split
  · next hnone =>
      rw [skipSpace_of_next? h, h] at hnone
      cases hnone
  · next hsome =>
      rw [skipSpace_of_next? h, h] at hsome
      cases hsome
      rfl

theorem scan_nil : scan [] = ([], true) := by
  have hnone : next? (skipSpace []) = none := rfl
  rw [scan]
  split
  · rfl
  · next hsome =>
      rw [hnone] at hsome
      cases hsome

end Token

/-! Reading on from the middle of a text. -/

/-- What the rest of a text makes of the containers that are open in front of it, and whether it
has no fault. -/
def readFrom (cs : List Char) (expect : Expect) (stack : List Frame) : Reading × Bool :=
  (build (Token.scan cs).1 expect stack, (Token.scan cs).2)

theorem read_eq_readFrom (cs : List Char) :
    read cs =
      { (readFrom cs .value []).1 with
        ended := (readFrom cs .value []).1.ended && (readFrom cs .value []).2 } := rfl

theorem readFrom_of_step (hnext : Token.next? cs = some (token, rest))
    (hstep : step token expect stack = some (expect', stack')) :
    readFrom cs expect stack = readFrom rest expect' stack' := by
  rw [readFrom, Token.scan_of_next? hnext, readFrom]
  rw [build]
  · simp only [hstep]
  · rintro last rfl rfl
    cases token <;> cases hstep

inductive AtValue : Expect → List Frame → List Frame → Prop
  | value (stack : List Frame) : AtValue .value stack stack
  | first (stack : List Frame) : AtValue .valueOrClose stack (.array [] :: stack)

inductive AtKey : Expect → List (String × Json) → Prop
  | first : AtKey .keyOrClose []
  | later (members : List (String × Json)) : AtKey (.key members) members

theorem AtValue.step_eq (h : AtValue expect stack inner) (hclose : token ≠ .closeArray) :
    step token expect stack = beginValue token inner := by
  cases h <;> cases token <;> first | rfl | contradiction

theorem AtKey.step_text {members : List (String × Json)} (h : AtKey expect members)
    (key : String) (stack : List Frame) :
    step (.text key) expect stack = some (.colon members (some key), stack) := by
  cases h <;> rfl

/-- Wherever the value is written and one is expected, it is read. -/
def ReadsBack (value : Json) : Prop :=
  ∀ ⦃expect stack inner rest⦄, AtValue expect stack inner → Token.Breaks rest →
    readFrom (value.render ++ rest) expect stack = readFrom rest (.after value) inner

theorem readsBack_of_leaf
    (hnext : ∀ rest, Token.Breaks rest →
      Token.next? (value.render ++ rest) = some (token, rest))
    (hleaf : token.leaf? = some value) : ReadsBack value := by
  intro expect stack inner rest hat hrest
  refine readFrom_of_step (hnext rest hrest) ?_
  rw [hat.step_eq (by rintro rfl; cases hleaf)]
  cases token <;> first | (cases hleaf; done) | simp [beginValue, hleaf]

theorem breaks_cons {c : Char} (hc : c = ',' ∨ c = ']' ∨ c = '}') (rest : List Char) :
    Token.Breaks (c :: rest) := by
  simpa [Token.Breaks] using hc

theorem renderItems_cons_cons (item next : Json) (items : List Json) :
    renderItems (item :: next :: items) = item.render ++ ',' :: renderItems (next :: items) := rfl

theorem renderMembers_cons_cons (key : String) (value : Json) (next : String × Json)
    (members : List (String × Json)) :
    renderMembers ((key, value) :: next :: members) =
      quote key ++ ':' :: (value.render ++ ',' :: renderMembers (next :: members)) := rfl

/-- The items that are left come behind those that are done. -/
theorem readFrom_renderItems {items : List Json} (hne : items ≠ [])
    (hitems : ∀ item ∈ items, ReadsBack item) {done : List Json}
    (hat : AtValue expect stack' (.array done :: stack)) (rest : List Char) :
    readFrom (renderItems items ++ ']' :: rest) expect stack' =
      readFrom rest (.after (.array (done.reverse ++ items))) stack := by
  induction items generalizing done expect stack' with
  | nil => exact absurd rfl hne
  | cons item items ih =>
      obtain ⟨hitem, hitems⟩ := List.forall_mem_cons.mp hitems
      cases items with
      | nil =>
          calc readFrom (renderItems [item] ++ ']' :: rest) expect stack'
            _ = readFrom (']' :: rest) (.after item) (.array done :: stack) :=
                hitem hat (breaks_cons (by simp) _)
            _ = readFrom rest (.after (.array (item :: done).reverse)) stack :=
                readFrom_of_step rfl rfl
            _ = readFrom rest (.after (.array (done.reverse ++ [item]))) stack := by
                rw [List.reverse_cons]
      | cons next items =>
          calc readFrom (renderItems (item :: next :: items) ++ ']' :: rest) expect stack'
            _ = readFrom (',' :: (renderItems (next :: items) ++ ']' :: rest)) (.after item)
                  (.array done :: stack) := by
                rw [renderItems_cons_cons, List.append_assoc]
                exact hitem hat (breaks_cons (by simp) _)
            _ = readFrom (renderItems (next :: items) ++ ']' :: rest) .value
                  (.array (item :: done) :: stack) := readFrom_of_step rfl rfl
            _ = readFrom rest (.after (.array ((item :: done).reverse ++ next :: items))) stack :=
                ih (List.cons_ne_nil _ _) hitems (.value _)
            _ = _ := by rw [List.reverse_cons, List.append_assoc, List.singleton_append]

theorem readFrom_quote {done : List (String × Json)} (hat : AtKey expect done) (key : String)
    (rest : List Char) :
    readFrom (quote key ++ ':' :: rest) expect stack =
      readFrom rest .value (.object done (some key) :: stack) :=
  (readFrom_of_step (Token.next?_quote key _) (hat.step_text key stack)).trans
    (readFrom_of_step rfl rfl)

theorem readFrom_renderMembers {members : List (String × Json)} (hne : members ≠ [])
    (hmembers : ∀ member ∈ members, ReadsBack member.2) {done : List (String × Json)}
    (hat : AtKey expect done) (rest : List Char) :
    readFrom (renderMembers members ++ '}' :: rest) expect stack =
      readFrom rest (.after (.object (done.reverse ++ members))) stack := by
  induction members generalizing done expect with
  | nil => exact absurd rfl hne
  | cons member members ih =>
      obtain ⟨key, value⟩ := member
      obtain ⟨hvalue, hmembers⟩ := List.forall_mem_cons.mp hmembers
      cases members with
      | nil =>
          calc readFrom (renderMembers [(key, value)] ++ '}' :: rest) expect stack
            _ = readFrom (value.render ++ '}' :: rest) .value
                  (.object done (some key) :: stack) := by
                rw [renderMembers, List.append_assoc]
                exact readFrom_quote hat key _
            _ = readFrom ('}' :: rest) (.after value) (.object done (some key) :: stack) :=
                hvalue (.value _) (breaks_cons (by simp) _)
            _ = readFrom rest (.after (.object ((key, value) :: done).reverse)) stack :=
                readFrom_of_step rfl rfl
            _ = readFrom rest (.after (.object (done.reverse ++ [(key, value)]))) stack := by
                rw [List.reverse_cons]
      | cons next members =>
          calc readFrom (renderMembers ((key, value) :: next :: members) ++ '}' :: rest) expect
                stack
            _ = readFrom (value.render ++ ',' :: (renderMembers (next :: members) ++ '}' :: rest))
                  .value (.object done (some key) :: stack) := by
                rw [renderMembers_cons_cons, List.append_assoc, List.cons_append, List.append_assoc]
                exact readFrom_quote hat key _
            _ = readFrom (',' :: (renderMembers (next :: members) ++ '}' :: rest)) (.after value)
                  (.object done (some key) :: stack) := hvalue (.value _) (breaks_cons (by simp) _)
            _ = readFrom (renderMembers (next :: members) ++ '}' :: rest)
                  (.key ((key, value) :: done)) stack := readFrom_of_step rfl rfl
            _ = readFrom rest
                  (.after (.object (((key, value) :: done).reverse ++ next :: members))) stack :=
                ih (List.cons_ne_nil _ _) hmembers (.later _)
            _ = _ := by rw [List.reverse_cons, List.append_assoc, List.singleton_append]

/-- Values that a text can hold: their integers have 64 bits, all texts stand for characters, and
arrays and objects are nested `room` deep at most. -/
inductive Writable : Nat → Json → Prop
  | null (room : Nat) : Writable room .null
  | bool (room : Nat) (value : Bool) : Writable room (.bool value)
  | whole (room : Nat) (negative : Bool) {magnitude : Nat} (h : magnitude < UInt64.size) :
      Writable room (.number (.whole negative magnitude))
  | text (room : Nat) (value : String) : Writable room (.text value)
  | array {room : Nat} {items : List Json} (h : ∀ item ∈ items, Writable room item) :
      Writable (room + 1) (.array items)
  | object {room : Nat} {members : List (String × Json)}
      (h : ∀ member ∈ members, Writable room member.2) : Writable (room + 1) (.object members)

attribute [simp] Writable.text

theorem Writable.readsBack (h : Writable room value) : ReadsBack value := by
  induction h with
  | null => exact readsBack_of_leaf (fun _ _ => rfl) rfl
  | bool _ value => cases value <;> exact readsBack_of_leaf (fun _ _ => rfl) rfl
  | whole _ negative _ =>
      exact readsBack_of_leaf (fun _ => Token.next?_renderNumeral negative _) rfl
  | text _ value => exact readsBack_of_leaf (fun rest _ => Token.next?_quote value rest) rfl
  | @array _ items _ ih =>
      intro expect stack inner rest hat hrest
      rw [render, List.cons_append, List.append_assoc,
        readFrom_of_step rfl (hat.step_eq (by simp))]
      cases items with
      | nil => exact readFrom_of_step rfl rfl
      | cons item items =>
          exact readFrom_renderItems (List.cons_ne_nil _ _) ih (.first inner) rest
  | @object _ members _ ih =>
      intro expect stack inner rest hat hrest
      rw [render, List.cons_append, List.append_assoc,
        readFrom_of_step rfl (hat.step_eq (by simp))]
      cases members with
      | nil => exact readFrom_of_step rfl rfl
      | cons member members =>
          exact readFrom_renderMembers (List.cons_ne_nil _ _) ih .first rest

theorem Writable.read_render (h : Writable room value) :
    read value.render = ⟨some value, true, true⟩ := by
  have hread : readFrom value.render .value [] = readFrom [] (.after value) [] := by
    have hrest : Token.Breaks [] := by simp [Token.Breaks]
    simpa using h.readsBack (.value []) hrest
  rw [read_eq_readFrom, hread, readFrom, Token.scan_nil]
  rfl

/-! Numbers of 64 bits are in range. -/

theorem le_ofDigitChars (value : Nat) (cs : List Char) : value ≤ Nat.ofDigitChars 10 cs value := by
  rw [Nat.ofDigitChars_eq_ofDigitChars_zero]
  exact Nat.le_add_right_of_le (Nat.le_mul_of_pos_left value (Nat.pow_pos (by decide)))

theorem gather_eq {value : Nat} (h : Nat.ofDigitChars 10 cs value < UInt64.size) :
    Numeral.gather value cs = (Nat.ofDigitChars 10 cs value, 0) := by
  induction cs generalizing value with
  | nil => rfl
  | cons c cs ih =>
      rw [Nat.ofDigitChars_cons, Nat.mul_comm] at h ⊢
      rw [Numeral.gather, if_pos (Nat.lt_of_le_of_lt (le_ofDigitChars _ cs) h), ih h]

theorem nearest_le (value : Nat) : Numeral.nearest value ≤ 2 * value + 1 := by
  have hunit : Nat.pow 2 (value.log2 - 52) ≤ value + 1 := by
    by_cases hvalue : value = 0
    · subst hvalue
      decide
    · exact Nat.le_succ_of_le
        (Nat.le_trans (Nat.pow_le_pow_right (by decide) (Nat.sub_le _ _))
          (Nat.log2_self_le hvalue))
  have hbelow := Nat.div_mul_le_self value (Nat.pow 2 (value.log2 - 52))
  simp only [Numeral.nearest]
  split
  · omega
  · rw [Nat.succ_mul]
    omega

theorem scaledInRange_zero {value : Nat} (h : value < UInt64.size) :
    Numeral.scaledInRange value (0 : Nat) = true := by
  have hone : Numeral.nearest (Nat.pow 10 (Int.toNat (0 : Nat))) = 1 := by decide
  have hlarge : 2 * UInt64.size < Numeral.overflow := by decide +kernel
  have hnearest := nearest_le value
  have hfinite : Numeral.nearest value < Numeral.overflow := by omega
  rw [Numeral.scaledInRange, hone, Nat.mul_one, decide_eq_true hfinite]
  exact Bool.or_true _

theorem inRange_whole (negative : Bool) {magnitude : Nat} (h : magnitude < UInt64.size) :
    (Numeral.whole negative magnitude).inRange = true := by
  have hgather : Numeral.gather 0 (Nat.toDigits 10 magnitude) = (magnitude, 0) := by
    rw [gather_eq] <;> rw [Nat.ofDigitChars_ten_toDigits]
    exact h
  rw [Numeral.inRange, hgather]
  exact scaledInRange_zero h

theorem depthOfItems_le {items : List Json} (h : ∀ item ∈ items, item.depth ≤ room) :
    depthOfItems items ≤ room := by
  induction items with
  | nil => exact Nat.zero_le room
  | cons item items ih =>
      obtain ⟨hitem, hitems⟩ := List.forall_mem_cons.mp h
      exact Nat.max_le.mpr ⟨hitem, ih hitems⟩

theorem depthOfMembers_le {members : List (String × Json)}
    (h : ∀ member ∈ members, member.2.depth ≤ room) : depthOfMembers members ≤ room := by
  induction members with
  | nil => exact Nat.zero_le room
  | cons member members ih =>
      obtain ⟨hmember, hmembers⟩ := List.forall_mem_cons.mp h
      exact Nat.max_le.mpr ⟨hmember, ih hmembers⟩

theorem Writable.depth_le (h : Writable room value) : value.depth ≤ room := by
  induction h with
  | array _ ih => exact Nat.succ_le_succ (depthOfItems_le ih)
  | object _ ih => exact Nat.succ_le_succ (depthOfMembers_le ih)
  | _ => exact Nat.zero_le _

theorem itemsSound_iff {items : List Json} :
    itemsSound items = true ↔ ∀ item ∈ items, item.isSound = true := by
  induction items with
  | nil => simp [itemsSound]
  | cons item items ih => simp [itemsSound, ih]

theorem membersSound_iff {members : List (String × Json)} :
    membersSound members = true ↔ ∀ member ∈ members, member.2.isSound = true := by
  induction members with
  | nil => simp [membersSound]
  | cons member members ih => simp [membersSound, ih]

theorem Writable.isSound (h : Writable room value) : value.isSound = true := by
  induction h with
  | whole _ negative h => exact inRange_whole negative h
  | array _ ih => exact itemsSound_iff.mpr ih
  | object _ ih => exact membersSound_iff.mpr ih
  | _ => rfl

/-! No control character is printed as it is, so no line ends inside a printed value. -/

def Printable (cs : List Char) : Prop :=
  ∀ c ∈ cs, 0x20 ≤ c.toNat

@[simp] theorem printable_nil : Printable [] := by
  simp [Printable]

@[simp] theorem printable_cons {c : Char} : Printable (c :: cs) ↔ 0x20 ≤ c.toNat ∧ Printable cs :=
  List.forall_mem_cons

@[simp] theorem printable_append : Printable (cs ++ rest) ↔ Printable cs ∧ Printable rest :=
  List.forall_mem_append

theorem le_toNat_of_unescape? {short c : Char} (h : Token.unescape? short = some c) :
    0x20 ≤ short.toNat := by
  unfold Token.unescape? at h
  split at h <;> first | decide | cases h

theorem le_toNat_hexDigit {digit : Nat} (h : digit < 16) : 0x20 ≤ (hexDigit digit).toNat := by
  decide +revert

theorem printable_escape (c : Char) : Printable (escape c) := by
  rcases escape_cases c with ⟨short, hshort, heq⟩ | ⟨hcontrol, heq⟩ | ⟨_, _, hprint, heq⟩ <;>
    rw [heq]
  · have := le_toNat_of_unescape? hshort
    simpa
  · have hhigh := le_toNat_hexDigit (show c.toNat / 16 < 16 by omega)
    have hlow := le_toNat_hexDigit (show c.toNat % 16 < 16 by omega)
    simpa using ⟨hhigh, hlow⟩
  · simpa

theorem printable_quote (text : String) : Printable (quote text) := by
  have hescaped : Printable (text.toList.flatMap escape) := by
    intro c hc
    obtain ⟨origin, -, horigin⟩ := List.mem_flatMap.mp hc
    exact printable_escape origin c horigin
  simpa [quote]

theorem printable_digits (value : Nat) : Printable (digits value) := by
  intro c hc
  have hdigit := Token.isDigit_of_mem_digits hc
  simp only [Char.isDigit, ge_iff_le, Bool.and_eq_true, decide_eq_true_eq,
    UInt32.le_iff_toNat_le] at hdigit
  exact Nat.le_trans (by decide) hdigit.1

theorem printable_renderItems {items : List Json} (h : ∀ item ∈ items, Printable item.render) :
    Printable (renderItems items) := by
  induction items with
  | nil => exact printable_nil
  | cons item items ih =>
      obtain ⟨hitem, hitems⟩ := List.forall_mem_cons.mp h
      cases items with
      | nil => exact hitem
      | cons next items => simpa [renderItems_cons_cons, hitem] using ih hitems

theorem printable_renderMembers {members : List (String × Json)}
    (h : ∀ member ∈ members, Printable member.2.render) : Printable (renderMembers members) := by
  induction members with
  | nil => exact printable_nil
  | cons member members ih =>
      obtain ⟨key, value⟩ := member
      obtain ⟨hmember, hmembers⟩ := List.forall_mem_cons.mp h
      cases members with
      | nil => simpa [renderMembers, printable_quote] using hmember
      | cons next members =>
          simpa [renderMembers_cons_cons, printable_quote, hmember] using ih hmembers

theorem Writable.printable (h : Writable room value) : Printable value.render := by
  induction h with
  | null => simp [render]
  | bool _ value => cases value <;> simp [render]
  | whole _ negative _ => cases negative <;> simp [render, renderNumeral, signed, printable_digits]
  | text _ value => exact printable_quote value
  | array _ ih => simpa [render] using printable_renderItems ih
  | object _ ih => simpa [render] using printable_renderMembers ih

/-! Decoding what was printed. -/

theorem Writable.decodeText_print {α : Type} (h : Writable room value)
    (decode : Json → Decoded α) : decodeText decode value.print = decode value := by
  have hread := h.read_render
  simp only [decodeText, print, String.toList_ofList, hread, required, bind, Except.bind,
    Option.elim]
  cases decode value <;> rfl

theorem Writable.decodeWhole_print {α : Type} (h : Writable room value) (hroom : room ≤ maxDepth)
    (decode : Json → Decoded α) : decodeWhole decode value.print = decode value := by
  have hread := h.read_render
  have hdepth := Nat.le_trans h.depth_le hroom
  simp only [decodeWhole, print, String.toList_ofList, hread, required, bind, Except.bind,
    Option.elim, hdepth, h.isSound]
  cases decode value <;> rfl

/-- What is encoded and printed is decoded to what it was, whether the decoding goes along with the
reading or waits for its end. -/
def RoundTrips {α : Type} (encode : α → Json) (decode : Json → Decoded α) : Prop :=
  ∀ part, decodeText decode (encode part).print = .ok part ∧
    decodeWhole decode (encode part).print = .ok part

theorem roundTrips_of_writable {α : Type} {encode : α → Json} {decode : Json → Decoded α}
    (hroom : room ≤ maxDepth) (hwritable : ∀ part, Writable room (encode part))
    (hdecode : ∀ part, decode (encode part) = .ok part) : RoundTrips encode decode := by
  intro part
  rw [(hwritable part).decodeText_print, (hwritable part).decodeWhole_print hroom, hdecode]
  exact ⟨rfl, rfl⟩

end ConferenceBridge.Json
