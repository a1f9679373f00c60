import ConferenceBridge.Proofs.Wire.RoundTrip
import ConferenceBridge.Replay.Line
import ConferenceBridge.Text.Lines

namespace ConferenceBridge

/-! Lines of a replay that are written rather than typed: each stays one line, and is parsed as what
was written. -/

open Json (Dialect Writable)

namespace Text

theorem trimStart_of_not_blank {c : Char} {cs : List Char} (hc : isBlank c = false) :
    trimStart (c :: cs) = c :: cs := by
  simp [trimStart, hc]

theorem trimEnd_of_not_blank {c : Char} {cs : List Char} (hc : isBlank c = false) :
    trimEnd (cs ++ [c]) = cs ++ [c] := by
  simp [trimEnd, hc]

def utf8 (text : String) : List UInt8 :=
  text.toUTF8.data.toList

theorem ofUtf8?_utf8 (text : String) : ofUtf8? (utf8 text) = some text := by
  have hbytes : (utf8 text).toByteArray = text.toUTF8 :=
    ByteArray.ext (by rw [List.data_toByteArray, utf8, Array.toArray_toList])
  have hvalid : text.toUTF8.IsValidUTF8 := text.isValidUTF8
  rw [ofUtf8?, hbytes, String.fromUTF8?, dif_pos hvalid]
  rfl

theorem utf8_eq_flatMap (text : String) :
    utf8 text = text.toList.flatMap String.utf8EncodeChar := by
  have hbytes : text.toUTF8 = (text.toList.flatMap String.utf8EncodeChar).toByteArray := by
    show text.toByteArray = text.toList.utf8Encode
    rw [← String.toByteArray_ofList, String.ofList_toList]
  rw [utf8, hbytes, List.data_toByteArray]

theorem lineFeed_ne_ofNat {value : Nat} (hlow : 0x80 ≤ value) (hhigh : value < 0x100) :
    (0x0a : UInt8) ≠ UInt8.ofNat value := by
  intro heq
  have hvalue := congrArg UInt8.toNat heq
  rw [UInt8.toNat_ofNat_of_lt' hhigh] at hvalue
  have hten : (0x0a : UInt8).toNat = 10 := rfl
  omega

theorem lineFeed_mem_utf8EncodeChar {c : Char} (h : 0x0a ∈ String.utf8EncodeChar c) : c = '\n' := by
  simp only [String.utf8EncodeChar] at h
  split at h
  · next hsmall =>
      have hvalue := congrArg UInt8.toNat (List.mem_singleton.mp h)
      rw [UInt8.toNat_ofNat_of_lt' (show _ < 256 by omega)] at hvalue
      exact Char.ext (UInt32.toNat_inj.mp hvalue.symm)
  split at h <;> try split at h
  all_goals
    simp (disch := omega) only [List.mem_cons, List.not_mem_nil, or_false, lineFeed_ne_ofNat] at h

/-- Lines that hold no line feed and end in one are found again. -/
theorem lines_flatMap {α : Type} {bytes : α → List UInt8} (h : ∀ part, 0x0a ∉ bytes part)
    (parts : List α) :
    lines (parts.flatMap fun part => bytes part ++ [0x0a]) = parts.map bytes := by
  have hsplit : (parts.flatMap fun part => bytes part ++ [0x0a]).splitOn 0x0a =
      parts.map bytes ++ [[]] := by
    induction parts with
    | nil => rfl
    | cons part parts ih =>
        have hpart : ∀ byte ∈ bytes part, (byte == 0x0a) = false := by
          intro byte hbyte
          rw [beq_eq_false_iff_ne]
          rintro rfl
          exact h part hbyte
        rw [List.flatMap_cons, List.append_assoc, List.singleton_append, List.splitOn,
          List.splitOnP_append_cons_of_forall_mem hpart _ (beq_self_eq_true _)]
        exact congrArg (bytes part :: ·) ih
  simp [lines, hsplit]

end Text

namespace LineAction

theorem exists_kind (room : Nat) (action : LineAction) :
    ∃ tag kind rest, action.toJson = toJson.tagged tag rest ∧ kinds.lookup tag = some kind ∧
      (∀ member ∈ rest, member.1 ≠ "typ" ∧ Writable room member.2) ∧
      ofRest kind (.object rest) = .ok action := by
  cases action with
  | command command =>
      cases command with
      | playTone tone =>
          refine ⟨_, _, _, rfl, rfl, by simp, ?_⟩
          simp only [ofRest, Json.asRecord]
          rw [Json.fromMembers_field _ rfl (by decide) (by simp) (Json.asChar_toString tone)]
          rfl
      | _ => exact ⟨_, _, _, rfl, rfl, by simp, rfl⟩
  | split endpoint =>
      refine ⟨_, _, _, rfl, rfl, by simp, ?_⟩
      simp only [ofRest, Json.asRecord]
      rw [Json.fromMembers_field _ rfl (by decide) (by simp) (Json.asEndpoint_text endpoint)]
      rfl

theorem ofJson_toJson (dialect : Dialect) (action : LineAction) :
    ofJson dialect action.toJson = .ok action := by
  obtain ⟨tag, kind, rest, hjson, hkind, hmembers, hrest⟩ := exists_kind 0 action
  rw [ofJson, hjson, toJson.tagged,
    Json.asTagged_object dialect hkind fun member h => (hmembers member h).1]
  exact hrest

theorem writable_toJson (room : Nat) (action : LineAction) :
    Writable (room + 1) action.toJson := by
  obtain ⟨tag, _, rest, hjson, -, hmembers, -⟩ := exists_kind room action
  rw [hjson]
  exact .object (List.forall_mem_cons.mpr ⟨.text _ _, fun member h => (hmembers member h).2⟩)

end LineAction

namespace Line

theorem nameOf_members (conference : String) (content : LineContent) :
    nameOf [("konferenz", .text conference), content.member] = .ok conference := by
  cases content <;> rfl

theorem ofMembers_members (conference : String) (content : LineContent) :
    LineContent.ofMembers [("konferenz", .text conference), content.member] = .ok content := by
  cases content with
  | event event =>
      show LineContent.event <$> HostEvent.ofJson .buffered event.toJson = _
      rw [HostEvent.ofJson_toJson]
      rfl
  | action action =>
      show LineContent.action <$> LineAction.ofJson .buffered action.toJson = _
      rw [LineAction.ofJson_toJson]
      rfl

theorem ofJson_toJson (line : Line) : ofJson line.toJson = .ok line := by
  rw [toJson, ofJson, nameOf_members, ofMembers_members]
  rfl

theorem writable_toJson (line : Line) : Writable 4 line.toJson := by
  refine .object (List.forall_mem_cons.mpr ⟨.text _ _, List.forall_mem_singleton.mpr ?_⟩)
  cases line.content with
  | event event => exact event.writable_toJson 0
  | action action => exact action.writable_toJson 2

theorem render_toJson (line : Line) : ∃ cs, line.toJson.render = '\x7b' :: (cs ++ ['\x7d']) :=
  ⟨_, rfl⟩

theorem trim_print (line : Line) {before after : String} (hbefore : Text.allBlank before)
    (hafter : Text.allBlank after) :
    Text.trim (before ++ line.toJson.print ++ after).toList = line.toJson.render := by
  obtain ⟨cs, hcs⟩ := render_toJson line
  simp only [Text.allBlank, List.all_eq_true] at hbefore hafter
  calc Text.trim (before ++ line.toJson.print ++ after).toList
    _ = Text.trim (before.toList ++ (line.toJson.render ++ after.toList)) := by
        simp [Json.print]
    _ = Text.trimEnd (line.toJson.render ++ after.toList) := by
        rw [Text.trim, Text.trimStart_append_of_blank hbefore, hcs, List.cons_append,
          Text.trimStart_of_not_blank (by decide)]
    _ = line.toJson.render := by
        rw [Text.trimEnd_append_of_blank hafter, hcs, ← List.cons_append,
          Text.trimEnd_of_not_blank (by decide)]

theorem parse_print (line : Line) {before after : String} (hbefore : Text.allBlank before)
    (hafter : Text.allBlank after) :
    parse (before ++ line.toJson.print ++ after) = .ok (some line) := by
  obtain ⟨cs, hcs⟩ := render_toJson line
  rw [parse, trim_print line hbefore hafter]
  split
  · next hempty => exact absurd (hcs.symm.trans hempty) (by simp)
  · next hcomment => exact absurd (hcs.symm.trans hcomment) (by simp)
  · rw [← Json.print, (writable_toJson line).decodeWhole_print (by decide), ofJson_toJson]
    rfl

theorem printable_print (line : Line) : Json.Printable line.toJson.print.toList := by
  rw [Json.print, String.toList_ofList]
  exact (writable_toJson line).printable

theorem lineFeed_notMem_utf8 (line : Line) : 0x0a ∉ Text.utf8 line.toJson.print := by
  rw [Text.utf8_eq_flatMap, List.mem_flatMap]
  rintro ⟨c, hc, hbyte⟩
  obtain rfl := Text.lineFeed_mem_utf8EncodeChar hbyte
  exact absurd (printable_print line _ hc) (by decide)

/-- What is written comes back. A line is parsed as itself in whatever blanks it is put, it holds no
line break, and of a file of such lines each is a line of its own. The events that lines are made of
and those that a conference tells come back in the same way. -/
theorem format_roundTrips :
    (∀ (line : Line) (before after : String), Text.allBlank before → Text.allBlank after →
      parse (before ++ line.toJson.print ++ after) = .ok (some line)) ∧
    (∀ line : Line, '\n' ∉ line.toJson.print.toList ∧ '\r' ∉ line.toJson.print.toList) ∧
    (∀ lines : List Line,
      (Text.lines (lines.flatMap fun line => Text.utf8 line.toJson.print ++ [0x0a])).map
        Text.ofUtf8? = lines.map fun line => some line.toJson.print) ∧
    Json.RoundTrips HostEvent.toJson (HostEvent.ofJson .direct) ∧
    Json.RoundTrips Snapshot.toJson (Snapshot.ofJson .direct) ∧
    Json.RoundTrips ConferenceEvent.toJson ConferenceEvent.ofJson := by
  refine ⟨fun line _ _ hbefore hafter => parse_print line hbefore hafter, fun line => ?_,
    fun lines => ?_, ?_, ?_, ?_⟩
  · have hprintable := printable_print line
    exact ⟨fun h => absurd (hprintable _ h) (by decide),
      fun h => absurd (hprintable _ h) (by decide)⟩
  · rw [Text.lines_flatMap lineFeed_notMem_utf8, List.map_map]
    refine List.map_congr_left fun line _ => ?_
    rw [Function.comp_apply, Text.ofUtf8?_utf8]
  · exact Json.roundTrips_of_writable (by decide) (HostEvent.writable_toJson 0)
      (HostEvent.ofJson_toJson .direct)
  · exact Json.roundTrips_of_writable (by decide) (Snapshot.writable_toJson 0)
      (Snapshot.ofJson_toJson .direct)
  · exact Json.roundTrips_of_writable (by decide) (ConferenceEvent.writable_toJson 0)
      ConferenceEvent.ofJson_toJson

theorem format_roundTrips_quoted :
    Text.allBlank "\t\u2003" ∧ Text.allBlank "\x0b\r\n" ∧
      parse ("\t\u2003" ++ (Line.mk "#\n\"" (.action (.command (.playTone '\\')))).toJson.print ++
        "\x0b\r\n") = .ok (some ⟨"#\n\"", .action (.command (.playTone '\\'))⟩) := by
  have hbefore : Text.allBlank "\t\u2003" := by decide
  have hafter : Text.allBlank "\x0b\r\n" := by decide
  exact ⟨hbefore, hafter, format_roundTrips.1 _ _ _ hbefore hafter⟩

end Line

end ConferenceBridge
