import Gneiss.Platform.Packet

/-!
What `Packet.Send` writes and what `Packet.Receive` makes of a datagram. Both are first reduced to
the format alone: `send_eq` and `receive_eq` no longer mention the generated package.
-/

namespace Gneiss.Packet

open Buffers

theorem setFrom_eq (field data : Text) (fuel index : Nat) (same : data.length = field.length)
    (finishes : index + fuel = field.length) (running : 0 < fuel)
    (done : data.take index = field.take index) :
    setFrom field fuel index index data = field := by
  induction fuel generalizing index data with
  | zero => omega
  | succ fuel ih =>
      have written := take_set_copied field data 0 index (by omega) (by omega) done
      simp only [setFrom, List.length_set]
      split
      · rename_i stop
        have full : field.length ≤ index + 1 := by omega
        rwa [List.take_of_length_le (by simpa [same] using full), List.take_of_length_le full]
          at written
      · rename_i continues
        rw [not_or] at continues
        exact ih (data.set index (field.getD index 0)) (index + 1) (by simpa using same)
          (by omega) (by omega) written

theorem set_eq (field : Text) (nonempty : 0 < field.length) : set field field.length = field := by
  apply setFrom_eq
  · exact List.length_replicate
  · omega
  · exact nonempty
  · rfl

theorem getFrom_eq (data field : Text) (fuel index : Nat) (room : data.length ≤ field.length)
    (finishes : index + fuel = data.length) (running : 0 < fuel)
    (done : field.take index = data.take index) :
    (getFrom data fuel index index field).1.take data.length = data ∧
      (getFrom data fuel index index field).2 + 1 = data.length := by
  induction fuel generalizing index field with
  | zero => omega
  | succ fuel ih =>
      have written := take_set_copied data field 0 index (by omega) (by omega) done
      simp only [getFrom, List.length_set]
      split
      · rename_i stop
        have last : index + 1 = data.length := by omega
        refine ⟨?_, last⟩
        rw [last, List.take_length] at written
        exact written
      · rename_i continues
        rw [not_or] at continues
        exact ih (field.set index (data.getD index 0)) (index + 1) (by simpa using room)
          (by omega) (by omega) written

theorem getLabel_text (data : Text) (nonempty : 0 < data.length) (fits : data.length < 256) :
    (getLabel .empty data).text = data ∧ (getLabel .empty data).last = data.length := by
  obtain ⟨content, last⟩ := getFrom_eq data SessionLabel.empty.value data.length 0
    (by rw [SessionLabel.empty.sized]; omega) (by omega) nonempty rfl
  refine ⟨?_, last⟩
  change (getFrom data data.length 0 0 SessionLabel.empty.value).1.take
    ((getFrom data data.length 0 0 SessionLabel.empty.value).2 + 1) = data
  rw [last]
  exact content

/-! The label a received payload ends up in, and the payload a label is sent as. -/

def ofPayload (payload : Payload) : SessionLabel :=
  if 0 < payload.val.length then getLabel .empty payload.val else .empty

def toPayload (label : SessionLabel) : Payload :=
  ⟨label.text, by
    have := label.fits
    simp only [SessionLabel.text, List.length_take]
    omega⟩

theorem ofPayload_text (payload : Payload) : (ofPayload payload).text = payload.val := by
  unfold ofPayload
  split
  · rename_i nonempty
    exact (getLabel_text payload.val nonempty payload.property).1
  · rename_i zero
    have nothing : payload.val = [] := by simpa using zero
    rw [nothing]
    rfl

theorem ofPayload_last (payload : Payload) : (ofPayload payload).last = payload.val.length := by
  unfold ofPayload
  split
  · rename_i nonempty
    exact (getLabel_text payload.val nonempty payload.property).2
  · rename_i zero
    have nothing : payload.val.length = 0 := by omega
    rw [nothing]
    rfl

theorem text_length (label : SessionLabel) : label.text.length = label.last := by
  have := label.fits
  simp only [SessionLabel.text, List.length_take, label.sized]
  omega

theorem toPayload_ofPayload (payload : Payload) : toPayload (ofPayload payload) = payload :=
  Subtype.ext (ofPayload_text payload)

theorem receive_eq (generated : GeneratedPacket) (datagram : Text) (stale : Buffer) :
    receive generated (some datagram) stale =
      if datagram = [] then .invalid
      else match Packet.decode (overlay bufferSize datagram stale.val) with
        | none => .invalid
        | some packet =>
            .valid packet.action packet.kind (ofPayload packet.name) (ofPayload packet.label) := by
  simp only [receive, recv, List.length_eq_zero_iff]
  split
  · rfl
  · cases decoded : Packet.decode (overlay bufferSize datagram stale.val) with
    | none =>
        have rejected : ¬generated.structuralValidMessage (generated.verifyMessage
            (generated.initContext (overlay bufferSize datagram stale.val))) = true := by
          rw [generated.valid_iff]
          rintro ⟨packet, starts⟩
          rw [← Packet.decode_eq_some_iff, decoded] at starts
          cases starts
        simp [rejected]
    | some packet =>
        have starts := (Packet.decode_eq_some_iff _ _).mp decoded
        have accepted := (generated.valid_iff _).mpr ⟨packet, starts⟩
        have nameLength : generated.getNameLength (generated.verifyMessage
            (generated.initContext (overlay bufferSize datagram stale.val))) > 0 ↔
            0 < packet.name.val.length := by
          rw [← generated.getNameLength_eq _ _ starts]
          exact UInt8.lt_iff_toNat_lt
        have labelLength : generated.getLabelLength (generated.verifyMessage
            (generated.initContext (overlay bufferSize datagram stale.val))) > 0 ↔
            0 < packet.label.val.length := by
          rw [← generated.getLabelLength_eq _ _ starts]
          exact UInt8.lt_iff_toNat_lt
        simp only [accepted, generated.getAction_eq _ _ starts, generated.getKind_eq _ _ starts,
          generated.getName_eq _ _ starts, generated.getLabel_eq _ _ starts,
          generated.presentName_iff _ _ starts, generated.presentLabel_iff _ _ starts,
          nameLength, labelLength, and_self, ofPayload, Bool.true_eq_false, ↓reduceIte]

theorem toPayload_length (label : SessionLabel) : (toPayload label).val.length = label.last :=
  text_length label

/-! Both optional fields are written the same way, so one lemma covers the name and the label. -/

theorem writeField_holds {Context : Type} (cursor : Context → Cursor UInt8)
    (setLength : Context → UInt8 → Context) (setData : Context → (Nat → Text) → Context)
    (lengthWritten : ∀ context length,
      cursor (setLength context length) = (cursor context).put [length])
    (dataWritten : ∀ context length process, 0 < length.toNat →
      (process length.toNat).length = length.toNat →
      cursor (setData (setLength context length) process) =
        (cursor (setLength context length)).put (process length.toNat))
    (context : Context) (label : SessionLabel) (capacity : Nat) (written : Text)
    (holds : (cursor context).Holds capacity written)
    (room : written.length + 1 + label.last ≤ capacity) :
    (cursor (if label.last > 0 then
        setData (setLength context (UInt8.ofNat label.last)) (set label.text)
      else setLength context (UInt8.ofNat label.last))).Holds capacity
        (written ++ (toPayload label).encode) := by
  have fits := label.fits
  have lengthByte : (UInt8.ofNat label.last).toNat = label.last := by
    rw [UInt8.toNat_ofNat']
    exact Nat.mod_eq_of_lt (by omega)
  have afterLength : (cursor (setLength context (UInt8.ofNat label.last))).Holds capacity
      (written ++ [UInt8.ofNat label.last]) := by
    rw [lengthWritten]
    exact holds.put [UInt8.ofNat label.last] (by simp only [List.length_singleton]; omega)
  have encoded : written ++ (toPayload label).encode =
      written ++ [UInt8.ofNat label.last] ++ label.text := by
    simp [Payload.encode, toPayload, text_length]
  rw [encoded]
  split
  · rename_i positive
    have copied : set label.text (UInt8.ofNat label.last).toNat = label.text := by
      rw [lengthByte, ← text_length label]
      exact set_eq label.text (by rw [text_length]; exact positive)
    rw [dataWritten context (UInt8.ofNat label.last) (set label.text) (by omega)
      (by rw [copied, text_length, lengthByte]), copied]
    apply afterLength.put
    simp only [List.length_append, List.length_singleton, text_length]
    omega
  · rename_i zero
    have nothing : label.text = [] := by
      rw [← List.length_eq_zero_iff, text_length]
      omega
    rw [nothing, List.append_nil]
    exact afterLength

theorem send_eq (generated : GeneratedPacket) (action : ActionType) (kind : KindType)
    (name label : SessionLabel) (stale : Buffer) :
    send generated action kind name label stale =
      Packet.encode ⟨action, kind, toPayload name, toPayload label⟩ := by
  have nameFits := name.fits
  have labelFits := label.fits
  have started : (generated.cursor (generated.initContext stale.val)).Holds bufferSize [] := by
    rw [generated.cursor_initContext]
    exact Cursor.holds_start stale.val bufferSize stale.property
  have afterAction : (generated.cursor (generated.setAction (generated.initContext stale.val)
      action)).Holds bufferSize [action.toByte] := by
    rw [generated.cursor_setAction]
    exact started.put [action.toByte] (by simp [bufferSize])
  have afterKind := afterAction.put [kind.toByte] (by simp [bufferSize])
  rw [← generated.cursor_setKind] at afterKind
  have afterName := writeField_holds generated.cursor generated.setNameLength generated.setName
    generated.cursor_setNameLength generated.cursor_setName _ name _ _ afterKind
    (by simp only [List.length_append, List.length_singleton, bufferSize]; omega)
  have afterLabel := writeField_holds generated.cursor generated.setLabelLength
    generated.setLabel generated.cursor_setLabelLength generated.cursor_setLabel _ label _ _
    afterName (by
      simp only [List.length_append, List.length_cons, List.length_nil, Payload.encode,
        toPayload_length, bufferSize]
      omega)
  have total : 4 + name.last + label.last = ([action.toByte] ++ [kind.toByte] ++
      (toPayload name).encode ++ (toPayload label).encode).length := by
    simp only [List.length_append, List.length_cons, List.length_nil, Payload.encode,
      toPayload_length]
    omega
  simp only [send, generated.takeBuffer_eq]
  rw [total, afterLabel.take_buffer]
  simp [Packet.encode]

theorem receive_encode (generated : GeneratedPacket) (packet : Packet) (stale : Buffer) :
    receive generated (some packet.encode) stale =
      .valid packet.action packet.kind (ofPayload packet.name) (ofPayload packet.label) := by
  have nameFits := packet.name.property
  have labelFits := packet.label.property
  have fits : packet.encode.length ≤ bufferSize := by
    rw [Packet.encode_length, bufferSize]
    omega
  have nonempty : packet.encode ≠ [] := by simp [Packet.encode]
  rw [receive_eq, if_neg nonempty, overlay_fits bufferSize packet.encode stale.val fits,
    Packet.decode_encode]

/-- Sending and receiving are inverse for every pair of labels, whatever the buffers held before. -/
theorem send_receive_roundtrip (generated : GeneratedPacket) (action : ActionType)
    (kind : KindType) (name label : SessionLabel) (sending receiving resending : Buffer) :
    let datagram := send generated action kind name label sending
    datagram.length = 4 + name.last + label.last ∧ datagram.length ≤ bufferSize ∧
      datagram = action.toByte :: kind.toByte :: UInt8.ofNat name.last ::
        (name.text ++ UInt8.ofNat label.last :: label.text) ∧
      ∃ receivedName receivedLabel,
        receive generated (some datagram) receiving =
          .valid action kind receivedName receivedLabel ∧
        receivedName.last = name.last ∧ receivedName.text = name.text ∧
        receivedLabel.last = label.last ∧ receivedLabel.text = label.text ∧
        send generated action kind receivedName receivedLabel resending = datagram := by
  have nameFits := name.fits
  have labelFits := label.fits
  simp only [send_eq]
  refine ⟨?_, ?_, ?_, ofPayload (toPayload name), ofPayload (toPayload label), ?_, ?_, ?_, ?_, ?_,
    ?_⟩
  · rw [Packet.encode_length, toPayload_length, toPayload_length]
  · rw [Packet.encode_length, toPayload_length, toPayload_length, bufferSize]
    omega
  · simp [Packet.encode, Payload.encode, toPayload, text_length]
  · rw [receive_encode]
  · rw [ofPayload_last, toPayload_length]
  · exact ofPayload_text (toPayload name)
  · rw [ofPayload_last, toPayload_length]
  · exact ofPayload_text (toPayload label)
  · rw [toPayload_ofPayload, toPayload_ofPayload]

/-! The decoder looks at the whole buffer. These are the datagrams for which that makes no
difference. -/

def DecodesOwnBytes (datagram : Text) : BrokerMessage → Prop
  | .invalid => ¬(datagram.length ≤ bufferSize ∧ ∃ packet, StartsWith datagram packet)
  | .valid action kind name label => datagram.length ≤ bufferSize ∧
      ∃ packet, StartsWith datagram packet ∧ packet.action = action ∧ packet.kind = kind ∧
        packet.name.val = name.text ∧ packet.label.val = label.text

def ExactOn (generated : GeneratedPacket) (datagram : Text) : Prop :=
  (∀ stale, DecodesOwnBytes datagram (receive generated (some datagram) stale)) ∧
    ∀ first second : Buffer,
      receive generated (some datagram) first = receive generated (some datagram) second

theorem receive_startsWith (generated : GeneratedPacket) (datagram : Text) (stale : Buffer)
    (packet : Packet) (fits : datagram.length ≤ bufferSize) (starts : StartsWith datagram packet) :
    receive generated (some datagram) stale =
      .valid packet.action packet.kind (ofPayload packet.name) (ofPayload packet.label) := by
  have nonempty : datagram ≠ [] := by
    rintro rfl
    simpa using starts.header.1
  have decoded := (Packet.decode_eq_some_iff _ _).mpr (starts.append
    ((stale.val.drop datagram.length).take (bufferSize - datagram.length)))
  rw [← overlay_fits bufferSize datagram stale.val fits] at decoded
  rw [receive_eq, if_neg nonempty, decoded]

theorem badHeader_overlay {datagram : Text} (bad : BadHeader datagram) (stale : Text) :
    BadHeader (overlay bufferSize datagram stale) := by
  rcases bad with ⟨action, found, rejected⟩ | ⟨kind, found, rejected⟩
  · have received : 0 < datagram.length := (List.getElem?_eq_some_iff.mp found).1
    refine Or.inl ⟨action, ?_, rejected⟩
    rw [overlay_getElem? _ _ _ 0 received (by decide), found]
  · have received : 1 < datagram.length := (List.getElem?_eq_some_iff.mp found).1
    refine Or.inr ⟨kind, ?_, rejected⟩
    rw [overlay_getElem? _ _ _ 1 received (by decide), found]

theorem receive_badHeader (generated : GeneratedPacket) (datagram : Text) (stale : Buffer)
    (bad : BadHeader datagram) : receive generated (some datagram) stale = .invalid := by
  rw [receive_eq]
  split
  · rfl
  · cases decoded : Packet.decode (overlay bufferSize datagram stale.val) with
    | none => rfl
    | some packet =>
        have starts := (Packet.decode_eq_some_iff _ _).mp decoded
        exact ((badHeader_overlay bad stale.val).not_startsWith packet starts).elim

theorem goodHeader_overlay_zero {datagram : Text} (nonempty : datagram ≠ [])
    (good : ¬BadHeader datagram) : ¬BadHeader (overlay bufferSize datagram Buffer.zero.val) := by
  have received : 0 < datagram.length := List.length_pos_iff.mpr nonempty
  rintro (⟨action, found, rejected⟩ | ⟨kind, found, rejected⟩)
  · rw [overlay_getElem? _ _ _ 0 received (by decide)] at found
    exact good (Or.inl ⟨action, found, rejected⟩)
  · by_cases second : 1 < datagram.length
    · rw [overlay_getElem? _ _ _ 1 second (by decide)] at found
      exact good (Or.inr ⟨kind, found, rejected⟩)
    · rw [overlay_getElem?_stale _ _ _ 1 (by omega) (by decide)] at found
      have zero : Buffer.zero.val[1]? = some 0 := by
        rw [Buffer.zero, List.getElem?_replicate, if_pos (by decide)]
      rw [zero, Option.some.injEq] at found
      subst found
      cases rejected

theorem receive_goodHeader (generated : GeneratedPacket) (datagram : Text)
    (nonempty : datagram ≠ []) (good : ¬BadHeader datagram) :
    ∃ action kind name label,
      receive generated (some datagram) Buffer.zero = .valid action kind name label := by
  have sized := overlay_length bufferSize datagram Buffer.zero.val Buffer.zero.property
  obtain ⟨packet, starts⟩ := startsWith_of_long (overlay bufferSize datagram Buffer.zero.val)
    (by rw [sized]; decide) (goodHeader_overlay_zero nonempty good)
  rw [← Packet.decode_eq_some_iff] at starts
  refine ⟨packet.action, packet.kind, ofPayload packet.name, ofPayload packet.label, ?_⟩
  rw [receive_eq, if_neg nonempty, starts]

theorem exactOn_complete (generated : GeneratedPacket) (datagram : Text)
    (nonempty : datagram ≠ []) (good : ¬BadHeader datagram) (own : ExactOn generated datagram) :
    datagram.length ≤ bufferSize ∧ ∃ packet, StartsWith datagram packet := by
  obtain ⟨action, kind, name, label, accepted⟩ :=
    receive_goodHeader generated datagram nonempty good
  have decoded := own.1 Buffer.zero
  rw [accepted] at decoded
  obtain ⟨fits, packet, starts, _⟩ := decoded
  exact ⟨fits, packet, starts⟩

/-- `Receive` judges a datagram by its own bytes exactly if it is empty, has a header that no
packet has, or is a complete packet that was not cut off at the end of the buffer. -/
theorem receive_exactOn_iff (generated : GeneratedPacket) (datagram : Text) :
    ExactOn generated datagram ↔
      datagram = [] ∨ BadHeader datagram ∨
        (datagram.length ≤ bufferSize ∧ ∃ packet, StartsWith datagram packet) := by
  constructor
  · intro own
    by_cases nonempty : datagram = []
    · exact Or.inl nonempty
    · by_cases good : BadHeader datagram
      · exact Or.inr (Or.inl good)
      · exact Or.inr (Or.inr (exactOn_complete generated datagram nonempty good own))
  · rintro (rfl | bad | ⟨fits, packet, starts⟩)
    · have rejected : ∀ stale, receive generated (some []) stale = .invalid :=
        fun stale => by rw [receive_eq, if_pos rfl]
      refine ⟨fun stale => ?_, fun first second => by rw [rejected, rejected]⟩
      rw [rejected]
      rintro ⟨_, packet, starts⟩
      simpa using starts.header.1
    · have rejected := fun stale => receive_badHeader generated datagram stale bad
      refine ⟨fun stale => ?_, fun first second => by rw [rejected, rejected]⟩
      rw [rejected]
      rintro ⟨_, packet, starts⟩
      exact bad.not_startsWith packet starts
    · have accepted := fun stale => receive_startsWith generated datagram stale packet fits starts
      refine ⟨fun stale => ?_, fun first second => by rw [accepted, accepted]⟩
      rw [accepted]
      exact ⟨fits, packet, starts, rfl, rfl, (ofPayload_text packet.name).symm,
        (ofPayload_text packet.label).symm⟩

/-- One byte is enough to be taken for a request when the buffer supplies the rest. -/
theorem truncated_datagram_accepted : ¬ExactOn referencePacket [0] := by
  intro own
  have good : ¬BadHeader [0] := by
    rintro (⟨action, found, rejected⟩ | ⟨kind, found, _⟩)
    · rw [List.getElem?_cons_zero, Option.some.injEq] at found
      subst found
      cases rejected
    · simp at found
  obtain ⟨_, packet, starts⟩ := exactOn_complete referencePacket [0] (by simp) good own
  simpa using starts.header.2

end Gneiss.Packet
