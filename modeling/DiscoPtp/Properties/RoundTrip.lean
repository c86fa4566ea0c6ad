import DiscoPtp.Properties.Leftovers

/-!
# The wire format, both ways

What the packers write into a buffer prepared by `msgPackHeader`, the unpackers read back: the
header fields, the timestamp, the requesting port identity and the fields of an Announce.

## Main definitions

* `Fields`, `fieldsIn`: what a receiver unpacks from a packet
* `PackCall.fields`: what a packer is given

## Main results

* `header_pack`, `body_pack`: the header and the body of a packet
* `packets_roundTrip`: the receiver gets what the packer was given, so two packets are different
  when anything in them is
-/

namespace Ptpd

/-! ## What a message says -/

/-- The fields of a message. Those that a message of the type does not have are absent. -/
structure Fields where
  messageType : Option MessageType
  versionPTP : UInt8
  domainNumber : UInt8
  messageLength : Int
  sourcePortIdentity : PortIdentity
  sequenceId : Int16
  /-- The correction field of a DelayResp or PDelayRespFollowUp. -/
  correctionfield : Option Int64
  /-- The timestamp of every message but the Announce, which has one in its own fields. -/
  timestamp : Option Timestamp
  requestingPortIdentity : Option PortIdentity
  announce : Option MsgAnnounce
  deriving DecidableEq

/-- The correction field, of the messages that carry the one of a request. -/
def correctionOf (type : Option MessageType) (header : MsgHeader) : Option Int64 :=
  match type with
  | some .delayResp | some .pdelayRespFollowUp => some header.correctionfield
  | _ => none

/-- The timestamp, by the unpacker of the message. -/
def timestampOf (type : Option MessageType) (buf : Buf) : Option Timestamp :=
  match type with
  | some .sync => some (msgUnpackSync buf)
  | some .delayReq => some (msgUnpackDelayReq buf)
  | some .pdelayReq => some (msgUnpackPDelayReq buf)
  | some .followUp => some (msgUnpackFollowUp buf)
  | some .delayResp => some (msgUnpackDelayResp buf).timestamp
  | some .pdelayResp => some (msgUnpackPDelayResp buf).timestamp
  | some .pdelayRespFollowUp => some (msgUnpackPDelayRespFollowUp buf).timestamp
  | _ => none

/-- The requesting port identity, by the unpacker of the message. -/
def requestingOf (type : Option MessageType) (buf : Buf) : Option PortIdentity :=
  match type with
  | some .delayResp => some (msgUnpackDelayResp buf).requestingPortIdentity
  | some .pdelayResp => some (msgUnpackPDelayResp buf).requestingPortIdentity
  | some .pdelayRespFollowUp => some (msgUnpackPDelayRespFollowUp buf).requestingPortIdentity
  | _ => none

/-- The Announce. -/
def announceFieldsOf (type : Option MessageType) (buf : Buf) : Option MsgAnnounce :=
  match type with
  | some .announce => some (msgUnpackAnnounce buf)
  | _ => none

/-- **What a receiver unpacks** from a packet. -/
def fieldsIn (packet : List UInt8) : Fields :=
  let buf := octetsOf packet
  let header := msgUnpackHeader buf
  let type := MessageType.ofCode header.messageType
  { messageType := type
    versionPTP := header.versionPTP
    domainNumber := header.domainNumber
    messageLength := header.messageLength.toInt
    sourcePortIdentity := header.sourcePortIdentity
    sequenceId := header.sequenceId
    correctionfield := correctionOf type header
    timestamp := timestampOf type buf
    requestingPortIdentity := requestingOf type buf
    announce := announceFieldsOf type buf }

namespace PackCall

/-- The request that a response answers. -/
def request : PackCall → Option MsgHeader
  | delayResp _ header _ | pdelayResp header _ | pdelayRespFollowUp header _ => some header
  | _ => none

/-- The timestamp to be packed. -/
def timestamp : PackCall → Option Timestamp
  | sync _ t | delayReq _ t | followUp _ t | delayResp _ _ t | pdelayReq _ t | pdelayResp _ t
  | pdelayRespFollowUp _ t => some t
  | announce _ => none

/-- The correction field to be packed. -/
def correctionfield : PackCall → Option Int64
  | delayResp _ header _ | pdelayRespFollowUp header _ => some header.correctionfield
  | _ => none

/-- The Announce to be packed, from the data sets. -/
def announceFields : PackCall → Option MsgAnnounce
  | announce c => some
    { originTimestamp := ⟨0, 0, 0⟩
      currentUtcOffset := c.timePropertiesDS.currentUtcOffset
      grandmasterPriority1 := c.parentDS.grandmasterPriority1
      grandmasterClockQuality := c.defaultDS.clockQuality
      grandmasterPriority2 := c.parentDS.grandmasterPriority2
      grandmasterIdentity := c.parentDS.grandmasterIdentity
      stepsRemoved := c.currentDS.stepsRemoved
      timeSource := c.timePropertiesDS.timeSource }
  | _ => none

/-- **What the packer is given**, with the header of the clock `c`. -/
def fields (c : PtpClock) (call : PackCall) : Fields :=
  { messageType := some call.type
    versionPTP := c.portDS.versionNumber
    domainNumber := c.defaultDS.domainNumber
    messageLength := call.length
    sourcePortIdentity := c.portDS.portIdentity
    sequenceId := call.sequenceId
    correctionfield := call.correctionfield
    timestamp := call.timestamp
    requestingPortIdentity := call.request.map MsgHeader.sourcePortIdentity
    announce := call.announceFields }

end PackCall

/-! ## The header -/

section Header

variable {c : PtpClock} {buf b : Buf}

theorem type_kept (x : UInt8) (type : MessageType) :
    (x &&& 0xF0 ||| type.code) &&& 0x0F = type.code := by
  have hcode : type.code.toBitVec &&& 0x0F = type.code.toBitVec := by cases type <;> decide
  have hmask : (0xF0 : BitVec 8) &&& 0x0F = 0 := by decide
  apply UInt8.toBitVec_inj.mp
  show (x.toBitVec &&& 0xF0 ||| type.code.toBitVec) &&& 0x0F = type.code.toBitVec
  rw [BitVec.and_or_distrib_right, BitVec.and_assoc, hmask, hcode]
  simp

theorem version_kept {x : UInt8} (h : x < 16) : x &&& 0x0F = x := by
  have hlt : x.toNat < 16 := UInt8.lt_iff_toNat_lt.mp h
  apply UInt8.toNat.inj
  rw [UInt8.toNat_and]
  show x.toNat &&& (2 ^ 4 - 1) = x.toNat
  rw [Nat.and_two_pow_sub_one_eq_mod]
  omega

theorem flag_of_ne (flag : Bool) (b : Buf) (x : UInt8) {i : ℕ} (h : i ≠ 6) :
    (if flag then store8 b 6 x else b) i = b i := by
  split
  · exact store8_of_ne _ _ h
  · rfl

theorem msgPackHeader_version : msgPackHeader c buf 1 = c.portDS.versionNumber := by
  unfold msgPackHeader
  rw [store8_of_ne _ _ (by decide), storePortIdentity_of_ne _ _ (by decide),
    clear_of_lt _ _ (by decide), flag_of_ne _ _ _ (by decide), store8_of_ne _ _ (by decide),
    store8_same]

theorem msgPackHeader_domain : msgPackHeader c buf 4 = c.defaultDS.domainNumber := by
  unfold msgPackHeader
  rw [store8_of_ne _ _ (by decide), storePortIdentity_of_ne _ _ (by decide),
    clear_of_lt _ _ (by decide), flag_of_ne _ _ _ (by decide), store8_same]

/-- The length of a message is its own `messageLength`. -/
theorem toInt_length (call : PackCall) :
    (UInt16.ofNat call.length.toNat).toInt16.toInt = call.length := by
  cases call <;> rfl

theorem sequenceId_pack (call : PackCall) (b : Buf) :
    (msgUnpackHeader (call.pack b)).sequenceId = call.sequenceId := by
  obtain ⟨controlField, logMessageInterval, h⟩ := pack_eq_changes call b
  show (flip16 (load16 (call.pack b) 30)).toInt16 = _
  rw [load16_congr (h 30 (by omega)) (h 31 (by omega)), load16_msgPackChanges, flip16_flip16]
  simp

/-- **The header** of a packet: what `msgPackHeader` has prepared, with the changes of the
packer. -/
theorem header_pack (hb : SameHeader b (msgPackHeader c buf)) (hv : c.portDS.versionNumber < 16)
    (call : PackCall) :
    let header := msgUnpackHeader (call.pack b)
    header.messageType = call.type.code ∧ header.versionPTP = c.portDS.versionNumber ∧
      header.domainNumber = c.defaultDS.domainNumber ∧
      header.messageLength.toInt = call.length ∧
      header.sourcePortIdentity = c.portDS.portIdentity ∧ header.sequenceId = call.sequenceId := by
  obtain ⟨controlField, logMessageInterval, h⟩ := pack_eq_changes call b
  have hs := (pack_sameHeader call b).trans hb
  refine ⟨?_, ?_, ?_, ?_, ?_, ?_⟩
  · show call.pack b 0 &&& 0x0F = _
    rw [h 0 (by omega), msgPackChanges, store8_of_ne _ _ (by decide), store8_of_ne _ _ (by decide),
      store16_of_ne _ _ (by decide) (by decide), store16_of_ne _ _ (by decide) (by decide),
      store8_same]
    exact type_kept _ _
  · show call.pack b 1 &&& 0x0F = _
    rw [hs.fixed 1 (.inl rfl), msgPackHeader_version]
    exact version_kept hv
  · show call.pack b 4 = _
    rw [hs.fixed 4 (by omega), msgPackHeader_domain]
  · show (flip16 (load16 (call.pack b) 2)).toInt16.toInt = _
    have hlength : load16 (call.pack b) 2 = flip16 (UInt16.ofNat call.length.toNat) := by
      rw [← load16_store16 (store8 b 0 (b 0 &&& 0xF0 ||| call.type.code)) 2
        (flip16 (UInt16.ofNat call.length.toNat))]
      apply load16_congr
      · rw [h 2 (by omega), msgPackChanges, store8_of_ne _ _ (by decide),
          store8_of_ne _ _ (by decide), store16_of_ne _ _ (by decide) (by decide)]
      · rw [h 3 (by omega), msgPackChanges, store8_of_ne _ _ (by decide),
          store8_of_ne _ _ (by decide), store16_of_ne _ _ (by decide) (by decide)]
    rw [hlength, flip16_flip16, toInt_length]
  · show loadPortIdentity (call.pack b) 20 = _
    rw [← sender_msgPackHeader c buf]
    exact loadPortIdentity_congr fun i _ _ => hs.fixed i (by omega)
  · exact sequenceId_pack call b

end Header

/-! ## The body -/

section Body

variable {b : Buf} {call : PackCall}

theorem storePortIdentity_agreeBelow (b : Buf) (p : PortIdentity) :
    AgreeBelow 44 (storePortIdentity b 44 p) b :=
  fun _ hi => storePortIdentity_of_ne _ _ (by omega)

/-- The timestamp in the buffer is the packed one, under the requesting port identity that a
response stores after it. -/
theorem timestamp_pack {t : Timestamp} (h : call.timestamp = some t) :
    msgUnpackTimestamp (call.pack b) = t := by
  have hresponse (b : Buf) (p : PortIdentity) (t : Timestamp) :
      msgUnpackTimestamp (storePortIdentity (msgPackTimestamp b t) 44 p) = t := by
    rw [(storePortIdentity_agreeBelow _ p).timestamp (by decide)]
    exact msgUnpackTimestamp_msgPackTimestamp b t
  cases call with
  | announce c => cases h
  | sync c t => exact (msgUnpackTimestamp_msgPackTimestamp _ _).trans (Option.some.inj h)
  | delayReq c t => exact (msgUnpackTimestamp_msgPackTimestamp _ _).trans (Option.some.inj h)
  | followUp c t => exact (msgUnpackTimestamp_msgPackTimestamp _ _).trans (Option.some.inj h)
  | delayResp c header t => exact (hresponse _ _ _).trans (Option.some.inj h)
  | pdelayReq c t =>
    -- the ten octets after the timestamp are cleared
    have hclear (b : Buf) : AgreeBelow 44 (clear b 44 10) b :=
      fun i hi => clear_of_lt b _ (by omega)
    have hkept := (hclear (msgPackTimestamp (clear (msgPackChanges b .pdelayReq pdelayReqLength
      c.sentPDelayReqSequenceId.toUInt16 0x05 0x7F) 8 8) t)).timestamp (by decide)
    exact hkept.trans ((msgUnpackTimestamp_msgPackTimestamp _ _).trans (Option.some.inj h))
  | pdelayResp header t => exact (hresponse _ _ _).trans (Option.some.inj h)
  | pdelayRespFollowUp header t => exact (hresponse _ _ _).trans (Option.some.inj h)

theorem requesting_pack {header : MsgHeader} (h : call.request = some header) :
    loadPortIdentity (call.pack b) 44 = header.sourcePortIdentity := by
  cases call with
  | delayResp c header t =>
    exact (loadPortIdentity_storePortIdentity _ _ _).trans (by rw [Option.some.inj h])
  | pdelayResp header t =>
    exact (loadPortIdentity_storePortIdentity _ _ _).trans (by rw [Option.some.inj h])
  | pdelayRespFollowUp header t =>
    exact (loadPortIdentity_storePortIdentity _ _ _).trans (by rw [Option.some.inj h])
  | _ => cases h

theorem correctionfield_pack {x : Int64} (h : call.correctionfield = some x) :
    (msgUnpackHeader (call.pack b)).correctionfield = x := by
  have hwritten : ¬(call.type = .announce ∨ call.type = .followUp) ∧
      leftCorrection [call] = x := by
    cases call with
    | delayResp c header t =>
      exact ⟨fun ht => by simp [PackCall.type] at ht, Option.some.inj h⟩
    | pdelayRespFollowUp header t =>
      exact ⟨fun ht => by simp [PackCall.type] at ht, Option.some.inj h⟩
    | _ => cases h
  have hoctets : ∀ i, 8 ≤ i ∧ i < 16 → call.pack b i = msgPackCorrection (fun _ => 0) x i := by
    intro i hi
    rw [pack_correction_written hwritten.1 [] hi, hwritten.2]
    rfl
  exact (correctionIn_congr hoctets).trans (correctionfield_msgPackCorrection _ x)

/-- A packet has a header and a timestamp. -/
theorem syncLength_le (call : PackCall) : syncLength ≤ call.length := by
  cases call <;> simp only [PackCall.length] <;> decide

/-- **The body** of a packet, by the unpacker of its type. -/
theorem body_pack (call : PackCall) (b : Buf) :
    let buf := octetsOf (packetOf (call.pack b) call.length)
    correctionOf (some call.type) (msgUnpackHeader buf) = call.correctionfield ∧
      timestampOf (some call.type) buf = call.timestamp ∧
      requestingOf (some call.type) buf = call.request.map MsgHeader.sourcePortIdentity ∧
      announceFieldsOf (some call.type) buf = call.announceFields := by
  have hagree := packetOf_agreeBelow (call.pack b) call.length
  have hheader := hagree.header (le_trans (by decide) (syncLength_le call))
  have ht := hagree.timestamp (syncLength_le call)
  -- the timestamp of a message, and both parts of a response
  have htime (t : Timestamp) (h : call.timestamp = some t) :
      msgUnpackTimestamp (octetsOf (packetOf (call.pack b) call.length)) = t :=
    ht.trans (timestamp_pack h)
  have hrequesting (header : MsgHeader) (h : call.request = some header)
      (hn : delayRespLength ≤ call.length) :
      loadPortIdentity (octetsOf (packetOf (call.pack b) call.length)) 44 =
        header.sourcePortIdentity :=
    (hagree.loadPortIdentity hn).trans (requesting_pack h)
  have hcorrection (x : Int64) (h : call.correctionfield = some x) :
      (msgUnpackHeader (octetsOf (packetOf (call.pack b) call.length))).correctionfield = x := by
    rw [hheader]
    exact correctionfield_pack h
  cases call with
  | announce c => exact ⟨rfl, rfl, rfl, congrArg some (announceIn_announcePacket c b)⟩
  | sync c t => exact ⟨rfl, congrArg some (htime t rfl), rfl, rfl⟩
  | delayReq c t => exact ⟨rfl, congrArg some (htime t rfl), rfl, rfl⟩
  | followUp c t => exact ⟨rfl, congrArg some (htime t rfl), rfl, rfl⟩
  | delayResp c header t =>
    exact ⟨congrArg some (hcorrection _ rfl), congrArg some (htime t rfl),
      congrArg some (hrequesting header rfl (le_refl (54 : ℤ))), rfl⟩
  | pdelayReq c t => exact ⟨rfl, congrArg some (htime t rfl), rfl, rfl⟩
  | pdelayResp header t =>
    exact ⟨rfl, congrArg some (htime t rfl),
      congrArg some (hrequesting header rfl (le_refl (54 : ℤ))), rfl⟩
  | pdelayRespFollowUp header t =>
    exact ⟨congrArg some (hcorrection _ rfl), congrArg some (htime t rfl),
      congrArg some (hrequesting header rfl (le_refl (54 : ℤ))), rfl⟩

end Body

/-! ## The round trip -/

theorem ofCode_code (type : MessageType) : MessageType.ofCode type.code = some type := by
  cases type <;> rfl

/-- **What is packed is unpacked**, whatever other packers have left in the buffer before. -/
theorem fieldsIn_packetAfter {c : PtpClock} (hv : c.portDS.versionNumber < 16) (buf : Buf)
    (older : List PackCall) (call : PackCall) :
    fieldsIn (packetAfter (msgPackHeader c buf) older call) = call.fields c := by
  have hagree := packetOf_agreeBelow (call.pack (packed (msgPackHeader c buf) older)) call.length
  have hheader := hagree.header (le_trans (by decide) (syncLength_le call))
  have ⟨htype, hversion, hdomain, hlength, hsource, hid⟩ :=
    header_pack (packed_sameHeader (msgPackHeader c buf) older) hv call
  have ⟨hcorrection, htime, hrequesting, hannounce⟩ :=
    body_pack call (packed (msgPackHeader c buf) older)
  unfold packetAfter fieldsIn PackCall.fields
  simp only [hheader] at hcorrection ⊢
  rw [htype, ofCode_code, hversion, hdomain, hlength, hsource, hid, hcorrection, htime,
    hrequesting, hannounce]

theorem length_packetAfter (b : Buf) (older : List PackCall) (call : PackCall) :
    (packetAfter b older call).length = call.length := by
  rw [packetAfter, packetOf, List.length_map, List.length_range]
  exact Int.toNat_of_nonneg (le_trans (by decide) (syncLength_le call))

/-- **The round trip** of the wire format: the header and the body of a packet are those given to
its packer, the length is the number of octets sent, and packets are different when any field
is. -/
theorem packets_roundTrip {c : PtpClock} (hv : c.portDS.versionNumber < 16) (buf : Buf)
    (older : List PackCall) (call : PackCall) :
    fieldsIn (packetAfter (msgPackHeader c buf) older call) = call.fields c ∧
      (packetAfter (msgPackHeader c buf) older call).length = (call.fields c).messageLength ∧
      ∀ {c' : PtpClock}, c'.portDS.versionNumber < 16 →
        ∀ (buf' : Buf) (older' : List PackCall) (call' : PackCall),
          call.fields c ≠ call'.fields c' →
          packetAfter (msgPackHeader c buf) older call ≠
            packetAfter (msgPackHeader c' buf') older' call' := by
  refine ⟨fieldsIn_packetAfter hv buf older call, length_packetAfter _ older call, ?_⟩
  intro c' hv' buf' older' call' hne heq
  -- the packet determines the fields
  apply hne
  rw [← fieldsIn_packetAfter hv buf older call, heq, fieldsIn_packetAfter hv' buf' older' call']

/-- A Follow_Up of a clock, after a Sync and an answer to a DelayReq. -/
theorem packets_roundTrip_station :
    let c := station 1 ptpdOpts
    let older : List PackCall := [.delayResp c default ⟨0, 5, 7⟩, .sync c ⟨0, 4, 9⟩]
    fieldsIn (packetAfter (headerOf c) older (.followUp c ⟨1, 2, 3⟩)) =
        (PackCall.followUp c ⟨1, 2, 3⟩).fields c ∧
      packetAfter (headerOf c) older (.followUp c ⟨1, 2, 3⟩) ≠
        packetAfter (headerOf c) older (.followUp c ⟨1, 2, 4⟩) := by
  have hv : (station 1 ptpdOpts).portDS.versionNumber < 16 := by decide +kernel
  obtain ⟨hfields, -, hne⟩ := packets_roundTrip hv (fun _ => 0)
    [.delayResp (station 1 ptpdOpts) default ⟨0, 5, 7⟩, .sync (station 1 ptpdOpts) ⟨0, 4, 9⟩]
    (.followUp (station 1 ptpdOpts) ⟨1, 2, 3⟩)
  refine ⟨hfields, hne hv _ _ _ fun heq => ?_⟩
  have htime : some (⟨1, 2, 3⟩ : Timestamp) = some ⟨1, 2, 4⟩ := congrArg Fields.timestamp heq
  exact absurd htime (by decide)

end Ptpd
