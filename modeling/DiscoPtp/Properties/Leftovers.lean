import DiscoPtp.Library.History
import DiscoPtp.Properties.Initialised
import DiscoPtp.Properties.Wire

/-!
# Leftovers in the output buffer

All messages are packed into one buffer, and each packer writes the octets of its own message only.
Six of the eight packers write every octet of their packet that another packer writes. The other two
do not clear the correction field, and the reserved octet of an Announce is nobody's.

## Main definitions

* `PackCall`, `packed`, `packetAfter`: calls of the packers, the buffer and the packets
* `leftCorrection`, `leftOctet`: what the calls leave in the correction field and in octet 46
* `Outbox`, `OutboxStep`: the buffer and the messages sent along runs

## Main results

* `pack_congr`: a packet depends on the calls before by the leftover octets only
* `packetAfter_eq_iff`: when two sequences of calls leave the same packet
* `leftovers`: leftovers in packets and along runs
-/

namespace Ptpd

/-! ## Calls of the packers -/

/-- One call of a packer, with its arguments. -/
inductive PackCall
  | announce (c : PtpClock)
  | sync (c : PtpClock) (t : Timestamp)
  | delayReq (c : PtpClock) (t : Timestamp)
  | followUp (c : PtpClock) (t : Timestamp)
  | delayResp (c : PtpClock) (header : MsgHeader) (t : Timestamp)
  | pdelayReq (c : PtpClock) (t : Timestamp)
  | pdelayResp (header : MsgHeader) (t : Timestamp)
  | pdelayRespFollowUp (header : MsgHeader) (t : Timestamp)

namespace PackCall

/-- The type of the message. -/
def type : PackCall → MessageType
  | announce _ => .announce
  | sync _ _ => .sync
  | delayReq _ _ => .delayReq
  | followUp _ _ => .followUp
  | delayResp _ _ _ => .delayResp
  | pdelayReq _ _ => .pdelayReq
  | pdelayResp _ _ => .pdelayResp
  | pdelayRespFollowUp _ _ => .pdelayRespFollowUp

/-- The number of octets that `netSend` takes. -/
def length : PackCall → Int
  | announce _ => announceLength
  | sync _ _ => syncLength
  | delayReq _ _ => delayReqLength
  | followUp _ _ => followUpLength
  | delayResp _ _ _ => pdelayRespLength
  | pdelayReq _ _ => pdelayReqLength
  | pdelayResp _ _ => pdelayRespLength
  | pdelayRespFollowUp _ _ => pdelayRespFollowUpLength

/-- The sequence id: that of the request in a response, and that of the Sync before in a
Follow_Up. -/
def sequenceId : PackCall → Int16
  | announce c => c.sentAnnounceSequenceId
  | sync c _ => c.sentSyncSequenceId
  | delayReq c _ => c.sentDelayReqSequenceId
  | followUp c _ => c.sentSyncSequenceId - 1
  | delayResp _ header _ | pdelayResp header _ | pdelayRespFollowUp header _ => header.sequenceId
  | pdelayReq c _ => c.sentPDelayReqSequenceId

/-- The effect on the buffer. -/
def pack (buf : Buf) : PackCall → Buf
  | announce c => msgPackAnnounce c buf
  | sync c t => msgPackSync c buf t
  | delayReq c t => msgPackDelayReq c buf t
  | followUp c t => msgPackFollowUp c buf t
  | delayResp c header t => msgPackDelayResp c buf header t
  | pdelayReq c t => msgPackPDelayReq c buf t
  | pdelayResp header t => msgPackPDelayResp buf header t
  | pdelayRespFollowUp header t => msgPackPDelayRespFollowUp buf header t

end PackCall

/-- The buffer after some calls, the newest first. -/
def packed (buf : Buf) : List PackCall → Buf
  | [] => buf
  | call :: older => call.pack (packed buf older)

/-- **The packet** that `netSend` takes for a call after some calls, the newest first. -/
def packetAfter (buf : Buf) (older : List PackCall) (call : PackCall) : List UInt8 :=
  packetOf (call.pack (packed buf older)) call.length

/-- The correction field that calls leave in the buffer, the newest call first: Announce and
Follow_Up do not write it. -/
def leftCorrection : List PackCall → Int64
  | [] => 0
  | .announce _ :: older | .followUp _ _ :: older => leftCorrection older
  | .delayResp _ header _ :: _ | .pdelayRespFollowUp header _ :: _ => header.correctionfield
  | _ :: _ => 0

/-- The octet 46 that calls leave in the buffer, the newest call first: it belongs to the
requesting port identity of the responses, and is reserved in the Announce and the PDelayReq. -/
def leftOctet (octet : UInt8) : List PackCall → UInt8
  | [] => octet
  | .delayResp _ header _ :: _ | .pdelayResp header _ :: _ | .pdelayRespFollowUp header _ :: _ =>
    header.sourcePortIdentity.clockIdentity[2]
  | .pdelayReq _ _ :: _ => 0
  | _ :: older => leftOctet octet older

/-- Two sequences of calls leave the same octets to a message of the given type. -/
def LeaveSame (type : MessageType) (octet : UInt8) (older older' : List PackCall) : Prop :=
  match type with
  | .announce =>
    leftCorrection older = leftCorrection older' ∧ leftOctet octet older = leftOctet octet older'
  | .followUp => leftCorrection older = leftCorrection older'
  | _ => True

/-! ## Octet by octet -/

section Octets

variable {b b' : Buf} {off i : ℕ}

theorem store8_congr (x : UInt8) (h : i ≠ off → b i = b' i) :
    store8 b off x i = store8 b' off x i := by
  by_cases hi : i = off
  · rw [hi, store8_same, store8_same]
  · rw [store8_of_ne _ _ hi, store8_of_ne _ _ hi, h hi]

theorem store16_congr (x : UInt16) (h : i ≠ off → i ≠ off + 1 → b i = b' i) :
    store16 b off x i = store16 b' off x i :=
  store8_congr _ fun h₁ => store8_congr _ fun h₀ => h h₀ h₁

theorem store32_congr (x : UInt32) (h : i < off ∨ off + 4 ≤ i → b i = b' i) :
    store32 b off x i = store32 b' off x i :=
  store16_congr _ fun _ _ => store16_congr _ fun _ _ => h (by omega)

theorem copyIn_congr (bytes : List UInt8) (h : i < off ∨ off + bytes.length ≤ i → b i = b' i) :
    copyIn b off bytes i = copyIn b' off bytes i := by
  by_cases hlt : i < off
  · rw [copyIn_of_lt _ _ hlt, copyIn_of_lt _ _ hlt, h (.inl hlt)]
  by_cases hge : off + bytes.length ≤ i
  · rw [copyIn_of_ge _ _ hge, copyIn_of_ge _ _ hge, h (.inr hge)]
  · obtain ⟨k, rfl⟩ := Nat.exists_eq_add_of_le (Nat.le_of_not_lt hlt)
    rw [copyIn_get _ _ _ (by omega), copyIn_get _ _ _ (by omega)]

theorem clear_congr (n : ℕ) (h : i < off ∨ off + n ≤ i → b i = b' i) :
    clear b off n i = clear b' off n i :=
  copyIn_congr _ fun hi => h (by simpa using hi)

theorem storePortIdentity_congr (p : PortIdentity) (h : i < off ∨ off + 10 ≤ i → b i = b' i) :
    storePortIdentity b off p i = storePortIdentity b' off p i := by
  refine store16_congr _ fun _ _ => copyIn_congr _ fun hi => h ?_
  simp only [Vector.length_toList] at hi
  omega

theorem msgPackTimestamp_congr (t : Timestamp) (h : i < 34 ∨ 44 ≤ i → b i = b' i) :
    msgPackTimestamp b t i = msgPackTimestamp b' t i :=
  store32_congr _ fun _ => store32_congr _ fun _ => store16_congr _ fun _ _ => h (by omega)

theorem msgPackCorrection_congr (x : Int64) (h : i < 8 ∨ 16 ≤ i → b i = b' i) :
    msgPackCorrection b x i = msgPackCorrection b' x i :=
  store32_congr _ fun _ => store32_congr _ fun _ => h (by omega)

/-- The octets that `msgPackHeader` alone writes are the same, in octet 0 the upper half. -/
structure SameHeader (b b' : Buf) : Prop where
  transport : b 0 &&& 0xF0 = b' 0 &&& 0xF0
  fixed : ∀ i, i = 1 ∨ 4 ≤ i ∧ i < 8 ∨ 16 ≤ i ∧ i < 30 → b i = b' i

theorem SameHeader.symm (h : SameHeader b b') : SameHeader b' b :=
  ⟨h.transport.symm, fun i hi => (h.fixed i hi).symm⟩

theorem SameHeader.trans {b'' : Buf} (h : SameHeader b b') (h' : SameHeader b' b'') :
    SameHeader b b'' :=
  ⟨h.transport.trans h'.transport, fun i hi => (h.fixed i hi).trans (h'.fixed i hi)⟩

theorem msgPackChanges_congr (hs : SameHeader b b') (type : MessageType) (length : Int)
    (sequenceId : UInt16) (controlField logMessageInterval : UInt8)
    (h : 4 ≤ i ∧ i < 30 ∨ 34 ≤ i → b i = b' i) :
    msgPackChanges b type length sequenceId controlField logMessageInterval i =
      msgPackChanges b' type length sequenceId controlField logMessageInterval i := by
  unfold msgPackChanges
  rw [hs.transport]
  refine store8_congr _ fun _ => store8_congr _ fun _ => store16_congr _ fun _ _ =>
    store16_congr _ fun _ _ => store8_congr _ fun _ => ?_
  by_cases hone : i = 1
  · exact hs.fixed i (.inl hone)
  · exact h (by omega)

end Octets

/-- The octets of a message that its packer does not write, and another packer writes. -/
def Stale (type : MessageType) (i : ℕ) : Prop :=
  match type with
  | .announce => 8 ≤ i ∧ i < 16 ∨ i = 46
  | .followUp => 8 ≤ i ∧ i < 16
  | _ => False

section Calls

variable {b b' : Buf} {i : ℕ}

/-- **A packet depends on the buffer** by the header and the stale octets only. -/
theorem pack_congr (call : PackCall) (hs : SameHeader b b') (hi : (i : Int) < call.length)
    (h : Stale call.type i → b i = b' i) : call.pack b i = call.pack b' i := by
  cases call with
  | announce c =>
    have hlt : i < 64 := Int.ofNat_lt.mp hi
    refine store8_congr _ fun h₆₃ => store16_congr _ fun h₆₁ h₆₂ => copyIn_congr _ fun h₅₃ =>
      store8_congr _ fun h₅₂ => store16_congr _ fun h₅₀ h₅₁ => store8_congr _ fun h₄₉ =>
      store8_congr _ fun h₄₈ => store8_congr _ fun h₄₇ => store16_congr _ fun h₄₄ h₄₅ =>
      clear_congr _ fun h₃₄ => msgPackChanges_congr hs _ _ _ _ _ fun hrest => ?_
    simp only [Vector.length_toList] at h₅₃
    by_cases hstale : 8 ≤ i ∧ i < 16 ∨ i = 46
    · exact h hstale
    · exact hs.fixed i (by omega)
  | sync c t =>
    have hlt : i < 44 := Int.ofNat_lt.mp hi
    exact msgPackTimestamp_congr _ fun _ => clear_congr _ fun _ =>
      msgPackChanges_congr hs _ _ _ _ _ fun _ => hs.fixed i (by omega)
  | delayReq c t =>
    have hlt : i < 44 := Int.ofNat_lt.mp hi
    exact msgPackTimestamp_congr _ fun _ => clear_congr _ fun _ =>
      msgPackChanges_congr hs _ _ _ _ _ fun _ => hs.fixed i (by omega)
  | followUp c t =>
    have hlt : i < 44 := Int.ofNat_lt.mp hi
    refine msgPackTimestamp_congr _ fun _ => msgPackChanges_congr hs _ _ _ _ _ fun _ => ?_
    by_cases hstale : 8 ≤ i ∧ i < 16
    · exact h hstale
    · exact hs.fixed i (by omega)
  | delayResp c header t =>
    have hlt : i < 54 := Int.ofNat_lt.mp hi
    exact storePortIdentity_congr _ fun _ => msgPackTimestamp_congr _ fun _ =>
      msgPackCorrection_congr _ fun _ => clear_congr _ fun _ =>
      msgPackChanges_congr hs _ _ _ _ _ fun _ => hs.fixed i (by omega)
  | pdelayReq c t =>
    have hlt : i < 54 := Int.ofNat_lt.mp hi
    exact clear_congr _ fun _ => msgPackTimestamp_congr _ fun _ => clear_congr _ fun _ =>
      msgPackChanges_congr hs _ _ _ _ _ fun _ => hs.fixed i (by omega)
  | pdelayResp header t =>
    have hlt : i < 54 := Int.ofNat_lt.mp hi
    exact storePortIdentity_congr _ fun _ => msgPackTimestamp_congr _ fun _ =>
      clear_congr _ fun _ => msgPackChanges_congr hs _ _ _ _ _ fun _ => hs.fixed i (by omega)
  | pdelayRespFollowUp header t =>
    have hlt : i < 54 := Int.ofNat_lt.mp hi
    exact storePortIdentity_congr _ fun _ => msgPackTimestamp_congr _ fun _ =>
      msgPackCorrection_congr _ fun _ =>
      msgPackChanges_congr hs _ _ _ _ _ fun _ => hs.fixed i (by omega)

/-- The calls that do not write the correction field. -/
theorem pack_correction_kept {call : PackCall}
    (h : call.type = .announce ∨ call.type = .followUp) (hi : 8 ≤ i ∧ i < 16) :
    call.pack b i = b i := by
  cases call with
  | announce c =>
    show msgPackAnnounce c b i = b i
    rw [msgPackAnnounce, store8_of_ne _ _ (by omega), store16_of_ne _ _ (by omega) (by omega),
      copyIn_of_lt _ _ (by omega), store8_of_ne _ _ (by omega),
      store16_of_ne _ _ (by omega) (by omega), store8_of_ne _ _ (by omega),
      store8_of_ne _ _ (by omega), store8_of_ne _ _ (by omega),
      store16_of_ne _ _ (by omega) (by omega), clear_of_lt _ _ (by omega),
      msgPackChanges_of_ne _ _ _ _ _ _ (by omega)]
  | followUp c t =>
    show msgPackFollowUp c b t i = b i
    rw [msgPackFollowUp, msgPackTimestamp_of_lt _ _ (by omega),
      msgPackChanges_of_ne _ _ _ _ _ _ (by omega)]
  | _ => simp [PackCall.type] at h

theorem clear_of_ne (b : Buf) {off n : ℕ} (h : i < off ∨ off + n ≤ i) : clear b off n i = b i := by
  rcases h with h | h
  · exact clear_of_lt _ _ h
  · exact clear_of_ge _ _ h

/-- Outside of the correction field and of the body a packer makes the header changes only. -/
theorem pack_eq_changes (call : PackCall) (b : Buf) :
    ∃ controlField logMessageInterval, ∀ i, i < 8 ∨ 16 ≤ i ∧ i < 34 →
      call.pack b i = msgPackChanges b call.type call.length call.sequenceId.toUInt16 controlField
        logMessageInterval i := by
  cases call with
  | announce c =>
    refine ⟨0x05, c.portDS.logAnnounceInterval.toUInt8, fun i hi => ?_⟩
    show msgPackAnnounce c b i = _
    rw [msgPackAnnounce, store8_of_ne _ _ (by omega), store16_of_ne _ _ (by omega) (by omega),
      copyIn_of_lt _ _ (by omega), store8_of_ne _ _ (by omega),
      store16_of_ne _ _ (by omega) (by omega), store8_of_ne _ _ (by omega),
      store8_of_ne _ _ (by omega), store8_of_ne _ _ (by omega),
      store16_of_ne _ _ (by omega) (by omega), clear_of_lt _ _ (by omega)]
    rfl
  | sync c t =>
    exact ⟨_, _, fun i hi => (msgPackTimestamp_of_lt _ _ (by omega)).trans
      (clear_of_ne _ (by omega))⟩
  | delayReq c t =>
    exact ⟨_, _, fun i hi => (msgPackTimestamp_of_lt _ _ (by omega)).trans
      (clear_of_ne _ (by omega))⟩
  | followUp c t => exact ⟨_, _, fun i hi => msgPackTimestamp_of_lt _ _ (by omega)⟩
  | delayResp c header t =>
    exact ⟨_, _, fun i hi => (storePortIdentity_of_ne _ _ (by omega)).trans
      ((msgPackTimestamp_of_lt _ _ (by omega)).trans
        ((msgPackCorrection_of_ne _ _ (by omega)).trans (clear_of_ne _ (by omega))))⟩
  | pdelayReq c t =>
    exact ⟨_, _, fun i hi => (clear_of_lt _ _ (by omega)).trans
      ((msgPackTimestamp_of_lt _ _ (by omega)).trans (clear_of_ne _ (by omega)))⟩
  | pdelayResp header t =>
    exact ⟨_, _, fun i hi => (storePortIdentity_of_ne _ _ (by omega)).trans
      ((msgPackTimestamp_of_lt _ _ (by omega)).trans (clear_of_ne _ (by omega)))⟩
  | pdelayRespFollowUp header t =>
    exact ⟨_, _, fun i hi => (storePortIdentity_of_ne _ _ (by omega)).trans
      ((msgPackTimestamp_of_lt _ _ (by omega)).trans (msgPackCorrection_of_ne _ _ (by omega)))⟩

theorem transport_kept (x : UInt8) (type : MessageType) :
    (x &&& 0xF0 ||| type.code) &&& 0xF0 = x &&& 0xF0 := by
  have hcode : type.code.toBitVec &&& 0xF0 = 0 := by cases type <;> decide
  have hmask : (0xF0 : BitVec 8) &&& 0xF0 = 0xF0 := by decide
  apply UInt8.toBitVec_inj.mp
  show (x.toBitVec &&& 0xF0 ||| type.code.toBitVec) &&& 0xF0 = x.toBitVec &&& 0xF0
  rw [BitVec.and_or_distrib_right, BitVec.and_assoc, hmask, hcode]
  simp

theorem pack_sameHeader (call : PackCall) (b : Buf) : SameHeader (call.pack b) b := by
  obtain ⟨controlField, logMessageInterval, h⟩ := pack_eq_changes call b
  constructor
  · rw [h 0 (by omega), msgPackChanges, store8_of_ne _ _ (by decide), store8_of_ne _ _ (by decide),
      store16_of_ne _ _ (by decide) (by decide), store16_of_ne _ _ (by decide) (by decide),
      store8_same]
    exact transport_kept _ _
  · intro i hi
    rw [h i (by omega), msgPackChanges, store8_of_ne _ _ (by omega), store8_of_ne _ _ (by omega),
      store16_of_ne _ _ (by omega) (by omega), store16_of_ne _ _ (by omega) (by omega),
      store8_of_ne _ _ (by omega)]

theorem packed_sameHeader (b : Buf) (older : List PackCall) : SameHeader (packed b older) b := by
  induction older with
  | nil => exact ⟨rfl, fun _ _ => rfl⟩
  | cons call older ih => exact (pack_sameHeader call _).trans ih

/-! ## What the calls leave -/

/-- The octets of a correction field. -/
def correctionOctet (x : Int64) (i : ℕ) : UInt8 := msgPackCorrection (fun _ => 0) x i

theorem correctionOctet_zero (hi : 8 ≤ i ∧ i < 16) : correctionOctet 0 i = 0 := by
  obtain ⟨hge, hlt⟩ := hi
  interval_cases i <;> rfl

theorem msgPackCorrection_octet (b : Buf) (x : Int64) (hi : 8 ≤ i ∧ i < 16) :
    msgPackCorrection b x i = correctionOctet x i :=
  msgPackCorrection_congr x fun h => by omega

theorem clear_correction (b : Buf) (hi : 8 ≤ i ∧ i < 16) :
    clear b 8 8 i = correctionOctet 0 i := by
  rw [clear_of_mem b hi.1 hi.2, correctionOctet_zero hi]

/-- The other calls write the correction field whole. -/
theorem pack_correction_written {call : PackCall}
    (h : ¬(call.type = .announce ∨ call.type = .followUp)) (older : List PackCall)
    (hi : 8 ≤ i ∧ i < 16) : call.pack b i = correctionOctet (leftCorrection (call :: older)) i := by
  cases call with
  | announce c => exact absurd (.inl rfl) h
  | followUp c t => exact absurd (.inr rfl) h
  | sync c t => exact (msgPackTimestamp_of_lt _ _ (by omega)).trans (clear_correction _ hi)
  | delayReq c t => exact (msgPackTimestamp_of_lt _ _ (by omega)).trans (clear_correction _ hi)
  | delayResp c header t =>
    exact (storePortIdentity_of_ne _ _ (by omega)).trans
      ((msgPackTimestamp_of_lt _ _ (by omega)).trans (msgPackCorrection_octet _ _ hi))
  | pdelayReq c t =>
    exact (clear_of_lt _ _ (by omega)).trans
      ((msgPackTimestamp_of_lt _ _ (by omega)).trans (clear_correction _ hi))
  | pdelayResp header t =>
    exact (storePortIdentity_of_ne _ _ (by omega)).trans
      ((msgPackTimestamp_of_lt _ _ (by omega)).trans (clear_correction _ hi))
  | pdelayRespFollowUp header t =>
    exact (storePortIdentity_of_ne _ _ (by omega)).trans
      ((msgPackTimestamp_of_lt _ _ (by omega)).trans (msgPackCorrection_octet _ _ hi))

theorem leftCorrection_kept {call : PackCall}
    (h : call.type = .announce ∨ call.type = .followUp) (older : List PackCall) :
    leftCorrection (call :: older) = leftCorrection older := by
  cases call <;> simp_all [leftCorrection, PackCall.type]

/-- The correction field in the buffer after some calls. -/
theorem packed_correction (hb : ∀ i, 8 ≤ i ∧ i < 16 → b i = 0) (older : List PackCall)
    (hi : 8 ≤ i ∧ i < 16) : packed b older i = correctionOctet (leftCorrection older) i := by
  induction older with
  | nil => exact (hb i hi).trans (correctionOctet_zero hi).symm
  | cons call older ih =>
    by_cases h : call.type = .announce ∨ call.type = .followUp
    · rw [leftCorrection_kept h, ← ih]
      exact pack_correction_kept h hi
    · exact pack_correction_written h older hi

theorem storePortIdentity_octet (b : Buf) (p : PortIdentity) :
    storePortIdentity b 44 p 46 = p.clockIdentity[2] := by
  rw [storePortIdentity, store16_of_ne _ _ (by decide) (by decide)]
  exact (copyIn_get b 44 p.clockIdentity.toList (k := 2) (by simp)).trans (by simp)

theorem pack_announce_octet (c : PtpClock) (b : Buf) : msgPackAnnounce c b 46 = b 46 := by
  rw [msgPackAnnounce, store8_of_ne _ _ (by decide),
    store16_of_ne _ _ (by decide) (by decide), copyIn_of_lt _ _ (by decide),
    store8_of_ne _ _ (by decide), store16_of_ne _ _ (by decide) (by decide),
    store8_of_ne _ _ (by decide), store8_of_ne _ _ (by decide), store8_of_ne _ _ (by decide),
    store16_of_ne _ _ (by decide) (by decide), clear_of_ge _ _ (by decide),
    msgPackChanges_of_ne _ _ _ _ _ _ (by decide)]

/-- The octet 46 of the buffer after some calls. -/
theorem packed_octet (b : Buf) (older : List PackCall) :
    packed b older 46 = leftOctet (b 46) older := by
  have htimestamp (b : Buf) (t : Timestamp) : msgPackTimestamp b t 46 = b 46 := by
    rw [msgPackTimestamp, store32_of_ne _ _ (by decide), store32_of_ne _ _ (by decide),
      store16_of_ne _ _ (by decide) (by decide)]
  induction older with
  | nil => rfl
  | cons call older ih =>
    cases call with
    | announce c =>
      simp only [packed, leftOctet, PackCall.pack]
      rw [pack_announce_octet, ih]
    | sync c t =>
      simp only [packed, leftOctet, PackCall.pack]
      rw [msgPackSync, htimestamp, clear_of_ne _ (by decide),
        msgPackChanges_of_ne _ _ _ _ _ _ (by decide), ih]
    | delayReq c t =>
      simp only [packed, leftOctet, PackCall.pack]
      rw [msgPackDelayReq, htimestamp, clear_of_ne _ (by decide),
        msgPackChanges_of_ne _ _ _ _ _ _ (by decide), ih]
    | followUp c t =>
      simp only [packed, leftOctet, PackCall.pack]
      rw [msgPackFollowUp, htimestamp, msgPackChanges_of_ne _ _ _ _ _ _ (by decide), ih]
    | delayResp c header t =>
      simp only [packed, leftOctet, PackCall.pack]
      rw [msgPackDelayResp, storePortIdentity_octet]
    | pdelayReq c t =>
      simp only [packed, leftOctet, PackCall.pack]
      rw [msgPackPDelayReq, clear_of_mem _ (by decide) (by decide)]
    | pdelayResp header t =>
      simp only [packed, leftOctet, PackCall.pack]
      rw [msgPackPDelayResp, storePortIdentity_octet]
    | pdelayRespFollowUp header t =>
      simp only [packed, leftOctet, PackCall.pack]
      rw [msgPackPDelayRespFollowUp, storePortIdentity_octet]

/-- The correction fields of packets with different octets are different. -/
theorem correctionOctet_injective {x y : Int64}
    (h : ∀ i, 8 ≤ i ∧ i < 16 → correctionOctet x i = correctionOctet y i) : x = y := by
  have hfield : msgPackCorrection (fun _ => 0) x = msgPackCorrection (fun _ => 0) y := by
    funext i
    by_cases hi : 8 ≤ i ∧ i < 16
    · exact h i hi
    · rw [msgPackCorrection_of_ne _ _ (by omega), msgPackCorrection_of_ne _ _ (by omega)]
  rw [← correctionfield_msgPackCorrection (fun _ => 0) x, hfield,
    correctionfield_msgPackCorrection]

/-- A packet is made of the octets of the buffer. -/
theorem packetOf_inj {b b' : Buf} {length : Int} :
    packetOf b length = packetOf b' length ↔ ∀ i : ℕ, (i : Int) < length → b i = b' i := by
  constructor
  · intro h i hi
    rw [← getD_packetOf b hi, ← getD_packetOf b' hi, h]
  · intro h
    unfold packetOf
    refine List.map_congr_left fun i hi => h i ?_
    have hlt := List.mem_range.mp hi
    omega

/-- **Two packets are the same** exactly when the calls before leave the same octets. -/
theorem packetAfter_eq_iff (hb : ∀ i, 8 ≤ i ∧ i < 16 → b i = 0) (older older' : List PackCall)
    (call : PackCall) :
    packetAfter b older call = packetAfter b older' call ↔
      LeaveSame call.type (b 46) older older' := by
  have hheader : SameHeader (packed b older) (packed b older') :=
    (packed_sameHeader b older).trans (packed_sameHeader b older').symm
  have hcorrection : (∀ i, 8 ≤ i ∧ i < 16 → packed b older i = packed b older' i) ↔
      leftCorrection older = leftCorrection older' := by
    constructor
    · intro h
      refine correctionOctet_injective fun i hi => ?_
      rw [← packed_correction hb older hi, ← packed_correction hb older' hi, h i hi]
    · intro h i hi
      rw [packed_correction hb older hi, packed_correction hb older' hi, h]
  have hstale : (∀ i, Stale call.type i → packed b older i = packed b older' i) ↔
      LeaveSame call.type (b 46) older older' := by
    cases call with
    | announce c =>
      constructor
      · intro h
        refine ⟨hcorrection.mp fun i hi => h i (.inl hi), ?_⟩
        rw [← packed_octet, ← packed_octet]
        exact h 46 (.inr rfl)
      · rintro ⟨hleft, hoctet⟩ i (hi | rfl)
        · exact hcorrection.mpr hleft i hi
        · rw [packed_octet, packed_octet, hoctet]
    | followUp c t => exact hcorrection
    | _ => exact ⟨fun _ => trivial, fun _ _ h => h.elim⟩
  -- a stale octet of the packet is the one of the buffer
  have hkept (b : Buf) (i : ℕ) (hi : Stale call.type i) :
      (i : Int) < call.length ∧ call.pack b i = b i := by
    cases call with
    | announce c =>
      rcases hi with hi | rfl
      · have hlt : (i : Int) < 64 := by omega
        exact ⟨hlt, pack_correction_kept (.inl rfl) hi⟩
      · have hlt : ((46 : ℕ) : Int) < 64 := by decide
        exact ⟨hlt, pack_announce_octet c b⟩
    | followUp c t =>
      have hlt : (i : Int) < 44 := by
        have hi' : i < 16 := hi.2
        omega
      exact ⟨hlt, pack_correction_kept (.inr rfl) hi⟩
    | _ => exact hi.elim
  rw [packetAfter, packetAfter, packetOf_inj, ← hstale]
  constructor
  · intro h i hi
    rw [← (hkept (packed b older) i hi).2, ← (hkept (packed b older') i hi).2]
    exact h i (hkept b i hi).1
  · exact fun h i hi => pack_congr call hheader hi (h i)

end Calls

/-! ## The output buffer along runs -/

/-- The messages sent, the newest first. -/
def sends : List Entry → List (MessageType × List UInt8)
  | [] => []
  | .send type packet _ :: history => (type, packet) :: sends history
  | _ :: history => sends history

/-- The correction field of the newest message that is neither Announce nor Follow_Up. -/
def carriedCorrection : List (MessageType × List UInt8) → Int64
  | [] => 0
  | (.announce, _) :: older | (.followUp, _) :: older => carriedCorrection older
  | (_, packet) :: _ => (headerIn packet).correctionfield

/-- The output buffer and the messages sent. -/
structure Outbox where
  buf : Buf
  sent : List (MessageType × List UInt8)

/-- The outbox of a state. -/
def System.outbox (s : System) : Outbox := ⟨s.ptpClock.msgObuf, sends s.history⟩

/-- The steps of an outbox: the header template is packed, or a message is packed and sent. -/
inductive OutboxStep (o : Outbox) : Outbox → Prop
  | header (c : PtpClock) : OutboxStep o { o with buf := msgPackHeader c o.buf }
  | send (call : PackCall) :
      OutboxStep o
        { buf := call.pack o.buf
          sent := (call.type, packetOf (call.pack o.buf) call.length) :: o.sent }

section Outbox

variable {o o' : Outbox}

/-- The correction field in a buffer. -/
def correctionIn (buf : Buf) : Int64 := (msgUnpackHeader buf).correctionfield

theorem correctionIn_congr {b b' : Buf} (h : ∀ i, 8 ≤ i ∧ i < 16 → b i = b' i) :
    correctionIn b = correctionIn b' := by
  have hhigh : load32 b 8 = load32 b' 8 := load32_congr fun i hge hlt => h i (by omega)
  have hlow : load32 b 12 = load32 b' 12 := load32_congr fun i hge hlt => h i (by omega)
  simp only [correctionIn, msgUnpackHeader, hhigh, hlow]

theorem correctionIn_zero {b : Buf} (h : ∀ i, 8 ≤ i ∧ i < 16 → b i = 0) : correctionIn b = 0 := by
  have hclear : correctionIn b = correctionIn fun _ => 0 := correctionIn_congr h
  rw [hclear]
  rfl

theorem msgPackHeader_correction (c : PtpClock) (b : Buf) {i : ℕ} (hi : 8 ≤ i ∧ i < 16) :
    msgPackHeader c b i = 0 := by
  unfold msgPackHeader
  rw [store8_of_ne _ _ (by omega), storePortIdentity_of_ne _ _ (by omega), clear_of_mem _ hi.1 hi.2]

/-- The packet of a call shows the correction field of the buffer. -/
theorem packet_correction (call : PackCall) (b : Buf) :
    (headerIn (packetOf (call.pack b) call.length)).correctionfield =
      correctionIn (call.pack b) := by
  refine correctionIn_congr fun i hi => getD_packetOf _ ?_
  have hlength : 44 ≤ call.length := by
    cases call <;> simp only [PackCall.length] <;> decide
  omega

theorem pack_correctionIn_kept {call : PackCall}
    (h : call.type = .announce ∨ call.type = .followUp) (b : Buf) :
    correctionIn (call.pack b) = correctionIn b :=
  correctionIn_congr fun _ hi => pack_correction_kept h hi

theorem pack_correctionIn_cleared {call : PackCall}
    (h : call.type ∈ [.sync, .delayReq, .pdelayReq]) (b : Buf) :
    correctionIn (call.pack b) = 0 := by
  have hleft : leftCorrection [call] = 0 := by
    cases call <;> simp_all [leftCorrection, PackCall.type]
  refine correctionIn_zero fun i hi => ?_
  rw [pack_correction_written (by rintro (ht | ht) <;> simp [ht] at h) [] hi, hleft,
    correctionOctet_zero hi]

theorem carriedCorrection_kept {type : MessageType} (h : type = .announce ∨ type = .followUp)
    (packet : List UInt8) (older : List (MessageType × List UInt8)) :
    carriedCorrection ((type, packet) :: older) = carriedCorrection older := by
  rcases h with rfl | rfl <;> rfl

theorem carriedCorrection_written {type : MessageType}
    (h : ¬(type = .announce ∨ type = .followUp)) (packet : List UInt8)
    (older : List (MessageType × List UInt8)) :
    carriedCorrection ((type, packet) :: older) = (headerIn packet).correctionfield := by
  cases type <;> simp_all [carriedCorrection]

/-- What the packers leave in the correction field of a message sent after older ones. -/
structure Corrects (message : MessageType × List UInt8)
    (older : List (MessageType × List UInt8)) : Prop where
  kept : message.1 = .announce ∨ message.1 = .followUp →
    (headerIn message.2).correctionfield = 0 ∨
      (headerIn message.2).correctionfield = carriedCorrection older
  cleared : message.1 ∈ [.sync, .delayReq, .pdelayReq] → (headerIn message.2).correctionfield = 0

/-- The correction field in the buffer is clear, or that of the newest message that wrote it. -/
structure Outbox.Carries (o : Outbox) : Prop where
  buf : correctionIn o.buf = 0 ∨ correctionIn o.buf = carriedCorrection o.sent
  sent : History.Every Corrects o.sent

theorem Outbox.carries_preserved : Transition.Preserves OutboxStep Outbox.Carries := by
  intro o o' h ho
  cases h with
  | header c =>
    exact ⟨.inl (correctionIn_zero fun _ hi => msgPackHeader_correction c _ hi), ho.sent⟩
  | send call =>
    have hpacket := packet_correction call o.buf
    constructor
    · by_cases ht : call.type = .announce ∨ call.type = .followUp
      · rw [carriedCorrection_kept ht, pack_correctionIn_kept ht]
        exact ho.buf
      · rw [carriedCorrection_written ht, hpacket]
        exact .inr rfl
    · refine History.every_cons.mpr ⟨⟨fun ht => ?_, fun ht => ?_⟩, ho.sent⟩
      · rw [hpacket, pack_correctionIn_kept ht]
        exact ho.buf
      · rw [hpacket]
        exact pack_correctionIn_cleared ht _

/-- **Every action** packs the header, or packs and sends one message, or leaves the outbox as it
is. -/
theorem action_simulates_outbox {P : PtpState → Prop} :
    Transition.Simulates System.outbox (Action P) OutboxStep := by
  intro s t h
  cases h
  case packHeader => exact .inr (.header s.ptpClock)
  case issueAnnounce env => exact .inr (.send (.announce s.ptpClock))
  case sentSync env => exact .inr (.send (.sync s.ptpClock (originNow env s)))
  case issueFollowup env time =>
    exact .inr (.send (.followUp s.ptpClock (fromInternalTime time env.localTimestamp)))
  case issueDelayReq env =>
    rw [issueDelayReq_eq]
    exact .inr (.send (.delayReq s.ptpClock (originNow env s)))
  case issuePDelayReq env =>
    rw [issuePDelayReq_eq]
    exact .inr (.send (.pdelayReq s.ptpClock (originNow env s)))
  case issueDelayResp env time =>
    exact .inr (.send (.delayResp s.ptpClock s.ptpClock.msgTmpHeader
      (fromInternalTime time env.localTimestamp)))
  case issuePDelayResp env time =>
    rw [issuePDelayResp_eq]
    exact .inr (.send (.pdelayResp s.ptpClock.msgTmpHeader
      (fromInternalTime time env.localTimestamp)))
  case issuePDelayRespFollowUp env time =>
    exact .inr (.send (.pdelayRespFollowUp s.ptpClock.msgTmpHeader
      (fromInternalTime time env.localTimestamp)))
  case storeSync h hp =>
    obtain ⟨_, _, heq⟩ := storeSync_eq (ingressTime s) s
    left
    rw [heq]
    rfl
  case syncOffset env h =>
    obtain ⟨_, _, _, _, _, _, _, _, heq⟩ := syncOffset_eq env (ingressTime s) s
    left
    rw [heq]
    rfl
  case followUpOffset env h hm =>
    obtain ⟨_, _, _, _, _, _, _, heq⟩ := followUpOffset_eq env s
    left
    rw [heq]
    rfl
  case useDelayResp h =>
    obtain ⟨_, _, _, _, _, _, _, heq⟩ := useDelayResp_eq s
    left
    rw [heq]
    rfl
  case storePDelayResp env h =>
    obtain ⟨_, _, _, _, heq⟩ := storePDelayResp_eq env (ingressTime s) s
    left
    rw [heq]
    rfl
  case usePDelayResp h =>
    obtain ⟨_, _, _, heq⟩ := usePDelayResp_eq (ingressTime s) s
    left
    rw [heq]
    rfl
  case usePDelayRespFollowUp env hm h =>
    obtain ⟨_, _, _, _, _, _, heq⟩ := usePDelayRespFollowUp_eq env s
    left
    rw [heq]
    rfl
  case decideState =>
    obtain ⟨_, _, _, _, _, _, _, _, heq⟩ := decideState_eq s
    left
    rw [heq]
    rfl
  case adjTime adj =>
    obtain ⟨_, heq⟩ := adjTime_eq adj s
    left
    rw [heq]
    rfl
  case interrupt i =>
    left
    cases i with
    | recvEvent n =>
      simp only [interrupt, netRecvEventCallback]
      split <;> rfl
    | recvGeneral n =>
      simp only [interrupt, netRecvGeneralCallback]
      split <;> rfl
    | _ => rfl
  all_goals exact .inl rfl

/-- In every run the buffer carries the correction field of the newest message that wrote it. -/
theorem Visited.carries {rtOpts : RunTimeOpts} {s : System} (hs : Visited rtOpts s) :
    s.outbox.Carries := by
  refine hs.of_action (Outbox.carries_preserved.of_simulates action_simulates_outbox) ?_
  obtain ⟨_, heq, _⟩ := boot_eq rtOpts
  rw [heq]
  exact ⟨.inl (correctionIn_zero fun _ _ => rfl), History.every_nil _⟩

end Outbox

/-- An Announce or a Follow_Up finds a clear correction field in the buffer. -/
def FindsClear (message : MessageType × List UInt8) (older : List (MessageType × List UInt8)) :
    Prop :=
  message.1 = .announce ∨ message.1 = .followUp → carriedCorrection older = 0

instance (message : MessageType × List UInt8) (older : List (MessageType × List UInt8)) :
    Decidable (FindsClear message older) :=
  inferInstanceAs (Decidable (_ → _))

/-- The messages that have no correction of their own. -/
def uncorrected : List MessageType := [.announce, .sync, .followUp, .delayReq, .pdelayReq]

/-- **Leftovers in packets**: two sequences of calls give the same packet exactly when they leave
the same octets to it. Along a run the correction fields are clear as long as every Announce and
Follow_Up finds a clear one. -/
theorem leftovers (c : PtpClock) (buf : Buf) (older older' : List PackCall) (call : PackCall) :
    (packetAfter (msgPackHeader c buf) older call = packetAfter (msgPackHeader c buf) older' call ↔
      LeaveSame call.type (msgPackHeader c buf 46) older older') ∧
    ∀ (rtOpts : RunTimeOpts) (s : System), Reachable rtOpts s →
      History.Every FindsClear (sends s.history) →
      ∀ message ∈ sends s.history, message.1 ∈ uncorrected →
        (headerIn message.2).correctionfield = 0 := by
  constructor
  · exact packetAfter_eq_iff (fun _ hi => msgPackHeader_correction c buf hi) older older' call
  · intro rtOpts s hs hclear message hm ht
    obtain ⟨newer, older, hsplit⟩ := List.append_of_mem hm
    have hsuffix : message :: older <:+ sends s.history := ⟨newer, hsplit.symm⟩
    have hcorrects : Corrects message older := hs.visited.carries.sent _ _ hsuffix
    by_cases hkept : message.1 = .announce ∨ message.1 = .followUp
    · rcases hcorrects.kept hkept with h | h
      · exact h
      · exact h.trans (hclear message older hsuffix hkept)
    · refine hcorrects.cleared ?_
      simp only [uncorrected, List.mem_cons, List.not_mem_nil, or_false] at ht ⊢
      tauto

/-! ## A master that has answered a DelayReq and announces itself -/

/-- The DelayReq of a clock, corrected on its way. -/
def delayReqOf (c : PtpClock) (correctionfield : Int64) : List UInt8 :=
  packetOf (msgPackCorrection (msgPackDelayReq c (headerOf c) ⟨0, 0, 0⟩) correctionfield)
    delayReqLength

/-- A master has answered a DelayReq and announced itself. -/
def answered (correctionfield : Int64) : System :=
  timedOut.after
    (eventArrival (delayReqOf (station 2 ptpdOpts) correctionfield) (atSecond 1) ++
      [.doState plainEnv, .interrupt (.timerCallback .announceInterval), .doState plainEnv])

theorem answered_reachable (correctionfield : Int64) :
    Reachable ptpdOpts (answered correctionfield) :=
  timedOut_reachable.after _

theorem leftovers_answered :
    (packetAfter (headerOf (station 1 ptpdOpts)) [.pdelayReq (station 1 ptpdOpts) ⟨0, 0, 0⟩]
        (.announce (station 1 ptpdOpts)) =
      packetAfter (headerOf (station 1 ptpdOpts)) [] (.announce (station 1 ptpdOpts))) ∧
    ∀ message ∈ sends (answered 0).history, message.1 ∈ uncorrected →
      (headerIn message.2).correctionfield = 0 := by
  obtain ⟨hsame, hruns⟩ := leftovers (station 1 ptpdOpts) (fun _ => 0)
    [.pdelayReq (station 1 ptpdOpts) ⟨0, 0, 0⟩] [] (.announce (station 1 ptpdOpts))
  exact ⟨hsame.mpr ⟨rfl, by decide +kernel⟩,
    hruns ptpdOpts _ (answered_reachable 0) (by decide +kernel)⟩

/-- A DelayResp with a correction leaves it to the next Announce. -/
theorem correction_left :
    (¬∀ (c : PtpClock) (buf : Buf) (older older' : List PackCall) (call : PackCall),
      packetAfter (msgPackHeader c buf) older call =
        packetAfter (msgPackHeader c buf) older' call) ∧
    ¬∀ (rtOpts : RunTimeOpts) (s : System), Reachable rtOpts s →
      ∀ message ∈ sends s.history, message.1 ∈ uncorrected →
        (headerIn message.2).correctionfield = 0 := by
  constructor
  · intro h
    have heq := h (station 1 ptpdOpts) (fun _ => 0) []
      [.delayResp (station 1 ptpdOpts) { (default : MsgHeader) with correctionfield := 65536 }
        ⟨0, 0, 0⟩]
      (.announce (station 1 ptpdOpts))
    revert heq
    decide +kernel
  · intro h
    have hclear := h ptpdOpts (answered 65536) (answered_reachable _)
    revert hclear
    decide +kernel

end Ptpd
