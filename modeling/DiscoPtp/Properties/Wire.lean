import DiscoPtp.Model.System

/-!
# Bytes of the output buffer

Reading back what a packer has stored.

## Main results

* `flip16_flip16`, `load16_store16`: a 16-bit field survives the trip
* `flip32_flip32`, `load32_store32`, `correctionfield_msgPackCorrection`: so do a 32-bit field and
  the correction field
* `loadIdentity_copyIn`, `loadPortIdentity_storePortIdentity`: so do identities
* `AgreeBelow.header`, `AgreeBelow.timestamp`, ...: how far the unpackers read
* `sequenceIdOf_msgPackDelayReq`, `sequenceIdOf_msgPackPDelayReq`: the sequence id of a request
-/

namespace Ptpd

/-! ## Sixteen-bit fields -/

theorem toNat_flip16 (x : UInt16) :
    (flip16 x).toNat = x.toNat % 256 * 256 + x.toNat / 256 := by
  have hx := x.toNat_lt
  rw [flip16, UInt16.toNat_ofNat_of_lt']
  simp only [UInt16.size]
  omega

@[simp] theorem flip16_flip16 (x : UInt16) : flip16 (flip16 x) = x := by
  have hx := x.toNat_lt
  apply UInt16.toNat.inj
  rw [toNat_flip16, toNat_flip16]
  omega

theorem load16_congr {buf buf' : Buf} {off : ℕ} (h : buf off = buf' off)
    (h' : buf (off + 1) = buf' (off + 1)) : load16 buf off = load16 buf' off := by
  rw [load16, load16, h, h']

@[simp] theorem store8_same (buf : Buf) (off : ℕ) (x : UInt8) : store8 buf off x off = x :=
  if_pos rfl

theorem store8_of_ne (buf : Buf) {off i : ℕ} (x : UInt8) (h : i ≠ off) :
    store8 buf off x i = buf i :=
  if_neg h

theorem store16_of_ne (buf : Buf) {off i : ℕ} (x : UInt16) (h : i ≠ off) (h' : i ≠ off + 1) :
    store16 buf off x i = buf i := by
  rw [store16, store8_of_ne _ _ h', store8_of_ne _ _ h]

theorem store32_of_ne (buf : Buf) {off i : ℕ} (x : UInt32) (h : i < off ∨ off + 4 ≤ i) :
    store32 buf off x i = buf i := by
  rw [store32, store16_of_ne _ _ (by omega) (by omega), store16_of_ne _ _ (by omega) (by omega)]

@[simp] theorem load16_store16 (buf : Buf) (off : ℕ) (x : UInt16) :
    load16 (store16 buf off x) off = x := by
  have hx := x.toNat_lt
  apply UInt16.toNat.inj
  rw [load16, store16, store8_same, store8_of_ne _ _ (by omega), store8_same,
    UInt16.toNat_ofNat_of_lt', UInt8.toNat_ofNat_of_lt', UInt8.toNat_ofNat_of_lt']
  · omega
  · simp only [UInt8.size]
    omega
  · simp only [UInt8.size]
    omega
  · simp only [UInt16.size, UInt8.toNat_ofNat', Nat.reducePow]
    omega

/-! ## Thirty-two-bit fields -/

theorem toNat_flip32 (x : UInt32) :
    (flip32 x).toNat = x.toNat % 256 * 16777216 + x.toNat / 256 % 256 * 65536 +
      x.toNat / 65536 % 256 * 256 + x.toNat / 16777216 := by
  have hx := x.toNat_lt
  rw [flip32, UInt32.toNat_ofNat_of_lt']
  simp only [UInt32.size]
  omega

/-- The number with the four bytes of a number in the other order. -/
theorem swap_bytes {a b c d : ℕ} (ha : a < 256) (hb : b < 256) (hc : c < 256) {n : ℕ}
    (hn : n = a + 256 * b + 65536 * c + 16777216 * d) :
    n % 256 * 16777216 + n / 256 % 256 * 65536 + n / 65536 % 256 * 256 + n / 16777216 =
      d + 256 * c + 65536 * b + 16777216 * a := by
  have h₁ : n % 256 = a := by omega
  have h₂ : n / 256 = b + 256 * c + 65536 * d := by omega
  have h₃ : n / 65536 = c + 256 * d := by omega
  have h₄ : n / 16777216 = d := by omega
  rw [h₁, h₂, h₃, h₄]
  omega

theorem exists_bytes {n : ℕ} (h : n < 2 ^ 32) : ∃ a b c d, a < 256 ∧ b < 256 ∧ c < 256 ∧
    d < 256 ∧ n = a + 256 * b + 65536 * c + 16777216 * d := by
  have h₂ : n / 65536 = n / 256 / 256 := (Nat.div_div_eq_div_mul n 256 256).symm
  have h₃ : n / 16777216 = n / 65536 / 256 := (Nat.div_div_eq_div_mul n 65536 256).symm
  exact ⟨n % 256, n / 256 % 256, n / 65536 % 256, n / 16777216, by omega, by omega, by omega,
    by omega, by omega⟩

@[simp] theorem flip32_flip32 (x : UInt32) : flip32 (flip32 x) = x := by
  obtain ⟨a, b, c, d, ha, hb, hc, hd, hn⟩ := exists_bytes x.toNat_lt
  have hflip := (toNat_flip32 x).trans (swap_bytes ha hb hc hn)
  apply UInt32.toNat.inj
  rw [toNat_flip32, swap_bytes hd hc hb hflip, hn]

theorem load32_congr {buf buf' : Buf} {off : ℕ}
    (h : ∀ i, off ≤ i → i < off + 4 → buf i = buf' i) : load32 buf off = load32 buf' off := by
  rw [load32, load32, h off (by omega) (by omega), h (off + 1) (by omega) (by omega),
    h (off + 2) (by omega) (by omega), h (off + 3) (by omega) (by omega)]

theorem toNat_load32 (buf : Buf) (off : ℕ) :
    (load32 buf off).toNat =
      (load16 buf off).toNat + 65536 * (load16 buf (off + 2)).toNat := by
  have h₀ := (buf off).toNat_lt
  have h₁ := (buf (off + 1)).toNat_lt
  have h₂ := (buf (off + 2)).toNat_lt
  have h₃ := (buf (off + 3)).toNat_lt
  rw [load32, load16, load16, show off + 2 + 1 = off + 3 from rfl, UInt32.toNat_ofNat_of_lt',
    UInt16.toNat_ofNat_of_lt', UInt16.toNat_ofNat_of_lt']
  · omega
  all_goals
    simp only [UInt16.size, UInt32.size]
    omega

@[simp] theorem load32_store32 (buf : Buf) (off : ℕ) (x : UInt32) :
    load32 (store32 buf off x) off = x := by
  have hx := x.toNat_lt
  have hlow : load16 (store32 buf off x) off = UInt16.ofNat (x.toNat % 65536) := by
    rw [← load16_store16 buf off (UInt16.ofNat (x.toNat % 65536))]
    apply load16_congr
    · exact store16_of_ne _ _ (by omega) (by omega)
    · exact store16_of_ne _ _ (by omega) (by omega)
  have hhigh : load16 (store32 buf off x) (off + 2) = UInt16.ofNat (x.toNat / 65536) :=
    load16_store16 _ _ _
  apply UInt32.toNat.inj
  rw [toNat_load32, hlow, hhigh, UInt16.toNat_ofNat_of_lt', UInt16.toNat_ofNat_of_lt']
  · omega
  all_goals
    simp only [UInt16.size]
    omega

/-! ## Blocks -/

theorem copyIn_of_lt (buf : Buf) {off i : ℕ} (bytes : List UInt8) (h : i < off) :
    copyIn buf off bytes i = buf i :=
  if_neg (by omega)

theorem copyIn_of_ge (buf : Buf) {off i : ℕ} (bytes : List UInt8) (h : off + bytes.length ≤ i) :
    copyIn buf off bytes i = buf i := by
  rw [copyIn, if_pos (by omega), List.getD_eq_default _ _ (by omega)]

theorem copyIn_get (buf : Buf) (off : ℕ) (bytes : List UInt8) {k : ℕ} (h : k < bytes.length) :
    copyIn buf off bytes (off + k) = bytes[k] := by
  rw [copyIn, if_pos (by omega), Nat.add_sub_cancel_left, List.getD_eq_getElem _ _ h]

theorem clear_of_lt (buf : Buf) {off i : ℕ} (n : ℕ) (h : i < off) : clear buf off n i = buf i :=
  copyIn_of_lt buf _ h

theorem clear_of_ge (buf : Buf) {off i : ℕ} (n : ℕ) (h : off + n ≤ i) :
    clear buf off n i = buf i :=
  copyIn_of_ge buf _ (by simpa using h)

theorem clear_of_mem (buf : Buf) {off n i : ℕ} (h : off ≤ i) (h' : i < off + n) :
    clear buf off n i = 0 := by
  obtain ⟨k, rfl⟩ := Nat.exists_eq_add_of_le h
  rw [clear, copyIn_get _ _ _ (by simp; omega)]
  simp

theorem loadIdentity_congr {buf buf' : Buf} {off : ℕ}
    (h : ∀ i, off ≤ i → i < off + 8 → buf i = buf' i) :
    loadIdentity buf off = loadIdentity buf' off := by
  apply Vector.ext
  intro i hi
  simp only [loadIdentity, Vector.getElem_ofFn]
  exact h _ (by omega) (by omega)

@[simp] theorem loadIdentity_copyIn (buf : Buf) (off : ℕ) (identity : ClockIdentity) :
    loadIdentity (copyIn buf off identity.toList) off = identity := by
  apply Vector.ext
  intro i hi
  simp only [loadIdentity, Vector.getElem_ofFn]
  rw [copyIn_get _ _ _ (by simpa using hi)]
  simp

@[simp] theorem loadPortIdentity_storePortIdentity (buf : Buf) (off : ℕ) (p : PortIdentity) :
    loadPortIdentity (storePortIdentity buf off p) off = p := by
  have hid : loadIdentity (storePortIdentity buf off p) off = p.clockIdentity := by
    rw [← loadIdentity_copyIn buf off p.clockIdentity]
    apply loadIdentity_congr
    intro i _ _
    exact store16_of_ne _ _ (by omega) (by omega)
  have hport : (flip16 (load16 (storePortIdentity buf off p) (off + 8))).toInt16 =
      p.portNumber := by
    rw [storePortIdentity, load16_store16, flip16_flip16]
    simp
  rw [loadPortIdentity, hid, hport]

theorem copyIn_identity_of_ge (buf : Buf) {off i : ℕ} (identity : ClockIdentity)
    (h : off + 8 ≤ i) : copyIn buf off identity.toList i = buf i :=
  copyIn_of_ge buf _ (by simpa using h)

theorem storePortIdentity_of_ne (buf : Buf) {off i : ℕ} (p : PortIdentity)
    (h : i < off ∨ off + 10 ≤ i) : storePortIdentity buf off p i = buf i := by
  rw [storePortIdentity, store16_of_ne _ _ (by omega) (by omega)]
  rcases h with h | h
  · exact copyIn_of_lt buf _ h
  · exact copyIn_identity_of_ge buf _ (by omega)

theorem loadPortIdentity_congr {buf buf' : Buf} {off : ℕ}
    (h : ∀ i, off ≤ i → i < off + 10 → buf i = buf' i) :
    loadPortIdentity buf off = loadPortIdentity buf' off := by
  have hid : loadIdentity buf off = loadIdentity buf' off :=
    loadIdentity_congr fun i hi hi' => h i hi (by omega)
  have hport : load16 buf (off + 8) = load16 buf' (off + 8) :=
    load16_congr (h _ (by omega) (by omega)) (h _ (by omega) (by omega))
  rw [loadPortIdentity, loadPortIdentity, hid, hport]

/-! ## What the unpackers read -/

/-- Two buffers hold the same first `n` octets. -/
def AgreeBelow (n : ℤ) (buf buf' : Buf) : Prop := ∀ i : ℕ, (i : ℤ) < n → buf i = buf' i

section Unpackers

variable {n : ℤ} {buf buf' : Buf}

theorem AgreeBelow.mono {m : ℤ} (h : AgreeBelow n buf buf') (hm : m ≤ n) : AgreeBelow m buf buf' :=
  fun i hi => h i (by omega)

theorem AgreeBelow.load16 (h : AgreeBelow n buf buf') {k : ℕ} (hk : (k : ℤ) + 2 ≤ n) :
    load16 buf k = load16 buf' k :=
  load16_congr (h _ (by omega)) (h _ (by omega))

theorem AgreeBelow.load32 (h : AgreeBelow n buf buf') {k : ℕ} (hk : (k : ℤ) + 4 ≤ n) :
    load32 buf k = load32 buf' k :=
  load32_congr fun _ _ _ => h _ (by omega)

theorem AgreeBelow.loadIdentity (h : AgreeBelow n buf buf') {k : ℕ} (hk : (k : ℤ) + 8 ≤ n) :
    loadIdentity buf k = loadIdentity buf' k :=
  loadIdentity_congr fun _ _ _ => h _ (by omega)

theorem AgreeBelow.loadPortIdentity (h : AgreeBelow n buf buf') {k : ℕ}
    (hk : (k : ℤ) + 10 ≤ n) : loadPortIdentity buf k = loadPortIdentity buf' k :=
  loadPortIdentity_congr fun _ _ _ => h _ (by omega)

/-- The header is read from the first 34 octets. -/
theorem AgreeBelow.header (h : AgreeBelow n buf buf') (hn : headerLength ≤ n) :
    msgUnpackHeader buf = msgUnpackHeader buf' := by
  have h34 : AgreeBelow 34 buf buf' := h.mono hn
  unfold msgUnpackHeader
  rw [h34 0 (by decide), h34 1 (by decide), h34.load16 (k := 2) (by decide), h34 4 (by decide),
    h34 6 (by decide), h34 7 (by decide), h34.load32 (k := 8) (by decide),
    h34.load32 (k := 12) (by decide), h34.loadPortIdentity (k := 20) (by decide),
    h34.load16 (k := 30) (by decide), h34 32 (by decide), h34 33 (by decide)]

/-- The timestamp is read from the first 44 octets. -/
theorem AgreeBelow.timestamp (h : AgreeBelow n buf buf') (hn : syncLength ≤ n) :
    msgUnpackTimestamp buf = msgUnpackTimestamp buf' := by
  have h44 : AgreeBelow 44 buf buf' := h.mono hn
  unfold msgUnpackTimestamp
  rw [h44.load16 (k := 34) (by decide), h44.load32 (k := 36) (by decide),
    h44.load32 (k := 40) (by decide)]

/-- A response is read from the first 54 octets. -/
theorem AgreeBelow.response (h : AgreeBelow n buf buf') (hn : delayRespLength ≤ n) :
    msgUnpackResponse buf = msgUnpackResponse buf' := by
  have h54 : AgreeBelow 54 buf buf' := h.mono hn
  unfold msgUnpackResponse
  rw [h54.timestamp (by decide), h54.loadPortIdentity (k := 44) (by decide)]

/-- An Announce is read from the first 64 octets. -/
theorem AgreeBelow.announce (h : AgreeBelow n buf buf') (hn : announceLength ≤ n) :
    msgUnpackAnnounce buf = msgUnpackAnnounce buf' := by
  have h64 : AgreeBelow 64 buf buf' := h.mono hn
  unfold msgUnpackAnnounce
  rw [h64.timestamp (by decide), h64.load16 (k := 44) (by decide), h64 47 (by decide),
    h64 48 (by decide), h64 49 (by decide), h64.load16 (k := 50) (by decide), h64 52 (by decide),
    h64.loadIdentity (k := 53) (by decide), h64.load16 (k := 61) (by decide),
    h64 63 (by decide)]

end Unpackers

/-! ## Sequence ids of requests -/

/-- The octets of a packet, by offset. -/
def octetsOf (packet : List UInt8) : Buf := fun i => packet.getD i 0

/-- The header a receiver of the packet unpacks. -/
def headerIn (packet : List UInt8) : MsgHeader := msgUnpackHeader fun i => packet.getD i 0

/-- The sequence id a receiver of the packet unpacks. -/
def sequenceIdOf (packet : List UInt8) : Int16 := (headerIn packet).sequenceId

theorem getD_packetOf (buf : Buf) {length : Int} {i : ℕ} (h : (i : Int) < length) :
    (packetOf buf length).getD i 0 = buf i := by
  rw [packetOf, List.getD_eq_getElem _ _ (by simp; omega)]
  simp

/-- The octets of a packet are those of the buffer. -/
theorem packetOf_agreeBelow (buf : Buf) (length : Int) :
    AgreeBelow length (octetsOf (packetOf buf length)) buf :=
  fun _ hi => getD_packetOf buf hi

theorem sequenceIdOf_packetOf (buf : Buf) {length : Int} (h : 32 ≤ length) :
    sequenceIdOf (packetOf buf length) = (flip16 (load16 buf 30)).toInt16 := by
  show (flip16 (load16 (fun i => (packetOf buf length).getD i 0) 30)).toInt16 = _
  have h30 : (packetOf buf length).getD 30 0 = buf 30 := getD_packetOf buf (by omega)
  have h31 : (packetOf buf length).getD 31 0 = buf 31 := getD_packetOf buf (by omega)
  rw [load16_congr h30 h31]

theorem load16_msgPackChanges (buf : Buf) (type : MessageType) (length : Int)
    (sequenceId : UInt16) (controlField logMessageInterval : UInt8) :
    load16 (msgPackChanges buf type length sequenceId controlField logMessageInterval) 30 =
      flip16 sequenceId := by
  rw [← load16_store16 (store16 (store8 buf 0 (buf 0 &&& 0xF0 ||| type.code)) 2
    (flip16 (UInt16.ofNat length.toNat))) 30 (flip16 sequenceId)]
  apply load16_congr
  · exact (store8_of_ne _ _ (by decide)).trans (store8_of_ne _ _ (by decide))
  · exact (store8_of_ne _ _ (by decide)).trans (store8_of_ne _ _ (by decide))

theorem msgPackTimestamp_of_lt (buf : Buf) (t : Timestamp) {i : ℕ} (h : i < 34) :
    msgPackTimestamp buf t i = buf i := by
  rw [msgPackTimestamp, store32_of_ne _ _ (by omega), store32_of_ne _ _ (by omega),
    store16_of_ne _ _ (by omega) (by omega)]

/-- A timestamp survives the trip. -/
theorem msgUnpackTimestamp_msgPackTimestamp (buf : Buf) (t : Timestamp) :
    msgUnpackTimestamp (msgPackTimestamp buf t) = t := by
  have hmsb : load16 (msgPackTimestamp buf t) 34 = flip16 t.secondsMsb := by
    rw [← load16_store16 buf 34 (flip16 t.secondsMsb)]
    have hkept : ∀ i, 34 ≤ i → i < 36 →
        msgPackTimestamp buf t i = store16 buf 34 (flip16 t.secondsMsb) i := by
      intro i _ _
      rw [msgPackTimestamp, store32_of_ne _ _ (by omega), store32_of_ne _ _ (by omega)]
    exact load16_congr (hkept 34 (by decide) (by decide)) (hkept 35 (by decide) (by decide))
  have hlsb : load32 (msgPackTimestamp buf t) 36 = flip32 t.secondsLsb := by
    rw [← load32_store32 (store16 buf 34 (flip16 t.secondsMsb)) 36 (flip32 t.secondsLsb)]
    exact load32_congr fun i _ _ => store32_of_ne _ _ (by omega)
  have hns : load32 (msgPackTimestamp buf t) 40 = flip32 t.nanosecondsField :=
    load32_store32 _ _ _
  unfold msgUnpackTimestamp
  rw [hmsb, hlsb, hns, flip16_flip16, flip32_flip32, flip32_flip32]

theorem sequenceIdOf_msgPackDelayReq (c : PtpClock) (buf : Buf) (origin : Timestamp) :
    sequenceIdOf (packetOf (msgPackDelayReq c buf origin) delayReqLength) =
      c.sentDelayReqSequenceId := by
  rw [sequenceIdOf_packetOf _ (by decide)]
  have h : load16 (msgPackDelayReq c buf origin) 30 = flip16 c.sentDelayReqSequenceId.toUInt16 := by
    rw [← load16_msgPackChanges buf .delayReq delayReqLength _ 0x01 0x7F]
    apply load16_congr
    · exact (msgPackTimestamp_of_lt _ _ (by decide)).trans (clear_of_ge _ _ (by decide))
    · exact (msgPackTimestamp_of_lt _ _ (by decide)).trans (clear_of_ge _ _ (by decide))
  rw [h, flip16_flip16]
  simp

theorem sequenceIdOf_msgPackPDelayReq (c : PtpClock) (buf : Buf) (origin : Timestamp) :
    sequenceIdOf (packetOf (msgPackPDelayReq c buf origin) pdelayReqLength) =
      c.sentPDelayReqSequenceId := by
  rw [sequenceIdOf_packetOf _ (by decide)]
  have h : load16 (msgPackPDelayReq c buf origin) 30 =
      flip16 c.sentPDelayReqSequenceId.toUInt16 := by
    rw [← load16_msgPackChanges buf .pdelayReq pdelayReqLength _ 0x05 0x7F]
    apply load16_congr
    · exact (clear_of_lt _ _ (by decide)).trans
        ((msgPackTimestamp_of_lt _ _ (by decide)).trans (clear_of_ge _ _ (by decide)))
    · exact (clear_of_lt _ _ (by decide)).trans
        ((msgPackTimestamp_of_lt _ _ (by decide)).trans (clear_of_ge _ _ (by decide)))
  rw [h, flip16_flip16]
  simp

/-! ## The sender of a message

The packers leave the octets of the source port identity as `msgPackHeader` has stored them. -/

theorem msgPackChanges_of_ne (buf : Buf) (type : MessageType) (length : Int)
    (sequenceId : UInt16) (controlField logMessageInterval : UInt8) {i : ℕ}
    (h : 4 ≤ i ∧ i < 30 ∨ 34 ≤ i) :
    msgPackChanges buf type length sequenceId controlField logMessageInterval i = buf i := by
  rw [msgPackChanges, store8_of_ne _ _ (by omega), store8_of_ne _ _ (by omega),
    store16_of_ne _ _ (by omega) (by omega), store16_of_ne _ _ (by omega) (by omega),
    store8_of_ne _ _ (by omega)]

theorem msgPackCorrection_of_ne (buf : Buf) (correctionfield : Int64) {i : ℕ}
    (h : i < 8 ∨ 16 ≤ i) : msgPackCorrection buf correctionfield i = buf i := by
  rw [msgPackCorrection, store32_of_ne _ _ (by omega), store32_of_ne _ _ (by omega)]

/-- The upper half of a correction field. -/
theorem toNat_shiftRight_correction (x : Int64) :
    (x >>> 32).toUInt64.toUInt32.toNat = x.toUInt64.toNat / 2 ^ 32 := by
  have hshift : (x >>> 32).toBitVec = x.toBitVec.sshiftRight 32 := rfl
  have hint := BitVec.toInt_sshiftRight (x := x.toBitVec) (n := 32)
  rw [← hshift, Int.shiftRight_eq_div_pow] at hint
  have hnat : (x >>> 32).toUInt64.toUInt32.toNat = (x >>> 32).toBitVec.toNat % 2 ^ 32 := rfl
  have hnat' : x.toUInt64.toNat = x.toBitVec.toNat := rfl
  rw [hnat, hnat']
  have hlt := x.toBitVec.isLt
  have hlt' := (x >>> 32).toBitVec.isLt
  rw [BitVec.toInt_eq_toNat_cond, BitVec.toInt_eq_toNat_cond] at hint
  split at hint <;> split at hint <;> omega

/-- A correction field survives the trip. -/
theorem correctionfield_msgPackCorrection (buf : Buf) (x : Int64) :
    (msgUnpackHeader (msgPackCorrection buf x)).correctionfield = x := by
  have hhigh : load32 (msgPackCorrection buf x) 8 = flip32 (x >>> 32).toUInt64.toUInt32 := by
    rw [← load32_store32 buf 8 (flip32 (x >>> 32).toUInt64.toUInt32)]
    exact load32_congr fun i _ _ => store32_of_ne _ _ (by omega)
  have hlow : load32 (msgPackCorrection buf x) 12 = flip32 x.toUInt64.toUInt32 :=
    load32_store32 _ _ _
  have hlt := x.toUInt64.toNat_lt
  have hmod : x.toUInt64.toUInt32.toNat = x.toUInt64.toNat % 2 ^ 32 := rfl
  show Int64.ofInt ((flip32 (load32 (msgPackCorrection buf x) 8)).toNat * 2 ^ 32 +
    (flip32 (load32 (msgPackCorrection buf x) 12)).toNat) = x
  rw [hhigh, hlow, flip32_flip32, flip32_flip32, toNat_shiftRight_correction, hmod]
  have hsum : ((x.toUInt64.toNat / 2 ^ 32 : ℕ) : Int) * 2 ^ 32 +
      ((x.toUInt64.toNat % 2 ^ 32 : ℕ) : Int) = x.toBitVec.toNat := by
    have hnat : x.toUInt64.toNat = x.toBitVec.toNat := rfl
    omega
  rw [hsum]
  apply Int64.toBitVec_inj.mp
  rw [Int64.toBitVec_ofInt]
  simp

section Sender

variable (c : PtpClock) (buf : Buf) (header : MsgHeader) (t : Timestamp)

@[simp] theorem sender_msgPackHeader :
    loadPortIdentity (msgPackHeader c buf) 20 = c.portDS.portIdentity := by
  unfold msgPackHeader
  extract_lets buf₁ buf₂ buf₃ buf₄ buf₅ buf₆
  have hkept : loadPortIdentity (store8 buf₆ 33 0x7F) 20 = loadPortIdentity buf₆ 20 :=
    loadPortIdentity_congr fun i _ _ => store8_of_ne _ _ (by omega)
  exact hkept.trans (loadPortIdentity_storePortIdentity buf₅ 20 c.portDS.portIdentity)

@[simp] theorem sender_msgPackAnnounce :
    loadPortIdentity (msgPackAnnounce c buf) 20 = loadPortIdentity buf 20 := by
  apply loadPortIdentity_congr
  intro i _ _
  rw [msgPackAnnounce, store8_of_ne _ _ (by omega), store16_of_ne _ _ (by omega) (by omega),
    copyIn_of_lt _ _ (by omega), store8_of_ne _ _ (by omega),
    store16_of_ne _ _ (by omega) (by omega), store8_of_ne _ _ (by omega),
    store8_of_ne _ _ (by omega), store8_of_ne _ _ (by omega),
    store16_of_ne _ _ (by omega) (by omega), clear_of_lt _ _ (by omega),
    msgPackChanges_of_ne _ _ _ _ _ _ (by omega)]

@[simp] theorem sender_msgPackSync :
    loadPortIdentity (msgPackSync c buf t) 20 = loadPortIdentity buf 20 := by
  apply loadPortIdentity_congr
  intro i _ _
  rw [msgPackSync, msgPackTimestamp_of_lt _ _ (by omega), clear_of_ge _ _ (by omega),
    msgPackChanges_of_ne _ _ _ _ _ _ (by omega)]

@[simp] theorem sender_msgPackDelayReq :
    loadPortIdentity (msgPackDelayReq c buf t) 20 = loadPortIdentity buf 20 := by
  apply loadPortIdentity_congr
  intro i _ _
  rw [msgPackDelayReq, msgPackTimestamp_of_lt _ _ (by omega), clear_of_ge _ _ (by omega),
    msgPackChanges_of_ne _ _ _ _ _ _ (by omega)]

@[simp] theorem sender_msgPackFollowUp :
    loadPortIdentity (msgPackFollowUp c buf t) 20 = loadPortIdentity buf 20 := by
  apply loadPortIdentity_congr
  intro i _ _
  rw [msgPackFollowUp, msgPackTimestamp_of_lt _ _ (by omega),
    msgPackChanges_of_ne _ _ _ _ _ _ (by omega)]

@[simp] theorem sender_msgPackDelayResp :
    loadPortIdentity (msgPackDelayResp c buf header t) 20 = loadPortIdentity buf 20 := by
  apply loadPortIdentity_congr
  intro i _ _
  rw [msgPackDelayResp, storePortIdentity_of_ne _ _ (by omega),
    msgPackTimestamp_of_lt _ _ (by omega), msgPackCorrection_of_ne _ _ (by omega),
    clear_of_ge _ _ (by omega), msgPackChanges_of_ne _ _ _ _ _ _ (by omega)]

@[simp] theorem sender_msgPackPDelayReq :
    loadPortIdentity (msgPackPDelayReq c buf t) 20 = loadPortIdentity buf 20 := by
  apply loadPortIdentity_congr
  intro i _ _
  rw [msgPackPDelayReq, clear_of_lt _ _ (by omega), msgPackTimestamp_of_lt _ _ (by omega),
    clear_of_ge _ _ (by omega), msgPackChanges_of_ne _ _ _ _ _ _ (by omega)]

@[simp] theorem sender_msgPackPDelayResp :
    loadPortIdentity (msgPackPDelayResp buf header t) 20 = loadPortIdentity buf 20 := by
  apply loadPortIdentity_congr
  intro i _ _
  rw [msgPackPDelayResp, storePortIdentity_of_ne _ _ (by omega),
    msgPackTimestamp_of_lt _ _ (by omega), clear_of_ge _ _ (by omega),
    msgPackChanges_of_ne _ _ _ _ _ _ (by omega)]

@[simp] theorem sender_msgPackPDelayRespFollowUp :
    loadPortIdentity (msgPackPDelayRespFollowUp buf header t) 20 = loadPortIdentity buf 20 := by
  apply loadPortIdentity_congr
  intro i _ _
  rw [msgPackPDelayRespFollowUp, storePortIdentity_of_ne _ _ (by omega),
    msgPackTimestamp_of_lt _ _ (by omega), msgPackCorrection_of_ne _ _ (by omega),
    msgPackChanges_of_ne _ _ _ _ _ _ (by omega)]

end Sender

/-! ## The fields of an Announce -/

/-- The Announce a receiver of the packet unpacks. -/
def announceIn (packet : List UInt8) : MsgAnnounce := msgUnpackAnnounce fun i => packet.getD i 0

section Announce

variable (c : PtpClock) (buf : Buf)

/-- The Announce `msgPackAnnounce` leaves in the output buffer. -/
abbrev announcePacket : List UInt8 := packetOf (msgPackAnnounce c buf) announceLength

theorem getD_announcePacket {i : ℕ} (h : i < 64) :
    (announcePacket c buf).getD i 0 = msgPackAnnounce c buf i :=
  getD_packetOf _ (by rw [announceLength]; omega)

theorem announcePacket_sequenceId :
    (headerIn (announcePacket c buf)).sequenceId = c.sentAnnounceSequenceId := by
  show sequenceIdOf (announcePacket c buf) = _
  rw [sequenceIdOf_packetOf _ (by decide)]
  have h : load16 (msgPackAnnounce c buf) 30 = flip16 c.sentAnnounceSequenceId.toUInt16 := by
    rw [← load16_msgPackChanges buf .announce announceLength _ 0x05
      c.portDS.logAnnounceInterval.toUInt8]
    have hkept : ∀ i, 30 ≤ i → i < 32 → msgPackAnnounce c buf i =
        msgPackChanges buf .announce announceLength c.sentAnnounceSequenceId.toUInt16 0x05
          c.portDS.logAnnounceInterval.toUInt8 i := by
      intro i _ _
      rw [msgPackAnnounce, store8_of_ne _ _ (by omega), store16_of_ne _ _ (by omega) (by omega),
        copyIn_of_lt _ _ (by omega), store8_of_ne _ _ (by omega),
        store16_of_ne _ _ (by omega) (by omega), store8_of_ne _ _ (by omega),
        store8_of_ne _ _ (by omega), store8_of_ne _ _ (by omega),
        store16_of_ne _ _ (by omega) (by omega), clear_of_lt _ _ (by omega)]
    exact load16_congr (hkept 30 (by decide) (by decide)) (hkept 31 (by decide) (by decide))
  rw [h, flip16_flip16]
  simp

theorem announcePacket_sender :
    (headerIn (announcePacket c buf)).sourcePortIdentity = loadPortIdentity buf 20 := by
  rw [← sender_msgPackAnnounce c buf]
  exact loadPortIdentity_congr fun i _ _ => getD_announcePacket c buf (by omega)

theorem announcePacket_originTimestamp :
    (announceIn (announcePacket c buf)).originTimestamp = ⟨0, 0, 0⟩ := by
  show msgUnpackTimestamp (octetsOf (announcePacket c buf)) = msgUnpackTimestamp fun _ => 0
  have hclear : ∀ i, 34 ≤ i → i < 44 → octetsOf (announcePacket c buf) i = 0 := by
    intro i _ _
    show (announcePacket c buf).getD i 0 = 0
    rw [getD_announcePacket c buf (by omega), msgPackAnnounce, store8_of_ne _ _ (by omega),
      store16_of_ne _ _ (by omega) (by omega), copyIn_of_lt _ _ (by omega),
      store8_of_ne _ _ (by omega), store16_of_ne _ _ (by omega) (by omega),
      store8_of_ne _ _ (by omega), store8_of_ne _ _ (by omega), store8_of_ne _ _ (by omega),
      store16_of_ne _ _ (by omega) (by omega), clear_of_mem _ (by omega) (by omega)]
  have hmsb : load16 (octetsOf (announcePacket c buf)) 34 = load16 (fun _ => 0) 34 :=
    load16_congr (hclear 34 (by decide) (by decide)) (hclear 35 (by decide) (by decide))
  have hlsb : load32 (octetsOf (announcePacket c buf)) 36 = load32 (fun _ => 0) 36 :=
    load32_congr fun i _ _ => hclear i (by omega) (by omega)
  have hns : load32 (octetsOf (announcePacket c buf)) 40 = load32 (fun _ => 0) 40 :=
    load32_congr fun i _ _ => hclear i (by omega) (by omega)
  unfold msgUnpackTimestamp
  rw [hmsb, hlsb, hns]

theorem announcePacket_currentUtcOffset :
    (announceIn (announcePacket c buf)).currentUtcOffset =
      c.timePropertiesDS.currentUtcOffset := by
  show (flip16 (load16 (octetsOf (announcePacket c buf)) 44)).toInt16 = _
  have h : load16 (octetsOf (announcePacket c buf)) 44 =
      flip16 c.timePropertiesDS.currentUtcOffset.toUInt16 := by
    rw [← load16_store16 _ 44 (flip16 c.timePropertiesDS.currentUtcOffset.toUInt16)]
    have hkept : ∀ i, 44 ≤ i → i < 46 → octetsOf (announcePacket c buf) i = _ := fun i _ _ => by
      show (announcePacket c buf).getD i 0 = _
      rw [getD_announcePacket c buf (by omega), msgPackAnnounce, store8_of_ne _ _ (by omega),
        store16_of_ne _ _ (by omega) (by omega), copyIn_of_lt _ _ (by omega),
        store8_of_ne _ _ (by omega), store16_of_ne _ _ (by omega) (by omega),
        store8_of_ne _ _ (by omega), store8_of_ne _ _ (by omega), store8_of_ne _ _ (by omega)]
    exact load16_congr (hkept 44 (by decide) (by decide)) (hkept 45 (by decide) (by decide))
  rw [h, flip16_flip16]
  simp

theorem announcePacket_timeSource :
    (announceIn (announcePacket c buf)).timeSource = c.timePropertiesDS.timeSource := by
  show (announcePacket c buf).getD 63 0 = _
  rw [getD_announcePacket c buf (by decide), msgPackAnnounce, store8_same]

theorem announcePacket_grandmasterPriority1 :
    (announceIn (announcePacket c buf)).grandmasterPriority1 =
      c.parentDS.grandmasterPriority1 := by
  show (announcePacket c buf).getD 47 0 = _
  rw [getD_announcePacket c buf (by decide), msgPackAnnounce, store8_of_ne _ _ (by decide),
    store16_of_ne _ _ (by decide) (by decide), copyIn_of_lt _ _ (by decide),
    store8_of_ne _ _ (by decide), store16_of_ne _ _ (by decide) (by decide),
    store8_of_ne _ _ (by decide), store8_of_ne _ _ (by decide), store8_same]

theorem announcePacket_grandmasterClockQuality :
    (announceIn (announcePacket c buf)).grandmasterClockQuality =
      c.defaultDS.clockQuality := by
  have hclass : (announcePacket c buf).getD 48 0 = c.defaultDS.clockQuality.clockClass := by
    rw [getD_announcePacket c buf (by decide), msgPackAnnounce, store8_of_ne _ _ (by decide),
      store16_of_ne _ _ (by decide) (by decide), copyIn_of_lt _ _ (by decide),
      store8_of_ne _ _ (by decide), store16_of_ne _ _ (by decide) (by decide),
      store8_of_ne _ _ (by decide), store8_same]
  have haccuracy : (announcePacket c buf).getD 49 0 = c.defaultDS.clockQuality.clockAccuracy := by
    rw [getD_announcePacket c buf (by decide), msgPackAnnounce, store8_of_ne _ _ (by decide),
      store16_of_ne _ _ (by decide) (by decide), copyIn_of_lt _ _ (by decide),
      store8_of_ne _ _ (by decide), store16_of_ne _ _ (by decide) (by decide), store8_same]
  have hvariance : load16 (fun i => (announcePacket c buf).getD i 0) 50 =
      flip16 c.defaultDS.clockQuality.offsetScaledLogVariance.toUInt16 := by
    rw [← load16_store16 _ 50 (flip16 c.defaultDS.clockQuality.offsetScaledLogVariance.toUInt16)]
    have hkept : ∀ i, 50 ≤ i → i < 52 → (announcePacket c buf).getD i 0 = _ := fun i _ _ => by
      rw [getD_announcePacket c buf (by omega), msgPackAnnounce, store8_of_ne _ _ (by omega),
        store16_of_ne _ _ (by omega) (by omega), copyIn_of_lt _ _ (by omega),
        store8_of_ne _ _ (by omega)]
    exact load16_congr (hkept 50 (by decide) (by decide)) (hkept 51 (by decide) (by decide))
  show ClockQuality.mk ((announcePacket c buf).getD 48 0) ((announcePacket c buf).getD 49 0)
    (flip16 (load16 (fun i => (announcePacket c buf).getD i 0) 50)).toInt16 = _
  rw [hclass, haccuracy, hvariance, flip16_flip16]
  simp

theorem announcePacket_grandmasterPriority2 :
    (announceIn (announcePacket c buf)).grandmasterPriority2 =
      c.parentDS.grandmasterPriority2 := by
  show (announcePacket c buf).getD 52 0 = _
  rw [getD_announcePacket c buf (by decide), msgPackAnnounce, store8_of_ne _ _ (by decide),
    store16_of_ne _ _ (by decide) (by decide), copyIn_of_lt _ _ (by decide), store8_same]

theorem announcePacket_grandmasterIdentity :
    (announceIn (announcePacket c buf)).grandmasterIdentity =
      c.parentDS.grandmasterIdentity := by
  show loadIdentity (fun i => (announcePacket c buf).getD i 0) 53 = _
  rw [← loadIdentity_copyIn _ 53 c.parentDS.grandmasterIdentity]
  apply loadIdentity_congr
  intro i _ _
  rw [getD_announcePacket c buf (by omega), msgPackAnnounce, store8_of_ne _ _ (by omega),
    store16_of_ne _ _ (by omega) (by omega)]

theorem announcePacket_stepsRemoved :
    (announceIn (announcePacket c buf)).stepsRemoved = c.currentDS.stepsRemoved := by
  show (flip16 (load16 (fun i => (announcePacket c buf).getD i 0) 61)).toInt16 = _
  have h : load16 (fun i => (announcePacket c buf).getD i 0) 61 =
      flip16 c.currentDS.stepsRemoved.toUInt16 := by
    rw [← load16_store16 _ 61 (flip16 c.currentDS.stepsRemoved.toUInt16)]
    have hkept : ∀ i, 61 ≤ i → i < 63 → (announcePacket c buf).getD i 0 = _ := fun i _ _ => by
      rw [getD_announcePacket c buf (by omega), msgPackAnnounce, store8_of_ne _ _ (by omega)]
    exact load16_congr (hkept 61 (by decide) (by decide)) (hkept 62 (by decide) (by decide))
  rw [h, flip16_flip16]
  simp

/-- **The fields of an Announce** are those of the data sets. -/
theorem announceIn_announcePacket :
    announceIn (announcePacket c buf) =
      { originTimestamp := ⟨0, 0, 0⟩
        currentUtcOffset := c.timePropertiesDS.currentUtcOffset
        grandmasterPriority1 := c.parentDS.grandmasterPriority1
        grandmasterClockQuality := c.defaultDS.clockQuality
        grandmasterPriority2 := c.parentDS.grandmasterPriority2
        grandmasterIdentity := c.parentDS.grandmasterIdentity
        stepsRemoved := c.currentDS.stepsRemoved
        timeSource := c.timePropertiesDS.timeSource } := by
  rw [← announcePacket_originTimestamp c buf, ← announcePacket_currentUtcOffset c buf,
    ← announcePacket_grandmasterPriority1 c buf, ← announcePacket_grandmasterClockQuality c buf,
    ← announcePacket_grandmasterPriority2 c buf, ← announcePacket_grandmasterIdentity c buf,
    ← announcePacket_stepsRemoved c buf, ← announcePacket_timeSource c buf]

end Announce

end Ptpd
