import DiscoPtp.Model.Datatypes

/-!
# Wire format

The packers and unpackers of `msg.c`. The target is little-endian: a 16-bit or 32-bit access reads
or writes the low byte first, and `flip16`, `flip32` (`htons`, `htonl`) swap the bytes.

## Main definitions

* `load16`, `load32`, `store16`, `store32`, `copyIn`: accesses of a buffer
* `msgUnpackHeader`, `msgUnpackAnnounce`, `msgUnpackTimestamp`, `msgUnpackResponse`: unpackers
* `msgPackHeader`, `msgPackAnnounce`, `msgPackSync`, ...: packers
-/

namespace Ptpd

/-! ## Buffer accesses -/

/-- `*(int16_t*)(buf + off)`, as its bits. -/
def load16 (buf : Buf) (off : ℕ) : UInt16 :=
  UInt16.ofNat ((buf off).toNat + 256 * (buf (off + 1)).toNat)

/-- `*(uint32_t*)(buf + off)`. -/
def load32 (buf : Buf) (off : ℕ) : UInt32 :=
  UInt32.ofNat ((buf off).toNat + 256 * (buf (off + 1)).toNat + 65536 * (buf (off + 2)).toNat +
    16777216 * (buf (off + 3)).toNat)

/-- `flip16`. -/
def flip16 (x : UInt16) : UInt16 := UInt16.ofNat (x.toNat % 256 * 256 + x.toNat / 256)

/-- `flip32`. -/
def flip32 (x : UInt32) : UInt32 :=
  UInt32.ofNat (x.toNat % 256 * 16777216 + x.toNat / 256 % 256 * 65536 +
    x.toNat / 65536 % 256 * 256 + x.toNat / 16777216)

/-- One byte store. -/
def store8 (buf : Buf) (off : ℕ) (x : UInt8) : Buf := fun i => if i = off then x else buf i

/-- `*(int16_t*)(buf + off) = x`. -/
def store16 (buf : Buf) (off : ℕ) (x : UInt16) : Buf :=
  store8 (store8 buf off (UInt8.ofNat (x.toNat % 256))) (off + 1) (UInt8.ofNat (x.toNat / 256))

/-- `*(uint32_t*)(buf + off) = x`. -/
def store32 (buf : Buf) (off : ℕ) (x : UInt32) : Buf :=
  store16 (store16 buf off (UInt16.ofNat (x.toNat % 65536))) (off + 2)
    (UInt16.ofNat (x.toNat / 65536))

/-- `memcpy(buf + off, bytes, bytes.length)`. -/
def copyIn (buf : Buf) (off : ℕ) (bytes : List UInt8) : Buf := fun i =>
  if off ≤ i then bytes.getD (i - off) (buf i) else buf i

/-- `memset(buf + off, 0, n)`. -/
def clear (buf : Buf) (off n : ℕ) : Buf := copyIn buf off (List.replicate n 0)

/-- The `CLOCK_IDENTITY_LENGTH` octets at `off`. -/
def loadIdentity (buf : Buf) (off : ℕ) : ClockIdentity := Vector.ofFn fun i => buf (off + i)

/-- A port identity at `off`. -/
def loadPortIdentity (buf : Buf) (off : ℕ) : PortIdentity :=
  { clockIdentity := loadIdentity buf off
    portNumber := (flip16 (load16 buf (off + 8))).toInt16 }

/-- A port identity stored at `off`. -/
def storePortIdentity (buf : Buf) (off : ℕ) (p : PortIdentity) : Buf :=
  store16 (copyIn buf off p.clockIdentity.toList) (off + 8) (flip16 p.portNumber.toUInt16)

/-! ## Unpackers -/

/-- `msgUnpackHeader`. -/
def msgUnpackHeader (buf : Buf) : MsgHeader :=
  { transportSpecific := buf 0 >>> 4
    messageType := buf 0 &&& 0x0F
    versionPTP := buf 1 &&& 0x0F
    messageLength := (flip16 (load16 buf 2)).toInt16
    domainNumber := buf 4
    flagField0 := buf 6
    flagField1 := buf 7
    correctionfield :=
      Int64.ofInt ((flip32 (load32 buf 8)).toNat * 2 ^ 32 + (flip32 (load32 buf 12)).toNat)
    sourcePortIdentity := loadPortIdentity buf 20
    sequenceId := (flip16 (load16 buf 30)).toInt16
    controlField := buf 32
    logMessageInterval := (buf 33).toInt8 }

/-- The timestamp at offset 34: `msgUnpackSync`, `msgUnpackFollowUp`, `msgUnpackDelayReq` and
`msgUnpackPDelayReq`, and the first part of the other unpackers. -/
def msgUnpackTimestamp (buf : Buf) : Timestamp :=
  { secondsMsb := flip16 (load16 buf 34)
    secondsLsb := flip32 (load32 buf 36)
    nanosecondsField := flip32 (load32 buf 40) }

def msgUnpackSync : Buf → Timestamp := msgUnpackTimestamp
def msgUnpackFollowUp : Buf → Timestamp := msgUnpackTimestamp
def msgUnpackDelayReq : Buf → Timestamp := msgUnpackTimestamp
def msgUnpackPDelayReq : Buf → Timestamp := msgUnpackTimestamp

/-- `msgUnpackAnnounce`. -/
def msgUnpackAnnounce (buf : Buf) : MsgAnnounce :=
  { originTimestamp := msgUnpackTimestamp buf
    currentUtcOffset := (flip16 (load16 buf 44)).toInt16
    grandmasterPriority1 := buf 47
    grandmasterClockQuality :=
      { clockClass := buf 48
        clockAccuracy := buf 49
        offsetScaledLogVariance := (flip16 (load16 buf 50)).toInt16 }
    grandmasterPriority2 := buf 52
    grandmasterIdentity := loadIdentity buf 53
    stepsRemoved := (flip16 (load16 buf 61)).toInt16
    timeSource := buf 63 }

/-- A timestamp and the requesting port identity at offset 44. -/
def msgUnpackResponse (buf : Buf) : MsgResponse :=
  { timestamp := msgUnpackTimestamp buf
    requestingPortIdentity := loadPortIdentity buf 44 }

def msgUnpackDelayResp : Buf → MsgResponse := msgUnpackResponse
def msgUnpackPDelayResp : Buf → MsgResponse := msgUnpackResponse
def msgUnpackPDelayRespFollowUp : Buf → MsgResponse := msgUnpackResponse

/-! ## Packers -/

/-- `msgPackHeader`. -/
def msgPackHeader (ptpClock : PtpClock) (buf : Buf) : Buf :=
  let buf := store8 buf 0 (if ptpClock.defaultDS.transportSpecific then 0x10 else 0)
  let buf := store8 buf 1 ptpClock.portDS.versionNumber
  let buf := store8 buf 4 ptpClock.defaultDS.domainNumber
  let buf := if ptpClock.defaultDS.twoStepFlag then store8 buf 6 flag0TwoStep else buf
  let buf := clear buf 8 8
  let buf := storePortIdentity buf 20 ptpClock.portDS.portIdentity
  store8 buf 33 0x7F

/-- The header changes every packer starts with: the type nibble, the length, the sequence id, the
control field and the log interval. -/
def msgPackChanges (buf : Buf) (type : MessageType) (length : Int) (sequenceId : UInt16)
    (controlField logMessageInterval : UInt8) : Buf :=
  let buf := store8 buf 0 (buf 0 &&& 0xF0 ||| type.code)
  let buf := store16 buf 2 (flip16 (UInt16.ofNat length.toNat))
  let buf := store16 buf 30 (flip16 sequenceId)
  let buf := store8 buf 32 controlField
  store8 buf 33 logMessageInterval

/-- A timestamp stored at offset 34. -/
def msgPackTimestamp (buf : Buf) (t : Timestamp) : Buf :=
  let buf := store16 buf 34 (flip16 t.secondsMsb)
  let buf := store32 buf 36 (flip32 t.secondsLsb)
  store32 buf 40 (flip32 t.nanosecondsField)

/-- The correction field stored at offset 8. -/
def msgPackCorrection (buf : Buf) (correctionfield : Int64) : Buf :=
  let buf := store32 buf 8 (flip32 (correctionfield >>> 32).toUInt64.toUInt32)
  store32 buf 12 (flip32 correctionfield.toUInt64.toUInt32)

/-- `msgPackAnnounce`. -/
def msgPackAnnounce (ptpClock : PtpClock) (buf : Buf) : Buf :=
  let buf := msgPackChanges buf .announce announceLength ptpClock.sentAnnounceSequenceId.toUInt16
    0x05 ptpClock.portDS.logAnnounceInterval.toUInt8
  let buf := clear buf 34 10
  let buf := store16 buf 44 (flip16 ptpClock.timePropertiesDS.currentUtcOffset.toUInt16)
  let buf := store8 buf 47 ptpClock.parentDS.grandmasterPriority1
  let buf := store8 buf 48 ptpClock.defaultDS.clockQuality.clockClass
  let buf := store8 buf 49 ptpClock.defaultDS.clockQuality.clockAccuracy
  let buf := store16 buf 50
    (flip16 ptpClock.defaultDS.clockQuality.offsetScaledLogVariance.toUInt16)
  let buf := store8 buf 52 ptpClock.parentDS.grandmasterPriority2
  let buf := copyIn buf 53 ptpClock.parentDS.grandmasterIdentity.toList
  let buf := store16 buf 61 (flip16 ptpClock.currentDS.stepsRemoved.toUInt16)
  store8 buf 63 ptpClock.timePropertiesDS.timeSource

/-- `msgPackSync`. -/
def msgPackSync (ptpClock : PtpClock) (buf : Buf) (originTimestamp : Timestamp) : Buf :=
  let buf := msgPackChanges buf .sync syncLength ptpClock.sentSyncSequenceId.toUInt16 0x00
    ptpClock.portDS.logSyncInterval.toUInt8
  let buf := clear buf 8 8
  msgPackTimestamp buf originTimestamp

/-- `msgPackDelayReq`. -/
def msgPackDelayReq (ptpClock : PtpClock) (buf : Buf) (originTimestamp : Timestamp) : Buf :=
  let buf := msgPackChanges buf .delayReq delayReqLength ptpClock.sentDelayReqSequenceId.toUInt16
    0x01 0x7F
  let buf := clear buf 8 8
  msgPackTimestamp buf originTimestamp

/-- `msgPackFollowUp`: `sentSyncSequenceId` has already been incremented by `issueSync`. -/
def msgPackFollowUp (ptpClock : PtpClock) (buf : Buf) (preciseOriginTimestamp : Timestamp) : Buf :=
  let buf := msgPackChanges buf .followUp followUpLength
    (ptpClock.sentSyncSequenceId - 1).toUInt16 0x02 ptpClock.portDS.logSyncInterval.toUInt8
  msgPackTimestamp buf preciseOriginTimestamp

/-- `msgPackDelayResp`. -/
def msgPackDelayResp (ptpClock : PtpClock) (buf : Buf) (header : MsgHeader)
    (receiveTimestamp : Timestamp) : Buf :=
  let buf := msgPackChanges buf .delayResp delayRespLength header.sequenceId.toUInt16 0x03
    ptpClock.portDS.logMinDelayReqInterval.toUInt8
  let buf := msgPackCorrection (clear buf 8 8) header.correctionfield
  let buf := msgPackTimestamp buf receiveTimestamp
  storePortIdentity buf 44 header.sourcePortIdentity

/-- `msgPackPDelayReq`. -/
def msgPackPDelayReq (ptpClock : PtpClock) (buf : Buf) (originTimestamp : Timestamp) : Buf :=
  let buf := msgPackChanges buf .pdelayReq pdelayReqLength
    ptpClock.sentPDelayReqSequenceId.toUInt16 0x05 0x7F
  let buf := clear buf 8 8
  let buf := msgPackTimestamp buf originTimestamp
  clear buf 44 10

/-- `msgPackPDelayResp`. -/
def msgPackPDelayResp (buf : Buf) (header : MsgHeader) (requestReceiptTimestamp : Timestamp) :
    Buf :=
  let buf := msgPackChanges buf .pdelayResp pdelayRespLength header.sequenceId.toUInt16 0x05 0x7F
  let buf := msgPackTimestamp (clear buf 8 8) requestReceiptTimestamp
  storePortIdentity buf 44 header.sourcePortIdentity

/-- `msgPackPDelayRespFollowUp`. -/
def msgPackPDelayRespFollowUp (buf : Buf) (header : MsgHeader)
    (responseOriginTimestamp : Timestamp) : Buf :=
  let buf := msgPackChanges buf .pdelayRespFollowUp pdelayRespFollowUpLength
    header.sequenceId.toUInt16 0x05 0x7F
  let buf := msgPackCorrection buf header.correctionfield
  let buf := msgPackTimestamp buf responseOriginTimestamp
  storePortIdentity buf 44 header.sourcePortIdentity

end Ptpd
