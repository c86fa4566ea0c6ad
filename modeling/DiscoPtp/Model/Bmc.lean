import DiscoPtp.Model.Arith

/-!
# Best master clock algorithm

The functions of `bmc.c`: initialisation of the data sets, the foreign master store, the data set
updates `m1` and `s1`, the data set comparison and the state decision. They change the `PtpClock`
only.

## Main definitions

* `initData`, `m1`, `s1`: data set initialisation and updates
* `addForeign`: the foreign master store
* `bmcDataSetComparison`, `bmcStateDecision`, `bmc`: the algorithm
-/

namespace Ptpd

/-- `memcmp` of two clock identities: the difference of the first differing octets, as unsigned
chars. It fits in the `short` the comparison keeps it in. -/
def memcmp (a b : ClockIdentity) : Int :=
  ((a.toList.zip b.toList).find? fun p => p.1 ≠ p.2).elim 0 fun p =>
    (p.1.toNat : Int) - p.2.toNat

/-- `isSamePortIdentity`. -/
def isSamePortIdentity (a b : PortIdentity) : Bool :=
  memcmp a.clockIdentity b.clockIdentity == 0 && a.portNumber == b.portNumber

/-- `EUI48toEUI64`. -/
def EUI48toEUI64 (eui48 : Vector UInt8 6) : ClockIdentity :=
  #v[eui48[0], eui48[1], eui48[2], 0xff, 0xfe, eui48[3], eui48[4], eui48[5]]

/-- `initData`. The index `i` of the foreign master data set and `best` are left as they were. -/
def initData (c : PtpClock) : PtpClock :=
  let clockIdentity := EUI48toEUI64 c.portUuidField
  { c with
    defaultDS :=
      { twoStepFlag := defaultTwoStepFlag
        clockIdentity
        numberPorts := numberPorts
        clockQuality := c.rtOpts.clockQuality
        priority1 := c.rtOpts.priority1
        priority2 := c.rtOpts.priority2
        domainNumber := c.rtOpts.domainNumber
        slaveOnly := c.rtOpts.slaveOnly
        transportSpecific := false }
    portDS :=
      { c.portDS with
        portIdentity := { clockIdentity, portNumber := numberPorts }
        logMinDelayReqInterval := defaultDelayReqInterval
        peerMeanPathDelay := ⟨0, 0⟩
        logAnnounceInterval := c.rtOpts.announceInterval
        announceReceiptTimeout := defaultAnnounceReceiptTimeout
        logSyncInterval := c.rtOpts.syncInterval
        delayMechanism := c.rtOpts.delayMechanism
        logMinPdelayReqInterval := defaultPdelayReqInterval
        versionNumber := versionPtp }
    foreignMasterDS := { c.foreignMasterDS with count := 0, capacity := c.rtOpts.maxForeignRecords }
    inboundLatency := c.rtOpts.inboundLatency
    outboundLatency := c.rtOpts.outboundLatency
    servo := c.rtOpts.servo }

/-! ## The foreign master store -/

/-- The search loop of `addForeign`, `n` rounds from index `j` on. -/
def findForeign (ds : ForeignMasterDS) (source : PortIdentity) : ℕ → ℕ → Option ℕ
  | 0, _ => none
  | n + 1, j =>
    if isSamePortIdentity source (ds.records j).foreignMasterPortIdentity then some j
    else findForeign ds source n ((j + 1) % ds.count)

/-- The store with record `j` replaced. -/
def ForeignMasterDS.set (ds : ForeignMasterDS) (j : ℕ) (r : ForeignMasterRecord) :
    ForeignMasterDS :=
  { ds with records := Function.update ds.records j r }

/-- `addForeign`, on the data set. -/
def ForeignMasterDS.add (ds : ForeignMasterDS) (header : MsgHeader) (announce : MsgAnnounce) :
    ForeignMasterDS :=
  match findForeign ds header.sourcePortIdentity ds.count ds.best with
  -- a known master: its record is refreshed
  | some j =>
    let r := ds.records j
    ds.set j { r with
      foreignMasterAnnounceMessages := r.foreignMasterAnnounceMessages + 1, header, announce }
  | none =>
    -- a new master: when the store is full, the records are overwritten in turn
    let ds := if ds.count < ds.capacity then { ds with count := ds.count + 1 } else ds
    let ds := ds.set ds.i
      { foreignMasterPortIdentity := header.sourcePortIdentity
        foreignMasterAnnounceMessages := 0, header, announce }
    { ds with i := (ds.i + 1) % ds.capacity }

/-- `addForeign`. -/
def addForeign (c : PtpClock) (header : MsgHeader) (announce : MsgAnnounce) : PtpClock :=
  { c with foreignMasterDS := c.foreignMasterDS.add header announce }

/-! ## Data set updates -/

/-- `m1`: the local clock is becoming master (Table 13). -/
def m1 (c : PtpClock) : PtpClock :=
  { c with
    currentDS := { stepsRemoved := 0, offsetFromMaster := ⟨0, 0⟩, meanPathDelay := ⟨0, 0⟩ }
    parentDS :=
      { c.parentDS with
        parentPortIdentity := { clockIdentity := c.defaultDS.clockIdentity, portNumber := 0 }
        grandmasterIdentity := c.defaultDS.clockIdentity
        grandmasterClockQuality := c.defaultDS.clockQuality
        grandmasterPriority1 := c.defaultDS.priority1
        grandmasterPriority2 := c.defaultDS.priority2 }
    timePropertiesDS :=
      { currentUtcOffset := c.rtOpts.currentUtcOffset
        currentUtcOffsetValid := defaultUtcValid
        leap59 := false
        leap61 := false
        timeTraceable := defaultTimeTraceable
        frequencyTraceable := defaultFrequencyTraceable
        ptpTimescale := false
        timeSource := defaultTimeSource } }

/-- `s1`: the local clock is synchronized to the sender of `announce` (Table 16). -/
def s1 (c : PtpClock) (header : MsgHeader) (announce : MsgAnnounce) : PtpClock :=
  let isFromCurrentParent :=
    isSamePortIdentity c.parentDS.parentPortIdentity header.sourcePortIdentity
  { c with
    currentDS := { c.currentDS with stepsRemoved := announce.stepsRemoved + 1 }
    events := if isFromCurrentParent then c.events else { c.events with masterClockChanged := true }
    parentDS :=
      { c.parentDS with
        parentPortIdentity := header.sourcePortIdentity
        grandmasterIdentity := announce.grandmasterIdentity
        grandmasterClockQuality := announce.grandmasterClockQuality
        grandmasterPriority1 := announce.grandmasterPriority1
        grandmasterPriority2 := announce.grandmasterPriority2 }
    timePropertiesDS :=
      { currentUtcOffset := announce.currentUtcOffset
        currentUtcOffsetValid := getFlag header.flagField1 flag1UtcOffsetValid
        leap59 := getFlag header.flagField1 flag1Leap59
        leap61 := getFlag header.flagField1 flag1Leap61
        timeTraceable := getFlag header.flagField1 flag1TimeTraceable
        frequencyTraceable := getFlag header.flagField1 flag1FrequencyTraceable
        ptpTimescale := getFlag header.flagField1 flag1PtpTimescale
        timeSource := announce.timeSource } }

/-- `copyD0`: the local data set as a header and an announce message (9.3.4, Table 12). -/
def copyD0 (c : PtpClock) : PtpClock :=
  { c with
    msgTmpAnnounce :=
      { c.msgTmpAnnounce with
        grandmasterPriority1 := c.defaultDS.priority1
        grandmasterIdentity := c.defaultDS.clockIdentity
        grandmasterClockQuality := c.defaultDS.clockQuality
        grandmasterPriority2 := c.defaultDS.priority2
        stepsRemoved := 0 }
    msgTmpHeader :=
      { c.msgTmpHeader with
        sourcePortIdentity :=
          { c.msgTmpHeader.sourcePortIdentity with clockIdentity := c.defaultDS.clockIdentity } } }

/-! ## The comparison and the decision -/

/-- Part 1 of the data set comparison (Figure 27): the grandmaster attributes in order, the
identities last. `1` is `A_better_then_B`, `-1` is `B_better_then_A`. -/
def compareGrandmasters (a b : MsgAnnounce) : Int :=
  let qa := a.grandmasterClockQuality
  let qb := b.grandmasterClockQuality
  -- smaller values are better throughout
  if a.grandmasterPriority1 > b.grandmasterPriority1 then -1
  else if b.grandmasterPriority1 > a.grandmasterPriority1 then 1
  else if qa.clockClass > qb.clockClass then -1
  else if qb.clockClass > qa.clockClass then 1
  else if qa.clockAccuracy > qb.clockAccuracy then -1
  else if qb.clockAccuracy > qa.clockAccuracy then 1
  else if qa.offsetScaledLogVariance > qb.offsetScaledLogVariance then -1
  else if qb.offsetScaledLogVariance > qa.offsetScaledLogVariance then 1
  else if a.grandmasterPriority2 > b.grandmasterPriority2 then -1
  else if b.grandmasterPriority2 > a.grandmasterPriority2 then 1
  else if memcmp a.grandmasterIdentity b.grandmasterIdentity > 0 then -1
  else 1

/-- Part 2 of the data set comparison (Figure 28): the steps removed, then the topology seen from
the receiver `self`. -/
def compareTopology (headerA : MsgHeader) (a : MsgAnnounce) (headerB : MsgHeader)
    (b : MsgAnnounce) (self : ClockIdentity) : Int :=
  let idA := headerA.sourcePortIdentity.clockIdentity
  let idB := headerB.sourcePortIdentity.clockIdentity
  -- two steps or more decide alone; one step is weighed against the place of the receiver
  if a.stepsRemoved.toInt > b.stepsRemoved.toInt + 1 then -1
  else if b.stepsRemoved.toInt > a.stepsRemoved.toInt + 1 then 1
  else if a.stepsRemoved > b.stepsRemoved then
    -- both signs give the same result in the source
    if memcmp idA self > 0 then -1 else if memcmp idA self < 0 then -1 else 0
  else if a.stepsRemoved < b.stepsRemoved then
    if memcmp idB self > 0 then 1 else if memcmp idB self < 0 then 1 else 0
  else if memcmp idA idB > 0 then -1
  else if memcmp idA idB < 0 then 1
  else 0

/-- `bmcDataSetComparison`. -/
def bmcDataSetComparison (headerA : MsgHeader) (a : MsgAnnounce) (headerB : MsgHeader)
    (b : MsgAnnounce) (c : PtpClock) : Int :=
  if memcmp a.grandmasterIdentity b.grandmasterIdentity ≠ 0 then compareGrandmasters a b
  else compareTopology headerA a headerB b c.portDS.portIdentity.clockIdentity

/-- `bmcStateDecision` (9.3.3, Figure 26): the recommended state. -/
def bmcStateDecision (header : MsgHeader) (announce : MsgAnnounce) (c : PtpClock) :
    PtpState × PtpClock :=
  if c.foreignMasterDS.count = 0 ∧ c.portDS.portState = .listening then (.listening, c)
  else
    let c := copyD0 c
    let comp := bmcDataSetComparison c.msgTmpHeader c.msgTmpAnnounce header announce c
    -- a clock of class below 128 never follows another one
    if c.defaultDS.clockQuality.clockClass < 128 then
      if comp = 1 then (.master, m1 c) else (.passive, c)
    else
      if comp = 1 then (.master, m1 c) else (.slave, s1 c header announce)

/-- The comparison of two stored records. -/
def compareRecords (c : PtpClock) (i j : ℕ) : Int :=
  bmcDataSetComparison (c.foreignMasterDS.records i).header (c.foreignMasterDS.records i).announce
    (c.foreignMasterDS.records j).header (c.foreignMasterDS.records j).announce c

/-- The selection loop of `bmc`: from `best = 0` on, record `i` replaces `best` when its comparison
with it is negative. -/
def selectBest (c : PtpClock) : ℕ :=
  (List.range' 1 (c.foreignMasterDS.count - 1)).foldl
    (fun best i => if compareRecords c i best < 0 then i else best) 0

/-- `bmc`. -/
def bmc (c : PtpClock) : PtpState × PtpClock :=
  let best := selectBest c
  let c := { c with foreignMasterDS := { c.foreignMasterDS with best } }
  let r := c.foreignMasterDS.records best
  bmcStateDecision r.header r.announce c

end Ptpd
