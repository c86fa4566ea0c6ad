import DiscoPtp.Library.Ranking
import DiscoPtp.Model.Run
import DiscoPtp.Properties.Identity
import DiscoPtp.Properties.Wire

/-!
# The data set comparison

The comparison of IEEE 1588-2008, Figures 27 and 28, on data sets of plain numbers, and
`bmcDataSetComparison` as that comparison. The code decodes two of the unsigned 16-bit fields of an
Announce as signed numbers, so that on the wire it agrees only where their upper halves do.

## Main definitions

* `DataSet`, `dataSetComparison`: the comparison on numbers
* `DataSet.decoded`, `DataSet.onWire`: the numbers the code compares, and those on the wire
* `Consistent`: sets of data sets from other clocks, one description for each grandmaster

## Main results

* `bmcDataSetComparison_eq`: the code is the comparison of the decoded numbers
* `dataSetComparison_swap`, `compares_rank`: the comparison is a strict weak order
* `comparison_weakOrder`: so is the code's
* `comparison_onWire_iff`: when the code compares the numbers on the wire
-/

namespace Ptpd

open Ranking

/-! ## The comparison on numbers -/

/-- What the comparison looks at in an Announce message. -/
structure DataSet where
  priority1 : ℤ
  clockClass : ℤ
  clockAccuracy : ℤ
  offsetScaledLogVariance : ℤ
  priority2 : ℤ
  grandmasterIdentity : List ℕ
  stepsRemoved : ℤ
  /-- The clock identity of the sender. -/
  sender : List ℕ

/-- The attributes of the grandmaster, in the order of Figure 27. -/
def DataSet.attributes (d : DataSet) : ℤ ×ₗ ℤ ×ₗ ℤ ×ₗ ℤ ×ₗ ℤ ×ₗ List ℕ :=
  toLex (d.priority1, toLex (d.clockClass, toLex (d.clockAccuracy,
    toLex (d.offsetScaledLogVariance, toLex (d.priority2, d.grandmasterIdentity)))))

/-- Figure 27, for different grandmasters: the smaller attributes are better. -/
def figure27 (a b : DataSet) : ℤ := if a.attributes < b.attributes then 1 else -1

/-- Figure 28, for one grandmaster: the steps removed, then the topology around the `receiver`. -/
def figure28 (receiver : List ℕ) (a b : DataSet) : ℤ :=
  if b.stepsRemoved + 1 < a.stepsRemoved then -1
  else if a.stepsRemoved + 1 < b.stepsRemoved then 1
  else if b.stepsRemoved < a.stepsRemoved then if a.sender = receiver then 0 else -1
  else if a.stepsRemoved < b.stepsRemoved then if b.sender = receiver then 0 else 1
  else if b.sender < a.sender then -1
  else if a.sender < b.sender then 1
  else 0

/-- The data set comparison: `1` where `a` is better, `-1` where `b` is. -/
def dataSetComparison (receiver : List ℕ) (a b : DataSet) : ℤ :=
  if a.grandmasterIdentity = b.grandmasterIdentity then figure28 receiver a b else figure27 a b

/-- One attribute decides, or else the following ones. -/
theorem prefer_smaller {α β : Type*} [LinearOrder α] [LinearOrder β] (x y : α) (p q : β)
    [Decidable (y < x)] [Decidable (x < y)] [Decidable (p < q)]
    [Decidable (toLex (x, p) < toLex (y, q))] :
    (if y < x then -1 else if x < y then 1 else if p < q then 1 else -1 : ℤ) =
      if toLex (x, p) < toLex (y, q) then 1 else -1 := by
  simp only [Prod.Lex.toLex_lt_toLex]
  rcases lt_trichotomy x y with h | rfl | h
  · simp [h, h.not_gt]
  · simp
  · simp [h, h.not_gt, h.ne']

theorem DataSet.grandmasterIdentity_eq {a b : DataSet} (h : a.attributes = b.attributes) :
    a.grandmasterIdentity = b.grandmasterIdentity := by
  unfold DataSet.attributes at h
  simp only [toLex_inj, Prod.mk.injEq] at h
  exact h.2.2.2.2.2

theorem dataSetComparison_swap (receiver : List ℕ) (a b : DataSet) :
    dataSetComparison receiver b a = -dataSetComparison receiver a b := by
  unfold dataSetComparison
  -- one grandmaster: the steps and senders decide; two: the attributes
  by_cases hid : a.grandmasterIdentity = b.grandmasterIdentity
  · rw [if_pos hid, if_pos hid.symm]
    unfold figure28
    rcases lt_trichotomy a.stepsRemoved b.stepsRemoved with h | h | h
    · simp only [h, h.not_gt, if_true, if_false, show ¬b.stepsRemoved + 1 < a.stepsRemoved by omega]
      split_ifs <;> rfl
    · simp only [h, lt_irrefl, if_false, show ¬b.stepsRemoved + 1 < b.stepsRemoved by omega]
      rcases lt_trichotomy a.sender b.sender with hs | hs | hs
      · simp [hs, hs.not_gt]
      · simp [hs]
      · simp [hs, hs.not_gt]
    · simp only [h, h.not_gt, if_true, if_false, show ¬a.stepsRemoved + 1 < b.stepsRemoved by omega]
      split_ifs <;> rfl
  · rw [if_neg hid, if_neg (Ne.symm hid)]
    unfold figure27
    have hne : a.attributes ≠ b.attributes := mt DataSet.grandmasterIdentity_eq hid
    rcases lt_or_gt_of_ne hne with h | h
    · rw [if_pos h, if_neg h.not_gt]
    · rw [if_neg h.not_gt, if_pos h]
      rfl

/-! ## The comparison as an order -/

/-- The rank of a data set: the grandmaster, the steps removed, the sender. -/
def DataSet.rank (d : DataSet) :
    (ℤ ×ₗ ℤ ×ₗ ℤ ×ₗ ℤ ×ₗ ℤ ×ₗ List ℕ) ×ₗ ℤ ×ₗ List ℕ :=
  toLex (d.attributes, toLex (d.stepsRemoved, d.sender))

/-- Away from the receiver, Figure 28 looks at the steps removed and then at the sender. -/
theorem figure28_eq {receiver : List ℕ} {a b : DataSet} (ha : a.sender ≠ receiver)
    (hb : b.sender ≠ receiver) :
    figure28 receiver a b =
      if b.stepsRemoved < a.stepsRemoved then -1 else if a.stepsRemoved < b.stepsRemoved then 1
      else if b.sender < a.sender then -1 else if a.sender < b.sender then 1 else 0 := by
  unfold figure28
  rw [if_neg ha, if_neg hb]
  split_ifs <;> first | rfl | omega

/-- Between other clocks that agree on each grandmaster the comparison goes by rank. -/
theorem compares_rank {receiver : List ℕ} {S : Set DataSet}
    (hone : ∀ a ∈ S, ∀ b ∈ S, a.grandmasterIdentity = b.grandmasterIdentity →
      a.attributes = b.attributes)
    (hother : ∀ a ∈ S, a.sender ≠ receiver) :
    Compares (dataSetComparison receiver) DataSet.rank S := by
  intro a ha b hb
  unfold dataSetComparison DataSet.rank
  simp only [Prod.Lex.toLex_lt_toLex]
  by_cases hid : a.grandmasterIdentity = b.grandmasterIdentity
  · -- one grandmaster is announced with the same attributes by all
    have hattr := hone a ha b hb hid
    rw [if_pos hid, figure28_eq (hother a ha) (hother b hb), hattr]
    rcases lt_trichotomy a.stepsRemoved b.stepsRemoved with h | h | h
    · simp [h, h.not_gt, h.ne']
    · rcases lt_trichotomy a.sender b.sender with hs | hs | hs
      · simp [h, hs, hs.not_gt]
      · simp [h, hs]
      · simp [h, hs, hs.not_gt]
    · simp [h, h.not_gt, h.ne']
  · -- the identity is the last of the attributes, so these differ
    have hne : a.attributes ≠ b.attributes := mt DataSet.grandmasterIdentity_eq hid
    rw [if_neg hid]
    unfold figure27
    rcases lt_or_gt_of_ne hne with h | h
    · simp [h, h.not_gt, h.ne']
    · simp [h, h.not_gt, h.ne']

/-! ## The comparison of the code -/

/-- The numbers the code compares. -/
def DataSet.decoded (header : MsgHeader) (announce : MsgAnnounce) : DataSet :=
  { priority1 := announce.grandmasterPriority1.toNat
    clockClass := announce.grandmasterClockQuality.clockClass.toNat
    clockAccuracy := announce.grandmasterClockQuality.clockAccuracy.toNat
    offsetScaledLogVariance := announce.grandmasterClockQuality.offsetScaledLogVariance.toInt
    priority2 := announce.grandmasterPriority2.toNat
    grandmasterIdentity := octets announce.grandmasterIdentity
    stepsRemoved := announce.stepsRemoved.toInt
    sender := octets header.sourcePortIdentity.clockIdentity }

theorem uint8_lt_iff (x y : UInt8) : x < y ↔ (x.toNat : ℤ) < y.toNat := by
  rw [UInt8.lt_iff_toNat_lt]
  omega

theorem compareGrandmasters_eq {a b : MsgAnnounce}
    (h : a.grandmasterIdentity ≠ b.grandmasterIdentity) (headerA headerB : MsgHeader) :
    compareGrandmasters a b =
      figure27 (DataSet.decoded headerA a) (DataSet.decoded headerB b) := by
  -- the last test has no branch for a tie, which cannot occur
  have hlast : (if memcmp a.grandmasterIdentity b.grandmasterIdentity > 0 then -1 else 1 : ℤ) =
      if octets a.grandmasterIdentity < octets b.grandmasterIdentity then 1 else -1 := by
    simp only [gt_iff_lt, memcmp_pos_iff]
    rcases lt_or_gt_of_ne (octets_injective.ne h) with hlt | hlt
    · rw [if_neg hlt.not_gt, if_pos hlt]
    · rw [if_pos hlt, if_neg hlt.not_gt]
  unfold compareGrandmasters figure27 DataSet.attributes DataSet.decoded
  dsimp only
  rw [hlast]
  simp only [gt_iff_lt, uint8_lt_iff, Int16.lt_iff_toInt_lt, prefer_smaller]

theorem compareTopology_eq (headerA : MsgHeader) (a : MsgAnnounce) (headerB : MsgHeader)
    (b : MsgAnnounce) (self : ClockIdentity) :
    compareTopology headerA a headerB b self =
      figure28 (octets self) (DataSet.decoded headerA a) (DataSet.decoded headerB b) := by
  -- a comparison with the receiver prefers the same side whether it is positive or negative
  have hself : ∀ (id : ClockIdentity) (n : ℤ),
      (if memcmp id self > 0 then n else if memcmp id self < 0 then n else 0) =
        if octets id = octets self then 0 else n := by
    intro id n
    by_cases h : octets id = octets self
    · have hzero : memcmp id self = 0 := (memcmp_eq_zero_iff id self).mpr (octets_injective h)
      simp [h, hzero]
    · have hne : memcmp id self ≠ 0 := fun hz =>
        h (congrArg octets ((memcmp_eq_zero_iff _ _).mp hz))
      rw [if_neg h]
      split_ifs <;> first | rfl | omega
  unfold compareTopology figure28 DataSet.decoded
  dsimp only
  rw [hself, hself]
  simp only [gt_iff_lt, Int16.lt_iff_toInt_lt, memcmp_pos_iff, memcmp_neg_iff]

/-- The code compares the decoded numbers as Figures 27 and 28 say. -/
theorem bmcDataSetComparison_eq (headerA : MsgHeader) (a : MsgAnnounce) (headerB : MsgHeader)
    (b : MsgAnnounce) (c : PtpClock) :
    bmcDataSetComparison headerA a headerB b c =
      dataSetComparison (octets c.portDS.portIdentity.clockIdentity)
        (DataSet.decoded headerA a) (DataSet.decoded headerB b) := by
  have hid : (DataSet.decoded headerA a).grandmasterIdentity =
      (DataSet.decoded headerB b).grandmasterIdentity ↔
        a.grandmasterIdentity = b.grandmasterIdentity := octets_injective.eq_iff
  unfold bmcDataSetComparison dataSetComparison
  simp only [ne_eq, memcmp_eq_zero_iff, hid]
  -- the two parts of the algorithm are the two figures
  by_cases h : a.grandmasterIdentity = b.grandmasterIdentity
  · rw [if_neg (by simpa using h), if_pos h]
    exact compareTopology_eq headerA a headerB b _
  · rw [if_pos h, if_neg h]
    exact compareGrandmasters_eq h headerA headerB

/-- The comparison of two data sets, each a header with its Announce. -/
def compareSets (c : PtpClock) (a b : MsgHeader × MsgAnnounce) : ℤ :=
  bmcDataSetComparison a.1 a.2 b.1 b.2 c

/-- Data sets of other clocks that agree on the attributes of each grandmaster. -/
structure Consistent (receiver : ClockIdentity) (S : Set (MsgHeader × MsgAnnounce)) : Prop where
  agree : ∀ a ∈ S, ∀ b ∈ S, a.2.grandmasterIdentity = b.2.grandmasterIdentity →
    a.2.grandmasterPriority1 = b.2.grandmasterPriority1 ∧
    a.2.grandmasterClockQuality = b.2.grandmasterClockQuality ∧
    a.2.grandmasterPriority2 = b.2.grandmasterPriority2
  other : ∀ a ∈ S, a.1.sourcePortIdentity.clockIdentity ≠ receiver

theorem Consistent.attributes_eq {receiver : ClockIdentity} {S : Set (MsgHeader × MsgAnnounce)}
    (h : Consistent receiver S) {a b : MsgHeader × MsgAnnounce} (ha : a ∈ S) (hb : b ∈ S)
    (hid : a.2.grandmasterIdentity = b.2.grandmasterIdentity) :
    (DataSet.decoded a.1 a.2).attributes = (DataSet.decoded b.1 b.2).attributes := by
  obtain ⟨h₁, h₂, h₃⟩ := h.agree a ha b hb hid
  unfold DataSet.attributes DataSet.decoded
  rw [h₁, h₂, h₃, hid]

theorem Consistent.compares {c : PtpClock} {S : Set (MsgHeader × MsgAnnounce)}
    (h : Consistent c.portDS.portIdentity.clockIdentity S) :
    Compares (compareSets c) (fun a => (DataSet.decoded a.1 a.2).rank) S := by
  -- consistency of the sets is what the rank of the decoded sets asks for
  have hrank : Compares (dataSetComparison (octets c.portDS.portIdentity.clockIdentity))
      DataSet.rank ((fun a => DataSet.decoded a.1 a.2) '' S) := compares_rank
    (by
      rintro _ ⟨a, ha, rfl⟩ _ ⟨b, hb, rfl⟩ hid
      exact h.attributes_eq ha hb (octets_injective hid))
    (by
      rintro _ ⟨a, ha, rfl⟩
      exact octets_injective.ne (h.other a ha))
  intro a ha b hb
  unfold compareSets
  rw [bmcDataSetComparison_eq]
  exact hrank _ ⟨a, ha, rfl⟩ _ ⟨b, hb, rfl⟩

theorem compareSets_values (c : PtpClock) (a b : MsgHeader × MsgAnnounce) :
    compareSets c a b = 1 ∨ compareSets c a b = -1 ∨ compareSets c a b = 0 := by
  unfold compareSets
  rw [bmcDataSetComparison_eq]
  unfold dataSetComparison figure28 figure27
  split_ifs <;> decide

/-- Two ranks are equal for one grandmaster, one distance and one sender. -/
theorem Consistent.rank_eq_iff {receiver : ClockIdentity} {S : Set (MsgHeader × MsgAnnounce)}
    (h : Consistent receiver S) {a b : MsgHeader × MsgAnnounce} (ha : a ∈ S) (hb : b ∈ S) :
    (DataSet.decoded a.1 a.2).rank = (DataSet.decoded b.1 b.2).rank ↔
      a.2.grandmasterIdentity = b.2.grandmasterIdentity ∧
        a.2.stepsRemoved = b.2.stepsRemoved ∧
        a.1.sourcePortIdentity.clockIdentity = b.1.sourcePortIdentity.clockIdentity := by
  unfold DataSet.rank
  simp only [toLex_inj, Prod.mk.injEq]
  constructor
  · rintro ⟨hattr, hsteps, hsender⟩
    exact ⟨octets_injective (DataSet.grandmasterIdentity_eq hattr), Int16.toInt.inj hsteps,
      octets_injective hsender⟩
  · rintro ⟨hid, hsteps, hsender⟩
    exact ⟨h.attributes_eq ha hb hid, congrArg Int16.toInt hsteps, congrArg octets hsender⟩

/-- The comparison is antisymmetric. Between other clocks that agree on each grandmaster it is a
strict weak order, with ties for one grandmaster, one distance and one sender, and the best data
sets are those that tie with the selected one in any order of the comparisons. -/
theorem comparison_weakOrder (c : PtpClock) :
    (∀ a b : MsgHeader × MsgAnnounce, compareSets c a b = -compareSets c b a) ∧
    ∀ S : Set (MsgHeader × MsgAnnounce), Consistent c.portDS.portIdentity.clockIdentity S →
      (∀ a ∈ S, ∀ b ∈ S, ∀ d ∈ S,
        compareSets c a b = 1 → compareSets c b d = 1 → compareSets c a d = 1) ∧
      (∀ a ∈ S, ∀ b ∈ S, ∀ d ∈ S,
        compareSets c a b = 0 → compareSets c b d = 0 → compareSets c a d = 0) ∧
      (∀ a ∈ S, ∀ b ∈ S, compareSets c a b = 0 ↔
        a.2.grandmasterIdentity = b.2.grandmasterIdentity ∧
        a.2.stepsRemoved = b.2.stepsRemoved ∧
        a.1.sourcePortIdentity.clockIdentity = b.1.sourcePortIdentity.clockIdentity) ∧
      ∀ x xs y ys, (x :: xs).Perm (y :: ys) → (∀ a ∈ x :: xs, a ∈ S) → ∀ a ∈ x :: xs,
        (∀ b ∈ x :: xs, compareSets c b a ≠ 1) ↔
          compareSets c a (runningBest (compareSets c) y ys) = 0 := by
  -- the library speaks of positive values, the source of the value one
  have hpos : ∀ a b, compareSets c a b = 1 ↔ 0 < compareSets c a b := by
    intro a b
    rcases compareSets_values c a b with h | h | h <;> rw [h] <;> decide
  constructor
  · intro a b
    unfold compareSets
    rw [bmcDataSetComparison_eq, bmcDataSetComparison_eq]
    exact dataSetComparison_swap _ _ _
  · intro S hS
    have hcompares := hS.compares
    simp only [ne_eq, hpos]
    refine ⟨?_, ?_, ?_, ?_⟩
    · intro a ha b hb d hd
      exact hcompares.better_trans ha hb hd
    · intro a ha b hb d hd
      exact hcompares.tie_trans ha hb hd
    · intro a ha b hb
      rw [hcompares.eq_zero_iff ha hb]
      exact hS.rank_eq_iff ha hb
    · intro x xs y ys hperm hmem a ha
      -- the best of one order is compared with the members of the other
      have hmem' : ∀ b ∈ y :: ys, b ∈ S := fun b hb => hmem b (hperm.mem_iff.mpr hb)
      rw [← hcompares.best_iff_tie hmem' (hperm.mem_iff.mp ha)]
      simp only [hperm.mem_iff]

/-- The data set a station advertises. -/
def advertised (n : UInt8) (rtOpts : RunTimeOpts) : MsgHeader × MsgAnnounce :=
  (headerIn (announceOf (station n rtOpts)), announceIn (announceOf (station n rtOpts)))

/-- Three stations, one of them with a high priority. -/
def rivals : List (MsgHeader × MsgAnnounce) :=
  [advertised 3 { ptpdOpts with priority1 := 1 }, advertised 1 ptpdOpts, advertised 2 ptpdOpts]

/-- Seen by a fourth station, the first is better than the last: it is better than the second, and
the second is better than the last. -/
theorem comparison_weakOrder_rivals :
    compareSets (station 4 ptpdOpts) rivals[0] rivals[2] = 1 := by
  have hS : Consistent (station 4 ptpdOpts).portDS.portIdentity.clockIdentity
      {a | a ∈ rivals} :=
    ⟨(by decide +kernel : ∀ a ∈ rivals, ∀ b ∈ rivals, _),
      (by decide +kernel : ∀ a ∈ rivals, _)⟩
  have htrans := ((comparison_weakOrder (station 4 ptpdOpts)).2 _ hS).1
  exact htrans rivals[0] (List.getElem_mem _) rivals[1] (List.getElem_mem _) rivals[2]
    (List.getElem_mem _) (by decide +kernel) (by decide +kernel)

/-! ## The numbers on the wire -/

/-- The unsigned 16-bit number at `off`, the most significant octet first. -/
def wire16 (buf : Buf) (off : ℕ) : ℕ := 256 * (buf off).toNat + (buf (off + 1)).toNat

/-- The octets of an identity at `off`. -/
def wireOctets (buf : Buf) (off : ℕ) : List ℕ := (List.range 8).map fun i => (buf (off + i)).toNat

/-- The numbers an Announce carries on the wire. -/
def DataSet.onWire (buf : Buf) : DataSet :=
  { priority1 := (buf 47).toNat
    clockClass := (buf 48).toNat
    clockAccuracy := (buf 49).toNat
    offsetScaledLogVariance := wire16 buf 50
    priority2 := (buf 52).toNat
    grandmasterIdentity := wireOctets buf 53
    stepsRemoved := wire16 buf 61
    sender := wireOctets buf 20 }

theorem octets_loadIdentity (buf : Buf) (off : ℕ) :
    octets (loadIdentity buf off) = wireOctets buf off := by
  apply List.ext_getElem
  · simp [octets, wireOctets]
  · intro i _ _
    simp [octets, loadIdentity, wireOctets]

/-- The number a 16-bit field is decoded as. -/
theorem toInt_wire16 (buf : Buf) (off : ℕ) :
    (flip16 (load16 buf off)).toInt16.toInt =
      if wire16 buf off < 32768 then (wire16 buf off : ℤ) else wire16 buf off - 65536 := by
  have hlow := (buf off).toNat_lt
  have hhigh := (buf (off + 1)).toNat_lt
  have hnat : (flip16 (load16 buf off)).toNat = wire16 buf off := by
    rw [toNat_flip16, load16, wire16, UInt16.toNat_ofNat_of_lt']
    · omega
    · simp only [UInt16.size]
      omega
  -- a signed field reads the same bits with the upper half negative
  have hint : ∀ x : UInt16, x.toInt16.toInt = (x.toNat : ℤ).bmod (2 ^ 16) := fun x =>
    BitVec.toInt_eq_toNat_bmod x.toBitVec
  rw [hint, hnat, Int.bmod_def]
  unfold wire16
  split_ifs <;> omega

/-- The numbers decoded from an Announce. -/
def DataSet.unpacked (buf : Buf) : DataSet :=
  DataSet.decoded (msgUnpackHeader buf) (msgUnpackAnnounce buf)

theorem DataSet.unpacked_eq (buf : Buf) :
    DataSet.unpacked buf =
      { DataSet.onWire buf with
        offsetScaledLogVariance := (flip16 (load16 buf 50)).toInt16.toInt
        stepsRemoved := (flip16 (load16 buf 61)).toInt16.toInt } := by
  unfold DataSet.onWire
  rw [← octets_loadIdentity, ← octets_loadIdentity]
  rfl

/-- Where the code compares two signed fields, they have the same sign: the steps removed for one
grandmaster, the variances for two that are alike up to them. -/
def SameSigns (bufA bufB : Buf) : Prop :=
  if wireOctets bufA 53 = wireOctets bufB 53 then
    (wire16 bufA 61 < 32768 ↔ wire16 bufB 61 < 32768)
  else
    bufA 47 = bufB 47 → bufA 48 = bufB 48 → bufA 49 = bufB 49 →
      (wire16 bufA 50 < 32768 ↔ wire16 bufB 50 < 32768)

instance (bufA bufB : Buf) : Decidable (SameSigns bufA bufB) := by
  unfold SameSigns
  exact inferInstance

theorem wire16_lt (buf : Buf) (off : ℕ) : wire16 buf off < 65536 := by
  have hlow := (buf off).toNat_lt
  have hhigh := (buf (off + 1)).toNat_lt
  unfold wire16
  omega

theorem figure28_onWire_iff (receiver : List ℕ) (bufA bufB : Buf) :
    figure28 receiver (DataSet.unpacked bufA) (DataSet.unpacked bufB) =
        figure28 receiver (DataSet.onWire bufA) (DataSet.onWire bufB) ↔
      (wire16 bufA 61 < 32768 ↔ wire16 bufB 61 < 32768) := by
  have ha := wire16_lt bufA 61
  have hb := wire16_lt bufB 61
  have hda := toInt_wire16 bufA 61
  have hdb := toInt_wire16 bufB 61
  rw [DataSet.unpacked_eq, DataSet.unpacked_eq]
  unfold figure28 DataSet.onWire
  dsimp only
  generalize (flip16 (load16 bufA 61)).toInt16.toInt = dA at hda ⊢
  generalize (flip16 (load16 bufB 61)).toInt16.toInt = dB at hdb ⊢
  generalize wire16 bufA 61 = wA at ha hda ⊢
  generalize wire16 bufB 61 = wB at hb hdb ⊢
  constructor
  · intro heq
    by_contra hne
    -- with different signs the two comparisons of the steps prefer different sides
    rcases lt_or_ge wA 32768 with hwa | hwa
    · rw [if_pos hwa] at hda
      rw [if_neg (by omega)] at hdb
      rw [if_neg (by omega : ¬(wB : ℤ) + 1 < wA), if_neg (by omega : ¬(wB : ℤ) < wA),
        if_pos (by omega : (wA : ℤ) < wB), if_neg (by omega : ¬dA + 1 < dB),
        if_pos (by omega : dB < dA)] at heq
      split_ifs at heq <;> omega
    · rw [if_neg (by omega)] at hda
      rw [if_pos (by omega)] at hdb
      rw [if_pos (by omega : (wB : ℤ) < wA), if_neg (by omega : ¬(wA : ℤ) + 1 < wB),
        if_neg (by omega : ¬dB + 1 < dA), if_neg (by omega : ¬dB < dA),
        if_pos (by omega : dA < dB)] at heq
      split_ifs at heq <;> omega
  · intro hsame
    -- with the same sign the steps differ by the same amount
    have hdiff : dA - dB = wA - wB := by
      split_ifs at hda hdb <;> omega
    have h₁ : dB + 1 < dA ↔ (wB : ℤ) + 1 < wA := by omega
    have h₂ : dA + 1 < dB ↔ (wA : ℤ) + 1 < wB := by omega
    have h₃ : dB < dA ↔ (wB : ℤ) < wA := by omega
    have h₄ : dA < dB ↔ (wA : ℤ) < wB := by omega
    simp only [h₁, h₂, h₃, h₄]

theorem figure27_onWire_iff (bufA bufB : Buf) :
    figure27 (DataSet.unpacked bufA) (DataSet.unpacked bufB) =
        figure27 (DataSet.onWire bufA) (DataSet.onWire bufB) ↔
      (bufA 47 = bufB 47 → bufA 48 = bufB 48 → bufA 49 = bufB 49 →
        (wire16 bufA 50 < 32768 ↔ wire16 bufB 50 < 32768)) := by
  have ha := wire16_lt bufA 50
  have hb := wire16_lt bufB 50
  have hda := toInt_wire16 bufA 50
  have hdb := toInt_wire16 bufB 50
  rw [DataSet.unpacked_eq, DataSet.unpacked_eq]
  unfold figure27 DataSet.attributes DataSet.onWire
  simp only [Prod.Lex.toLex_lt_toLex, Nat.cast_lt, Nat.cast_inj, UInt8.toNat_inj]
  generalize (flip16 (load16 bufA 50)).toInt16.toInt = dA at hda ⊢
  generalize (flip16 (load16 bufB 50)).toInt16.toInt = dB at hdb ⊢
  generalize wire16 bufA 50 = wA at ha hda ⊢
  generalize wire16 bufB 50 = wB at hb hdb ⊢
  have hinj : dA = dB ↔ wA = wB := by
    split_ifs at hda hdb <;> omega
  by_cases hmsb : bufA 47 = bufB 47 ∧ bufA 48 = bufB 48 ∧ bufA 49 = bufB 49
  · obtain ⟨h₁, h₂, h₃⟩ := hmsb
    simp only [h₁, h₂, h₃, lt_irrefl, false_or, true_and, true_implies]
    constructor
    · intro heq
      by_contra hne
      have hflip : dA < dB ↔ ¬wA < wB := by
        split_ifs at hda hdb <;> omega
      have hne' : wA ≠ wB := by omega
      have hne'' : dA ≠ dB := mt hinj.mp hne'
      simp only [hflip, hne', hne'', false_and, or_false] at heq
      split_ifs at heq
    · intro hsame
      have hlt : dA < dB ↔ wA < wB := by
        split_ifs at hda hdb <;> omega
      simp only [hlt, hinj]
  · constructor
    · intro _ h₁ h₂ h₃
      exact absurd ⟨h₁, h₂, h₃⟩ hmsb
    · intro _
      -- an earlier attribute decides
      by_cases h₁ : bufA 47 = bufB 47
      · by_cases h₂ : bufA 48 = bufB 48
        · have h₃ : bufA 49 ≠ bufB 49 := fun h₃ => hmsb ⟨h₁, h₂, h₃⟩
          simp only [h₃, false_and, or_false]
        · simp only [h₂, false_and, or_false]
      · simp only [h₁, false_and, or_false]

/-- The code compares the numbers on the wire if and only if the signed fields it looks at have the
same sign. -/
theorem comparison_onWire_iff (bufA bufB : Buf) (c : PtpClock) :
    bmcDataSetComparison (msgUnpackHeader bufA) (msgUnpackAnnounce bufA)
          (msgUnpackHeader bufB) (msgUnpackAnnounce bufB) c =
        dataSetComparison (octets c.portDS.portIdentity.clockIdentity)
          (DataSet.onWire bufA) (DataSet.onWire bufB) ↔
      SameSigns bufA bufB := by
  have hid : (DataSet.unpacked bufA).grandmasterIdentity =
      (DataSet.unpacked bufB).grandmasterIdentity ↔ wireOctets bufA 53 = wireOctets bufB 53 := by
    rw [DataSet.unpacked_eq, DataSet.unpacked_eq]
    exact Iff.rfl
  have hid' : (DataSet.onWire bufA).grandmasterIdentity =
      (DataSet.onWire bufB).grandmasterIdentity ↔ wireOctets bufA 53 = wireOctets bufB 53 := Iff.rfl
  rw [bmcDataSetComparison_eq]
  change dataSetComparison _ (DataSet.unpacked bufA) (DataSet.unpacked bufB) = _ ↔ _
  -- which figure applies is the same for the signed and the unsigned reading
  unfold dataSetComparison SameSigns
  simp only [hid, hid']
  by_cases h : wireOctets bufA 53 = wireOctets bufB 53
  · simp only [if_pos h]
    exact figure28_onWire_iff _ bufA bufB
  · simp only [if_neg h]
    exact figure27_onWire_iff bufA bufB

/-- The Announce of a station whose clock has the given variance. -/
def announceOfVariance (n : UInt8) (offsetScaledLogVariance : Int16) : Buf :=
  octetsOf (announceOf (station n
    { ptpdOpts with clockQuality := { ptpdOpts.clockQuality with offsetScaledLogVariance } }))

/-- A variance of 32768 is decoded as a negative number and preferred to one of 5000. -/
theorem comparison_not_onWire :
    wire16 (announceOfVariance 1 (-32768)) 50 = 32768 ∧
    wire16 (announceOfVariance 2 5000) 50 = 5000 ∧
    dataSetComparison (octets (station 4 ptpdOpts).portDS.portIdentity.clockIdentity)
      (DataSet.onWire (announceOfVariance 1 (-32768)))
      (DataSet.onWire (announceOfVariance 2 5000)) = -1 ∧
    bmcDataSetComparison (msgUnpackHeader (announceOfVariance 1 (-32768)))
      (msgUnpackAnnounce (announceOfVariance 1 (-32768)))
      (msgUnpackHeader (announceOfVariance 2 5000))
      (msgUnpackAnnounce (announceOfVariance 2 5000)) (station 4 ptpdOpts) = 1 := by
  decide +kernel

end Ptpd
