import DiscoPtp.Properties.ForeignMasters
import DiscoPtp.Properties.Selection

/-!
# Agreement on the best master

Ordinary clocks that have all heard of each other, each as its own grandmaster. A clock becomes
master if it is better than the record that `bmc` selects, which is the worst one: so every clock
becomes master but the worst of all, and that one follows the last but one. They agree on a master
if and only if they are two.

## Main definitions

* `OrdinaryClock`, `Announces`: a clock, and what it announces as its own grandmaster
* `HearsOthers`, `Network`: clocks whose records are about all the other ones
* `Agreement`: one master that all others follow

## Main results

* `stored_hearsOthers`: what `addForeign` has stored when all other clocks have been heard
* `Network.recommends`: what `bmc` recommends to each clock
-/

namespace Ptpd

open Ranking

/-! ## A clock and its Announces -/

/-- An ordinary clock that may follow a master. -/
structure OrdinaryClock (c : PtpClock) : Prop where
  portIdentity : c.portDS.portIdentity =
    { clockIdentity := c.defaultDS.clockIdentity, portNumber := numberPorts }
  clockClass : ¬c.defaultDS.clockQuality.clockClass < 128

/-- What a receiver unpacks from an Announce that the clock packs after `m1`, with any sequence id
and any output buffer that has its port identity. -/
def Announces (c : PtpClock) (a : MsgHeader × MsgAnnounce) : Prop :=
  ∃ (buf : Buf) (sequenceId : Int16), loadPortIdentity buf 20 = c.portDS.portIdentity ∧
    a = (headerIn (announcePacket { m1 c with sentAnnounceSequenceId := sequenceId } buf),
      announceIn (announcePacket { m1 c with sentAnnounceSequenceId := sequenceId } buf))

/-- The numbers of the local data set `D0`. -/
def localSet (c : PtpClock) : DataSet :=
  DataSet.decoded (copyD0 c).msgTmpHeader (copyD0 c).msgTmpAnnounce

section Clock

variable {c : PtpClock} {a : MsgHeader × MsgAnnounce}

/-- An Announce tells of the clock itself. -/
theorem Announces.fields (h : Announces c a) :
    a.1.sourcePortIdentity = c.portDS.portIdentity ∧
      a.2.grandmasterIdentity = c.defaultDS.clockIdentity ∧
      a.2.grandmasterPriority1 = c.defaultDS.priority1 ∧
      a.2.grandmasterClockQuality = c.defaultDS.clockQuality ∧
      a.2.grandmasterPriority2 = c.defaultDS.priority2 ∧ a.2.stepsRemoved = 0 := by
  obtain ⟨buf, sequenceId, hbuf, rfl⟩ := h
  refine ⟨?_, ?_, ?_, ?_, ?_, ?_⟩
  · exact (announcePacket_sender _ buf).trans hbuf
  · exact announcePacket_grandmasterIdentity _ buf
  · exact announcePacket_grandmasterPriority1 _ buf
  · exact announcePacket_grandmasterClockQuality _ buf
  · exact announcePacket_grandmasterPriority2 _ buf
  · exact announcePacket_stepsRemoved _ buf

/-- The others compare the numbers of the local data set. -/
theorem Announces.decoded (h : Announces c a) (hc : OrdinaryClock c) :
    DataSet.decoded a.1 a.2 = localSet c := by
  obtain ⟨hsource, hid, hp1, hquality, hp2, hsteps⟩ := h.fields
  have hsender : c.portDS.portIdentity.clockIdentity = c.defaultDS.clockIdentity := by
    rw [hc.portIdentity]
  unfold DataSet.decoded
  rw [hsource, hid, hp1, hquality, hp2, hsteps, hsender]
  rfl

/-- Two clocks with the same attributes are one. -/
theorem clockIdentity_of_attributes {c d : PtpClock}
    (h : (localSet c).attributes = (localSet d).attributes) :
    c.defaultDS.clockIdentity = d.defaultDS.clockIdentity :=
  octets_injective (DataSet.grandmasterIdentity_eq h)

/-- The decision of a clock that has records, against the one that `bmc` selects. -/
theorem bmc_decides (hc : OrdinaryClock c) (hcount : 1 ≤ c.foreignMasterDS.count)
    (hother : (dataSetAt c (selectBest c)).2.grandmasterIdentity ≠ c.defaultDS.clockIdentity) :
    ((localSet c).attributes < (DataSet.decoded (dataSetAt c (selectBest c)).1
        (dataSetAt c (selectBest c)).2).attributes → (bmc c).1 = .master) ∧
      (¬(localSet c).attributes < (DataSet.decoded (dataSetAt c (selectBest c)).1
          (dataSetAt c (selectBest c)).2).attributes →
        (bmc c).1 = .slave ∧ (bmc c).2.parentDS.parentPortIdentity =
          (dataSetAt c (selectBest c)).1.sourcePortIdentity) := by
  -- different grandmasters are compared by their attributes alone
  have hcomp : bmcDataSetComparison (copyD0 (withBest c)).msgTmpHeader
      (copyD0 (withBest c)).msgTmpAnnounce (dataSetAt c (selectBest c)).1
      (dataSetAt c (selectBest c)).2 (copyD0 (withBest c)) =
        if (localSet c).attributes < (DataSet.decoded (dataSetAt c (selectBest c)).1
          (dataSetAt c (selectBest c)).2).attributes then 1 else -1 := by
    rw [bmcDataSetComparison_eq]
    exact if_neg fun heq => hother (octets_injective heq).symm
  -- there is a record, and the class lets the clock follow another one
  have hbmc : bmc c = if bmcDataSetComparison (copyD0 (withBest c)).msgTmpHeader
      (copyD0 (withBest c)).msgTmpAnnounce (dataSetAt c (selectBest c)).1
      (dataSetAt c (selectBest c)).2 (copyD0 (withBest c)) = 1 then
        (.master, m1 (copyD0 (withBest c)))
      else (.slave, s1 (copyD0 (withBest c)) (dataSetAt c (selectBest c)).1
        (dataSetAt c (selectBest c)).2) := by
    have hrecords : ¬(c.foreignMasterDS.count = 0 ∧ c.portDS.portState = .listening) := by
      rintro ⟨hzero, -⟩
      omega
    exact (if_neg hrecords).trans (if_neg hc.clockClass)
  rw [hbmc, hcomp]
  constructor
  · intro hlt
    rw [if_pos hlt]
    rfl
  · intro hlt
    rw [if_neg hlt]
    exact ⟨rfl, rfl⟩

end Clock

/-! ## Networks -/

variable {n : ℕ}

/-- The records of a clock are Announces of the other clocks, of all of them. -/
structure HearsOthers (clock : Fin n → PtpClock) (i : Fin n) : Prop where
  other : ∀ k < (clock i).foreignMasterDS.count, ∃ j ≠ i,
    Announces (clock j) (dataSetAt (clock i) k)
  heard : ∀ j ≠ i, ∃ k < (clock i).foreignMasterDS.count,
    Announces (clock j) (dataSetAt (clock i) k)

/-- Ordinary clocks with different identities that have heard of each other. -/
structure Network (clock : Fin n → PtpClock) : Prop where
  ordinary : ∀ i, OrdinaryClock (clock i)
  distinct : Function.Injective fun i => (clock i).defaultDS.clockIdentity
  hears : ∀ i, HearsOthers clock i

/-- One clock is recommended to be the master, and all others to follow it. -/
def Agreement (clock : Fin n → PtpClock) : Prop :=
  ∃ i, (bmc (clock i)).1 = .master ∧ ∀ j ≠ i, (bmc (clock j)).1 = .slave ∧
    (bmc (clock j)).2.parentDS.parentPortIdentity = (clock i).portDS.portIdentity

section Network

variable {clock : Fin n → PtpClock}

theorem Network.attributes_injective (h : Network clock) :
    Function.Injective fun i => (localSet (clock i)).attributes :=
  fun _ _ heq => h.distinct (clockIdentity_of_attributes heq)

/-- What a clock has heard is consistent. -/
theorem Network.consistent (h : Network clock) (i : Fin n) :
    Consistent (clock i).portDS.portIdentity.clockIdentity (activeSets (clock i)) := by
  apply consistent_of_records
  · intro k hk l hl hid
    obtain ⟨j, -, hj⟩ := (h.hears i).other k hk
    obtain ⟨j', -, hj'⟩ := (h.hears i).other l hl
    obtain ⟨-, hidj, hp1, hquality, hp2, -⟩ := hj.fields
    obtain ⟨-, hidj', hp1', hquality', hp2', -⟩ := hj'.fields
    -- one grandmaster is one clock
    obtain rfl : j = j' := h.distinct (hidj.symm.trans (hid.trans hidj'))
    exact ⟨hp1.trans hp1'.symm, hquality.trans hquality'.symm, hp2.trans hp2'.symm⟩
  · intro k hk hself
    obtain ⟨j, hji, hj⟩ := (h.hears i).other k hk
    rw [hj.fields.1, (h.ordinary j).portIdentity, (h.ordinary i).portIdentity] at hself
    exact hji (h.distinct hself)

theorem Network.count_pos (h : Network clock) (hn : 2 ≤ n) (i : Fin n) :
    1 ≤ (clock i).foreignMasterDS.count := by
  have : Nontrivial (Fin n) := Fin.nontrivial_iff_two_le.mpr hn
  obtain ⟨j, hji⟩ := exists_ne i
  obtain ⟨k, hk, -⟩ := (h.hears i).heard j hji
  omega

/-- The record that `bmc` selects is about the worst of the other clocks. -/
theorem Network.worst (h : Network clock) (hn : 2 ≤ n) (i : Fin n) :
    ∃ j ≠ i, Announces (clock j) (dataSetAt (clock i) (selectBest (clock i))) ∧
      ∀ k ≠ i, (localSet (clock k)).attributes ≤ (localSet (clock j)).attributes := by
  have hcount := h.count_pos hn i
  obtain ⟨j, hji, hj⟩ := (h.hears i).other _ (selectBest_mem hcount)
  refine ⟨j, hji, hj, fun k hki => ?_⟩
  obtain ⟨l, hl, hk⟩ := (h.hears i).heard k hki
  have hrank := selectBest_worst hcount (h.consistent i) l hl
  unfold rankAt at hrank
  rw [hk.decoded (h.ordinary k), hj.decoded (h.ordinary j)] at hrank
  unfold DataSet.rank at hrank
  rw [Prod.Lex.toLex_le_toLex] at hrank
  exact hrank.elim le_of_lt fun heq => heq.1.le

/-- **The recommendations**: the worst clock follows the worst of the others, and every other clock
becomes master. -/
theorem Network.recommends (h : Network clock) (hn : 2 ≤ n) :
    ∃ w, (∀ i ≠ w, (bmc (clock i)).1 = .master) ∧ (bmc (clock w)).1 = .slave ∧
      ∃ j ≠ w, (bmc (clock w)).2.parentDS.parentPortIdentity =
        (clock j).portDS.portIdentity := by
  have hnonempty : Nonempty (Fin n) := ⟨⟨0, by omega⟩⟩
  -- the worst clock follows; every other one is better than the worst it has heard
  obtain ⟨w, hw⟩ := Finite.exists_max fun i => (localSet (clock i)).attributes
  have hdecides (i : Fin n) {j : Fin n} (hji : j ≠ i)
      (hj : Announces (clock j) (dataSetAt (clock i) (selectBest (clock i)))) :
      ((localSet (clock i)).attributes < (localSet (clock j)).attributes →
          (bmc (clock i)).1 = .master) ∧
        (¬(localSet (clock i)).attributes < (localSet (clock j)).attributes →
          (bmc (clock i)).1 = .slave ∧
            (bmc (clock i)).2.parentDS.parentPortIdentity = (clock j).portDS.portIdentity) := by
    have hother : (dataSetAt (clock i) (selectBest (clock i))).2.grandmasterIdentity ≠
        (clock i).defaultDS.clockIdentity := by
      rw [hj.fields.2.1]
      exact fun heq => hji (h.distinct heq)
    have hboth := bmc_decides (h.ordinary i) (h.count_pos hn i) hother
    rw [hj.decoded (h.ordinary j), hj.fields.1] at hboth
    exact hboth
  -- what a clock has selected is the worst of the others, by the sign slip of `bmc`
  refine ⟨w, fun i hiw => ?_, ?_⟩
  · obtain ⟨j, hji, hj, hworst⟩ := h.worst hn i
    have hlt : (localSet (clock i)).attributes < (localSet (clock w)).attributes :=
      lt_of_le_of_ne (hw i) fun heq => hiw (h.attributes_injective heq)
    exact (hdecides i hji hj).1 (hlt.trans_le (hworst w hiw.symm))
  · obtain ⟨j, hjw, hj, -⟩ := h.worst hn w
    obtain ⟨hslave, hparent⟩ := (hdecides w hjw hj).2 (hw j).not_gt
    exact ⟨hslave, j, hjw, hparent⟩

end Network

/-! ## How the clocks have heard of each other -/

section Stored

variable {clock : Fin n → PtpClock}

/-- A store on the way: its records are about different other clocks, those in `heard` included. -/
structure HearsSome (clock : Fin n → PtpClock) (i : Fin n) (heard : Fin n → Prop)
    (ds : ForeignMasterDS) : Prop where
  wf : ds.Wf
  index_lt : ds.i < ds.capacity
  best : ds.best = 0
  room : n ≤ ds.capacity + 1
  other : ∀ k < ds.count, ∃ j ≠ i, ds.master k = (clock j).portDS.portIdentity ∧
    Announces (clock j) ((ds.records k).header, (ds.records k).announce)
  heard : ∀ j, heard j → ∃ k < ds.count, ds.master k = (clock j).portDS.portIdentity ∧
    Announces (clock j) ((ds.records k).header, (ds.records k).announce)

/-- A store without a record of another clock has room for it. -/
theorem HearsSome.count_lt {i j : Fin n} {heard : Fin n → Prop} {ds : ForeignMasterDS}
    (h : HearsSome clock i heard ds) (hji : j ≠ i)
    (hnew : ∀ k < ds.count, ds.master k ≠ (clock j).portDS.portIdentity) :
    ds.count < ds.capacity := by
  have hother (k : Fin ds.count) : ∃ l ≠ i, ds.master k = (clock l).portDS.portIdentity := by
    obtain ⟨l, hl, hmaster, -⟩ := h.other k k.isLt
    exact ⟨l, hl, hmaster⟩
  choose about hne hmaster using hother
  -- the records are about different clocks, none of them the receiver or the new one
  have hinj : Function.Injective about := by
    intro k l heq
    apply Fin.ext
    exact h.wf.distinct k k.isLt l l.isLt ((hmaster k).trans (heq ▸ (hmaster l).symm))
  have himage : Finset.univ.image about ⊆ (Finset.univ.erase i).erase j := by
    intro l hl
    obtain ⟨k, -, rfl⟩ := Finset.mem_image.mp hl
    rw [Finset.mem_erase, Finset.mem_erase]
    exact ⟨fun heq => hnew k k.isLt (heq ▸ hmaster k), hne k, Finset.mem_univ _⟩
  have hcard := Finset.card_le_card himage
  rw [Finset.card_image_of_injective _ hinj, Finset.card_univ, Fintype.card_fin,
    Finset.card_erase_of_mem (Finset.mem_erase.mpr ⟨hji, Finset.mem_univ _⟩),
    Finset.card_erase_of_mem (Finset.mem_univ _), Finset.card_univ, Fintype.card_fin] at hcard
  have hroom := h.room
  have htwo : 2 ≤ n := by
    have hi := i.isLt
    have hj := j.isLt
    have hval := Fin.val_ne_of_ne hji
    omega
  omega

/-- **`addForeign` stores an Announce** and keeps the other clocks. -/
theorem HearsSome.add {i j : Fin n} {heard : Fin n → Prop} {ds : ForeignMasterDS}
    (h : HearsSome clock i heard ds)
    (hports : Function.Injective fun l => (clock l).portDS.portIdentity) (hji : j ≠ i)
    {a : MsgHeader × MsgAnnounce} (ha : Announces (clock j) a) :
    HearsSome clock i (fun l => l = j ∨ heard l) (ds.add a.1 a.2) := by
  have hsource := ha.fields.1
  have hsearch : ds.Searchable := by
    unfold ForeignMasterDS.Searchable
    rw [h.best]
    omega
  have hadd : (ds.add a.1 a.2).Wf ∧ (ds.add a.1 a.2).i < (ds.add a.1 a.2).capacity ∧
      0 < (ds.add a.1 a.2).count ∧ (ds.add a.1 a.2).capacity = ds.capacity :=
    h.wf.add h.index_lt hsearch
  obtain ⟨hwf, hindex, -, hcapacity⟩ := hadd
  have hstored : ds.Stores (ds.add a.1 a.2) a.1 a.2 := h.wf.stores h.index_lt hsearch
  obtain ⟨k₀, hstores⟩ := hstored
  have hnewest : (ds.add a.1 a.2).master k₀ = (clock j).portDS.portIdentity ∧
      Announces (clock j) (((ds.add a.1 a.2).records k₀).header,
        ((ds.add a.1 a.2).records k₀).announce) := by
    refine ⟨((hstores.master_iff k₀ hstores.active).mpr rfl).trans hsource, ?_⟩
    rw [hstores.header_eq, hstores.announce_eq]
    exact ha
  have hbest : (ds.add a.1 a.2).best = ds.best := by
    unfold ForeignMasterDS.add
    split
    · rfl
    · dsimp only
      split <;> rfl
  constructor
  · exact hwf
  · exact hindex
  · exact hbest.trans h.best
  · rw [hcapacity]
    exact h.room
  · intro k hk
    by_cases heq : k = k₀
    · exact ⟨j, hji, heq ▸ hnewest⟩
    · obtain ⟨hk', hrecord⟩ := hstores.others k hk heq
      unfold ForeignMasterDS.master
      rw [hrecord]
      exact h.other k hk'
  · rintro l (rfl | hl)
    · exact ⟨k₀, hstores.active, hnewest⟩
    obtain ⟨k, hk, hmaster, hl'⟩ := h.heard l hl
    by_cases hlj : l = j
    · rw [hlj]
      exact ⟨k₀, hstores.active, hnewest⟩
    have hne : ds.master k ≠ a.1.sourcePortIdentity := fun heq =>
      hlj (hports (hmaster.symm.trans (heq.trans hsource)))
    -- the record of another clock is overwritten only when the store is full
    have heq : k ≠ k₀ := by
      rintro rfl
      rcases hstores.replaced hk with hsame | hfull
      · exact hne hsame
      · have hlt := h.count_lt hji fun m hm hm' => ?_
        · exact absurd hfull hlt.ne
        · by_cases hmk : m = k
          · rw [hmk, ← hsource] at hm'
            exact hne hm'
          · have hact := hstores.kept m hm
            have hmaster' : (ds.add a.1 a.2).master m = a.1.sourcePortIdentity := by
              unfold ForeignMasterDS.master
              rw [(hstores.others m hact hmk).2]
              exact hm'.trans hsource.symm
            exact hmk ((hstores.master_iff m hact).mp hmaster')
    obtain ⟨-, hrecord⟩ := hstores.others k (hstores.kept k hk) heq
    refine ⟨k, hstores.kept k hk, ?_⟩
    unfold ForeignMasterDS.master
    rw [hrecord]
    exact ⟨hmaster, hl'⟩

/-- **The Announces of all other clocks**, stored in any order and any number of times, are the
records of a clock that hears them. -/
theorem stored_hearsOthers {i : Fin n}
    (hports : Function.Injective fun l => (clock l).portDS.portIdentity)
    (ds : ForeignMasterDS) (hcount : ds.count = 0) (hindex : ds.i = 0) (hbest : ds.best = 0)
    (hpos : 0 < ds.capacity) (hroom : n ≤ ds.capacity + 1)
    (arrivals : List (Fin n × MsgHeader × MsgAnnounce))
    (harrive : ∀ m ∈ arrivals, m.1 ≠ i ∧ Announces (clock m.1) m.2)
    (hall : ∀ j ≠ i, ∃ m ∈ arrivals, m.1 = j)
    (hds : (clock i).foreignMasterDS =
      arrivals.foldl (fun ds m => ds.add m.2.1 m.2.2) ds) :
    HearsOthers clock i := by
  -- the induction is on the arrivals, with the set of the clocks heard before as a parameter
  have hrun (arrivals : List (Fin n × MsgHeader × MsgAnnounce)) :
      ∀ (heard : Fin n → Prop) (ds : ForeignMasterDS), HearsSome clock i heard ds →
        (∀ m ∈ arrivals, m.1 ≠ i ∧ Announces (clock m.1) m.2) →
        HearsSome clock i (fun j => (∃ m ∈ arrivals, m.1 = j) ∨ heard j)
          (arrivals.foldl (fun ds m => ds.add m.2.1 m.2.2) ds) := by
    induction arrivals with
    | nil =>
      intro heard ds h _
      simpa using h
    | cons m arrivals ih =>
      intro heard ds h hm
      obtain ⟨hmi, ha⟩ := hm m List.mem_cons_self
      have hnext := ih _ _ (h.add hports hmi ha) fun m' hm' => hm m' (List.mem_cons_of_mem m hm')
      refine ⟨hnext.wf, hnext.index_lt, hnext.best, hnext.room, hnext.other, fun j hj => ?_⟩
      apply hnext.heard
      rcases hj with ⟨m', hm', rfl⟩ | hj
      · rcases List.mem_cons.mp hm' with rfl | hm'
        · exact .inr (.inl rfl)
        · exact .inl ⟨m', hm', rfl⟩
      · exact .inr (.inr hj)
  have hstart : HearsSome clock i (fun _ => False) ds := by
    refine ⟨⟨by omega, fun _ => by omega, ?_⟩, by omega, hbest, hroom, ?_, fun _ h => h.elim⟩
    · intro j hj
      omega
    · intro k hk
      omega
  have hend := hrun arrivals _ ds hstart harrive
  rw [← hds] at hend
  constructor
  · intro k hk
    obtain ⟨j, hj, -, ha⟩ := hend.other k hk
    exact ⟨j, hj, ha⟩
  · intro j hj
    obtain ⟨k, hk, -, ha⟩ := hend.heard j (.inl (hall j hj))
    exact ⟨k, hk, ha⟩

end Stored

/-- Ordinary clocks that have heard of each other agree on a master if and only if they are two. -/
theorem agreement_iff (hn : 2 ≤ n) (clock : Fin n → PtpClock) (h : Network clock) :
    Agreement clock ↔ n = 2 := by
  obtain ⟨w, hmaster, hslave, j, hjw, hparent⟩ := h.recommends hn
  constructor
  · rintro ⟨i, hi, hfollow⟩
    have hiw : i ≠ w := by
      rintro rfl
      rw [hslave] at hi
      cases hi
    by_contra hne
    -- a third clock is recommended to be master as well
    have hthird : ∃ k, k ≠ i ∧ k ≠ w := by
      by_contra hnone
      push Not at hnone
      have hall : (Finset.univ : Finset (Fin n)) ⊆ {i, w} := by
        intro k _
        rw [Finset.mem_insert, Finset.mem_singleton]
        exact or_iff_not_imp_left.mpr (hnone k)
      have hcard := (Finset.card_le_card hall).trans Finset.card_le_two
      rw [Finset.card_univ, Fintype.card_fin] at hcard
      omega
    obtain ⟨k, hki, hkw⟩ := hthird
    have hk := (hfollow k hki).1
    rw [hmaster k hkw] at hk
    cases hk
  · rintro rfl
    refine ⟨j, hmaster j hjw, fun k hkj => ?_⟩
    -- the other clock is the worst one
    obtain rfl : k = w := by
      have hk := Fin.val_ne_of_ne hkj
      have hw := Fin.val_ne_of_ne hjw
      apply Fin.ext
      omega
    exact ⟨hslave, hparent⟩

/-! ## Stations that have heard of each other -/

/-- The empty store of a clock with the default number of records. -/
def emptyStore : ForeignMasterDS := { (default : ForeignMasterDS) with capacity := 5 }

/-- The Announces of the stations other than `i`. -/
def otherAnnounces (n : ℕ) (i : Fin n) : List (Fin n × MsgHeader × MsgAnnounce) :=
  ((List.finRange n).filter fun j => j ≠ i).map fun j => (j, advertised (UInt8.ofNat j) ptpdOpts)

/-- The stations `0` to `n - 1` after each has heard the Announce of every other one. -/
def introduced (n : ℕ) (i : Fin n) : PtpClock :=
  { station (UInt8.ofNat i) ptpdOpts with
    foreignMasterDS := (otherAnnounces n i).foldl (fun ds m => ds.add m.2.1 m.2.2) emptyStore }

theorem advertised_announces (i : Fin n) :
    Announces (introduced n i) (advertised (UInt8.ofNat i) ptpdOpts) := by
  refine ⟨headerOf (station (UInt8.ofNat i) ptpdOpts), 0, ?_, rfl⟩
  exact sender_msgPackHeader _ _

theorem introduced_identity (i : Fin n) :
    (introduced n i).defaultDS.clockIdentity =
      #v[0x00, 0x80, 0xE1, 0xff, 0xfe, 0, 0, UInt8.ofNat i] := rfl

theorem introduced_network (hn : n ≤ 6) : Network (introduced n) := by
  have hdistinct : Function.Injective fun i => (introduced n i).defaultDS.clockIdentity := by
    intro i j heq
    dsimp only at heq
    rw [introduced_identity, introduced_identity] at heq
    -- the identities differ in their last octet
    have hlast := congrArg (fun v : ClockIdentity => v[7].toNat) heq
    have hi := i.isLt
    have hj := j.isLt
    apply Fin.ext
    simp only [Vector.getElem_mk] at hlast
    have hmod : ∀ m : ℕ, m < 6 → (UInt8.ofNat m).toNat = m := by decide
    simpa [hmod _ (hi.trans_le hn), hmod _ (hj.trans_le hn)] using hlast
  have hports : Function.Injective fun i => (introduced n i).portDS.portIdentity := by
    intro i j heq
    exact hdistinct (congrArg PortIdentity.clockIdentity heq)
  refine ⟨fun i => ⟨rfl, ?_⟩, hdistinct, fun i => ?_⟩
  · show ¬ptpdOpts.clockQuality.clockClass < 128
    decide
  · refine stored_hearsOthers hports emptyStore rfl rfl rfl (by decide) hn (otherAnnounces n i)
      ?_ ?_ rfl
    · intro m hm
      obtain ⟨j, hj, rfl⟩ := List.mem_map.mp hm
      exact ⟨by simpa using hj, advertised_announces j⟩
    · intro j hj
      refine ⟨_, List.mem_map.mpr ⟨j, ?_, rfl⟩, rfl⟩
      simpa using hj

/-- Two stations agree. -/
theorem agreement_two : Agreement (introduced 2) :=
  (agreement_iff (le_refl 2) (introduced 2) (introduced_network (by decide))).mpr rfl

/-- Of three stations two are recommended to be master. -/
theorem disagreement_three :
    Network (introduced 3) ∧ (bmc (introduced 3 0)).1 = .master ∧
      (bmc (introduced 3 1)).1 = .master ∧ ¬Agreement (introduced 3) := by
  have hzero : (bmc (introduced 3 0)).1 = .master := by decide +kernel
  have hone : (bmc (introduced 3 1)).1 = .master := by decide +kernel
  refine ⟨introduced_network (by decide), hzero, hone, ?_⟩
  rintro ⟨i, -, hfollow⟩
  by_cases hi : i = 0
  · have hslave := (hfollow 1 (by rw [hi]; decide)).1
    rw [hone] at hslave
    cases hslave
  · have hslave := (hfollow 0 (Ne.symm hi)).1
    rw [hzero] at hslave
    cases hslave

end Ptpd
