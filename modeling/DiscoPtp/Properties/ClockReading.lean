import DiscoPtp.Model.Registers
import DiscoPtp.Properties.Effects
import DiscoPtp.Properties.TimeArith

/-!
# Readings of the clock

`ethernetif_ptp_get_time` reads the nanoseconds first and the seconds afterwards. When the
nanosecond counter rolls over in between, the reading is ahead of the clock by a second.

## Main definitions

* `Reading.Between`: a reading lies between the instants of its two reads
* `Reading.NoCarry`: the nanosecond counter has not rolled over
* `Successive`: one call after the other
* `ReadsConsistently`: what readings must satisfy together

## Main results

* `between_iff`: a reading lies between its instants exactly when there is no carry
* `reads_consistently_iff`: the same for all the readings of a run; they then never go backwards,
  and a step of the clock starts from the time it is
-/

namespace Ptpd

open SignedWord

namespace Reading

variable {r : Reading}

/-- A reading lies between the instants of its two reads. -/
def Between (r : Reading) : Prop :=
  r.low.toNs ≤ (ethernetifPtpGetTime r).toNs ∧ (ethernetifPtpGetTime r).toNs ≤ r.high.toNs

/-- The nanosecond counter has not rolled over between the reads, or has gone the whole way round,
and the seconds fit in the signed field. -/
def NoCarry (r : Reading) : Prop :=
  r.low.subseconds.toNat ≤ r.high.subseconds.toNat ∧ r.high.seconds.toNat < 2147483648

end Reading

/-- An unsigned word in a signed field. -/
theorem toInt_toInt32 (x : UInt32) :
    x.toInt32.toInt = if x.toNat < 2147483648 then (x.toNat : ℤ) else x.toNat - 4294967296 := by
  have hint : x.toInt32.toInt = x.toBitVec.toInt := rfl
  have hnat : x.toNat = x.toBitVec.toNat := rfl
  have hcond := BitVec.toInt_eq_toNat_cond x.toBitVec
  rw [hint, hnat, hcond]
  split <;> split <;> omega

section Between

variable (r : Reading)

theorem toInt_nanoseconds :
    (ethernetifPtpGetTime r).nanoseconds.toInt = r.low.subseconds.toNat := by
  have hlt := r.low.subseconds_lt
  have hword := toInt_toInt32 r.low.subseconds
  rw [if_pos (by omega)] at hword
  exact hword

theorem toInt_seconds :
    (ethernetifPtpGetTime r).seconds.toInt =
      if r.high.seconds.toNat < 2147483648 then (r.high.seconds.toNat : ℤ)
      else r.high.seconds.toNat - 4294967296 :=
  toInt_toInt32 r.high.seconds

/-- **A reading lies between its instants** exactly when there is no carry. -/
theorem between_iff : r.Between ↔ r.NoCarry := by
  have hns := toInt_nanoseconds r
  have hsec := toInt_seconds r
  have hlow := r.low.subseconds_lt
  have hhigh := r.high.subseconds_lt
  have hordered := r.ordered
  have hword := r.high.seconds.toNat_lt
  simp only [Reading.Between, Reading.NoCarry, TimeInternal.toNs, Instant.toNs] at *
  rw [hns, hsec]
  -- a reading without a carry is that of the later instant, less than a second before it
  split <;> omega

theorem subSecond_reading : SubSecond (ethernetifPtpGetTime r) := by
  have hlt := r.low.subseconds_lt
  unfold SubSecond
  rw [toInt_nanoseconds]
  exact ⟨by omega, by omega⟩

end Between

/-- The time that a step of the clock passes to `setTime`: the reading less the offset. -/
def stepTarget (s : System) : TimeInternal :=
  subTime (getTime s) s.ptpClock.currentDS.offsetFromMaster

theorem stepClock_history (s : System) :
    ∃ newer, (stepClock s).history = newer ++ .setTime (stepTarget s) :: s.history := by
  obtain ⟨addend, adjusted, h, -⟩ := initClock_eq (setTime (stepTarget s) s)
  refine ⟨adjusted ++ [.clockInit], ?_⟩
  show (initClock (setTime (stepTarget s) s)).history = _
  rw [h, List.append_assoc]
  rfl

/-- A step sets the clock to its target, unless that lies before the time zero. -/
theorem stepClock_time {s : System} (h : 0 ≤ (stepTarget s).toNs) :
    (stepClock s).time = stepTarget s := by
  have hset : (stepClock s).time = (ethernetifPtpSetTime (stepTarget s) s).time := by
    unfold stepClock initClock
    dsimp only
    split <;> rfl
  obtain ⟨hlo, hhi, hpos, hneg⟩ := subTime_canonical (getTime s)
    s.ptpClock.currentDS.offsetFromMaster
  change -1000000000 < (stepTarget s).nanoseconds.toInt at hlo
  change (stepTarget s).nanoseconds.toInt < 1000000000 at hhi
  change (stepTarget s).seconds.toInt < 0 → (stepTarget s).nanoseconds.toInt ≤ 0 at hneg
  have hzero : (0 : Int32).toInt = 0 := rfl
  rw [hset]
  refine if_neg ?_
  simp only [Int32.lt_iff_toInt_lt, ← Int32.toInt_inj, hzero]
  unfold TimeInternal.toNs at h
  omega

/-- Calls one after the other. -/
def Successive (readings : List Reading) : Prop :=
  readings.IsChain fun r r' => r.high.toNs ≤ r'.low.toNs

/-- **What readings must satisfy**: each lies between its instants, they never go backwards, and a
step of the clock by an offset starts from a time between the instants. The clock cannot be set to
a time before zero. -/
structure ReadsConsistently (readings : List Reading) : Prop where
  between : ∀ r ∈ readings, r.Between
  forward : readings.Pairwise fun r r' =>
    (ethernetifPtpGetTime r).toNs ≤ (ethernetifPtpGetTime r').toNs
  step : ∀ r ∈ readings, ∀ s : System,
    let offset := s.ptpClock.currentDS.offsetFromMaster
    SubSecond offset →
      FitsStrictly ((ethernetifPtpGetTime r).seconds.toInt - offset.seconds.toInt) →
        ∃ target newer, (stepClock (s.read r)).history = newer ++ .setTime target :: s.history ∧
          r.low.toNs ≤ target.toNs + offset.toNs ∧ target.toNs + offset.toNs ≤ r.high.toNs ∧
            (0 ≤ target.toNs → (stepClock (s.read r)).time = target)

/-- The instants of successive calls are ordered as the calls are. -/
theorem Successive.ordered {readings : List Reading} (h : Successive readings) :
    readings.Pairwise fun r r' => r.high.toNs ≤ r'.low.toNs := by
  have htrans : IsTrans Reading fun r r' => r.high.toNs ≤ r'.low.toNs :=
    ⟨fun _ r' _ h₁ h₂ => (h₁.trans r'.ordered).trans h₂⟩
  exact List.isChain_iff_pairwise.mp h

/-- **The readings of a run are consistent** exactly when the nanosecond counter never rolls over
between the two reads of a call. -/
theorem reads_consistently_iff {readings : List Reading} (h : Successive readings) :
    ReadsConsistently readings ↔ ∀ r ∈ readings, r.NoCarry := by
  constructor
  · intro hreads r hr
    exact (between_iff r).mp (hreads.between r hr)
  · intro hnone
    have hbetween : ∀ r ∈ readings, r.Between := fun r hr => (between_iff r).mpr (hnone r hr)
    -- readings between their instants are ordered, and a step keeps within them
    refine ⟨hbetween, ?_, ?_⟩
    · refine h.ordered.imp_of_mem ?_
      intro r r' hr hr' hle
      exact ((hbetween r hr).2.trans hle).trans (hbetween r' hr').1
    · intro r hr s offset hoffset hfits
      have htarget : (stepTarget (s.read r)).toNs =
          (ethernetifPtpGetTime r).toNs - offset.toNs :=
        toNs_subTime_of_fits (subSecond_reading r) hoffset hfits
      obtain ⟨newer, hhistory⟩ := stepClock_history (s.read r)
      obtain ⟨hlow, hhigh⟩ := hbetween r hr
      refine ⟨stepTarget (s.read r), newer, hhistory, ?_, ?_, stepClock_time⟩
      · rw [htarget]
        omega
      · rw [htarget]
        omega

/-- The seconds register is read one nanosecond after the nanoseconds, which roll over. -/
def carried : Reading :=
  { low := ⟨5, 999999999, by decide⟩, high := ⟨6, 0, by decide⟩, ordered := by decide }

/-- Two readings a second apart. -/
def apart : List Reading :=
  [⟨⟨5, 10, by decide⟩, ⟨5, 30, by decide⟩, by decide⟩,
    ⟨⟨6, 10, by decide⟩, ⟨6, 30, by decide⟩, by decide⟩]

theorem reads_consistently_apart :
    ReadsConsistently apart ↔ ∀ r ∈ apart, r.NoCarry :=
  reads_consistently_iff (by unfold Successive apart; simp [Instant.toNs])

/-- A reading across the end of a second is ahead of the clock. -/
theorem reading_ahead : ¬∀ readings, Successive readings → ReadsConsistently readings := by
  intro h
  have hbetween := (h [carried] (List.isChain_singleton _)).between carried List.mem_cons_self
  revert hbetween
  unfold Reading.Between
  decide

end Ptpd
