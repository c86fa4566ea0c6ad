import DiscoPtp.Library.History
import DiscoPtp.Properties.Calibration

/-!
# The interval of the delay requests

The interval comes from the network: every accepted DelayResp sets it. It goes unchecked into a
shift and into the divisor of a remainder.

## Main definitions

* `InRange`: the intervals for which both are defined
* `lastInterval`: the interval of the last accepted DelayResp

## Main results

* `delayReqInterval_isSome_iff`: which intervals are defined
* `intervals_defined`: every interval of a run is defined, as long as the accepted ones are in range
-/

namespace Ptpd

open History

/-- The intervals that `pow2ms` and `getRand` are defined for. -/
def InRange (logMinDelayReqInterval : Int8) : Prop :=
  -10 ≤ logMinDelayReqInterval.toInt ∧ logMinDelayReqInterval.toInt ≤ 20

instance (l : Int8) : Decidable (InRange l) := inferInstanceAs (Decidable (_ ∧ _))

/-! ## The arithmetic -/

/-- `pow2ms` is defined, and not zero, from `-9` to `21`. -/
theorem pow2ms_pos_iff (a : Int) : (∃ m, pow2ms a = some m ∧ m ≠ 0) ↔ -9 ≤ a ∧ a ≤ 21 := by
  unfold pow2ms
  by_cases ha : 0 < a
  · rw [if_pos ha]
    constructor
    · rintro ⟨m, hm, -⟩
      split at hm
      · rename_i hlt
        refine ⟨by omega, ?_⟩
        by_contra hgt
        have hpow : (2 : ℤ) ^ 22 ≤ 2 ^ a.toNat := pow_le_pow_right₀ (by decide) (by omega)
        omega
      · cases hm
    · rintro ⟨-, hle⟩
      have hpow : (2 : ℤ) ^ a.toNat ≤ 2 ^ 21 := pow_le_pow_right₀ (by decide) (by omega)
      have hpos : (0 : ℤ) < 2 ^ a.toNat := by positivity
      exact ⟨1000 * 2 ^ a.toNat, if_pos ⟨by omega, by omega⟩, by omega⟩
  · rw [if_neg ha]
    constructor
    · rintro ⟨m, hm, hne⟩
      split at hm
      · refine ⟨?_, by omega⟩
        by_contra hlt
        have hpow : (2 : ℤ) ^ 10 ≤ 2 ^ (-a).toNat := pow_le_pow_right₀ (by decide) (by omega)
        refine hne ?_
        rw [← Option.some.inj hm]
        exact Int.ediv_eq_zero_of_lt (by decide) (by omega)
      · cases hm
    · rintro ⟨hge, -⟩
      have hpow : (2 : ℤ) ^ (-a).toNat ≤ 2 ^ 9 := pow_le_pow_right₀ (by decide) (by omega)
      have hpos : (0 : ℤ) < 2 ^ (-a).toNat := by positivity
      refine ⟨1000 / 2 ^ (-a).toNat, if_pos (by omega), ?_⟩
      have hone : 1 ≤ 1000 / (2 : ℤ) ^ (-a).toNat := (Int.le_ediv_iff_mul_le hpos).mpr (by omega)
      omega

theorem getRand_isSome_iff (rand : UInt32) (randMax : Option Int) :
    (getRand rand randMax).isSome ↔ ∃ m, randMax = some m ∧ m ≠ 0 := by
  cases randMax with
  | none => simp [getRand]
  | some m =>
    by_cases hm : m = 0
    · simp [getRand, hm]
    · simp [getRand, hm]

/-- The interval is defined exactly in the range. -/
theorem delayReqInterval_isSome_iff (env : Env) (l : Int8) :
    (delayReqInterval env l).isSome ↔ InRange l := by
  rw [delayReqInterval, getRand_isSome_iff, pow2ms_pos_iff, InRange]
  constructor <;> rintro ⟨_, _⟩ <;> constructor <;> omega

/-! ## Along runs -/

/-- The interval that an entry has taken from the network. -/
def Entry.interval? : Entry → Option Int8
  | .delay resp _ _ _ _ => some resp.logMessageInterval
  | _ => none

/-- The interval of the last accepted DelayResp. -/
def lastInterval (history : List Entry) : Option Int8 := latest Entry.interval? history

/-- An interval between requests is defined if the last accepted one was in range. -/
def DefinedInterval : Entry → List Entry → Prop
  | .timerStart .delayReqInterval interval, older =>
    (∀ l, lastInterval older = some l → InRange l) → interval.isSome
  | _, _ => True

/-- The interval is the default, or the one of the last accepted DelayResp. -/
structure IntervalInv (l : Ledger) : Prop where
  current : l.logMinDelayReqInterval = defaultDelayReqInterval ∨
    lastInterval l.history = some l.logMinDelayReqInterval
  defined : Every DefinedInterval l.history

theorem lastInterval_cons {e : Entry} (h : e.interval? = none) (history : List Entry) :
    lastInterval (e :: history) = lastInterval history :=
  latest_cons_of_none h history

/-- An entry that says nothing about the interval. -/
theorem IntervalInv.logged {l l' : Ledger} (hi : IntervalInv l) {e : Entry}
    (hh : l'.history = e :: l.history) (he : e.interval? = none)
    (hd : DefinedInterval e l.history)
    (hl : l'.logMinDelayReqInterval = l.logMinDelayReqInterval) : IntervalInv l' := by
  constructor
  · rw [hl, hh, lastInterval_cons he]
    exact hi.current
  · rw [hh]
    exact every_cons.mpr ⟨hd, hi.defined⟩

theorem Entry.IsOther.no_interval {e : Entry} (h : e.IsOther) (history : List Entry) :
    e.interval? = none ∧ DefinedInterval e history := by
  cases e with
  | timerStart timer interval =>
    cases timer with
    | delayReqInterval => exact absurd rfl h
    | _ => exact ⟨rfl, trivial⟩
  | delay _ _ _ _ _ => exact h.elim
  | _ => exact ⟨rfl, trivial⟩

theorem preserves_intervalInv : Transition.Preserves LedgerStep IntervalInv := by
  intro l l' h hi
  cases h
  case other e he =>
    obtain ⟨hnone, hd⟩ := he.no_interval l.history
    exact hi.logged rfl hnone hd rfl
  case initData => exact ⟨.inl rfl, hi.defined⟩
  case resetDelayReqInterval => exact ⟨.inl rfl, hi.defined⟩
  case startDelayReqInterval env =>
    refine hi.logged rfl rfl (fun hrange => ?_) rfl
    rw [delayReqInterval_isSome_iff]
    rcases hi.current with hdefault | hlast
    · rw [hdefault]
      decide
    · exact hrange _ hlast
  case delay resp stamp old correction h =>
    exact ⟨.inr rfl, every_cons.mpr ⟨trivial, hi.defined⟩⟩
  all_goals exact hi.logged rfl rfl trivial rfl

/-- **The interval is defined** exactly in the range, and every interval of a run is, as long as the
DelayResps accepted before are in range. -/
theorem intervals_defined (env : Env) (l : Int8) :
    ((delayReqInterval env l).isSome ↔ InRange l) ∧
      ∀ (rtOpts : RunTimeOpts) (s : System), Reachable rtOpts s →
        Every DefinedInterval s.history := by
  refine ⟨delayReqInterval_isSome_iff env l, fun rtOpts s hs => ?_⟩
  have hboot : IntervalInv (boot rtOpts).ledger := by
    obtain ⟨_, heq, _⟩ := boot_eq rtOpts
    rw [heq]
    exact ⟨.inl rfl, every_nil _⟩
  exact (hs.visited.of_ledger preserves_intervalInv hboot).defined

/-! ## A slave that has been given an interval -/

/-- The times of a Sync of the master, as they arrive. -/
def synchronise (sequenceId : Int16) (seconds : UInt32) : List Stimulus :=
  let master := station 1 { ptpdOpts with priority1 := 100 }
  eventArrival (syncOf master sequenceId ⟨0, seconds, 0⟩) (atSecond seconds.toInt32) ++
    [.doState plainEnv] ++
    generalArrival (followUpOf master sequenceId ⟨0, seconds, 0⟩) (atSecond seconds.toInt32) ++
    [.doState plainEnv]

/-- The answer of the master to the first request, with its interval between requests. -/
def firstDelayResp (interval : Int8) : List UInt8 :=
  let master := station 1 { ptpdOpts with priority1 := 100 }
  delayRespOf { master with portDS := { master.portDS with logMinDelayReqInterval := interval } }
    { (default : MsgHeader) with
      sourcePortIdentity := (station 0 ptpdOpts).portDS.portIdentity }
    ⟨0, 6, 0⟩

/-- A slave has sent its first request, has been given an interval and sends the second request. -/
def requesting (interval : Int8) : System :=
  calibratedSlave.after
    ([.interrupt (.timerCallback .delayReqInterval)] ++ synchronise 6 6 ++
      generalArrival (firstDelayResp interval) (atSecond 6) ++ [.doState plainEnv] ++
      [.interrupt (.timerCallback .delayReqInterval)] ++ synchronise 7 7)

theorem requesting_reachable (interval : Int8) : Reachable ptpdOpts (requesting interval) :=
  calibratedSlave_reachable.after _

theorem intervals_defined_requesting : Every DefinedInterval (requesting 1).history :=
  (intervals_defined plainEnv 1).2 ptpdOpts _ (requesting_reachable 1)

/-- With the interval `0x7F` the second request is scheduled by an undefined shift. -/
theorem not_all_intervals_defined :
    ¬∀ (rtOpts : RunTimeOpts) (s : System), Reachable rtOpts s → ∀ interval,
      .timerStart .delayReqInterval interval ∈ s.history → interval.isSome := by
  intro h
  have hnone : .timerStart .delayReqInterval none ∈ (requesting 127).history := by decide +kernel
  have hsome := h ptpdOpts _ (requesting_reachable 127) none hnone
  cases hsome

end Ptpd
