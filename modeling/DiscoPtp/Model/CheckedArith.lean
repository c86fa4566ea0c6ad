import DiscoPtp.Model.Arith
import DiscoPtp.Library.CheckedWord

/-!
# Time arithmetic in memory

The functions of `arith.c`, statement by statement: each one reads and writes the fields of the
`TimeInternal`s its arguments point to, which may be the same, and has no result when a signed
operation overflows.

## Main definitions

* `Times`: a memory of `TimeInternal`s
* `InMemory.normalizeTime`, `InMemory.addTime`, `InMemory.subTime`, `InMemory.div2Time`
* `InMemory.scaledNanosecondsToInternalTime`
-/

namespace Ptpd

open CheckedWord

/-- The `TimeInternal`s of a memory with the addresses `Loc`. -/
abbrev Times (Loc : Type) := Loc → TimeInternal

namespace InMemory

variable {Loc : Type} [DecidableEq Loc]

/-- `r->seconds = x`. -/
def storeSeconds (r : Loc) (x : Int32) (m : Times Loc) : Times Loc :=
  Function.update m r { m r with seconds := x }

/-- `r->nanoseconds = x`. -/
def storeNanoseconds (r : Loc) (x : Int32) (m : Times Loc) : Times Loc :=
  Function.update m r { m r with nanoseconds := x }

/-- `normalizeTime`. -/
def normalizeTime (r : Loc) (m : Times Loc) : Option (Times Loc) := do
  let carry ← div (m r).nanoseconds 1000000000
  let m := storeSeconds r (← add (m r).seconds carry) m
  let carry ← div (m r).nanoseconds 1000000000
  let m := storeNanoseconds r (← sub (m r).nanoseconds (← mul carry 1000000000)) m
  if 0 < (m r).seconds ∧ (m r).nanoseconds < 0 then
    let m := storeSeconds r (← sub (m r).seconds 1) m
    return storeNanoseconds r (← add (m r).nanoseconds 1000000000) m
  else if (m r).seconds < 0 ∧ 0 < (m r).nanoseconds then
    let m := storeSeconds r (← add (m r).seconds 1) m
    return storeNanoseconds r (← sub (m r).nanoseconds 1000000000) m
  else return m

/-- `addTime`. -/
def addTime (r x y : Loc) (m : Times Loc) : Option (Times Loc) := do
  let m := storeSeconds r (← add (m x).seconds (m y).seconds) m
  let m := storeNanoseconds r (← add (m x).nanoseconds (m y).nanoseconds) m
  normalizeTime r m

/-- `subTime`. -/
def subTime (r x y : Loc) (m : Times Loc) : Option (Times Loc) := do
  let m := storeSeconds r (← sub (m x).seconds (m y).seconds) m
  let m := storeNanoseconds r (← sub (m x).nanoseconds (m y).nanoseconds) m
  normalizeTime r m

/-- `div2Time`. -/
def div2Time (r : Loc) (m : Times Loc) : Option (Times Loc) := do
  let odd ← mul (← mod (m r).seconds 2) 1000000000
  let m := storeNanoseconds r (← add (m r).nanoseconds odd) m
  let m := storeSeconds r (← div (m r).seconds 2) m
  let m := storeNanoseconds r (← div (m r).nanoseconds 2) m
  normalizeTime r m

/-- `scaledNanosecondsToInternalTime`, with its result by value: `internal` is written only. -/
def scaledNanosecondsToInternalTime (scaledNanoseconds : Int64) : Option TimeInternal := do
  let sign : Int64 := if scaledNanoseconds < 0 then -1 else 1
  let nanoseconds ←
    if scaledNanoseconds < 0 then neg scaledNanoseconds else some scaledNanoseconds
  -- fractional nanoseconds are excluded
  let nanoseconds := nanoseconds >>> 16
  let seconds ← mul sign (← div nanoseconds 1000000000)
  let nanoseconds ← mul sign (← mod nanoseconds 1000000000)
  return { seconds := seconds.toInt32, nanoseconds := nanoseconds.toInt32 }

end InMemory

end Ptpd
