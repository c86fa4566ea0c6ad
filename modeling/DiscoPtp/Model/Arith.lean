import DiscoPtp.Model.Datatypes

/-!
# Time arithmetic

The functions of `arith.c`. Signed arithmetic wraps as on the target; shifts of signed values are
`sar` and `shl`.

## Main definitions

* `scaledNanosecondsToInternalTime`, `fromInternalTime`, `toInternalTime`: conversions
* `normalizeTime`, `addTime`, `subTime`, `div2Time`: arithmetic of `TimeInternal`
* `floorLog2`: the integer logarithm
-/

namespace Ptpd

/-- `x >> k` on `int32_t`: the arithmetic shift. -/
def sar (x : Int32) (k : ℕ) : Int32 := Int32.ofInt (x.toInt / 2 ^ k)

/-- `x << k` on `int32_t`, keeping the low 32 bits. -/
def shl (x : Int32) (k : ℕ) : Int32 := Int32.ofInt (x.toInt * 2 ^ k)

/-- `scaledNanosecondsToInternalTime`. -/
def scaledNanosecondsToInternalTime (scaledNanoseconds : Int64) : TimeInternal :=
  let sign : Int64 := if scaledNanoseconds < 0 then -1 else 1
  let nanoseconds := if scaledNanoseconds < 0 then -scaledNanoseconds else scaledNanoseconds
  -- fractional nanoseconds are excluded
  let nanoseconds := nanoseconds >>> 16
  { seconds := (sign * (nanoseconds / 1000000000)).toInt32
    nanoseconds := (sign * (nanoseconds % 1000000000)).toInt32 }

/-- `fromInternalTime`: a negative time leaves `external` as it was. -/
def fromInternalTime (internal : TimeInternal) (external : Timestamp) : Timestamp :=
  if internal.seconds < 0 ∨ internal.nanoseconds < 0 then external
  else
    { secondsLsb := internal.seconds.toUInt32
      nanosecondsField := internal.nanoseconds.toUInt32
      secondsMsb := 0 }

/-- `toInternalTime`: seconds from `INT_MAX` on leave `internal` as it was; the upper half-word of
the seconds field is not looked at. -/
def toInternalTime (internal : TimeInternal) (external : Timestamp) : TimeInternal :=
  if external.secondsLsb < 2147483647 then
    { seconds := external.secondsLsb.toInt32, nanoseconds := external.nanosecondsField.toInt32 }
  else internal

/-- `normalizeTime`. -/
def normalizeTime (r : TimeInternal) : TimeInternal :=
  let seconds := r.seconds + r.nanoseconds / 1000000000
  let nanoseconds := r.nanoseconds - r.nanoseconds / 1000000000 * 1000000000
  if 0 < seconds ∧ nanoseconds < 0 then
    { seconds := seconds - 1, nanoseconds := nanoseconds + 1000000000 }
  else if seconds < 0 ∧ 0 < nanoseconds then
    { seconds := seconds + 1, nanoseconds := nanoseconds - 1000000000 }
  else { seconds, nanoseconds }

/-- `addTime`. -/
def addTime (x y : TimeInternal) : TimeInternal :=
  normalizeTime { seconds := x.seconds + y.seconds, nanoseconds := x.nanoseconds + y.nanoseconds }

/-- `subTime`. -/
def subTime (x y : TimeInternal) : TimeInternal :=
  normalizeTime { seconds := x.seconds - y.seconds, nanoseconds := x.nanoseconds - y.nanoseconds }

/-- `div2Time`. -/
def div2Time (r : TimeInternal) : TimeInternal :=
  let nanoseconds := r.nanoseconds + r.seconds % 2 * 1000000000
  normalizeTime { seconds := r.seconds / 2, nanoseconds := nanoseconds / 2 }

/-- `floorLog2`: the position of the highest bit, `-1` for zero. -/
def floorLog2 (n : UInt32) : Int :=
  if n = 0 then -1
  else
    let (n, pos) := if n ≥ 0x10000 then (n >>> 16, 16) else (n, 0)
    let (n, pos) := if n ≥ 0x100 then (n >>> 8, pos + 8) else (n, pos)
    let (n, pos) := if n ≥ 0x10 then (n >>> 4, pos + 4) else (n, pos)
    let (n, pos) := if n ≥ 0x4 then (n >>> 2, pos + 2) else (n, pos)
    if n ≥ 0x2 then pos + 1 else pos

end Ptpd
