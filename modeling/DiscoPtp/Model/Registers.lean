import DiscoPtp.Model.Servo

/-!
# The registers of the PTP clock

The two time registers of the Ethernet controller. The clock runs on between the reads of
`ethernetif_ptp_get_time`, so the two values may be those of different instants.

## Main definitions

* `Instant`: what the registers hold at one instant
* `Reading`: the instants of the two reads of one call
* `ethernetifPtpGetTime`: the time a call returns
-/

namespace Ptpd

/-- The time registers at one instant. With digital rollover the subsecond counter runs to
`999999999`. -/
structure Instant where
  /-- `PTPTSHR`. -/
  seconds : UInt32
  /-- `PTPTSLR`. -/
  subseconds : UInt32
  subseconds_lt : subseconds.toNat < 1000000000

/-- The value of an instant in nanoseconds. -/
def Instant.toNs (t : Instant) : ℤ := 1000000000 * t.seconds.toNat + t.subseconds.toNat

/-- The reads of one call: `PTPTSLR` is read at `low`, and `PTPTSHR` not before that, at `high`. -/
structure Reading where
  low : Instant
  high : Instant
  ordered : low.toNs ≤ high.toNs

/-- `subsecond_to_nanosecond` with digital rollover. -/
def subsecondToNanosecond (subSecondValue : UInt32) : UInt32 := subSecondValue

/-- `ethernetif_ptp_get_time`. -/
def ethernetifPtpGetTime (r : Reading) : TimeInternal :=
  { nanoseconds := (subsecondToNanosecond r.low.subseconds).toInt32
    seconds := r.high.seconds.toInt32 }

/-- The state in which `getTime` returns what a call of `ethernetif_ptp_get_time` has read. -/
def System.read (s : System) (r : Reading) : System := { s with time := ethernetifPtpGetTime r }

end Ptpd
