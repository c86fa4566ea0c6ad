import DiscoPtp.Library.LinkedChain

/-!
# Chains of receive buffers

`HAL_ETH_RxLinkCallback` of `ethernetif.c`, which the Ethernet driver calls for each buffer of a
received packet. A `pbuf` and its buffer are parts of one element of the receive pool, so either
gives the address of the other.

## Main definitions

* `PbufHeader`, `RxPacket`: a `pbuf` of the pool, and the packet under construction
* `halEthRxLinkCallback`: the callback
* `linkAll`: the calls for one packet
-/

namespace Ptpd

open LinkedChain

/-- The fields of a `pbuf` of the receive pool that the callback writes. -/
structure PbufHeader (Loc : Type) where
  next : Option Loc
  totLen : UInt16
  len : UInt16
  deriving DecidableEq

/-- `p->tot_len += Length`. -/
def PbufHeader.addLength {Loc : Type} (length : UInt16) (p : PbufHeader Loc) : PbufHeader Loc :=
  { p with totLen := p.totLen + length }

/-- The memory of the pool, and `*pStart` and `*pEnd`. -/
structure RxPacket (Loc : Type) where
  heap : Loc → PbufHeader Loc
  pStart : Option Loc
  pEnd : Option Loc

variable {Loc : Type} [DecidableEq Loc]

/-- `HAL_ETH_RxLinkCallback`. Its loop is cut off after `fuel` tests. -/
def halEthRxLinkCallback (fuel : ℕ) (s : RxPacket Loc) (buff : Loc) (length : UInt16) :
    Option (RxPacket Loc) := do
  let p := buff
  let heap :=
    Function.update s.heap p { next := none, totLen := 0, len := length }
  let (pStart, heap) ←
    match s.pStart with
    -- the first buffer of the packet
    | none => some (p, heap)
    -- `*pEnd` is dereferenced
    | some pStart =>
      s.pEnd.map fun pEnd => (pStart, Function.update heap pEnd { heap pEnd with next := some p })
  let heap ← forEach PbufHeader.next (PbufHeader.addLength length) fuel (some pStart) heap
  return { heap, pStart := some pStart, pEnd := some p }

/-- The calls for the buffers of one packet. -/
def linkAll (fuel : ℕ) (s : RxPacket Loc) : List (Loc × UInt16) → Option (RxPacket Loc)
  | [] => some s
  | call :: calls => (halEthRxLinkCallback fuel s call.1 call.2).bind fun s => linkAll fuel s calls

end Ptpd
