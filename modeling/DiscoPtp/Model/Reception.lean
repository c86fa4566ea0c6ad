import DiscoPtp.Model.System

/-!
# Reception of one datagram

`netRecv` with what it does to the memory of the datagram: the octets it reads and the chains it
frees.

## Main definitions

* `copyReads`: the octets that the copy loop reads
* `Received`, `receiveDatagram`: what `netRecv` does with the datagram it has taken from its queue
-/

namespace Ptpd

/-- The reads of the copy loop of `netRecv`, as a segment and an index into its payload: `n` more
octets, the next one being octet `j` of the first segment. -/
def copyReads : ℕ → ℕ → List PbufSegment → List (PbufSegment × ℕ)
  | 0, _, _ => []
  | _ + 1, _, [] => []
  | n + 1, j, pcopy :: next =>
    (pcopy, j) ::
      (if j + 1 = pcopy.len then copyReads n 0 next else copyReads n (j + 1) (pcopy :: next))

/-- What `netRecv` does with a datagram. -/
structure Received where
  /-- The return value. -/
  length : ℕ
  buf : Buf
  time : TimeInternal
  /-- The octets read from the payloads. -/
  reads : List (PbufSegment × ℕ)
  /-- The chains handed to `pbuf_free`. -/
  freed : List Pbuf

/-- `netRecv` after `netQGet`, with the receive timestamp of the driver. -/
def receiveDatagram (p : Pbuf) (rxTimeStamp : TimeInternal) (buf : Buf) (time : TimeInternal) :
    Received :=
  if p.totLen > packetSize then { length := 0, buf, time, reads := [], freed := [p] }
  else if p.totLen = 0 then { length := 0, buf, time, reads := [], freed := [p] }
  else
    { length := p.totLen
      buf := copyPbuf p.totLen buf 0 0 p.chain
      time := rxTimeStamp
      reads := copyReads p.totLen 0 p.chain
      freed := [p] }

end Ptpd
