import DiscoPtp.Model.Datatypes

/-!
# Receive queues

The packet queues of `net.c` and the copy loop of `netRecv`. Each queue operation runs under the
queue's mutex.

## Main definitions

* `netQInit`, `netQPut`, `netQGet`, `netQEmpty`, `netQCheck`: the queue operations
* `netQEmptyFrees`: what `netQEmpty` frees
* `copyPbuf`: the byte-wise copy of a `pbuf` chain
* `netSelect`, `netEmptyEventQ`: polling and flushing
-/

namespace Ptpd

section Queue

variable {α : Type}

/-- `netQInit`. -/
def netQInit (queue : BufQueue α) : BufQueue α := { queue with head := 0, tail := 0 }

/-- `netQPut`: `false` when the queue is full. -/
def netQPut (queue : BufQueue α) (p : α) : Bool × BufQueue α :=
  -- one slot stays free, so that a full queue differs from an empty one
  if queue.head + 1 ≠ queue.tail then
    (true, { queue with
      head := queue.head + 1, pbuf := Function.update queue.pbuf (queue.head + 1) p })
  else (false, queue)

/-- `netQGet`. -/
def netQGet (queue : BufQueue α) : Option α × BufQueue α :=
  if queue.tail ≠ queue.head then
    (some (queue.pbuf (queue.tail + 1)), { queue with tail := queue.tail + 1 })
  else (none, queue)

/-- The loop of `netQEmpty`, at most `n` rounds. -/
def netQEmptyLoop : ℕ → BufQueue α → BufQueue α
  | 0, queue => queue
  | n + 1, queue =>
    if queue.tail ≠ queue.head then netQEmptyLoop n { queue with tail := queue.tail + 1 } else queue

/-- `netQEmpty`. Three rounds reach the head from any tail. -/
def netQEmpty (queue : BufQueue α) : BufQueue α := netQEmptyLoop 3 queue

/-- The calls of `pbuf_free` in the loop of `netQEmpty`. -/
def netQEmptyLoopFrees : ℕ → BufQueue α → List α
  | 0, _ => []
  | n + 1, queue =>
    if queue.tail ≠ queue.head then
      queue.pbuf (queue.tail + 1) :: netQEmptyLoopFrees n { queue with tail := queue.tail + 1 }
    else []

/-- The calls of `pbuf_free` in `netQEmpty`. -/
def netQEmptyFrees (queue : BufQueue α) : List α := netQEmptyLoopFrees 3 queue

/-- `netQCheck`. -/
def netQCheck (queue : BufQueue α) : Bool := queue.tail ≠ queue.head

theorem netQEmpty_eq (queue : BufQueue α) :
    netQEmpty queue = { queue with tail := queue.head } := by
  obtain ⟨pbuf, head, tail⟩ := queue
  fin_cases head <;> fin_cases tail <;> rfl

end Queue

/-- `netSelect`: whether a queue holds something. -/
def netSelect (netPath : NetPath) : Int :=
  if netQCheck netPath.eventQ || netQCheck netPath.generalQ then 1 else 0

/-- `netEmptyEventQ`. -/
def netEmptyEventQ (netPath : NetPath) : NetPath :=
  { netPath with eventQ := netQEmpty netPath.eventQ }

/-- The copy loop of `netRecv`: `n` more bytes to `buf[i..]`, the next one being byte `j` of the
first segment. Past the last segment the program would follow a null pointer; the copy stops. -/
def copyPbuf : ℕ → Buf → ℕ → ℕ → List PbufSegment → Buf
  | 0, buf, _, _, _ => buf
  | _ + 1, buf, _, _, [] => buf
  | n + 1, buf, i, j, pcopy :: next =>
    let buf := fun k => if k = i then pcopy.payload j else buf k
    if j + 1 = pcopy.len then copyPbuf n buf (i + 1) 0 next
    else copyPbuf n buf (i + 1) (j + 1) (pcopy :: next)

end Ptpd
