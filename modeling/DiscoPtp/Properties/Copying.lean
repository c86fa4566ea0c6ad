import DiscoPtp.Model.Reception

/-!
# Copies of received datagrams

The copy loop of `netRecv` goes to the next segment when its cursor stands at the end of the
present one. It compares after it has read, so it reads an octet of an empty segment too, and never
leaves it again.

## Main definitions

* `Pbuf.WellFormed`, `Pbuf.NoGap`: chains of the right total length, and without empty segments
  before others
* `ReceivesFaithfully`: what `netRecv` must do with a datagram

## Main results

* `copyReads_eq`: without gaps the loop reads the octets of the segments in order
* `noGap_of_inside`: a loop that reads inside of the segments has met no gap
* `receives_faithfully_iff`: a datagram is received faithfully exactly when it has no gap
-/

namespace Ptpd

/-! ## Chains -/

/-- The octets of the segments, as reads. -/
def chainReads (chain : List PbufSegment) : List (PbufSegment × ℕ) :=
  chain.flatMap fun seg => (List.range seg.len).map fun j => (seg, j)

/-- The octets of the segments one after the other. -/
def chainBytes (chain : List PbufSegment) : List UInt8 :=
  chain.flatMap fun seg => (List.range seg.len).map seg.payload

/-- The total length of the segments. -/
def chainLength (chain : List PbufSegment) : ℕ := (chain.map PbufSegment.len).sum

/-- A read inside of its segment. -/
def Inside (read : PbufSegment × ℕ) : Prop := read.2 < read.1.len

/-- The total length is the sum of the lengths of the segments. -/
structure Pbuf.WellFormed (p : Pbuf) : Prop where
  chain : p.chain ≠ []
  totLen : p.totLen = chainLength p.chain

/-- No empty segment stands before one that is not empty. -/
def NoGap (chain : List PbufSegment) : Prop := chain.Pairwise fun a b => a.len = 0 → b.len = 0

section Chain

variable {seg : PbufSegment} {next : List PbufSegment}

@[simp] theorem chainLength_cons :
    chainLength (seg :: next) = seg.len + chainLength next := by
  simp [chainLength]

@[simp] theorem chainReads_cons :
    chainReads (seg :: next) = (List.range seg.len).map (fun j => (seg, j)) ++ chainReads next := by
  simp [chainReads]

theorem chainReads_bytes (chain : List PbufSegment) :
    (chainReads chain).map (fun read => read.1.payload read.2) = chainBytes chain := by
  simp [chainReads, chainBytes, List.map_flatMap, Function.comp_def]

theorem chainReads_inside (chain : List PbufSegment) : ∀ read ∈ chainReads chain, Inside read := by
  intro read hread
  obtain ⟨seg, -, j, hj, rfl⟩ : ∃ seg ∈ chain, ∃ j < seg.len, (seg, j) = read := by
    simpa [chainReads] using hread
  exact hj

theorem length_chainReads (chain : List PbufSegment) :
    (chainReads chain).length = chainLength chain := by
  induction chain with
  | nil => rfl
  | cons seg next ih => rw [chainReads_cons, chainLength_cons]; simp [ih]

theorem chainLength_eq_zero {chain : List PbufSegment} :
    chainLength chain = 0 ↔ ∀ seg ∈ chain, seg.len = 0 := by
  simp [chainLength, List.sum_eq_zero_iff]

/-- After an empty segment there is nothing. -/
theorem NoGap.length_of_empty (h : NoGap (seg :: next)) (hseg : seg.len = 0) :
    chainLength (seg :: next) = 0 := by
  rw [chainLength_eq_zero]
  intro a ha
  rcases List.mem_cons.mp ha with rfl | ha
  · exact hseg
  · exact (List.pairwise_cons.mp h).1 a ha hseg

/-- A chain of empty segments has no gap. -/
theorem noGap_of_length (h : chainLength next = 0) : NoGap next :=
  List.pairwise_of_forall_mem_list fun _ _ b hb _ => chainLength_eq_zero.mp h b hb

end Chain

/-! ## The loop -/

/-- What the copy writes is what it reads. -/
theorem copyPbuf_eq (n : ℕ) : ∀ (buf : Buf) (i j : ℕ) (chain : List PbufSegment) (k : ℕ),
    copyPbuf n buf i j chain k =
      if i ≤ k then
        ((copyReads n j chain)[k - i]?.map fun read => read.1.payload read.2).getD (buf k)
      else buf k := by
  induction n with
  | zero =>
    intro buf i j chain k
    simp [copyPbuf, copyReads]
  | succ n ih =>
    intro buf i j chain k
    cases chain with
    | nil => simp [copyPbuf, copyReads]
    | cons pcopy next =>
      -- the octet at `i` is written now, those after it by the rest of the loop
      have hrest (j' : ℕ) (chain' : List PbufSegment) :
          copyPbuf n (fun k => if k = i then pcopy.payload j else buf k) (i + 1) j' chain' k =
            if i ≤ k then
              (((pcopy, j) :: copyReads n j' chain')[k - i]?.map
                fun read => read.1.payload read.2).getD (buf k)
            else buf k := by
        rw [ih]
        rcases Nat.lt_trichotomy k i with hk | rfl | hk
        · rw [if_neg (by omega), if_neg (by omega), if_neg (by omega)]
        · rw [if_neg (by omega), if_pos rfl, if_pos (le_refl _)]
          simp
        · obtain ⟨d, rfl⟩ := Nat.exists_eq_add_of_lt hk
          rw [if_pos (by omega), if_neg (by omega), if_pos (by omega),
            show i + d + 1 - (i + 1) = d by omega, show i + d + 1 - i = d + 1 by omega]
          simp
      unfold copyPbuf copyReads
      split
      · exact hrest 0 next
      · exact hrest (j + 1) (pcopy :: next)

/-- Without gaps the loop reads what is left of the first segment, and the others. -/
theorem copyReads_segment (n : ℕ) : ∀ {j : ℕ} {seg : PbufSegment} {next : List PbufSegment},
    NoGap (seg :: next) → j < seg.len → n = seg.len - j + chainLength next →
      copyReads n j (seg :: next) =
        (List.range' j (seg.len - j)).map (fun k => (seg, k)) ++ chainReads next := by
  induction n with
  | zero =>
    intro j seg next _ hj hn
    omega
  | succ n ih =>
    intro j seg next hgap hj hn
    have hrange : List.range' j (seg.len - j) = j :: List.range' (j + 1) (seg.len - (j + 1)) := by
      rw [show seg.len - j = seg.len - (j + 1) + 1 by omega, List.range'_succ]
    rw [copyReads, hrange]
    -- at the end of a segment the loop goes on with the next one, at its first octet
    by_cases hend : j + 1 = seg.len
    · rw [if_pos hend, show seg.len - (j + 1) = 0 by omega]
      have hnext : copyReads n 0 next = chainReads next := by
        have hlen : n = chainLength next := by omega
        cases next with
        | nil =>
          rw [hlen]
          rfl
        | cons seg' next' =>
          have hgap' : NoGap (seg' :: next') := (List.pairwise_cons.mp hgap).2
          -- an empty segment may only come last: nothing is left to read
          by_cases hempty : seg'.len = 0
          · have hzero := hgap'.length_of_empty hempty
            have hnone : chainReads (seg' :: next') = [] := by
              rw [← List.length_eq_zero_iff, length_chainReads, hzero]
            rw [hlen, hzero, hnone]
            rfl
          · rw [chainLength_cons] at hlen
            rw [ih hgap' (Nat.pos_of_ne_zero hempty) (by omega), chainReads_cons,
              List.range_eq_range', Nat.sub_zero]
      simp [hnext]
    · rw [if_neg hend, ih hgap (by omega) (by omega)]
      simp

/-- **Without gaps the loop reads the octets of the segments** in order. -/
theorem copyReads_eq {chain : List PbufSegment} (h : NoGap chain) :
    copyReads (chainLength chain) 0 chain = chainReads chain := by
  cases chain with
  | nil => rfl
  | cons seg next =>
    by_cases hempty : seg.len = 0
    · have hzero := h.length_of_empty hempty
      have hnone : chainReads (seg :: next) = [] := by
        rw [← List.length_eq_zero_iff, length_chainReads, hzero]
      rw [hzero, hnone]
      rfl
    · rw [copyReads_segment _ h (Nat.pos_of_ne_zero hempty) (by rw [chainLength_cons]; omega),
        chainReads_cons, List.range_eq_range', Nat.sub_zero]

/-- **A loop that reads inside of the segments** has met no gap. -/
theorem noGap_of_inside (n : ℕ) : ∀ {j : ℕ} {seg : PbufSegment} {next : List PbufSegment},
    n = seg.len - j + chainLength next →
      (∀ read ∈ copyReads n j (seg :: next), Inside read) → NoGap (seg :: next) := by
  induction n with
  | zero =>
    intro j seg next hn _
    have hnext : chainLength next = 0 := by omega
    exact List.pairwise_cons.mpr
      ⟨fun b hb _ => chainLength_eq_zero.mp hnext b hb, noGap_of_length hnext⟩
  | succ n ih =>
    intro j seg next hn hinside
    rw [copyReads] at hinside
    -- the first octet read lies inside, so the segment is not empty
    have hj : j < seg.len := hinside _ List.mem_cons_self
    by_cases hend : j + 1 = seg.len
    · rw [if_pos hend] at hinside
      refine List.pairwise_cons.mpr ⟨fun b _ hzero => by omega, ?_⟩
      cases next with
      | nil => exact List.Pairwise.nil
      | cons seg' next' =>
        rw [chainLength_cons] at hn
        exact ih (j := 0) (by omega) fun read hread =>
          hinside read (List.mem_cons_of_mem _ hread)
    · rw [if_neg hend] at hinside
      exact ih (j := j + 1) (by omega) fun read hread =>
        hinside read (List.mem_cons_of_mem _ hread)

/-! ## Reception -/

/-- **A datagram is received faithfully**: one that fits is copied octet by octet, from inside of
its segments; one that is too long or empty leaves the buffer and the time as they are; both are
freed once. -/
structure ReceivesFaithfully (p : Pbuf) (rxTimeStamp : TimeInternal) (buf : Buf)
    (time : TimeInternal) (r : Received) : Prop where
  freed : r.freed = [p]
  copied : 0 < p.totLen → p.totLen ≤ packetSize →
    r.length = p.totLen ∧ (∀ k < p.totLen, (chainBytes p.chain)[k]? = some (r.buf k)) ∧
      (∀ k, p.totLen ≤ k → r.buf k = buf k) ∧ ∀ read ∈ r.reads, Inside read
  refused : p.totLen > packetSize ∨ p.totLen = 0 →
    r.length = 0 ∧ r.buf = buf ∧ r.time = time ∧ r.reads = []

/-- The model of the whole state agrees: `netRecv` returns this length and this time, and leaves
this buffer. -/
theorem netRecv_received (env : Env) (p : Pbuf) (time : TimeInternal) (s : System) :
    let r := receiveDatagram p (netRecv env p time s).2.2.rxTimeStamp.time s.ptpClock.msgIbuf time
    (netRecv env p time s).1 = r.length ∧ (netRecv env p time s).2.1 = r.time ∧
      (netRecv env p time s).2.2.ptpClock.msgIbuf = r.buf := by
  -- frames that arrive meanwhile do not touch the input buffer
  have hbuf (frames : List Pbuf) : ∀ u : System,
      (frames.foldl readFrame u).ptpClock = u.ptpClock := by
    induction frames with
    | nil => exact fun _ => rfl
    | cons frame frames ih => exact fun u => ih (readFrame u frame)
  unfold netRecv receiveDatagram
  by_cases hlong : p.totLen > packetSize
  · simp [hlong]
  by_cases hempty : p.totLen = 0
  · simp [hempty]
  rw [if_neg hlong, if_neg hempty, if_neg hlong, if_neg hempty]
  refine ⟨rfl, rfl, ?_⟩
  show copyPbuf _ (env.lateFrames.foldl readFrame s).ptpClock.msgIbuf 0 0 p.chain = _
  rw [hbuf]

/-- The buffer after a copy without gaps. -/
theorem copyPbuf_chain {chain : List PbufSegment} (h : NoGap chain) (buf : Buf) (k : ℕ) :
    copyPbuf (chainLength chain) buf 0 0 chain k = ((chainBytes chain)[k]?).getD (buf k) := by
  rw [copyPbuf_eq, if_pos (Nat.zero_le k), Nat.sub_zero, copyReads_eq h, ← chainReads_bytes,
    List.getElem?_map]

/-- **A datagram is received faithfully** exactly when it is too long, or has no gap. -/
theorem receives_faithfully_iff {p : Pbuf} (h : p.WellFormed) (rxTimeStamp : TimeInternal)
    (buf : Buf) (time : TimeInternal) :
    ReceivesFaithfully p rxTimeStamp buf time (receiveDatagram p rxTimeStamp buf time) ↔
      (p.totLen ≤ packetSize → NoGap p.chain) := by
  constructor
  · intro hfaithful hfits
    -- an empty datagram has nothing but empty segments
    by_cases hempty : p.totLen = 0
    · exact noGap_of_length (h.totLen.symm.trans hempty)
    · obtain ⟨-, -, -, hinside⟩ := hfaithful.copied (Nat.pos_of_ne_zero hempty) hfits
      have hreads : (receiveDatagram p rxTimeStamp buf time).reads =
          copyReads p.totLen 0 p.chain := by
        unfold receiveDatagram
        rw [if_neg (Nat.not_lt.mpr hfits), if_neg hempty]
      rw [hreads] at hinside
      obtain ⟨seg, next, hchain⟩ := List.exists_cons_of_ne_nil h.chain
      have hlen := h.totLen
      rw [hchain] at hinside hlen ⊢
      rw [chainLength_cons] at hlen
      exact noGap_of_inside p.totLen (by omega) hinside
  · intro hgap
    constructor
    · unfold receiveDatagram
      split
      · rfl
      split <;> rfl
    · intro hpos hfits
      have hbytes : (chainBytes p.chain).length = p.totLen := by
        rw [← chainReads_bytes, List.length_map, length_chainReads, h.totLen]
      -- without a gap the loop copies the octets of the chain in order
      have hbuf (k : ℕ) := copyPbuf_chain (hgap hfits) buf k
      unfold receiveDatagram
      rw [if_neg (Nat.not_lt.mpr hfits), if_neg (by omega)]
      refine ⟨rfl, ?_, ?_, ?_⟩
      · intro k hk
        show _ = some (copyPbuf p.totLen buf 0 0 p.chain k)
        rw [h.totLen, hbuf, List.getElem?_eq_getElem (by omega), Option.getD_some]
      · intro k hk
        show copyPbuf p.totLen buf 0 0 p.chain k = buf k
        rw [h.totLen, hbuf, List.getElem?_eq_none (by omega), Option.getD_none]
      · show ∀ read ∈ copyReads p.totLen 0 p.chain, Inside read
        rw [h.totLen, copyReads_eq (hgap hfits)]
        exact chainReads_inside p.chain
    · intro hrefused
      unfold receiveDatagram
      by_cases hlong : p.totLen > packetSize
      · rw [if_pos hlong]
        exact ⟨rfl, rfl, rfl, rfl⟩
      · rw [if_neg hlong, if_pos (hrefused.resolve_left hlong)]
        exact ⟨rfl, rfl, rfl, rfl⟩

/-- A datagram of one octet after an empty segment. -/
def gapped : Pbuf :=
  { chain := [⟨fun _ => 0, 0⟩, ⟨fun _ => 7, 1⟩], totLen := 1, stamp := default }

theorem receives_faithfully_gapped :
    ReceivesFaithfully gapped ⟨1, 0⟩ (fun _ => 0) ⟨0, 0⟩
        (receiveDatagram gapped ⟨1, 0⟩ (fun _ => 0) ⟨0, 0⟩) ↔
      (gapped.totLen ≤ packetSize → NoGap gapped.chain) :=
  receives_faithfully_iff ⟨List.cons_ne_nil _ _, rfl⟩ ⟨1, 0⟩ (fun _ => 0) ⟨0, 0⟩

/-- The octet after an empty segment is never read. -/
theorem empty_segment_read :
    ¬∀ (p : Pbuf), p.WellFormed → ∀ (rxTimeStamp : TimeInternal) (buf : Buf) (time : TimeInternal),
      ReceivesFaithfully p rxTimeStamp buf time (receiveDatagram p rxTimeStamp buf time) := by
  intro h
  have hfaithful := h gapped ⟨List.cons_ne_nil _ _, rfl⟩ ⟨1, 0⟩ (fun _ => 0) ⟨0, 0⟩
  obtain ⟨-, hbytes, -, -⟩ := hfaithful.copied (by decide) (by decide)
  have hfirst := hbytes 0 (by decide)
  revert hfirst
  decide

end Ptpd
