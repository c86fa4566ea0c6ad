import DiscoPtp.Model.RxLink

/-!
# Well-formed receive chains

Every call of `HAL_ETH_RxLinkCallback` puts one buffer at the end of the chain and then adds its
length to the total length of every element, the new one included: so every total length is the sum
of the lengths from there to the end.

## Main definitions

* `totalLength`: the sum of the lengths of some buffers
* `SuffixSums`: every element has its own length, and the total length of itself and those after it
* `WellChained`: the chain of the buffers linked so far

## Main results

* `WellChained.link`: a call keeps the chain well formed
* `rxChain_wellFormed`: the chain of a packet is well formed
-/

namespace Ptpd

open LinkedChain

/-- The sum of the lengths of the buffers. -/
def totalLength {Loc : Type} (calls : List (Loc × UInt16)) : ℕ :=
  (calls.map fun call => call.2.toNat).sum

/-- **Every element has its own length, and as total length the sum** of the lengths of itself and
the elements after it. -/
def SuffixSums {Loc : Type} (heap : Loc → PbufHeader Loc) : List (Loc × UInt16) → Prop
  | [] => True
  | call :: calls =>
    (heap call.1).len = call.2 ∧ (heap call.1).totLen.toNat = call.2.toNat + totalLength calls ∧
      SuffixSums heap calls

/-- **The chain of the buffers linked so far**: they are linked in order, `*pStart` and `*pEnd` are
the first and the last one, and the total lengths are right. -/
structure WellChained {Loc : Type} (calls : List (Loc × UInt16)) (s : RxPacket Loc) : Prop where
  linked : Linked PbufHeader.next s.heap s.pStart (calls.map Prod.fst)
  last : ∀ call ∈ calls.getLast?, s.pEnd = some call.1
  sums : SuffixSums s.heap calls

variable {Loc : Type} {calls : List (Loc × UInt16)}

@[simp] theorem totalLength_nil : totalLength ([] : List (Loc × UInt16)) = 0 := rfl

@[simp] theorem totalLength_cons (call : Loc × UInt16) :
    totalLength (call :: calls) = call.2.toNat + totalLength calls := by
  simp [totalLength]

@[simp] theorem totalLength_append (calls' : List (Loc × UInt16)) :
    totalLength (calls ++ calls') = totalLength calls + totalLength calls' := by
  simp [totalLength]

/-- The new length is added to every total length; the new element has just this one. -/
theorem SuffixSums.snoc {heap heap' : Loc → PbufHeader Loc} {p : Loc} {length : UInt16}
    (h : SuffixSums heap calls)
    (hadded : ∀ call ∈ calls, (heap' call.1).len = (heap call.1).len ∧
      (heap' call.1).totLen = (heap call.1).totLen + length)
    (hnew : (heap' p).len = length ∧ (heap' p).totLen = length)
    (hfits : totalLength calls + length.toNat < 65536) :
    SuffixSums heap' (calls ++ [(p, length)]) := by
  induction calls with
  | nil => exact ⟨hnew.1, congrArg UInt16.toNat hnew.2, trivial⟩
  | cons call calls ih =>
    obtain ⟨hlen, htotal, hrest⟩ := h
    obtain ⟨hlen', htotal'⟩ := hadded call List.mem_cons_self
    simp only [totalLength_cons] at hfits
    refine ⟨hlen'.trans hlen, ?_, ?_⟩
    · -- the sum fits, so that the addition of 16-bit words is exact
      rw [htotal', UInt16.toNat_add, htotal, Nat.mod_eq_of_lt (by omega)]
      show _ = call.2.toNat + totalLength (calls ++ [(p, length)])
      simp only [totalLength_append, totalLength_cons, totalLength_nil]
      omega
    · exact ih hrest (fun c hc => hadded c (List.mem_cons_of_mem call hc)) (by omega)

variable [DecidableEq Loc]

/-- The chain after its loop, on distinct buffers. -/
theorem WellChained.of_loop {before heap : Loc → PbufHeader Loc} {start : Option Loc} {p : Loc}
    (length : UInt16) (hlinked : Linked PbufHeader.next heap start (calls.map Prod.fst ++ [p]))
    (hsums : SuffixSums before calls)
    (hkept : ∀ q ∈ calls.map Prod.fst, (heap q).len = (before q).len ∧
      (heap q).totLen = (before q).totLen)
    (hnew : (heap p).len = length ∧ (heap p).totLen = 0)
    (hdistinct : (calls.map Prod.fst ++ [p]).Nodup)
    (hfits : totalLength (calls ++ [(p, length)]) < 65536) {fuel : ℕ}
    (hfuel : calls.length + 1 < fuel) :
    ∃ heap', forEach PbufHeader.next (PbufHeader.addLength length) fuel start heap = some heap' ∧
      WellChained (calls ++ [(p, length)]) ⟨heap', start, some p⟩ ∧
      ∀ q ∉ calls.map Prod.fst ++ [p], heap' q = heap q := by
  obtain ⟨heap', hloop, hin, hout⟩ := forEach_linked (f := PbufHeader.addLength length)
    (fun _ => rfl) hlinked hdistinct (by simpa using hfuel)
  refine ⟨heap', hloop, ⟨?_, ?_, ?_⟩, hout⟩
  · rw [List.map_append]
    refine hlinked.congr fun q hq => ?_
    show (heap' q).next = (heap q).next
    rw [hin q hq]
    rfl
  · intro call hcall
    simp only [List.getLast?_append, List.getLast?_singleton, Option.some_or,
      Option.mem_some_iff] at hcall
    rw [← hcall]
  · show SuffixSums heap' (calls ++ [(p, length)])
    refine hsums.snoc (fun call hcall => ?_) ?_ (by simpa using hfits)
    · have hmem : call.1 ∈ calls.map Prod.fst := List.mem_map_of_mem hcall
      obtain ⟨hlen, htotal⟩ := hkept call.1 hmem
      rw [hin call.1 (List.mem_append_left _ hmem)]
      exact ⟨hlen, congrArg (· + length) htotal⟩
    · rw [hin p (List.mem_append_right _ (List.mem_singleton_self p))]
      refine ⟨hnew.1, ?_⟩
      rw [PbufHeader.addLength, hnew.2, UInt16.zero_add]

/-- **A call keeps the chain well formed** and leaves all other buffers alone. -/
theorem WellChained.link {s : RxPacket Loc} (hs : WellChained calls s) {p : Loc} {length : UInt16}
    (hdistinct : (calls.map Prod.fst ++ [p]).Nodup)
    (hfits : totalLength (calls ++ [(p, length)]) < 65536) {fuel : ℕ}
    (hfuel : calls.length + 1 < fuel) :
    ∃ t, halEthRxLinkCallback fuel s p length = some t ∧ WellChained (calls ++ [(p, length)]) t ∧
      ∀ q ∉ calls.map Prod.fst ++ [p], t.heap q = s.heap q := by
  have hempty (heap : Loc → PbufHeader Loc) :
      Function.update heap p (⟨none, 0, length⟩ : PbufHeader Loc) p = ⟨none, 0, length⟩ :=
    Function.update_self _ _ _
  rcases List.eq_nil_or_concat' calls with rfl | ⟨before, ⟨e, length'⟩, rfl⟩
  · -- the first buffer of the packet
    have hstart : s.pStart = none := hs.linked
    have hlinked : Linked PbufHeader.next (Function.update s.heap p ⟨none, 0, length⟩) (some p)
        (([] : List (Loc × UInt16)).map Prod.fst ++ [p]) := ⟨rfl, by rw [hempty]; rfl⟩
    have hsums : SuffixSums s.heap ([] : List (Loc × UInt16)) := trivial
    obtain ⟨heap', hloop, hchained, hout⟩ := WellChained.of_loop length hlinked hsums
      (by simp) (by rw [hempty]; exact ⟨rfl, rfl⟩) hdistinct hfits hfuel
    refine ⟨_, ?_, hchained, fun q hq => ?_⟩
    · simp only [halEthRxLinkCallback, hstart, Option.bind_eq_bind, Option.bind_some, hloop]
      rfl
    · have hne : q ≠ p := fun h => hq (by simp [h])
      exact (hout q hq).trans (Function.update_of_ne hne _ _)
  · -- `e` is the last buffer so far
    have hlinked := hs.linked
    have hpEnd : s.pEnd = some e := hs.last (e, length') (by simp)
    obtain ⟨start, hstart⟩ : ∃ start, s.pStart = some start := by
      refine Option.ne_none_iff_exists'.mp fun h => ?_
      have := hs.linked.start_eq_none_iff.mp h
      simp at this
    rw [hstart] at hlinked
    simp only [List.map_append, List.map_cons, List.map_nil] at hlinked hdistinct
    obtain ⟨hcalls, -, hp⟩ := List.nodup_append'.mp hdistinct
    obtain ⟨-, -, he⟩ := List.nodup_append'.mp hcalls
    have hbefore : ∀ q ∈ before.map Prod.fst, q ≠ e ∧ q ≠ p := by
      intro q hq
      refine ⟨fun h => he hq (List.mem_singleton.mpr h), fun h => ?_⟩
      exact hp (List.mem_append_left _ hq) (List.mem_singleton.mpr h)
    have hep : e ≠ p := fun h =>
      hp (List.mem_append_right _ (List.mem_singleton_self e)) (List.mem_singleton.mpr h)
    let first := Function.update s.heap p (⟨none, 0, length⟩ : PbufHeader Loc)
    let heap := Function.update first e { first e with next := some p }
    have hfirst : first e = s.heap e := Function.update_of_ne hep _ _
    have hheapp : heap p = ⟨none, 0, length⟩ :=
      (Function.update_of_ne hep.symm _ first).trans (hempty _)
    have hheape : heap e = { first e with next := some p } := Function.update_self e _ first
    rw [hfirst] at hheape
    have hother : ∀ q, q ≠ e → q ≠ p → heap q = s.heap q := fun q hqe hqp =>
      (Function.update_of_ne hqe _ first).trans (Function.update_of_ne hqp _ _)
    have hkept : ∀ q ∈ (before ++ [(e, length')]).map Prod.fst,
        (heap q).len = (s.heap q).len ∧ (heap q).totLen = (s.heap q).totLen := by
      intro q hq
      rcases eq_or_ne q e with rfl | hqe
      · rw [hheape]
        exact ⟨rfl, rfl⟩
      · have hq' : q ∈ before.map Prod.fst := by simpa [hqe] using hq
        rw [hother q hqe (hbefore q hq').2]
        exact ⟨rfl, rfl⟩
    have hchain : Linked PbufHeader.next heap (some start)
        ((before ++ [(e, length')]).map Prod.fst ++ [p]) := by
      rw [List.map_append]
      refine hlinked.snoc (fun q hq => ?_) ?_ ?_
      · rw [hother q (hbefore q hq).1 (hbefore q hq).2]
      · rw [hheape]
      · rw [hheapp]
    obtain ⟨heap', hloop, hchained, hout⟩ := WellChained.of_loop length hchain hs.sums
      hkept (by rw [hheapp]; exact ⟨rfl, rfl⟩) (by simpa using hdistinct) hfits
      hfuel
    refine ⟨_, ?_, hchained, fun q hq => ?_⟩
    · simp only [halEthRxLinkCallback, hstart, hpEnd, Option.bind_eq_bind, Option.map_some,
        Option.bind_some]
      rw [hloop]
      rfl
    · have hqp : q ≠ p := fun h => hq (by simp [h])
      have hqe : q ≠ e := fun h => hq (by simp [h])
      exact (hout q hq).trans (hother q hqe hqp)

/-- The calls that continue a well-formed chain. -/
theorem WellChained.linkAll {s : RxPacket Loc} (hs : WellChained calls s)
    {rest : List (Loc × UInt16)} (hdistinct : ((calls ++ rest).map Prod.fst).Nodup)
    (hfits : totalLength (calls ++ rest) < 65536) {fuel : ℕ}
    (hfuel : (calls ++ rest).length < fuel) :
    ∃ t, linkAll fuel s rest = some t ∧ WellChained (calls ++ rest) t ∧
      ∀ q ∉ (calls ++ rest).map Prod.fst, t.heap q = s.heap q := by
  -- induction on the calls left; the invariant says that those before have made a chain
  induction rest generalizing calls s with
  | nil =>
    rw [List.append_nil]
    exact ⟨s, rfl, hs, fun _ _ => rfl⟩
  | cons call rest ih =>
    obtain ⟨p, length⟩ := call
    have hsplit : calls ++ (p, length) :: rest = calls ++ [(p, length)] ++ rest := by simp
    rw [hsplit] at hdistinct hfits hfuel ⊢
    have hfirst : (calls.map Prod.fst ++ [p]).Nodup := by
      rw [List.map_append] at hdistinct
      simpa using hdistinct.of_append_left
    have hsofar : totalLength (calls ++ [(p, length)]) < 65536 := by
      rw [totalLength_append] at hfits
      omega
    have hfuel' : calls.length + 1 < fuel := by
      simp only [List.length_append, List.length_singleton] at hfuel
      omega
    obtain ⟨t, hcall, ht, hother⟩ := hs.link hfirst hsofar hfuel'
    obtain ⟨u, hrest, hu, hother'⟩ := ih ht hdistinct hfits hfuel
    refine ⟨u, ?_, hu, fun q hq => (hother' q hq).trans (hother q fun hq' => hq ?_)⟩
    · rw [Ptpd.linkAll, hcall]
      exact hrest
    · rw [List.map_append, List.map_append]
      exact List.mem_append_left _ hq'

/-- **The chain of a packet is well formed**, for any memory of the pool, any distinct buffers and
any lengths whose sum is a 16-bit number: the loops end, the buffers are linked in order up to
`NULL`, `*pStart` and `*pEnd` are the first and the last one, every element has its own length, and
the total length of every element is the sum of its length and those after it. -/
theorem rxChain_wellFormed (heap : Loc → PbufHeader Loc) (pEnd : Option Loc)
    (calls : List (Loc × UInt16)) (hdistinct : (calls.map Prod.fst).Nodup)
    (hfits : totalLength calls < 65536) (fuel : ℕ) (hfuel : calls.length < fuel) :
    ∃ s, linkAll fuel ⟨heap, none, pEnd⟩ calls = some s ∧
      Linked PbufHeader.next s.heap s.pStart (calls.map Prod.fst) ∧
      s.pStart = calls.head?.map Prod.fst ∧
      (calls ≠ [] → s.pEnd = calls.getLast?.map Prod.fst) ∧
      SuffixSums s.heap calls ∧ ∀ q ∉ calls.map Prod.fst, s.heap q = heap q := by
  have hnone : WellChained ([] : List (Loc × UInt16)) ⟨heap, none, pEnd⟩ :=
    ⟨rfl, fun _ h => absurd h (Option.not_mem_none _), trivial⟩
  obtain ⟨s, hrun, hs, hother⟩ := hnone.linkAll hdistinct hfits hfuel
  refine ⟨s, hrun, hs.linked, ?_, fun hne => ?_, hs.sums, hother⟩
  · have hlinked := hs.linked
    cases calls with
    | nil => exact hlinked
    | cons call calls => exact hlinked.1
  · obtain ⟨call, hcall⟩ :=
      Option.ne_none_iff_exists'.mp fun h => hne (List.getLast?_eq_none_iff.mp h)
    rw [hs.last call hcall, hcall]
    rfl

/-- A packet in three buffers, whose headers hold what an earlier packet left there. -/
theorem rxChain_wellFormed_three :
    let heap : ℕ → PbufHeader ℕ := fun _ => ⟨some 7, 99, 99⟩
    let calls : List (ℕ × UInt16) := [(4, 1000), (2, 500), (9, 14)]
    ∃ s, linkAll 4 ⟨heap, none, some 3⟩ calls = some s ∧
      Linked PbufHeader.next s.heap s.pStart [4, 2, 9] ∧ s.pStart = some 4 ∧
      (calls ≠ [] → s.pEnd = some 9) ∧ SuffixSums s.heap calls ∧
      ∀ q ∉ [4, 2, 9], s.heap q = heap q :=
  rxChain_wellFormed _ _ _ (by decide) (by decide) 4 (by decide)

end Ptpd
