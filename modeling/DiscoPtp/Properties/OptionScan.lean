import DiscoPtp.Model.Dhcp

/-!
# The option scan of the DHCP server

The loop sets its cursor to the length of the present option plus two, instead of advancing it by
that much, so it reaches the second option and no later one. The cursor never gets to the end of the
loop: it goes on until it comes upon an octet 53.

## Main definitions

* `dhcpMessageType`: the message type in an option list
* `ScansCorrectly`: the loop ends, reads received octets only and finds the message type
* `FirstOrSecond`: option 53 is one of the first two options
* `Arrives`: where the cursor goes

## Main results

* `Arrives.scan`: what the loop does, by the way of its cursor
* `scan_stays`: a second option as long as the first one holds the cursor for ever
* `scans_correctly`: the scan is correct if option 53 is one of the first two options
-/

namespace Ptpd

/-! ## Option lists -/

/-- The value of the first option 53 of an option list, or zero: `0` is a pad and `255` the end. -/
def dhcpMessageType : List UInt8 → UInt8
  | [] => 0
  | code :: rest =>
    if code = 0 then dhcpMessageType rest
    else if code = 255 then 0
    else
      match rest with
      | [] => 0
      | len :: rest =>
        if code = 53 then (rest.take len.toNat).headD 0 else dhcpMessageType (rest.drop len.toNat)
termination_by l => l.length
decreasing_by
  · simp
  · simp only [List.length_drop, List.length_cons]
    omega

/-- The received option octets. -/
def DhcpDatagram.received (p : DhcpDatagram) : List UInt8 :=
  (List.range p.optionCount).map p.options

/-- **The scan is correct**: it ends, reads only received octets and yields the message type. -/
def ScansCorrectly (p : DhcpDatagram) : Prop :=
  ∃ fuel, scanOptions p.options fuel 0 = some (dhcpMessageType p.received) ∧
    ∀ k ∈ scanReads p.options fuel 0, k < p.optionCount

/-- Option 53, with a value, is the first option, or the second one after an option that is neither
a pad nor the end. -/
def FirstOrSecond (l : List UInt8) : Prop :=
  (∃ len v rest, len ≠ 0 ∧ l = 53 :: len :: v :: rest) ∨
    ∃ code len value len' v rest, code ≠ 0 ∧ code ≠ 255 ∧ code ≠ 53 ∧ len' ≠ 0 ∧
      value.length = len.toNat ∧ l = code :: len :: (value ++ 53 :: len' :: v :: rest)

/-! ## The cursor -/

/-- From the cursor `i` on, the loop reads only received octets and comes to an octet 53 at `j`. -/
inductive Arrives (p : DhcpDatagram) : ℕ → ℕ → Prop
  | here {i : ℕ} (h : p.options i = 53) (hin : i + 2 < p.optionCount) : Arrives p i i
  | jump {i j : ℕ} (h : p.options i ≠ 53) (hin : i + 1 < p.optionCount)
      (hj : Arrives p ((p.options (i + 1)).toNat + 2) j) : Arrives p i j

section Scan

variable {p : DhcpDatagram}

/-- The cursor stays below the end of the loop. -/
theorem cursor_lt (n : UInt8) : n.toNat + 2 < dhcpMsgLen := by
  have hlt := n.toNat_lt
  unfold dhcpMsgLen
  omega

theorem Arrives.scan {i j : ℕ} (h : Arrives p i j) (hi : i < dhcpMsgLen) :
    ∃ fuel, scanOptions p.options fuel i = some (p.options (j + 2)) ∧
      ∀ k ∈ scanReads p.options fuel i, k < p.optionCount := by
  induction h with
  | @here i h hin =>
    refine ⟨1, ?_, ?_⟩
    · rw [scanOptions, if_pos hi, if_pos h]
    · rw [scanReads, if_pos hi, if_pos h]
      intro k hk
      rcases (by simpa using hk : k = i ∨ k = i + 2) with rfl | rfl <;> omega
  | @jump i j h hin _ ih =>
    obtain ⟨fuel, hscan, hreads⟩ := ih (cursor_lt _)
    refine ⟨fuel + 1, ?_, ?_⟩
    · rw [scanOptions, if_pos hi, if_neg h]
      exact hscan
    · rw [scanReads, if_pos hi, if_neg h]
      intro k hk
      rcases List.mem_cons.mp hk with rfl | hk
      · omega
      rcases List.mem_cons.mp hk with rfl | hk
      · exact hin
      · exact hreads k hk

/-- **The cursor stays** at an option that is as long as the one before. -/
theorem scan_stays {options : ℕ → UInt8} {i : ℕ} (h : options i ≠ 53)
    (hback : (options (i + 1)).toNat + 2 = i) (fuel : ℕ) : scanOptions options fuel i = none := by
  have hi : i < dhcpMsgLen := hback ▸ cursor_lt _
  induction fuel with
  | zero => rfl
  | succ fuel ih =>
    rw [scanOptions, if_pos hi, if_neg h, hback]
    exact ih

/-- A received octet. -/
theorem options_of_received {l : List UInt8} (h : p.received = l) {k : ℕ} {v : UInt8}
    (hk : l[k]? = some v) : p.options k = v ∧ k < p.optionCount := by
  subst h
  unfold DhcpDatagram.received at hk
  rw [List.getElem?_map, Option.map_eq_some_iff] at hk
  obtain ⟨k', hk', rfl⟩ := hk
  obtain ⟨hlt, rfl⟩ := List.getElem?_eq_some_iff.mp hk'
  rw [List.length_range] at hlt
  rw [List.getElem_range]
  exact ⟨rfl, hlt⟩

theorem dhcpMessageType_53 {len v : UInt8} (h : len ≠ 0) (rest : List UInt8) :
    dhcpMessageType (53 :: len :: v :: rest) = v := by
  have hpos : 0 < len.toNat := by
    rcases Nat.eq_zero_or_pos len.toNat with hzero | hpos
    · exact absurd (UInt8.toNat_inj.mp hzero) h
    · exact hpos
  obtain ⟨n, hn⟩ := Nat.exists_eq_succ_of_ne_zero hpos.ne'
  rw [dhcpMessageType, if_neg (by decide), if_neg (by decide)]
  simp [hn]

theorem dhcpMessageType_skip {code len : UInt8} {value rest : List UInt8} (hpad : code ≠ 0)
    (hend : code ≠ 255) (h : code ≠ 53) (hlen : value.length = len.toNat) :
    dhcpMessageType (code :: len :: (value ++ rest)) = dhcpMessageType rest := by
  rw [dhcpMessageType, if_neg hpad, if_neg hend]
  simp only [if_neg h, ← hlen, List.drop_left]

/-- The cursor reaches the first and the second option. -/
theorem FirstOrSecond.arrives (h : FirstOrSecond p.received) :
    ∃ j, Arrives p 0 j ∧ p.options (j + 2) = dhcpMessageType p.received := by
  rcases h with ⟨len, v, rest, hlen, hl⟩ |
    ⟨code, len, value, len', v, rest, hpad, hend, hcode, hlen', hvalue, hl⟩
  · obtain ⟨hfirst, -⟩ := options_of_received hl (k := 0) rfl
    obtain ⟨hthird, hin⟩ := options_of_received hl (k := 2) rfl
    refine ⟨0, .here hfirst hin, ?_⟩
    rw [hl, dhcpMessageType_53 hlen]
    exact hthird
  · obtain ⟨hfirst, -⟩ := options_of_received hl (k := 0) rfl
    obtain ⟨hsecond, hin⟩ := options_of_received hl (k := 1) rfl
    have hget (k : ℕ) : (code :: len :: (value ++ 53 :: len' :: v :: rest))[len.toNat + 2 + k]? =
        (53 :: len' :: v :: rest)[k]? := by
      rw [show len.toNat + 2 + k = (value.length + k) + 1 + 1 by omega, List.getElem?_cons_succ,
        List.getElem?_cons_succ, List.getElem?_append_right (by omega), Nat.add_sub_cancel_left]
    obtain ⟨hnext, -⟩ := options_of_received hl (hget 0)
    obtain ⟨hvalue', hin'⟩ := options_of_received hl (hget 2)
    have hcursor : (p.options (0 + 1)).toNat + 2 = len.toNat + 2 := by rw [Nat.zero_add, hsecond]
    refine ⟨len.toNat + 2, .jump (hfirst ▸ hcode) hin ?_, ?_⟩
    · rw [hcursor]
      exact .here hnext hin'
    · rw [hl, dhcpMessageType_skip hpad hend hcode hvalue, dhcpMessageType_53 hlen']
      exact hvalue'

end Scan

/-- **The scan is correct** if option 53 is one of the first two options. -/
theorem scans_correctly {p : DhcpDatagram} (h : FirstOrSecond p.received) : ScansCorrectly p := by
  obtain ⟨j, hj, hvalue⟩ := h.arrives
  obtain ⟨fuel, hscan, hreads⟩ := hj.scan (by decide)
  exact ⟨fuel, hscan.trans (congrArg some hvalue), hreads⟩

/-- A datagram with these option octets. -/
def withOptions (octets : List UInt8) : DhcpDatagram :=
  { addr := 0
    len := dhcpPayloadLength + octets.length
    xid := 1
    chaddr := default
    options := fun i => octets.getD i 0 }

theorem withOptions_received (octets : List UInt8) : (withOptions octets).received = octets := by
  have hcount : (withOptions octets).optionCount = octets.length := Nat.add_sub_cancel_left _ _
  unfold DhcpDatagram.received
  rw [hcount]
  refine List.ext_getElem (by simp) fun k hk hk' => ?_
  simp [withOptions, List.getElem?_eq_getElem hk']

/-- A DHCPDISCOVER with another option before option 53. -/
def secondOption : List UInt8 := [12, 1, 97, 53, 1, 1, 255]

theorem scans_correctly_secondOption : ScansCorrectly (withOptions secondOption) :=
  scans_correctly (by
    rw [withOptions_received]
    exact .inr ⟨12, 1, [97], 1, 1, [255], by decide, by decide, by decide, by decide, rfl, rfl⟩)

/-- Before option 53 an option with an octet 53 in its value. -/
def strayOctet : List UInt8 := [12, 1, 97, 61, 5, 0, 0, 53, 0, 1, 53, 1, 1, 255]

theorem not_firstOrSecond_strayOctet : ¬FirstOrSecond strayOctet := by
  rintro (⟨len, v, rest, -, heq⟩ | ⟨code, len, value, len', v, rest, -, -, -, -, hlen, heq⟩)
  · unfold strayOctet at heq
    cases heq
  · simp only [strayOctet, List.cons.injEq] at heq
    obtain ⟨rfl, rfl, heq⟩ := heq
    obtain ⟨x, rfl⟩ := List.length_eq_one_iff.mp hlen
    cases heq

/-- The converse fails: here the cursor is set back into the value of the second option, where it
comes upon an octet 53 and, two octets later, upon the value of option 53. -/
theorem scans_by_chance : ∃ p : DhcpDatagram, ¬FirstOrSecond p.received ∧ ScansCorrectly p := by
  refine ⟨withOptions strayOctet, ?_, ?_⟩
  · rw [withOptions_received]
    exact not_firstOrSecond_strayOctet
  · have harrives : Arrives (withOptions strayOctet) 0 7 :=
      .jump (by decide) (by decide) (.jump (by decide) (by decide) (.here (by decide) (by decide)))
    obtain ⟨fuel, hscan, hreads⟩ := harrives.scan (by decide)
    refine ⟨fuel, hscan.trans (congrArg some ?_), hreads⟩
    have hsplit : strayOctet = 12 :: 1 :: ([97] ++ 61 :: 5 :: ([0, 0, 53, 0, 1] ++
        53 :: 1 :: 1 :: [255])) := rfl
    rw [withOptions_received, hsplit,
      dhcpMessageType_skip (by decide) (by decide) (by decide) rfl,
      dhcpMessageType_skip (by decide) (by decide) (by decide) rfl, dhcpMessageType_53 (by decide)]
    rfl

/-- A DHCPDISCOVER with two other options of one octet before option 53. -/
def thirdOption : DhcpDatagram := withOptions [12, 1, 97, 61, 1, 9, 53, 1, 1, 255]

/-- The scan of a DHCPDISCOVER need not end. -/
theorem scan_stuck : ¬∀ p : DhcpDatagram, dhcpPayloadLength ≤ p.len → ScansCorrectly p := by
  intro h
  obtain ⟨fuel, hscan, -⟩ := h thirdOption (by decide)
  cases fuel with
  | zero => cases hscan
  | succ fuel =>
    rw [scanOptions, if_pos (by decide), if_neg (by decide)] at hscan
    -- the cursor is at the second option now
    have hnext : (thirdOption.options (0 + 1)).toNat + 2 = 3 := by decide
    rw [hnext, scan_stays (by decide) (by decide)] at hscan
    cases hscan

end Ptpd
