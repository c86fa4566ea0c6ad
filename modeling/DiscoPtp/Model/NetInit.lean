import Mathlib

/-!
# Network initialisation

The steps of `netInit` with what they obtain. A step may fail; the call gives up at some of the
failures, and then releases some of what it has obtained, and goes on at the others.

## Main definitions

* `NetResource`: what the call obtains
* `NetOutcome`: the outcomes of the steps
* `NetCall`: what the call has obtained and bound
* `netInitSteps`: the steps
-/

namespace Ptpd

/-- `PTP_EVENT_PORT`. -/
def ptpEventPort : UInt16 := 319

/-- `PTP_GENERAL_PORT`. -/
def ptpGeneralPort : UInt16 := 320

/-- What `netInit` obtains: the mutexes of the queues, the PCBs, and the memberships of the groups
`DEFAULT_PTP_DOMAIN_ADDRESS` and `PEER_PTP_DOMAIN_ADDRESS`. -/
inductive NetResource
  | eventMutex | generalMutex | eventPcb | generalPcb | defaultGroup | peerGroup
  deriving DecidableEq

/-- The outcomes of the steps of `netInit`, in the order of the program. -/
structure NetOutcome where
  /-- `sys_mutex_new` for the two queues. -/
  eventMutex : Bool
  generalMutex : Bool
  /-- The interface has an address. -/
  address : Bool
  /-- `udp_new` for the two ports. -/
  eventPcb : Bool
  generalPcb : Bool
  /-- `inet_aton` and `igmp_joingroup` for `DEFAULT_PTP_DOMAIN_ADDRESS`. -/
  defaultAddress : Bool
  joinDefault : Bool
  /-- `inet_aton` and `igmp_joingroup` for `PEER_PTP_DOMAIN_ADDRESS`. -/
  peerAddress : Bool
  joinPeer : Bool
  /-- `udp_bind` for the two ports. -/
  bindEvent : Bool
  bindGeneral : Bool
  deriving DecidableEq

/-- What a call of `netInit` has obtained and not released, and the ports bound. -/
structure NetCall where
  obtained : List NetResource
  bound : List (NetResource × UInt16)
  deriving DecidableEq

namespace NetCall

/-- A step that obtains `r`, if it succeeds. -/
def obtain (r : NetResource) (ok : Bool) (n : NetCall) : NetCall :=
  if ok then { n with obtained := n.obtained ++ [r] } else n

/-- `udp_remove`. -/
def remove (r : NetResource) (n : NetCall) : NetCall :=
  { n with obtained := n.obtained.erase r }

/-- `udp_bind`. -/
def bind (r : NetResource) (port : UInt16) (ok : Bool) (n : NetCall) : NetCall :=
  if ok then { n with bound := n.bound ++ [(r, port)] } else n

/-- Nothing is obtained. -/
def start : NetCall := { obtained := [], bound := [] }

/-- The label `fail03`. -/
def fail03 (n : NetCall) : Bool × NetCall := (false, n.remove .eventPcb)

/-- The label `fail04`, which falls through to `fail03`. -/
def fail04 (n : NetCall) : Bool × NetCall := (n.remove .generalPcb).fail03

section Lemmas

variable {n : NetCall} {r r' : NetResource} {port : UInt16} {ok : Bool}

@[simp] theorem mem_obtain :
    r' ∈ (n.obtain r ok).obtained ↔ r' ∈ n.obtained ∨ (r' = r ∧ ok = true) := by
  cases ok <;> simp [obtain]

@[simp] theorem obtain_bound : (n.obtain r ok).bound = n.bound := by cases ok <;> rfl

@[simp] theorem bind_obtained : (n.bind r port ok).obtained = n.obtained := by cases ok <;> rfl

@[simp] theorem mem_bind {b : NetResource × UInt16} :
    b ∈ (n.bind r port ok).bound ↔ b ∈ n.bound ∨ (b = (r, port) ∧ ok = true) := by
  cases ok <;> simp [NetCall.bind]

theorem obtain_remove (h : r ∉ n.obtained) : (n.obtain r true).remove r = n := by
  obtain ⟨obtained, bound⟩ := n
  change NetCall.mk ((obtained ++ [r]).erase r) bound = _
  rw [List.erase_append_right [r] h, List.erase_cons_head, List.append_nil]

theorem obtain_remove_of_ne (h : r ≠ r') :
    (n.obtain r ok).remove r' = (n.remove r').obtain r ok := by
  cases ok with
  | false => rfl
  | true =>
    obtain ⟨obtained, bound⟩ := n
    change NetCall.mk ((obtained ++ [r]).erase r') bound =
      NetCall.mk (obtained.erase r' ++ [r]) bound
    by_cases hmem : r' ∈ obtained
    · rw [List.erase_append_left [r] hmem]
    · rw [List.erase_append_right [r] hmem, List.erase_of_not_mem hmem,
        List.erase_of_not_mem (by simpa using h.symm)]

end Lemmas

end NetCall

/-- The steps of `netInit`: the result, and what the call has obtained. -/
def netInitSteps (o : NetOutcome) : Bool × NetCall :=
  -- the results of `netQInit`, of the joins and of the binds are not looked at
  let n := NetCall.start.obtain .eventMutex o.eventMutex
  let n := n.obtain .generalMutex o.generalMutex
  if !o.address then (false, n)
  else if !o.eventPcb then (false, n)
  else
    let n := n.obtain .eventPcb true
    if !o.generalPcb then n.fail03
    else
      let n := n.obtain .generalPcb true
      if !o.defaultAddress then n.fail04
      else
        let n := n.obtain .defaultGroup o.joinDefault
        if !o.peerAddress then n.fail04
        else
          let n := n.obtain .peerGroup o.joinPeer
          let n := n.bind .eventPcb ptpEventPort o.bindEvent
          (true, n.bind .generalPcb ptpGeneralPort o.bindGeneral)

end Ptpd
