import DiscoPtp.Model.Bmc
import DiscoPtp.Library.FirstDifference

/-!
# Clock and port identities

`memcmp` and `isSamePortIdentity` as an order and as equality.

## Main results

* `memcmp_eq_zero_iff`, `memcmp_neg_iff`: `memcmp` is the lexicographic comparison
* `isSamePortIdentity_iff`: `isSamePortIdentity` decides equality
-/

namespace Ptpd

open FirstDifference

theorem memcmp_eq (a b : ClockIdentity) :
    memcmp a b = (firstDifference a.toList b.toList).elim 0 fun p =>
      (p.1.toNat : Int) - p.2.toNat := rfl

theorem length_identity (a b : ClockIdentity) : a.toList.length = b.toList.length := by simp

theorem memcmp_eq_zero_iff (a b : ClockIdentity) : memcmp a b = 0 ↔ a = b := by
  have hnone := firstDifference_eq_none_iff (length_identity a b)
  rw [Vector.toList_inj] at hnone
  rw [memcmp_eq, ← hnone]
  cases h : firstDifference a.toList b.toList with
  | none => simp
  | some p =>
    have hne : p.1.toNat ≠ p.2.toNat := fun heq =>
      ne_of_firstDifference h (UInt8.toNat_inj.mp heq)
    simp
    omega

/-- The octets of an identity, as numbers. -/
def octets (identity : ClockIdentity) : List ℕ := identity.toList.map UInt8.toNat

theorem octets_injective : Function.Injective octets := by
  intro a b h
  rw [← Vector.toList_inj]
  exact List.map_injective_iff.mpr (fun _ _ => UInt8.toNat.inj) h

theorem memcmp_neg_iff (a b : ClockIdentity) : memcmp a b < 0 ↔ octets a < octets b := by
  rw [memcmp_eq, octets, octets, lt_iff_firstDifference (by simp),
    firstDifference_map fun _ _ => UInt8.toNat.inj]
  cases firstDifference a.toList b.toList with
  | none => simp
  | some p =>
    obtain ⟨x, y⟩ := p
    simp

theorem memcmp_comm (a b : ClockIdentity) : memcmp b a = -memcmp a b := by
  rw [memcmp_eq, memcmp_eq, firstDifference_comm]
  cases firstDifference a.toList b.toList with
  | none => rfl
  | some p => simp

theorem memcmp_pos_iff (a b : ClockIdentity) : 0 < memcmp a b ↔ octets b < octets a := by
  rw [← memcmp_neg_iff, memcmp_comm a b]
  omega

@[simp] theorem isSamePortIdentity_iff {a b : PortIdentity} :
    isSamePortIdentity a b = true ↔ a = b := by
  obtain ⟨ida, na⟩ := a
  obtain ⟨idb, nb⟩ := b
  simp [isSamePortIdentity, memcmp_eq_zero_iff]

end Ptpd
