import Mathlib

/-!
# Prefix matching on partly known input

An input of which only a first part is known is compared with patterns at its start. A comparison
is decided by the known part unless this is a proper beginning of the pattern.

## Main definitions

* `fill xs rest`: the input that begins with `xs` and continues as `rest` does
* `StartsWith`: the input starts with a pattern
* `Undecided xs t`: `xs` is a proper beginning of the pattern `t`
* `firstMatch`: the value of the first pattern in a table that the input starts with

## Main results

* `startsWith_fill_iff`: a decided comparison looks at the known part only
* `firstMatch_fill_iff`: the first match in a table of patterns, none of which is a beginning of
  another, is that of every continuation exactly when every comparison is decided
-/

namespace PrefixMatch

variable {α β : Type*}

/-- The input that begins with `xs` and continues as `rest` does. -/
def fill (xs : List α) (rest : ℕ → α) : ℕ → α := fun i => xs.getD i (rest i)

/-- The input `s` starts with the pattern `t`. -/
def StartsWith (s : ℕ → α) (t : List α) : Prop := ∀ i (h : i < t.length), s i = t[i]

/-- The known part `xs` is a proper beginning of the pattern `t`. -/
def Undecided (xs t : List α) : Prop := xs <+: t ∧ xs ≠ t

instance [DecidableEq α] (s : ℕ → α) (t : List α) : Decidable (StartsWith s t) :=
  inferInstanceAs (Decidable (∀ i (h : i < t.length), s i = t[i]))

instance [DecidableEq α] (xs t : List α) : Decidable (Undecided xs t) :=
  inferInstanceAs (Decidable (_ ∧ _))

variable {xs t : List α} {rest rest' : ℕ → α}

theorem fill_of_lt {i : ℕ} (h : i < xs.length) : fill xs rest i = xs[i] :=
  List.getD_eq_getElem xs _ h

theorem fill_of_le {i : ℕ} (h : xs.length ≤ i) : fill xs rest i = rest i :=
  List.getD_eq_default xs _ h

theorem startsWith_fill_of_prefix (h : t <+: xs) : StartsWith (fill xs rest) t := by
  intro i hi
  rw [fill_of_lt (hi.trans_le h.length_le)]
  exact (h.getElem hi).symm

/-- An input that starts with `t` has a known part that is a beginning of `t`, or the other way
round. -/
theorem prefix_or_prefix (h : StartsWith (fill xs rest) t) : xs <+: t ∨ t <+: xs := by
  rcases le_total xs.length t.length with hle | hle
  · left
    rw [List.prefix_iff_eq_take]
    refine List.ext_getElem (by simp [hle]) fun i hi _ => ?_
    rw [List.getElem_take, ← h i (hi.trans_le hle), fill_of_lt hi]
  · right
    rw [List.prefix_iff_eq_take]
    refine List.ext_getElem (by simp [hle]) fun i hi _ => ?_
    rw [List.getElem_take, ← h i hi, fill_of_lt (hi.trans_le hle)]

/-- **A decided comparison** looks at the known part only. -/
theorem startsWith_fill_iff (h : ¬Undecided xs t) : StartsWith (fill xs rest) t ↔ t <+: xs := by
  refine ⟨fun hs => ?_, startsWith_fill_of_prefix⟩
  rcases prefix_or_prefix hs with hx | ht
  · by_contra hnot
    refine h ⟨hx, fun heq => hnot ?_⟩
    rw [heq]
  · exact ht

/-- An undecided comparison may succeed. -/
theorem exists_startsWith (h : Undecided xs t) (z : α) :
    StartsWith (fill xs fun i => t.getD i z) t := by
  intro i hi
  by_cases hx : i < xs.length
  · rw [fill_of_lt hx]
    exact h.1.getElem hx
  · rw [fill_of_le (not_lt.mp hx)]
    exact List.getD_eq_getElem t z hi

/-- It fails when the input continues with something that is not in the pattern. -/
theorem startsWith_fill_const {z : α} (hz : z ∉ t) :
    StartsWith (fill xs fun _ => z) t ↔ t <+: xs := by
  refine ⟨fun hs => ?_, startsWith_fill_of_prefix⟩
  rcases prefix_or_prefix hs with hx | ht
  · by_contra hnot
    have hlt : xs.length < t.length := by
      refine lt_of_le_of_ne hx.length_le fun heq => hnot ?_
      rw [hx.eq_of_length heq]
    have hlast := hs xs.length hlt
    rw [fill_of_le le_rfl] at hlast
    exact hz (hlast ▸ List.getElem_mem hlt)
  · exact ht

/-! ## Tables of patterns -/

section Tables

variable [DecidableEq α] {table : List (List α × β)} {other : β}

/-- The value of the first pattern that the input starts with. -/
def firstMatch (table : List (List α × β)) (other : β) (s : ℕ → α) : β :=
  ((table.find? fun e => StartsWith s e.1).map Prod.snd).getD other

@[simp] theorem firstMatch_nil (other : β) (s : ℕ → α) : firstMatch [] other s = other := rfl

theorem firstMatch_cons (t : List α) (b : β) (s : ℕ → α) :
    firstMatch ((t, b) :: table) other s =
      if StartsWith s t then b else firstMatch table other s := by
  unfold firstMatch
  rw [List.find?_cons]
  split <;> simp_all

theorem firstMatch_congr {s s' : ℕ → α}
    (h : ∀ e ∈ table, StartsWith s e.1 ↔ StartsWith s' e.1) :
    firstMatch table other s = firstMatch table other s' := by
  have hfind :
      table.find? (fun e => StartsWith s e.1) = table.find? fun e => StartsWith s' e.1 := by
    refine List.find?_congr fun e he => ?_
    exact decide_eq_decide.mpr (h e he)
  rw [firstMatch, firstMatch, hfind]

theorem firstMatch_ne_other {s : ℕ → α} (hother : ∀ e ∈ table, e.2 ≠ other) {e : List α × β}
    (he : e ∈ table) (hs : StartsWith s e.1) : firstMatch table other s ≠ other := by
  unfold firstMatch
  cases hfind : table.find? fun e => StartsWith s e.1 with
  | none => exact absurd hs (by simpa using List.find?_eq_none.mp hfind e he)
  | some e' => exact hother e' (List.mem_of_find?_eq_some hfind)

theorem firstMatch_eq_other {s : ℕ → α} (h : ∀ e ∈ table, ¬StartsWith s e.1) :
    firstMatch table other s = other := by
  have hfind : table.find? (fun e => StartsWith s e.1) = none := by
    refine List.find?_eq_none.mpr fun e he => ?_
    simpa using h e he
  rw [firstMatch, hfind]
  rfl

/-- **The first match depends on the known part only** exactly when every comparison is decided, in
a table whose patterns are not beginnings of each other and whose values differ from the other
one. -/
theorem firstMatch_fill_iff {z : α} (hz : ∀ e ∈ table, z ∉ e.1)
    (hfree : ∀ e ∈ table, ∀ e' ∈ table, e.1 <+: e'.1 → e.1 = e'.1)
    (hother : ∀ e ∈ table, e.2 ≠ other) (xs : List α) :
    (∀ rest rest', firstMatch table other (fill xs rest) =
        firstMatch table other (fill xs rest')) ↔
      ∀ e ∈ table, ¬Undecided xs e.1 := by
  constructor
  · intro h e he hundecided
    -- with one continuation the pattern matches, with another one nothing does
    refine firstMatch_ne_other hother he (exists_startsWith hundecided z) ?_
    rw [h _ fun _ => z]
    refine firstMatch_eq_other fun e' he' hs => ?_
    have hstarts := (startsWith_fill_const (hz e' he')).mp hs
    have heq := hfree e' he' e he (hstarts.trans hundecided.1)
    rw [heq] at hstarts
    exact hundecided.2 (hundecided.1.eq_of_length_le hstarts.length_le)
  · intro h rest rest'
    refine firstMatch_congr fun e he => ?_
    rw [startsWith_fill_iff (h e he), startsWith_fill_iff (h e he)]

end Tables

end PrefixMatch
