import Mathlib

/-!
# Histories

A history is a list of entries, the newest first. What an entry must satisfy is a relation to the
entries that were there before it.

## Main definitions

* `Every`: every entry stands in a relation to the older ones
* `latest`: the newest entry of a kind
* `Adds`: one history continues another with entries of a kind only
* `Gains`: one history continues another with at least one entry of a kind
* `Grows`: one history continues another with entries that stand in a relation to the older ones

## Main results

* `every_cons`: a longer history adds one obligation
* `Every.imp`: from a condition on every entry to a conclusion on every entry
* `Every.grows`: a relation of every entry holds on in a history that grows by it
* `latest_eq_some_iff`: the newest entry of a kind, and none of the kind after it
* `isChain_filter_iff`: entries of a kind, with none of the kind between them
-/

namespace History

variable {α β : Type*}

/-- Every entry of the history satisfies `P` with the entries older than it. -/
def Every (P : α → List α → Prop) (history : List α) : Prop :=
  ∀ e older, e :: older <:+ history → P e older

@[simp] theorem every_nil (P : α → List α → Prop) : Every P [] := by
  intro e older h
  simp at h

@[simp] theorem every_cons {P : α → List α → Prop} {e : α} {history : List α} :
    Every P (e :: history) ↔ P e history ∧ Every P history := by
  constructor
  · intro h
    exact ⟨h e history (List.suffix_refl _),
      fun e' older h' => h e' older (h'.trans (List.suffix_cons _ _))⟩
  · rintro ⟨he, h⟩ e' older h'
    rcases List.suffix_cons_iff.mp h' with heq | h'
    · obtain ⟨rfl, rfl⟩ := List.cons.inj heq
      exact he
    · exact h e' older h'

instance Every.decidable {P : α → List α → Prop} [∀ e older, Decidable (P e older)] :
    (history : List α) → Decidable (Every P history)
  | [] => isTrue (every_nil P)
  | _ :: history =>
    have := Every.decidable (P := P) history
    decidable_of_iff _ every_cons.symm

theorem Every.imp {P Q : α → List α → Prop} {history : List α}
    (hPQ : ∀ e older, P e older → Q e older) (h : Every P history) : Every Q history :=
  fun e older he => hPQ e older (h e older he)

/-- The newest entry that `kind` selects, as `kind` shows it. -/
def latest (kind : α → Option β) (history : List α) : Option β := history.findSome? kind

@[simp] theorem latest_nil (kind : α → Option β) : latest kind [] = none := rfl

theorem latest_cons_of_some {kind : α → Option β} {e : α} {b : β} (h : kind e = some b)
    (history : List α) : latest kind (e :: history) = some b := by
  simp [latest, h]

theorem latest_cons_of_none {kind : α → Option β} {e : α} (h : kind e = none)
    (history : List α) : latest kind (e :: history) = latest kind history := by
  simp [latest, h]

theorem latest_eq_some_iff {kind : α → Option β} {history : List α} {b : β} :
    latest kind history = some b ↔
      ∃ newer e older, history = newer ++ e :: older ∧ kind e = some b ∧
        ∀ e' ∈ newer, kind e' = none :=
  List.findSome?_eq_some_iff

theorem latest_append_of_none {kind : α → Option β} {newer : List α}
    (h : ∀ e ∈ newer, kind e = none) (older : List α) :
    latest kind (newer ++ older) = latest kind older := by
  induction newer with
  | nil => rfl
  | cons e newer ih =>
    rw [List.cons_append, latest_cons_of_none (h e List.mem_cons_self)]
    exact ih fun e' he' => h e' (List.mem_cons_of_mem e he')

theorem latest_append_of_some {kind : α → Option β} {newer : List α} {b : β}
    (h : latest kind newer = some b) (older : List α) :
    latest kind (newer ++ older) = some b := by
  rw [latest_eq_some_iff] at h ⊢
  obtain ⟨newer', e, between, rfl, he, hnone⟩ := h
  exact ⟨newer', e, between ++ older, by simp, he, hnone⟩

/-- **Neighbours among the entries of a kind** stand in a relation if and only if any two entries
of the kind with none between them do. -/
theorem isChain_filter_iff {R : α → α → Prop} {kind : α → Bool} {history : List α} :
    (history.filter kind).IsChain R ↔
      ∀ newer e between e' older, history = newer ++ e :: (between ++ e' :: older) →
        kind e → kind e' → (∀ x ∈ between, ¬kind x) → R e e' := by
  induction history with
  | nil => simp
  | cons x history ih =>
    by_cases hx : kind x
    · rw [List.filter_cons_of_pos hx, List.isChain_cons, List.head?_filter, ih]
      constructor
      · rintro ⟨hhead, hrest⟩ newer e between e' older heq he he' hnone
        cases newer with
        | nil =>
          obtain ⟨rfl, rfl⟩ := List.cons.inj heq
          refine hhead e' (List.find?_eq_some_iff_append.mpr ⟨he', between, older, rfl, ?_⟩)
          simpa using hnone
        | cons y newer =>
          obtain ⟨rfl, rfl⟩ := List.cons.inj heq
          exact hrest newer e between e' older rfl he he' hnone
      · intro h
        constructor
        · intro e' hfind
          obtain ⟨he', between, older, rfl, hnone⟩ := List.find?_eq_some_iff_append.mp hfind
          exact h [] x between e' older rfl hx he' (by simpa using hnone)
        · exact fun newer e between e' older heq =>
            h (x :: newer) e between e' older (congrArg (x :: ·) heq)
    · rw [List.filter_cons_of_neg hx, ih]
      constructor
      · intro h newer e between e' older heq he
        cases newer with
        | nil =>
          obtain ⟨rfl, rfl⟩ := List.cons.inj heq
          exact absurd he hx
        | cons y newer =>
          obtain ⟨rfl, rfl⟩ := List.cons.inj heq
          exact h newer e between e' older rfl he
      · exact fun h newer e between e' older heq =>
          h (x :: newer) e between e' older (congrArg (x :: ·) heq)

/-! ## Continued histories -/

/-- `history` continues `older` with entries that satisfy `P`. -/
def Adds (P : α → Prop) (older history : List α) : Prop :=
  ∃ newer, history = newer ++ older ∧ ∀ e ∈ newer, P e

section Adds

variable {P Q : α → Prop} {h₁ h₂ h₃ : List α}

theorem Adds.refl (P : α → Prop) (history : List α) : Adds P history history :=
  ⟨[], rfl, by simp⟩

theorem Adds.cons {e : α} (he : P e) (history : List α) : Adds P history (e :: history) :=
  ⟨[e], rfl, by simpa using he⟩

theorem Adds.trans (h : Adds P h₁ h₂) (h' : Adds P h₂ h₃) : Adds P h₁ h₃ := by
  obtain ⟨newer, rfl, he⟩ := h
  obtain ⟨newer', rfl, he'⟩ := h'
  refine ⟨newer' ++ newer, by rw [List.append_assoc], ?_⟩
  intro e hmem
  rcases List.mem_append.mp hmem with h | h
  · exact he' e h
  · exact he e h

theorem Adds.imp (hPQ : ∀ e, P e → Q e) (h : Adds P h₁ h₂) : Adds Q h₁ h₂ := by
  obtain ⟨newer, heq, he⟩ := h
  exact ⟨newer, heq, fun e hmem => hPQ e (he e hmem)⟩

theorem Adds.suffix (h : Adds P h₁ h₂) : h₁ <:+ h₂ := by
  obtain ⟨newer, h, -⟩ := h
  exact ⟨newer, h.symm⟩

theorem Adds.all (h : Adds P h₁ h₂) (hall : ∀ e ∈ h₁, P e) : ∀ e ∈ h₂, P e := by
  obtain ⟨newer, rfl, hnewer⟩ := h
  intro e he
  rcases List.mem_append.mp he with he | he
  · exact hnewer e he
  · exact hall e he

end Adds

/-- `history` continues `older` with, among others, an entry that satisfies `P`. -/
def Gains (P : α → Prop) (older history : List α) : Prop :=
  ∃ newer, history = newer ++ older ∧ ∃ e ∈ newer, P e

section Gains

variable {P : α → Prop} {h₁ h₂ h₃ : List α}

theorem Gains.of_suffix {e : α} {before : List α} (he : P e) (h : e :: before <:+ h₂)
    (hb : h₁ <:+ before) : Gains P h₁ h₂ := by
  obtain ⟨newer, rfl⟩ := h
  obtain ⟨between, rfl⟩ := hb
  exact ⟨newer ++ e :: between, by simp, e, by simp, he⟩

theorem Gains.trans_suffix (h : Gains P h₁ h₂) (h' : h₂ <:+ h₃) : Gains P h₁ h₃ := by
  obtain ⟨newer, rfl, e, hmem, he⟩ := h
  obtain ⟨later, rfl⟩ := h'
  exact ⟨later ++ newer, by simp, e, List.mem_append_right later hmem, he⟩

theorem Gains.of_older (h : Gains P h₂ h₃) (h' : h₁ <:+ h₂) : Gains P h₁ h₃ := by
  obtain ⟨newer, rfl, e, hmem, he⟩ := h
  obtain ⟨between, rfl⟩ := h'
  exact ⟨newer ++ between, by simp, e, List.mem_append_left between hmem, he⟩

end Gains

/-- `history` continues `older`, and each new entry stands in the relation to those before it. -/
inductive Grows (R : α → List α → Prop) (older : List α) : List α → Prop
  | refl : Grows R older older
  | cons {e : α} {history : List α} (h : Grows R older history) (he : R e history) :
    Grows R older (e :: history)

section Grows

variable {R R' : α → List α → Prop} {h₁ h₂ h₃ : List α}

theorem Grows.trans (h : Grows R h₁ h₂) (h' : Grows R h₂ h₃) : Grows R h₁ h₃ := by
  induction h' with
  | refl => exact h
  | cons _ he ih => exact ih.cons he

theorem Grows.imp (hR : ∀ e older, R e older → R' e older) (h : Grows R h₁ h₂) :
    Grows R' h₁ h₂ := by
  induction h with
  | refl => exact .refl
  | cons _ he ih => exact ih.cons (hR _ _ he)

theorem Grows.of_eq (h : h₂ = h₁) : Grows R h₁ h₂ := by
  rw [h]
  exact .refl

theorem Every.grows (h : Every R h₁) (hg : Grows R h₁ h₂) : Every R h₂ := by
  induction hg with
  | refl => exact h
  | cons _ he ih => exact every_cons.mpr ⟨he, ih⟩

end Grows

end History
