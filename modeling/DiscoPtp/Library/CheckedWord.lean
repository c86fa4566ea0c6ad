import DiscoPtp.Library.SignedWord

/-!
# Checked arithmetic of signed words

Arithmetic of signed words of any width in which an operation has no result when the integer result
is not the value of a word.

## Main definitions

* `Word`: a type of signed words, between a least and a greatest value
* `checked n`: the word with the value `n`, if there is one
* `neg`, `add`, `sub`, `mul`, `div`, `mod`: the checked operations

## Main results

* `checked_eq_some_iff`: `checked n` is the only word with the value `n`
* `div_of_pos`, `mod_of_pos`: division by a positive word always has a result
-/

namespace CheckedWord

/-- A type of signed words. -/
class Word (α : Type) where
  toInt : α → ℤ
  ofInt : ℤ → α
  least : ℤ
  greatest : ℤ
  least_neg : least < 0
  greatest_pos : 0 < greatest
  bounds : ∀ x, least ≤ toInt x ∧ toInt x ≤ greatest
  toInt_ofInt : ∀ {n}, least ≤ n → n ≤ greatest → toInt (ofInt n) = n
  toInt_injective : Function.Injective toInt

open Word

variable {α : Type} [Word α]

/-- `n` is the value of a word. -/
def InWord (α : Type) [Word α] (n : ℤ) : Prop := least α ≤ n ∧ n ≤ greatest α

instance (n : ℤ) : Decidable (InWord α n) := inferInstanceAs (Decidable (_ ∧ _))

theorem inWord_toInt (x : α) : InWord α (toInt x) := bounds x

/-- The word with the value `n`, if there is one. -/
def checked (n : ℤ) : Option α := if InWord α n then some (ofInt n) else none

theorem checked_eq_some_iff {n : ℤ} {x : α} : checked n = some x ↔ toInt x = n := by
  unfold checked
  constructor
  · intro h
    split at h
    case isTrue hn =>
      obtain rfl := Option.some.inj h
      exact toInt_ofInt hn.1 hn.2
    case isFalse hn => cases h
  · rintro rfl
    rw [if_pos (inWord_toInt x)]
    exact congrArg some (toInt_injective (toInt_ofInt (bounds x).1 (bounds x).2))

/-! ## Operations -/

def neg (x : α) : Option α := checked (-toInt x)

def add (x y : α) : Option α := checked (toInt x + toInt y)

def sub (x y : α) : Option α := checked (toInt x - toInt y)

def mul (x y : α) : Option α := checked (toInt x * toInt y)

/-- Division, truncated toward zero. -/
def div (x y : α) : Option α := if toInt y = 0 then none else checked ((toInt x).tdiv (toInt y))

/-- The remainder of a division that has a result. -/
def mod (x y : α) : Option α := (div x y).bind fun _ => checked ((toInt x).tmod (toInt y))

section Divisor

variable {x y : α}

theorem inWord_tdiv (hy : 0 < toInt y) : InWord α ((toInt x).tdiv (toInt y)) := by
  have hx := inWord_toInt x
  have hleast := least_neg (α := α)
  have hgreatest := greatest_pos (α := α)
  rcases le_total 0 (toInt x) with hn | hn
  · have hnonneg := Int.tdiv_nonneg hn hy.le
    have hle := Int.tdiv_le_self (toInt y) hn
    exact ⟨by omega, hle.trans hx.2⟩
  · have hnonneg := Int.tdiv_nonneg (Int.neg_nonneg_of_nonpos hn) hy.le
    have hle := Int.tdiv_le_self (toInt y) (Int.neg_nonneg_of_nonpos hn)
    rw [Int.neg_tdiv] at hnonneg hle
    have hlo := hx.1
    exact ⟨by omega, by omega⟩

theorem div_of_pos {z : α} (hy : 0 < toInt y) (hz : toInt z = (toInt x).tdiv (toInt y)) :
    div x y = some z := by
  rw [div, if_neg hy.ne']
  exact checked_eq_some_iff.mpr hz

theorem mod_of_pos {z : α} (hy : 0 < toInt y) (hz : toInt z = (toInt x).tmod (toInt y)) :
    mod x y = some z := by
  have hinside := inWord_tdiv (x := x) hy
  have hdiv : div x y = some (ofInt ((toInt x).tdiv (toInt y))) :=
    div_of_pos hy (toInt_ofInt hinside.1 hinside.2)
  rw [mod, hdiv]
  exact checked_eq_some_iff.mpr hz

end Divisor

/-! ## The words of 32 and 64 bits -/

instance : Word Int32 where
  toInt := Int32.toInt
  ofInt := Int32.ofInt
  least := -2147483648
  greatest := 2147483647
  least_neg := by decide
  greatest_pos := by decide
  bounds x := ⟨Int32.le_toInt x, Int32.toInt_le x⟩
  toInt_ofInt hlo hhi := SignedWord.toInt_ofInt_of_fits ⟨hlo, by omega⟩
  toInt_injective _ _ := Int32.toInt.inj

instance : Word Int64 where
  toInt := Int64.toInt
  ofInt := Int64.ofInt
  least := -9223372036854775808
  greatest := 9223372036854775807
  least_neg := by decide
  greatest_pos := by decide
  bounds x := ⟨Int64.le_toInt x, Int64.toInt_le x⟩
  toInt_ofInt {n} hlo hhi := by
    have hwrapped : (Int64.ofInt n).toInt = n.bmod (2 ^ 64) := Int64.toInt_ofInt
    rw [hwrapped]
    exact Int.bmod_eq_of_le (by omega) (by omega)
  toInt_injective _ _ := Int64.toInt.inj

@[simp] theorem toInt_int32 (x : Int32) : toInt x = x.toInt := rfl

@[simp] theorem toInt_int64 (x : Int64) : toInt x = x.toInt := rfl

end CheckedWord
