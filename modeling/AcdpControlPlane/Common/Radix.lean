import Mathlib.Data.List.TakeWhile
import Mathlib.Data.Nat.Digits.Lemmas

/-!
# Numerals with leading zeros

Digits in one base are rewritten in another by way of the number they spell. The number forgets the
leading zeros, so they are carried over one by one; with them, rewriting back is the inverse.
-/

namespace Radix

open List

/-- The number that digits spell, the most significant first. -/
def value (b : ℕ) (ds : List ℕ) : ℕ := ds.foldl (fun x d => x * b + d) 0

/-- The digits of a number, the most significant first; none for zero. -/
def digits (b n : ℕ) : List ℕ := (b.digits n).reverse

/-- Digits in base `b`, rewritten in base `c`. -/
def rewrite (b c : ℕ) (ds : List ℕ) : List ℕ := ds.takeWhile (· == 0) ++ digits c (value b ds)

variable {b c n : ℕ} {ds zs : List ℕ}

theorem digits_lt (hb : 1 < b) : ∀ d ∈ digits b n, d < b :=
  fun _ hd => Nat.digits_lt_base hb (mem_reverse.mp hd)

theorem digits_of_pos (hb : 1 < b) (hn : 0 < n) : digits b n = digits b (n / b) ++ [n % b] := by
  rw [digits, Nat.digits_def' hb hn, reverse_cons]
  rfl

theorem value_eq_ofDigits (b : ℕ) (ds : List ℕ) : value b ds = Nat.ofDigits b ds.reverse := by
  rw [Nat.ofDigits_eq_foldr, foldr_reverse]
  unfold value
  congr 1
  funext x d
  rw [Nat.mul_comm, Nat.add_comm]
  rfl

theorem value_digits (b n : ℕ) : value b (digits b n) = n := by
  rw [value_eq_ofDigits, digits, reverse_reverse, Nat.ofDigits_digits]

theorem value_zeros_append (hz : ∀ z ∈ zs, z = 0) (ds : List ℕ) :
    value b (zs ++ ds) = value b ds := by
  rw [value_eq_ofDigits, value_eq_ofDigits, reverse_append, eq_replicate_of_mem hz,
    reverse_replicate, Nat.ofDigits_append_replicate_zero]

theorem value_zeros (hz : ∀ z ∈ zs, z = 0) : value b zs = 0 := by
  rw [← append_nil zs, value_zeros_append hz]
  rfl

theorem takeWhile_eq_zero : ∀ z ∈ ds.takeWhile (· == 0), z = 0 :=
  fun _ hz => by simpa using mem_takeWhile_imp hz

theorem value_dropWhile (b : ℕ) (ds : List ℕ) : value b (ds.dropWhile (· == 0)) = value b ds := by
  rw [← value_zeros_append takeWhile_eq_zero, takeWhile_append_dropWhile]

theorem digits_value (hb : 1 < b) (hds : ∀ d ∈ ds, d < b) :
    digits b (value b ds) = ds.dropWhile (· == 0) := by
  rw [← value_dropWhile, value_eq_ofDigits, digits, Nat.digits_ofDigits b hb, reverse_reverse]
  · intro d hd
    exact hds d ((dropWhile_sublist _).mem (mem_reverse.mp hd))
  · intro hn
    rw [getLast_reverse]
    exact beq_eq_false_iff_ne.mp (head_dropWhile_not (· == 0) _)

theorem takeWhile_digits (hb : 1 < b) : (digits b n).takeWhile (· == 0) = [] := by
  have hd := digits_value hb (@digits_lt _ n hb)
  rw [value_digits] at hd
  have hp := takeWhile_append_dropWhile (p := (· == 0)) (l := digits b n)
  rw [← hd] at hp
  exact append_left_eq_self.mp hp

theorem takeWhile_rewrite (hc : 1 < c) :
    (rewrite b c ds).takeWhile (· == 0) = ds.takeWhile (· == 0) := by
  rw [rewrite, takeWhile_append_of_pos fun z hz => by simpa using takeWhile_eq_zero z hz,
    takeWhile_digits hc, append_nil]

theorem value_rewrite (b c : ℕ) (ds : List ℕ) : value c (rewrite b c ds) = value b ds := by
  rw [rewrite, value_zeros_append takeWhile_eq_zero, value_digits]

theorem rewrite_lt (hc : 1 < c) : ∀ d ∈ rewrite b c ds, d < c := by
  intro d hd
  rcases mem_append.mp hd with hd | hd
  · rw [takeWhile_eq_zero d hd]
    omega
  · exact digits_lt hc d hd

theorem rewrite_rewrite (hb : 1 < b) (hc : 1 < c) (hd : ∀ d ∈ ds, d < b) :
    rewrite c b (rewrite b c ds) = ds := by
  rw [rewrite, takeWhile_rewrite hc, value_rewrite, digits_value hb hd,
    takeWhile_append_dropWhile]

theorem value_eq_zero_iff (hb : 1 < b) (hds : ∀ d ∈ ds, d < b) : value b ds = 0 ↔ ∀ d ∈ ds, d = 0 := by
  constructor
  · intro hv
    have hd := digits_value hb hds
    rw [hv, digits, Nat.digits_zero, reverse_nil] at hd
    simpa using dropWhile_eq_nil_iff.mp hd.symm
  · exact value_zeros

theorem rewrite_zeros (hz : ∀ z ∈ zs, z = 0) : rewrite b c zs = zs := by
  have ht : zs.takeWhile (· == 0) = zs := takeWhile_eq_self_iff.mpr (by simpa using hz)
  rw [rewrite, ht, value_zeros hz, digits, Nat.digits_zero]
  exact append_nil zs

/-- The leading zeros of a text are those of its digits. -/
theorem map_takeWhile {α β : Type} {f : α → ℕ} {g : ℕ → β} {p : α → Bool} {text : List α}
    (hp : ∀ a ∈ text, (p a = true ↔ f a = 0)) :
    (text.takeWhile p).map (fun _ => g 0) = ((text.map f).takeWhile (· == 0)).map g := by
  induction text with
  | nil => rfl
  | cons a text ih =>
    obtain ⟨ha, ht⟩ := forall_mem_cons.mp hp
    by_cases hz : f a = 0
    · simp [ha.mpr hz, hz, ih ht]
    · simp [mt ha.mp hz, hz]

end Radix
