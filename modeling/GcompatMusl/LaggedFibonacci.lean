import Mathlib.Algebra.BigOperators.Fin
import Mathlib.Algebra.Group.Subgroup.Defs
import Mathlib.Algebra.Order.BigOperators.Group.Finset
import Mathlib.Data.ZMod.Defs
import Mathlib.Tactic.Ring

/-! # Additive lagged generators

A ring of `n` words with two distinct positions. One step adds the word at the second
position into the word at the first and advances both positions around the ring. -/
namespace LaggedFibonacci

open Function Finset

@[ext] structure Gen (n : ℕ) (R : Type*) where
  i : Fin n
  j : Fin n
  x : Fin n → R
  apart : i ≠ j

variable {n : ℕ} [NeZero n] {R S : Type*}

def Gen.output [Add R] (g : Gen n R) : R := g.x g.i + g.x g.j

def Gen.step [Add R] (g : Gen n R) : Gen n R where
  i := g.i + 1
  j := g.j + 1
  x := Function.update g.x g.i g.output
  apart := fun h => g.apart (add_right_cancel h)

variable (g : Gen n R)

@[simp] theorem Gen.step_i [Add R] : g.step.i = g.i + 1 := rfl

@[simp] theorem Gen.step_j [Add R] : g.step.j = g.j + 1 := rfl

@[simp] theorem Gen.step_x_self [Add R] : g.step.x g.i = g.x g.i + g.x g.j := update_self _ _ _

theorem Gen.step_x_of_ne [Add R] (h : k ≠ g.i) : g.step.x k = g.x k := update_of_ne h _ _

theorem Gen.step_outside [AddGroup R] (H : AddSubgroup R) (g : Gen n R)
    (h : ∃ k, g.x k ∉ H) : ∃ k, g.step.x k ∉ H := by
  by_contra hall
  simp only [not_exists, not_not] at hall
  have hother : ∀ k, k ≠ g.i → g.x k ∈ H := by
    intro k hk
    rw [← g.step_x_of_ne hk]
    exact hall k
  have hi : g.x g.i + g.x g.j ∈ H := by
    rw [← g.step_x_self]
    exact hall g.i
  obtain ⟨k, hk⟩ := h
  by_cases hki : k = g.i
  · subst hki
    exact hk ((H.add_mem_cancel_right (hother g.j (Ne.symm g.apart))).mp hi)
  · exact hk (hother k hki)

theorem ofNat_succ (t : ℕ) : Fin.ofNat n (t + 1) = Fin.ofNat n t + 1 := by
  apply Fin.ext
  simp [Fin.val_add]

theorem Gen.iterate_i [Add R] (t : ℕ) : (Gen.step^[t] g).i = g.i + Fin.ofNat n t := by
  induction t with
  | zero => simp
  | succ t ih => rw [iterate_succ_apply', Gen.step_i, ih, ofNat_succ, add_assoc]

theorem Gen.iterate_j [Add R] (t : ℕ) : (Gen.step^[t] g).j = g.j + Fin.ofNat n t := by
  induction t with
  | zero => simp
  | succ t ih => rw [iterate_succ_apply', Gen.step_j, ih, ofNat_succ, add_assoc]

theorem Gen.written_after [Add R] (P : R → Prop) (g : Gen n R)
    (h : ∀ t, P (Gen.step^[t] g).output) (t : ℕ) :
    ∀ s < t, P ((Gen.step^[t] g).x (g.i + Fin.ofNat n s)) := by
  induction t with
  | zero => exact fun s hs => absurd hs (Nat.not_lt_zero s)
  | succ t ih =>
    intro s hs
    rw [iterate_succ_apply']
    by_cases hk : g.i + Fin.ofNat n s = (Gen.step^[t] g).i
    · rw [hk, Gen.step_x_self]
      exact h t
    · rw [Gen.step_x_of_ne _ hk]
      have hst : s ≠ t := fun he => hk (by rw [g.iterate_i t, he])
      exact ih s (by omega)

theorem Gen.all_written [Add R] (P : R → Prop) (g : Gen n R)
    (h : ∀ t, P (Gen.step^[t] g).output) (k : Fin n) : P ((Gen.step^[n] g).x k) := by
  have hk := g.written_after P h n (k - g.i).val (k - g.i).isLt
  rwa [Fin.ofNat_val_eq_self, add_sub_cancel] at hk

section Growth

def Gen.total (g : Gen n ℕ) : ℕ := ∑ k, g.x k

variable (g : Gen n ℕ)

omit [NeZero n] in
theorem Gen.le_total (k : Fin n) : g.x k ≤ g.total :=
  single_le_sum (f := g.x) (fun _ _ => Nat.zero_le _) (mem_univ k)

omit [NeZero n] in
theorem Gen.total_le (h : ∀ k, g.x k ≤ B) : g.total ≤ n * B := by
  have hsum := sum_le_card_nsmul univ g.x B (fun k _ => h k)
  simpa [Gen.total] using hsum

theorem Gen.step_ge (k : Fin n) : g.x k ≤ g.step.x k := by
  by_cases hk : k = g.i
  · subst hk
    rw [Gen.step_x_self]
    exact Nat.le_add_right _ _
  · exact le_of_eq (g.step_x_of_ne hk).symm

theorem Gen.total_step : g.step.total = g.total + g.x g.j := by
  have hrest : ∑ k ∈ univ.erase g.i, g.step.x k =
      ∑ k ∈ univ.erase g.i, g.x k := by
    apply sum_congr rfl
    intro k hk
    exact g.step_x_of_ne (ne_of_mem_erase hk)
  have hi := g.step_x_self
  have h1 := add_sum_erase univ g.step.x (mem_univ g.i)
  have h2 := add_sum_erase univ g.x (mem_univ g.i)
  unfold Gen.total
  omega

theorem Gen.iterate_ge (t : ℕ) (k : Fin n) : g.x k ≤ (Gen.step^[t] g).x k := by
  induction t with
  | zero => exact le_rfl
  | succ t ih =>
    rw [iterate_succ_apply']
    exact ih.trans (Gen.step_ge _ k)

theorem Gen.total_iterate (t : ℕ) :
    g.total + ∑ s ∈ range t, g.x (g.j + Fin.ofNat n s) ≤ (Gen.step^[t] g).total := by
  induction t with
  | zero => simp
  | succ t ih =>
    have hge := g.iterate_ge t (g.j + Fin.ofNat n t)
    rw [iterate_succ_apply', Gen.total_step, sum_range_succ, g.iterate_j]
    omega

theorem Gen.total_turn : 2 * g.total ≤ (Gen.step^[n] g).total := by
  have h := g.total_iterate n
  have hall : ∑ s ∈ range n, g.x (g.j + Fin.ofNat n s) = g.total := by
    rw [sum_range fun s => g.x (g.j + Fin.ofNat n s)]
    simp only [Fin.ofNat_val_eq_self]
    exact Equiv.sum_comp (Equiv.addLeft g.j) g.x
  omega

theorem Gen.total_turns (r : ℕ) : 2 ^ r * g.total ≤ (Gen.step^[n * r] g).total := by
  induction r with
  | zero => simp
  | succ r ih =>
    rw [show n * (r + 1) = n + n * r by ring, iterate_add_apply]
    have := Gen.total_turn (Gen.step^[n * r] g)
    calc 2 ^ (r + 1) * g.total = 2 * (2 ^ r * g.total) := by ring
      _ ≤ 2 * (Gen.step^[n * r] g).total := Nat.mul_le_mul_left 2 ih
      _ ≤ _ := this

end Growth

end LaggedFibonacci
