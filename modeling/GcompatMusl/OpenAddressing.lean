import Mathlib.Data.Fintype.EquivFin
import Mathlib.Data.Nat.ModEq
import Mathlib.Data.Nat.Prime.Basic
import Mathlib.Tactic.Ring

/-! # Open addressing

A table of slots in which each key has a sequence of slots to try. The sequence of triangular steps
comes to every slot when their number is a power of two. -/
namespace OpenAddressing

open Function Nat

def tri : ℕ → ℕ
  | 0 => 0
  | t + 1 => tri t + (t + 1)

theorem two_mul_tri (t : ℕ) : 2 * tri t = t * (t + 1) := by
  induction t with
  | zero => rfl
  | succ t ih =>
    rw [tri, mul_add, ih]
    ring

theorem tri_mono (h : a ≤ b) : tri a ≤ tri b := by
  induction h with
  | refl => exact le_refl _
  | step _ ih =>
    rw [tri]
    omega

theorem two_mul_tri_sub (a d : ℕ) : 2 * (tri (a + d) - tri a) = d * (a + (a + d) + 1) := by
  have hsub : 2 * (tri (a + d) - tri a) = 2 * tri (a + d) - 2 * tri a := Nat.mul_sub ..
  rw [hsub, two_mul_tri, two_mul_tri]
  refine Nat.sub_eq_of_eq_add ?_
  ring

theorem tri_ne_mod (h : ℕ) (hab : a < b) (hb : b < 2 ^ k) :
    (h + tri a) % 2 ^ k ≠ (h + tri b) % 2 ^ k := by
  intro heq
  obtain ⟨d, rfl⟩ := Nat.exists_eq_add_of_lt hab
  have hdvd : 2 ^ k ∣ tri (a + (d + 1)) - tri a := by
    have hmod := (modEq_iff_dvd' (by have := tri_mono (show a ≤ a + (d + 1) by omega); omega)).1
      (show h + tri a ≡ h + tri (a + (d + 1)) [MOD 2 ^ k] from heq)
    rwa [Nat.add_sub_add_left] at hmod
  have hprod : 2 ^ (k + 1) ∣ (d + 1) * (a + (a + (d + 1)) + 1) := by
    rw [← two_mul_tri_sub, pow_succ, mul_comm]
    exact mul_dvd_mul_left 2 hdvd
  -- just one of the factors is odd
  rcases even_or_odd (d + 1) with heven | hodd
  · have hcop : Coprime (2 ^ (k + 1)) (a + (a + (d + 1)) + 1) := by
      refine Coprime.pow_left _ (coprime_two_left.2 ?_)
      obtain ⟨c, hc⟩ := heven
      exact ⟨a + c, by omega⟩
    have hle := le_of_dvd (by omega) (hcop.dvd_of_dvd_mul_right hprod)
    omega
  · have hcop : Coprime (2 ^ (k + 1)) (d + 1) :=
      Coprime.pow_left _ (coprime_two_left.2 hodd)
    have hle := le_of_dvd (by omega) (hcop.dvd_of_dvd_mul_left hprod)
    omega

theorem exists_tri_mod (h k : ℕ) {s : ℕ} (hs : s < 2 ^ k) :
    ∃ t < 2 ^ k, (h + tri t) % 2 ^ k = s := by
  have hpos : 0 < 2 ^ k := Nat.two_pow_pos k
  let visit : Fin (2 ^ k) → Fin (2 ^ k) := fun t => ⟨(h + tri t) % 2 ^ k, mod_lt _ hpos⟩
  have hinj : Injective visit := by
    intro a b hab
    have heq : (h + tri a) % 2 ^ k = (h + tri b) % 2 ^ k := congrArg Fin.val hab
    rcases lt_trichotomy a.val b.val with hlt | hval | hlt
    · exact absurd heq (tri_ne_mod h hlt b.isLt)
    · exact Fin.ext hval
    · exact absurd heq.symm (tri_ne_mod h hlt a.isLt)
  obtain ⟨t, ht⟩ := Finite.surjective_of_injective hinj ⟨s, hs⟩
  exact ⟨t.val, t.isLt, congrArg Fin.val ht⟩

variable {ι κ δ : Type*} {T : ι → Option (κ × δ)}

/-- A search for `k` goes by slots of other keys and stops at try `t`, at an empty slot or at the
key. -/
structure Stops (probe : κ → ℕ → ι) (T : ι → Option (κ × δ)) (k : κ) (t : ℕ) : Prop where
  before : ∀ t' < t, ∃ k' v, T (probe k t') = some (k', v) ∧ k' ≠ k
  here : T (probe k t) = none ∨ ∃ v, T (probe k t) = some (k, v)

def Placed (probe : κ → ℕ → ι) (T : ι → Option (κ × δ)) : Prop :=
  ∀ s k v, T s = some (k, v) → ∃ t, Stops probe T k t ∧ probe k t = s

theorem Stops.not_lt (h : Stops probe T k t) (h' : Stops probe T k t') : ¬ t < t' := by
  intro hlt
  obtain ⟨k', v, hother, hne⟩ := h'.before t hlt
  rcases h.here with hnone | ⟨v', hkey⟩
  · cases hnone.symm.trans hother
  · cases hkey.symm.trans hother
    exact hne rfl

theorem Stops.unique (h : Stops probe T k t) (h' : Stops probe T k t') : t = t' :=
  Nat.le_antisymm (Nat.le_of_not_lt (h'.not_lt h)) (Nat.le_of_not_lt (h.not_lt h'))

theorem exists_stops (hempty : T (probe k t') = none) : ∃ t ≤ t', Stops probe T k t := by
  classical
  have hex : ∃ t, T (probe k t) = none ∨ ∃ v, T (probe k t) = some (k, v) := ⟨t', .inl hempty⟩
  refine ⟨Nat.find hex, Nat.find_min' hex (.inl hempty), ⟨fun t ht => ?_, Nat.find_spec hex⟩⟩
  obtain ⟨hnone, hkey⟩ := not_or.1 (Nat.find_min hex ht)
  obtain ⟨⟨k', v⟩, hsome⟩ := Option.ne_none_iff_exists'.1 hnone
  refine ⟨k', v, hsome, ?_⟩
  rintro rfl
  exact hkey ⟨v, hsome⟩

theorem Placed.stop_eq (h : Placed probe T) (hs : T s = some (k, v)) (hstops : Stops probe T k t) :
    probe k t = s := by
  obtain ⟨t', hstops', rfl⟩ := h s k v hs
  rw [hstops.unique hstops']

theorem Placed.slot_unique (h : Placed probe T) (hs : T s = some (k, v))
    (hs' : T s' = some (k, v')) :
    s = s' := by
  obtain ⟨t, hstops, rfl⟩ := h s k v hs
  exact h.stop_eq hs' hstops

section Insert

variable [DecidableEq ι]

theorem Placed.insert (h : Placed probe T) (hstops : Stops probe T k t)
    (hempty : T (probe k t) = none) (v : δ) :
    Placed probe (Function.update T (probe k t) (some (k, v))) := by
  have hkeep : ∀ s k' v', T s = some (k', v') →
      update T (probe k t) (some (k, v)) s = some (k', v') := by
    intro s k' v' hs
    rw [update_of_ne, hs]
    rintro rfl
    cases hempty.symm.trans hs
  have hbefore : ∀ {k1 t1}, Stops probe T k1 t1 → ∀ t' < t1, ∃ k' v',
      update T (probe k t) (some (k, v)) (probe k1 t') = some (k', v') ∧ k' ≠ k1 := by
    intro k1 t1 hstops1 t' ht'
    obtain ⟨k', v', hother, hne⟩ := hstops1.before t' ht'
    exact ⟨k', v', hkeep _ _ _ hother, hne⟩
  intro s k1 v1 hs
  by_cases hslot : s = probe k t
  · subst hslot
    rw [update_self] at hs
    cases hs
    exact ⟨t, ⟨hbefore hstops, .inr ⟨v, update_self ..⟩⟩, rfl⟩
  · rw [update_of_ne hslot] at hs
    obtain ⟨t1, hstops1, rfl⟩ := h s k1 v1 hs
    exact ⟨t1, ⟨hbefore hstops1, .inr ⟨v1, hkeep _ _ _ hs⟩⟩, rfl⟩

end Insert

end OpenAddressing
