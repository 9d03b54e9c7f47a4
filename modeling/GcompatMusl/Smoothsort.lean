import Mathlib.Data.BitVec

/-! # The double words of smoothsort

Two words are read as one number of 128 bits. -/
namespace Smoothsort

open BitVec

structure Words where
  lo : BitVec 64
  hi : BitVec 64

def Words.number (p : Words) : BitVec 128 := p.hi ++ p.lo

/-- A machine shift by the word size or more has no result. -/
def shifted (n : ℕ) (x : BitVec 64) : Option (BitVec 64) := if n < 64 then some x else none

def shlWithin (p : Words) (n : ℕ) : Option Words := do
  let hi ← shifted n (p.hi <<< n)
  let carry ← shifted (64 - n) (p.lo >>> (64 - n))
  let lo ← shifted n (p.lo <<< n)
  return ⟨lo, hi ||| carry⟩

def shl (p : Words) (n : ℕ) : Option Words :=
  if 64 ≤ n then shlWithin ⟨0, p.lo⟩ (n - 64) else shlWithin p n

def shrWithin (p : Words) (n : ℕ) : Option Words := do
  let lo ← shifted n (p.lo >>> n)
  let carry ← shifted (64 - n) (p.hi <<< (64 - n))
  let hi ← shifted n (p.hi >>> n)
  return ⟨lo ||| carry, hi⟩

def shr (p : Words) (n : ℕ) : Option Words :=
  if 64 ≤ n then shrWithin ⟨p.hi, 0⟩ (n - 64) else shrWithin p n

/-- For the word 0 `bsf` keeps what its register held. -/
def ntz (old : ℕ) (x : BitVec 64) : ℕ := if x = 0 then old else x.ctz.toNat

def pntz (old : ℕ) (p : Words) : ℕ :=
  if ntz old (p.lo - 1) ≠ 0 then ntz old (p.lo - 1)
  else if 64 + ntz old p.hi ≠ 64 then 64 + ntz old p.hi else 0

def TrailingZeros (x : BitVec w) (r : ℕ) : Prop := x.getLsbD r = true ∧ ∀ j < r, x.getLsbD j = false

theorem within_eq (p : Words) (hn : 0 < n) (hlt : n < 64) :
    shlWithin p n = some ⟨p.lo <<< n, p.hi <<< n ||| p.lo >>> (64 - n)⟩ ∧
      shrWithin p n = some ⟨p.lo >>> n ||| p.hi <<< (64 - n), p.hi >>> n⟩ := by
  simp [shlWithin, shrWithin, shifted, hlt, show 64 - n < 64 by omega]

theorem shifts_iff (p : Words) (hn : 0 < n) (hlt : n < 128) :
    ((∃ q, shl p n = some q ∧ q.number = p.number <<< n) ∧
      ∃ q, shr p n = some q ∧ q.number = p.number >>> n) ↔ n ≠ 64 := by
  rw [shl, shr]
  rcases lt_or_ge n 64 with hlow | hhigh
  · rw [if_neg (by omega), if_neg (by omega), (within_eq p hn hlow).1, (within_eq p hn hlow).2]
    refine iff_of_true ⟨⟨_, rfl, ?_⟩, _, rfl, ?_⟩ hlow.ne <;>
      grind [Words.number]
  · obtain ⟨k, rfl⟩ := Nat.exists_eq_add_of_le hhigh
    rw [if_pos hhigh, if_pos hhigh, Nat.add_sub_cancel_left]
    rcases Nat.eq_zero_or_pos k with rfl | hk
    · simp [shlWithin, shifted]
    rw [(within_eq _ hk (by omega)).1, (within_eq _ hk (by omega)).2]
    refine iff_of_true ⟨⟨_, rfl, ?_⟩, _, rfl, ?_⟩ (by omega) <;>
      grind [Words.number]

theorem ntz_spec (old : ℕ) (h : x ≠ 0) : TrailingZeros x (ntz old x) := by
  rw [ntz, if_neg h]
  exact ⟨getLsbD_true_ctz_of_ne_zero h, fun j hj => getLsbD_false_of_lt_ctz hj⟩

theorem TrailingZeros.append (x : BitVec 64) {y : BitVec 64} (h : TrailingZeros y r) :
    TrailingZeros (x ++ y) r ∧ TrailingZeros (y ++ 0#64) (64 + r) := by
  have hr : r < 64 := lt_of_getLsbD h.1
  obtain ⟨hbit, hbelow⟩ := h
  refine ⟨⟨?_, fun j hj => ?_⟩, ?_, fun j hj => ?_⟩ <;> rw [getLsbD_append] <;> grind

theorem double_words_iff (p : Words) (old n : ℕ) :
    (0 < n → n < 128 →
      ((∃ q, shl p n = some q ∧ q.number.toNat = p.number.toNat * 2 ^ n % 2 ^ 128) ∧
        (∃ q, shr p n = some q ∧ q.number.toNat = p.number.toNat / 2 ^ n) ↔ n ≠ 64)) ∧
    (p.number.toNat % 2 = 1 → 1 < p.number.toNat →
      (TrailingZeros (p.number - 1) (pntz old p) ↔
        (p.lo = 1 → old = 0 ∧ p.hi.getLsbD 0 = false ∨ TrailingZeros (p.number - 1) old))) := by
  refine ⟨fun hn hlt => ?_, fun hodd hlt => ?_⟩
  · rw [← shifts_iff p hn hlt]
    simp only [← toNat_inj, toNat_shiftLeft, Nat.shiftLeft_eq, toNat_ushiftRight,
      Nat.shiftRight_eq_div_pow]
  have happend : ∀ y : BitVec 64, (p.hi ++ y).toNat = p.hi.toNat * 2 ^ 64 + y.toNat := fun y => by
    rw [toNat_append, ← Nat.shiftLeft_add_eq_or_of_lt y.isLt, Nat.shiftLeft_eq]
  have hnumber := happend p.lo
  rw [← Words.number] at hnumber
  have hpred : p.number - 1 = p.hi ++ (p.lo - 1) := by
    apply eq_of_toNat_eq
    rw [happend]
    bv_omega
  rw [hpred, pntz]
  by_cases hlo : p.lo = 1
  · have hntz := ntz_spec old (x := p.hi) (by bv_omega)
    rw [show p.lo - 1 = 0 by rw [hlo]; rfl, show ntz old 0 = old from rfl]
    by_cases hold : old = 0
    · subst hold
      by_cases hzero : ntz 0 p.hi = 0
      · rw [hzero] at hntz
        simp [TrailingZeros, hzero, hlo, hntz.1]
      · rw [if_neg (not_not.2 rfl), if_pos (by omega)]
        exact iff_of_true (hntz.append 0).2 fun _ => .inl ⟨rfl, hntz.2 0 (by omega)⟩
    · rw [if_pos hold]
      exact ⟨fun h _ => .inr h, fun h => (h hlo).resolve_left fun h => hold h.1⟩
  · have hntz := ntz_spec old (x := p.lo - 1) (by bv_omega)
    rw [if_pos]
    · exact iff_of_true (hntz.append p.hi).1 fun h => absurd h hlo
    · intro hzero
      have hbit := hntz.1
      rw [hzero, getLsbD, Nat.testBit_zero, decide_eq_true_eq] at hbit
      bv_omega

/-- The number `2 ^ 64 + 1`, whose predecessor has 64 trailing zeros -/
theorem pntz_misses_64 : shl ⟨1, 1⟩ 64 = none ∧ pntz 0 ⟨1, 1⟩ = 0 ∧
    TrailingZeros (Words.number ⟨1, 1⟩ - 1) 64 :=
  ⟨rfl, by decide +kernel, rfl, by decide⟩

end Smoothsort
