import Mathlib.Data.Nat.Bitwise

/-! # Alignment by masks

Rounding to a power of two on 64-bit words, as C code writes it with `&`, `~` and unary minus. The
words are naturals; a sum that may wrap is reduced by the program that forms it. -/
namespace MaskAlign

open Nat

def negWord (x : ℕ) : ℕ := (2 ^ 64 - x % 2 ^ 64) % 2 ^ 64

theorem negWord_mod (x : ℕ) : negWord (x % 2 ^ 64) = negWord x := by
  rw [negWord, mod_mod, negWord]

def subWord (x y : ℕ) : ℕ := (x + (2 ^ 64 - y % 2 ^ 64)) % 2 ^ 64

theorem subWord_of_le (hx : x < 2 ^ 64) (hy : y ≤ x) : subWord x y = x - y := by
  rw [subWord]
  omega

theorem and_low : x &&& (2 ^ k - 1) = x % 2 ^ k := Nat.and_two_pow_sub_one_eq_mod x k

theorem two_pow_lt (hk : k < 64) : 2 ^ k < 2 ^ 64 := Nat.pow_lt_pow_right (by omega) hk

theorem negWord_two_pow (hk : k < 64) : negWord (2 ^ k) = 2 ^ 64 - 2 ^ k := by
  have hlt := two_pow_lt hk
  have hpos : 0 < 2 ^ k := Nat.two_pow_pos k
  rw [negWord, mod_eq_of_lt hlt, mod_eq_of_lt (by omega)]

theorem dvd_add_neg (hk : k < 64) (y : ℕ) : 2 ^ k ∣ y + negWord y % 2 ^ k := by
  have hdvd : 2 ^ k ∣ 2 ^ 64 := pow_dvd_pow 2 hk.le
  have hword : 2 ^ 64 ∣ y + negWord y := by
    unfold negWord
    omega
  have hmod : (y + negWord y) % 2 ^ k = 0 := mod_eq_zero_of_dvd (hdvd.trans hword)
  apply dvd_of_mod_eq_zero
  rwa [add_mod_mod]

theorem mod_word_mod (hk : k < 64) (y : ℕ) : y % 2 ^ 64 % 2 ^ k = y % 2 ^ k :=
  mod_mod_of_dvd y (pow_dvd_pow 2 hk.le)

theorem and_high (hk : k < 64) (hx : x < 2 ^ 64) : x &&& (2 ^ 64 - 2 ^ k) = x - x % 2 ^ k := by
  have hlt := two_pow_lt hk
  have hdiv : x - x % 2 ^ k = x >>> k <<< k := by
    have := div_add_mod' x (2 ^ k)
    rw [shiftRight_eq_div_pow]
    omega
  rw [hdiv]
  apply eq_of_testBit_eq
  intro i
  have hmask : (2 ^ 64 - 2 ^ k).testBit i = (decide (i < 64) && !decide (i < k)) := by
    rw [show 2 ^ 64 - 2 ^ k = 2 ^ 64 - ((2 ^ k - 1) + 1) by omega,
      testBit_two_pow_sub_succ (by omega), testBit_two_pow_sub_one]
  rw [testBit_and, hmask, testBit_shiftLeft]
  by_cases hi : i < k
  · simp [hi]
  · have hki : k + (i - k) = i := by omega
    by_cases h64 : i < 64
    · simp [hi, h64, not_lt.mp hi]
    · have hbit : x.testBit i = false := by
        apply testBit_lt_two_pow
        exact hx.trans_le (Nat.pow_le_pow_right (by omega) (not_lt.mp h64))
      simp [hi, hki, hbit]

def maxPow2 (a b : ℕ) : ℕ := negWord (negWord a &&& negWord b)

theorem high_and_high (hi : i < 64) (hij : j ≤ i) :
    (2 ^ 64 - 2 ^ i) &&& (2 ^ 64 - 2 ^ j) = 2 ^ 64 - 2 ^ i := by
  have hpos : 0 < 2 ^ i := Nat.two_pow_pos i
  have hdvd : 2 ^ j ∣ 2 ^ 64 - 2 ^ i :=
    dvd_sub (pow_dvd_pow 2 (by omega)) (pow_dvd_pow 2 hij)
  rw [and_high (by omega) (by omega), Nat.mod_eq_zero_of_dvd hdvd, Nat.sub_zero]

theorem negWord_high (hk : k < 64) : negWord (2 ^ 64 - 2 ^ k) = 2 ^ k := by
  have hlt := two_pow_lt hk
  have hpos : 0 < 2 ^ k := Nat.two_pow_pos k
  rw [negWord, Nat.mod_eq_of_lt (by omega : 2 ^ 64 - 2 ^ k < 2 ^ 64), Nat.sub_sub_self hlt.le,
    mod_eq_of_lt hlt]

theorem maxPow2_two_pow (hi : i < 64) (hj : j < 64) : maxPow2 (2 ^ i) (2 ^ j) = 2 ^ max i j := by
  rw [maxPow2, negWord_two_pow hi, negWord_two_pow hj]
  rcases le_total j i with h | h
  · rw [high_and_high hi h, negWord_high hi, max_eq_left h]
  · rw [Nat.and_comm, high_and_high hj h, negWord_high hj, max_eq_right h]

/-- `x` rounded up to a multiple of `a`, where the sum does not wrap. -/
def alignUp (x a : ℕ) : ℕ := (x + a - 1) &&& negWord a

theorem alignUp_spec (hk : k < 64) (hx : x + 2 ^ k - 1 < 2 ^ 64) :
    x ≤ alignUp x (2 ^ k) ∧ alignUp x (2 ^ k) < x + 2 ^ k ∧ 2 ^ k ∣ alignUp x (2 ^ k) := by
  rw [alignUp, negWord_two_pow hk, and_high hk hx]
  refine ⟨by omega, by omega, ?_⟩
  exact dvd_sub_mod _

end MaskAlign
