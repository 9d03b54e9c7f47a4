import Mathlib.Data.Nat.Bitwise
import Mathlib.Algebra.Order.Group.Nat

/-! # Sets of small numbers kept as the bits of a word

The words that stand for one number, for all numbers up to a bound and for the least number
of a set, and which bits sums and differences of such words have. -/
namespace BitMask

open BitVec

variable {w : ℕ}

def bit (w i : ℕ) : BitVec w := 1#w <<< i

def upTo (w n : ℕ) : BitVec w := (2#w <<< n) - 1#w

def lowest (x : BitVec w) : BitVec w := x &&& -x

theorem getLsbD_bit (hi : i < w) (j : ℕ) : (bit w i).getLsbD j = decide (j = i) := by
  by_cases h : j = i
  · subst h
    simp [bit, hi]
  · by_cases hj : j < i
    · simp [bit, h, hj]
    · have hne : j - i ≠ 0 := by omega
      simp [bit, h, hne]

theorem upTo_eq (w n : ℕ) : upTo w n = BitVec.ofNat w (2 ^ (n + 1) - 1) := by
  have hshift : 2#w <<< n = BitVec.ofNat w (2 ^ (n + 1)) := by
    apply BitVec.eq_of_toNat_eq
    rw [BitVec.toNat_shiftLeft, BitVec.toNat_ofNat, BitVec.toNat_ofNat, Nat.shiftLeft_eq,
      Nat.mod_mul_mod, pow_succ, mul_comm]
  have hsucc : 2 ^ (n + 1) = 2 ^ (n + 1) - 1 + 1 := by
    have := Nat.two_pow_pos (n + 1)
    omega
  rw [upTo, hshift]
  conv_lhs => rw [hsucc, ofNat_add]
  rw [add_sub_cancel]

theorem getLsbD_upTo (hn : n < w) (j : ℕ) : (upTo w n).getLsbD j = decide (j ≤ n) := by
  have hiff : j < w ∧ j < n + 1 ↔ j ≤ n := by omega
  rw [upTo_eq, getLsbD_ofNat, Nat.testBit_two_pow_sub_one, ← Bool.decide_and, decide_eq_decide]
  exact hiff

theorem getLsbD_add {x y : BitVec w} (h : ∀ i, x.getLsbD i = true → y.getLsbD i = false) (i : ℕ) :
    (x + y).getLsbD i = (x.getLsbD i || y.getLsbD i) := by
  have hand : x &&& y = 0#w := by
    apply eq_of_getLsbD_eq
    intro i _
    rw [getLsbD_and, getLsbD_zero]
    cases hx : x.getLsbD i with
    | false => rfl
    | true => rw [h i hx]; rfl
  rw [add_eq_or_of_and_eq_zero x y hand, getLsbD_or]

theorem getLsbD_sub {x y : BitVec w} (h : ∀ i, y.getLsbD i = true → x.getLsbD i = true) (i : ℕ) :
    (x - y).getLsbD i = (x.getLsbD i && !y.getLsbD i) := by
  have hsum : (x &&& ~~~y) + y = x := by
    apply eq_of_getLsbD_eq
    intro i hi
    rw [getLsbD_add]
    · rw [getLsbD_and, getLsbD_not]
      cases hy : y.getLsbD i with
      | false => simp [hi]
      | true => simp [h i hy]
    · intro j hj
      rw [getLsbD_and, getLsbD_not] at hj
      simp only [Bool.and_eq_true, Bool.not_eq_true'] at hj
      exact hj.2.2
  have hsub : x - y = x &&& ~~~y := by
    conv_lhs => rw [← hsum]
    rw [add_sub_cancel]
  rw [hsub, getLsbD_and]
  by_cases hi : i < w
  · simp [hi]
  · simp [getLsbD_of_ge x i (by omega)]

theorem lowest_eq (hi : i < w) (hx : x.getLsbD i = true) (hlow : ∀ j < i, x.getLsbD j = false) :
    lowest x = bit w i := by
  apply eq_of_getLsbD_eq
  intro j hj
  rw [getLsbD_bit hi, lowest, getLsbD_and, getLsbD_neg]
  by_cases hij : j = i
  · subst hij
    have hno : ¬ ∃ k < j, x.getLsbD k = true := by
      rintro ⟨k, hk, hxk⟩
      rw [hlow k hk] at hxk
      exact Bool.false_ne_true hxk
    simp [hx, hno]
  · cases hxj : x.getLsbD j with
    | false => simp [hij]
    | true =>
      have hlt : i < j := by
        by_contra hnot
        rw [hlow j (by omega)] at hxj
        exact Bool.false_ne_true hxj
      have hyes : ∃ k < j, x.getLsbD k = true := ⟨i, hlt, hx⟩
      simp [hij, hj, hyes]

theorem ctz_bit (hi : i < w) : (bit w i).ctz.toNat = i := by
  have hne : bit w i ≠ 0#w := by
    intro hzero
    have hbit := getLsbD_bit hi i
    rw [hzero] at hbit
    simp at hbit
  have htrue := getLsbD_true_ctz_of_ne_zero hne
  rwa [getLsbD_bit hi, decide_eq_true_eq] at htrue

theorem lowest_spec (h : x ≠ 0#w) :
    ∃ i < w, x.getLsbD i = true ∧ lowest x = bit w i ∧ (lowest x).ctz.toNat = i := by
  have hx := getLsbD_true_ctz_of_ne_zero h
  have hi := lt_of_getLsbD hx
  have hbit := lowest_eq hi hx fun j hj => getLsbD_false_of_lt_ctz hj
  exact ⟨x.ctz.toNat, hi, hx, hbit, by rw [hbit, ctz_bit hi]⟩

end BitMask
