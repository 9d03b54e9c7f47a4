import GcompatMusl.FlatMemory
import Mathlib.Data.UInt

/-! # Machine words in a byte memory

A 64-bit word occupies eight bytes, the lowest first. Words at different addresses may share
bytes; a write is seen through every word that is not apart from it. -/
namespace WordMemory

open FlatMemory

def Apart (a b : ℕ) : Prop := a + 8 ≤ b ∨ b + 8 ≤ a

instance (a b : ℕ) : Decidable (Apart a b) := inferInstanceAs (Decidable (_ ∨ _))

theorem Apart.symm (h : Apart a b) : Apart b a := Or.symm h

def loadNat (m : Mem UInt8) (a : ℕ) : ℕ → ℕ
  | 0 => 0
  | n + 1 => (m a).toNat + 256 * loadNat m (a + 1) n

def loadWord (m : Mem UInt8) (a : ℕ) : BitVec 64 := BitVec.ofNat 64 (loadNat m a 8)

def storeWord (m : Mem UInt8) (a : ℕ) (v : BitVec 64) : Mem UInt8 := fun b =>
  if InRange b a 8 then UInt8.ofNat (v.toNat / 256 ^ (b - a)) else m b

variable {m : Mem UInt8} {a b : ℕ}

theorem storeWord_outside (v : BitVec 64) (h : ¬ InRange b a 8) : storeWord m a v b = m b := by
  simp [storeWord, h]

theorem loadNat_congr (n : ℕ) :
    ∀ a, (∀ k < n, m (a + k) = m' (a + k)) → loadNat m a n = loadNat m' a n := by
  induction n with
  | zero => intro a _; rfl
  | succ n ih =>
    intro a h
    have hhead := h 0 (by omega)
    have htail := ih (a + 1) (fun k hk => by
      have := h (k + 1) (by omega)
      rwa [show a + 1 + k = a + (k + 1) by omega])
    simp only [loadNat, htail]
    rw [show m a = m' a from hhead]

theorem loadWord_congr (h : ∀ k < 8, m (a + k) = m' (a + k)) :
    loadWord m a = loadWord m' a := by
  rw [loadWord, loadWord, loadNat_congr 8 a h]

theorem loadWord_storeWord_apart (v : BitVec 64) (h : Apart a b) :
    loadWord (storeWord m a v) b = loadWord m b := by
  apply loadWord_congr
  intro k hk
  apply storeWord_outside
  unfold Apart at h
  unfold InRange
  omega

theorem loadWord_copy_outside (h : a + 8 ≤ d ∨ d + n ≤ a) :
    loadWord (copy m d s n) a = loadWord m a := by
  apply loadWord_congr
  intro k hk
  apply copy_outside
  unfold InRange
  omega

theorem loadNat_of_bytes (n : ℕ) :
    ∀ a i, (∀ k < n, (m (a + k)).toNat = v / 256 ^ (i + k) % 256) →
      loadNat m a n = v / 256 ^ i % 256 ^ n := by
  induction n with
  | zero => intro a i _; simp [loadNat, Nat.mod_one]
  | succ n ih =>
    intro a i h
    have hhead := h 0 (by omega)
    have htail := ih (a + 1) (i + 1) (fun k hk => by
      have := h (k + 1) (by omega)
      rwa [show a + 1 + k = a + (k + 1) by omega, show i + 1 + k = i + (k + 1) by omega])
    rw [loadNat, htail]
    rw [show (m a).toNat = v / 256 ^ i % 256 from hhead, pow_succ, ← Nat.div_div_eq_div_mul,
      pow_succ, Nat.mul_comm (256 ^ n) 256, Nat.mod_mul]

@[simp] theorem loadWord_storeWord (v : BitVec 64) : loadWord (storeWord m a v) a = v := by
  have hbytes : loadNat (storeWord m a v) a 8 = v.toNat / 256 ^ 0 % 256 ^ 8 := by
    apply loadNat_of_bytes
    intro k hk
    have hin : InRange (a + k) a 8 := by unfold InRange; omega
    simp [storeWord, hin]
  apply BitVec.eq_of_toNat_eq
  rw [loadWord, BitVec.toNat_ofNat]
  omega

end WordMemory
