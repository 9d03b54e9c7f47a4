import Mathlib.Tactic.Common
import Mathlib.Data.Nat.Basic

/-! # Flat memory

A total map from addresses to cells, of any type; wrap-around is left to the address arithmetic of
the program that uses it. -/
namespace FlatMemory

open List

abbrev Mem (α : Type*) := ℕ → α

variable {α : Type*}

def store (m : Mem α) (a : ℕ) (v : α) : Mem α := Function.update m a v

@[simp] theorem store_self (m : Mem α) (a : ℕ) (v : α) : store m a v a = v := by
  simp [store]

theorem store_ne (m : Mem α) (v : α) (h : b ≠ a) : store m a v b = m b := by
  simp [store, h]

def InRange (a p n : ℕ) : Prop := p ≤ a ∧ a < p + n

instance (a p n : ℕ) : Decidable (InRange a p n) := inferInstanceAs (Decidable (_ ∧ _))

def Overlap (p n q k : ℕ) : Prop := ∃ a, InRange a p n ∧ InRange a q k

theorem overlap_iff :
    Overlap p n q k ↔ 0 < n ∧ 0 < k ∧ p < q + k ∧ q < p + n := by
  constructor
  · rintro ⟨a, ⟨hp, hn⟩, hq, hk⟩
    omega
  · rintro ⟨hn, hk, hp, hq⟩
    refine ⟨max p q, ?_, ?_⟩ <;> unfold InRange <;> omega

instance (p n q k : ℕ) : Decidable (Overlap p n q k) := decidable_of_iff _ overlap_iff.symm

def copy (m : Mem α) (d s : ℕ) : ℕ → Mem α
  | 0 => m
  | n + 1 => copy (store m d (m s)) (d + 1) (s + 1) n

theorem copy_outside (n : ℕ) :
    ∀ (m : Mem α) (d s : ℕ) {a : ℕ}, ¬ InRange a d n → copy m d s n a = m a := by
  induction n with
  | zero => intro m d s a _; rfl
  | succ n ih =>
    intro m d s a ha
    unfold InRange at ha
    rw [copy, ih _ _ _ (by unfold InRange; omega), store_ne _ _ (by omega)]

def fill (m : Mem α) (d : ℕ) (v : α) : ℕ → Mem α
  | 0 => m
  | n + 1 => fill (store m d v) (d + 1) v n

section Contents

def readList (m : Mem α) (p n : ℕ) : List α := (List.range n).map fun k => m (p + k)

def writeList (m : Mem α) (p : ℕ) : List α → Mem α
  | [] => m
  | v :: l => writeList (store m p v) (p + 1) l

variable (m : Mem α)

@[simp] theorem readList_length (p n : ℕ) : (readList m p n).length = n := by
  simp [readList]

theorem readList_congr {m m' : Mem α} {p n : ℕ} (h : ∀ a, InRange a p n → m a = m' a) :
    readList m p n = readList m' p n := by
  apply map_congr_left
  intro k hk
  have hk := mem_range.mp hk
  exact h (p + k) ⟨by omega, by omega⟩

theorem readList_append (p n k : ℕ) :
    readList m p (n + k) = readList m p n ++ readList m (p + n) k := by
  simp only [readList, range_add, map_append, map_map]
  congr 1
  apply map_congr_left
  intro i _
  simp [Nat.add_assoc]

theorem writeList_outside (l : List α) :
    ∀ (m : Mem α) (p : ℕ) {a : ℕ}, ¬ InRange a p l.length → writeList m p l a = m a := by
  induction l with
  | nil => intro m p a _; rfl
  | cons v l ih =>
    intro m p a ha
    unfold InRange at ha
    rw [length_cons] at ha
    rw [writeList, ih _ _ (by unfold InRange; omega), store_ne _ _ (by omega)]

theorem writeList_append (l l' : List α) :
    ∀ (m : Mem α) (p : ℕ),
      writeList (writeList m p l) (p + l.length) l' = writeList m p (l ++ l') := by
  induction l with
  | nil => intro m p; rfl
  | cons v l ih =>
    intro m p
    rw [writeList, cons_append, writeList, ← ih, length_cons, Nat.add_assoc, Nat.add_comm 1]

theorem readList_succ (p n : ℕ) : readList m p (n + 1) = m p :: readList m (p + 1) n := by
  rw [Nat.add_comm, readList_append]
  rfl

theorem readList_writeList (l : List α) :
    ∀ (m : Mem α) (p : ℕ), readList (writeList m p l) p l.length = l := by
  induction l with
  | nil => intro m p; rfl
  | cons v l ih =>
    intro m p
    have hhead : writeList (store m p v) (p + 1) l p = v := by
      rw [writeList_outside _ _ _ (by unfold InRange; omega), store_self]
    rw [writeList, length_cons, readList_succ, ih, hhead]

theorem readList_writeList_behind (p n : ℕ) (l : List α) :
    readList (writeList m (p + n) l) p (n + l.length) = readList m p n ++ l := by
  rw [readList_append, readList_writeList]
  congr 1
  refine readList_congr fun a ha => writeList_outside _ _ _ ?_
  rw [InRange] at ha ⊢
  omega

theorem readList_writeList_end (h : p ≤ q) (l : List α) :
    readList (writeList m q l) p (q + l.length - p) = readList m p (q - p) ++ l := by
  have hread := readList_writeList_behind m p (q - p) l
  rwa [Nat.add_sub_cancel' h, ← Nat.sub_add_comm h] at hread

theorem readList_copy (n : ℕ) :
    ∀ (m : Mem α) (d s : ℕ), (d + n ≤ s ∨ s + n ≤ d) →
      readList (copy m d s n) d n = readList m s n := by
  induction n with
  | zero => intro m d s _; rfl
  | succ n ih =>
    intro m d s h
    have hhead : copy (store m d (m s)) (d + 1) (s + 1) n d = m s := by
      rw [copy_outside _ _ _ _ (by unfold InRange; omega), store_self]
    have hrest : readList (store m d (m s)) (s + 1) n = readList m (s + 1) n := by
      apply readList_congr
      intro a ha
      unfold InRange at ha
      exact store_ne _ _ (by omega)
    rw [copy, readList_succ, readList_succ, ih _ _ _ (by omega), hhead, hrest]

end Contents

section Terminated

variable [Zero α]

structure StringAt (m : Mem α) (p n : ℕ) : Prop where
  terminator : m (p + n) = 0
  nonzero : ∀ k < n, m (p + k) ≠ 0

variable {m : Mem α}

theorem StringAt.unique {p n k : ℕ} (h : StringAt m p n) (h' : StringAt m p k) :
    n = k := by
  rcases Nat.lt_trichotomy n k with hlt | heq | hgt
  · exact (h'.nonzero n hlt h.terminator).elim
  · exact heq
  · exact (h.nonzero k hgt h'.terminator).elim

theorem StringAt.suffix {p n k : ℕ} (h : StringAt m p n) (hk : k ≤ n) :
    StringAt m (p + k) (n - k) := by
  refine ⟨?_, ?_⟩
  · rw [show p + k + (n - k) = p + n by omega]
    exact h.terminator
  · intro j hj
    rw [Nat.add_assoc]
    exact h.nonzero (k + j) (by omega)

theorem string_or_nonzero [DecidableEq α] (m : Mem α) (p n : ℕ) :
    (∃ l < n, StringAt m p l) ∨ ∀ k < n, m (p + k) ≠ 0 := by
  induction n with
  | zero => exact Or.inr fun k hk => absurd hk (Nat.not_lt_zero k)
  | succ n ih =>
    rcases ih with ⟨l, hl, hs⟩ | hn
    · exact Or.inl ⟨l, by omega, hs⟩
    by_cases hz : m (p + n) = 0
    · exact Or.inl ⟨n, by omega, hz, hn⟩
    · refine Or.inr fun k hk => ?_
      rcases Nat.lt_or_ge k n with h | h
      · exact hn k h
      · rwa [show k = n by omega]

theorem StringAt.zero {p : ℕ} (h : m p = 0) : StringAt m p 0 :=
  ⟨h, fun _ hk => absurd hk (Nat.not_lt_zero _)⟩

theorem StringAt.head_eq {p : ℕ} (h : StringAt m p 0) : m p = 0 := h.terminator

theorem StringAt.head_ne {p n : ℕ} (h : StringAt m p (n + 1)) : m p ≠ 0 :=
  h.nonzero 0 (by omega)

theorem StringAt.tail {p n : ℕ} (h : StringAt m p (n + 1)) :
    StringAt m (p + 1) n := by
  simpa using h.suffix (k := 1) (by omega)

end Terminated

end FlatMemory
