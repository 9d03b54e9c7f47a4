import Mathlib.Data.List.GetD
import Mathlib.Data.List.Nodup
import Mathlib.Data.List.Perm.Basic

/-! # strfry

The string is swapped around in place; the list is the memory from its first byte on. -/
namespace Strfry

open List

def swap (m : List UInt8) (i j : ℕ) : List UInt8 := (m.set i (m.getD j 0)).set j (m.getD i 0)

/-- `rand i` is the result of `rand_r` in turn `i`. -/
def strfry (rand : ℕ → ℕ) (m : List UInt8) : List UInt8 :=
  let len := m.idxOf 0
  (range (len - 1)).foldl (fun m i => swap m i (rand i % (len - i) + i)) m

/-- The string `s` after swaps of its bytes from `i` on with the ones at the indices `js` -/
def shuffled (s : List UInt8) (i : ℕ) : List ℕ → List UInt8
  | [] => s
  | j :: js => shuffled (swap s i j) (i + 1) js

/-- Draws for a string of length `len` from index `i` on -/
def Draws (len : ℕ) (i : ℕ) (js : List ℕ) : Prop :=
  js.length = len - 1 - i ∧ ∀ k j, js[k]? = some j → i + k ≤ j ∧ j < len

theorem swap_length (m : List UInt8) (i j : ℕ) : (swap m i j).length = m.length := by
  rw [swap, length_set, length_set]

theorem swap_perm (hi : i < s.length) (hj : j < s.length) : swap s i j ~ s := by
  rw [swap, getD_eq_getElem _ _ hi, getD_eq_getElem _ _ hj]
  exact set_set_perm hi hj

theorem swap_append (hi : i < s.length) (hj : j < s.length) (r : List UInt8) :
    swap (s ++ r) i j = swap s i j ++ r := by
  rw [swap, getD_append _ _ _ _ hi, getD_append _ _ _ _ hj, set_append_left _ _ hi,
    set_append_left _ _ (by rw [length_set]; exact hj)]
  rfl

theorem swap_get_self (hi : i ≤ j) (hj : j < s.length) : (swap s i j)[i]? = s[j]? := by
  rw [swap, getD_eq_getElem _ _ hj, getElem?_eq_getElem hj]
  rcases Nat.eq_or_lt_of_le hi with rfl | hlt
  · rw [getElem?_set_self (by rw [length_set]; exact hj), getD_eq_getElem _ _ hj]
  · rw [getElem?_set_ne (by omega), getElem?_set_self (by omega)]

theorem swap_take (hi : i ≤ j) : (swap s i j).take i = s.take i := by
  rw [swap, take_set_of_le hi, take_set_of_le (Nat.le_refl i)]

theorem Draws.tail (h : Draws len i (j :: js)) : i ≤ j ∧ j < len ∧ Draws len (i + 1) js := by
  obtain ⟨hlength, hdraw⟩ := h
  rw [length_cons] at hlength
  refine ⟨(hdraw 0 j rfl).1, (hdraw 0 j rfl).2, by omega, ?_⟩
  intro k j' hk
  have := hdraw (k + 1) j' hk
  omega

theorem Draws.cons (h : Draws len (i + 1) js) (hi : i ≤ j) (hj : j < len) (hlt : i + 1 < len) :
    Draws len i (j :: js) := by
  obtain ⟨hlength, hdraw⟩ := h
  refine ⟨by rw [length_cons]; omega, ?_⟩
  intro k j' hk
  cases k with
  | zero =>
    cases hk
    omega
  | succ k =>
    have := hdraw k j' hk
    omega

theorem shuffled_perm (h : Draws s.length i js) : shuffled s i js ~ s := by
  induction js generalizing s i with
  | nil => exact Perm.refl s
  | cons j js ih =>
    obtain ⟨hi, hj, htail⟩ := h.tail
    rw [← swap_length s i j] at htail
    exact (ih htail).trans (swap_perm (by omega) hj)

theorem shuffled_take (h : Draws len i js) : (shuffled s i js).take i = s.take i := by
  induction js generalizing s i with
  | nil => rfl
  | cons j js ih =>
    obtain ⟨hi, -, htail⟩ := h.tail
    have hmore := congrArg (take i) (ih (s := swap s i j) htail)
    rw [take_take, take_take, Nat.min_eq_left (Nat.le_succ i), swap_take hi] at hmore
    exact hmore

theorem drop_perm (ht : t ~ s) (hsame : t.take i = s.take i) : t.drop i ~ s.drop i := by
  rw [← perm_append_left_iff (t.take i), take_append_drop, hsame, take_append_drop]
  exact ht

/-- The byte that belongs at `i` is at one place of the rest, and no later turn moves it again. -/
theorem exists_draws (hs : s.Nodup) (ht : t ~ s) (hsame : t.take i = s.take i)
    (hi : i < s.length) : ∃! js, Draws s.length i js ∧ shuffled s i js = t := by
  induction h : s.length - 1 - i generalizing s i with
  | zero =>
    obtain ⟨a, ha⟩ := length_eq_one_iff.mp (show (s.drop i).length = 1 by rw [length_drop]; omega)
    have hdrop := drop_perm ht hsame
    rw [ha, perm_singleton] at hdrop
    refine ⟨[], ⟨⟨h.symm, nofun⟩, ?_⟩, ?_⟩
    · rw [shuffled, ← take_append_drop i s, ← take_append_drop i t, hsame, hdrop, ha]
    · rintro js ⟨⟨hjs, -⟩, -⟩
      exact length_eq_zero_iff.mp (hjs.trans h)
  | succ n ih =>
    have hti : i < t.length := by rw [ht.length_eq]; exact hi
    have hmem : t[i] ∈ s.drop i := by
      rw [← (drop_perm ht hsame).mem_iff, drop_eq_getElem_cons hti]
      exact mem_cons_self
    obtain ⟨k, hk, hget⟩ := mem_drop_iff_getElem.mp hmem
    have hnext : ∀ j, i ≤ j → j < s.length →
        (t.take (i + 1) = (swap s i j).take (i + 1) ↔ j = i + k) := by
      intro j hle hj
      rw [take_add_one, take_add_one, swap_take hle, hsame, append_cancel_left_eq,
        swap_get_self hle hj,
        getElem?_eq_getElem hti, getElem?_eq_getElem hj, Option.toList_some, Option.toList_some,
        singleton_inj, ← hget, hs.getElem_inj_iff, eq_comm]
    have hswap : swap s i (i + k) ~ s := swap_perm hi (by omega)
    obtain ⟨js, ⟨hdraws, hres⟩, hunique⟩ := ih (hswap.nodup_iff.mpr hs) (ht.trans hswap.symm)
      ((hnext (i + k) (by omega) (by omega)).mpr rfl) (by rw [swap_length]; omega)
      (by rw [swap_length]; omega)
    rw [swap_length] at hdraws hunique
    refine ⟨(i + k) :: js, ⟨hdraws.cons (by omega) (by omega) (by omega), hres⟩, ?_⟩
    rintro js' ⟨hdraws', hres'⟩
    cases js' with
    | nil =>
      have := hdraws'.1
      rw [length_nil] at this
      omega
    | cons j js' =>
      obtain ⟨hle, hj, htail⟩ := hdraws'.tail
      rw [shuffled] at hres'
      obtain rfl := (hnext j hle hj).mp (by rw [← hres', shuffled_take htail])
      rw [hunique js' ⟨htail, hres'⟩]

theorem foldl_shuffled (s r : List UInt8) (draw : ℕ → ℕ) (n : ℕ)
    (h : Draws s.length i ((range' i n).map draw)) :
    (range' i n).foldl (fun m i => swap m i (draw i)) (s ++ r) =
      shuffled s i ((range' i n).map draw) ++ r := by
  induction n generalizing s i with
  | zero => rfl
  | succ n ih =>
    obtain ⟨hle, hj, htail⟩ := h.tail
    rw [range'_succ, foldl_cons, swap_append (by omega) hj, ih _ (by rw [swap_length]; exact htail)]
    rfl

theorem draws_of_rand (rand : ℕ → ℕ) (len : ℕ) :
    Draws len 0 ((range' 0 (len - 1)).map fun i => rand i % (len - i) + i) := by
  refine ⟨by rw [length_map, length_range', Nat.sub_zero], ?_⟩
  intro k j hj
  obtain ⟨hk, rfl⟩ := List.getElem?_eq_some_iff.mp hj
  rw [length_map, length_range'] at hk
  have := Nat.mod_lt (rand (0 + 1 * k)) (show len - (0 + 1 * k) > 0 by omega)
  rw [getElem_map, getElem_range']
  omega

/-- The bytes behind the string stay as they are, and every order of different bytes comes from one
sequence of draws. -/
theorem strfry_shuffles (s rest : List UInt8) (hs : 0 ∉ s) :
    (∀ rand, let js := (range' 0 (s.length - 1)).map fun i => rand i % (s.length - i) + i
      Draws s.length 0 js ∧ shuffled s 0 js ~ s ∧
        strfry rand (s ++ 0 :: rest) = shuffled s 0 js ++ 0 :: rest) ∧
    (s.Nodup → ∀ t, t ~ s → ∃! js, Draws s.length 0 js ∧ shuffled s 0 js = t) := by
  constructor
  · intro rand
    have hdraws := draws_of_rand rand s.length
    have hlen : (s ++ 0 :: rest).idxOf 0 = s.length := by
      rw [idxOf_append_of_notMem hs, idxOf_cons_self, Nat.add_zero]
    refine ⟨hdraws, shuffled_perm hdraws, ?_⟩
    rw [strfry, hlen, range_eq_range']
    exact foldl_shuffled s (0 :: rest) _ _ hdraws
  · intro hnodup t ht
    cases s with
    | nil =>
      refine ⟨[], ⟨⟨rfl, nofun⟩, ht.symm.nil_eq⟩, ?_⟩
      rintro js ⟨⟨hjs, -⟩, -⟩
      exact length_eq_zero_iff.mp hjs
    | cons x l => exact exists_draws hnodup ht rfl (Nat.zero_lt_succ _)

theorem strfry_shuffles_abc :
    ∃! js, Draws 3 0 js ∧ shuffled [97, 98, 99] 0 js = [99, 97, 98] :=
  (strfry_shuffles [97, 98, 99] [] (by decide)).2 (by decide) _ (by decide)

end Strfry
