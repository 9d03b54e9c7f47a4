import Mathlib.Algebra.Group.Nat.Defs
import Mathlib.Data.List.Range
import GcompatMusl.FuelLoop

/-! # arc4random

The generator on top of `rand`. What `arc4random_buf` does to the buffer is the list of its
stores. -/
namespace Arc4random

open FuelLoop List

def srand (s : BitVec 32) : BitVec 64 := (s - 1).setWidth 64

def next (seed : BitVec 64) : BitVec 64 := 6364136223846793005#64 * seed + 1

/-- The result of `rand` when it leaves `seed` behind -/
def result (seed : BitVec 64) : BitVec 32 := (seed >>> 33).setWidth 32

def byteOf (v : BitVec 32) (j : ℕ) : BitVec 8 := (v >>> (8 * j)).setWidth 8

structure Store where
  index : ℕ
  byte : BitVec 8
  /-- Made by the branch that fills in a single byte -/
  fallback : Bool

structure Filling where
  i : ℕ
  seed : BitVec 64
  stores : List Store

def fillTurn (nbytes : ℕ) (f : Filling) : Turn (List Store × BitVec 64) Filling :=
  if f.i < nbytes then
    let seed := next f.seed
    if f.i % 4 = 0 then
      let word := ((range 4).takeWhile fun j => (f.i + j) % 2 ^ 64 < nbytes).map fun j =>
        ⟨(f.i + j) % 2 ^ 64, byteOf (result seed) j, false⟩
      .again ⟨((f.i + 3) % 2 ^ 64 + 1) % 2 ^ 64, seed, f.stores ++ word⟩
    else
      .again ⟨(f.i + 1) % 2 ^ 64, seed, f.stores ++ [⟨f.i, (result seed).setWidth 8, true⟩]⟩
  else .ret (f.stores, f.seed)

structure Generator where
  seed : BitVec 64
  srand_called : Bool

section

variable (g : Generator) (time : BitVec 64)

def Generator.seeded : BitVec 64 :=
  if g.srand_called then g.seed else srand (time.setWidth 32)

def arc4random_buf (nbytes : ℕ) (out : List Store × BitVec 64) : Prop :=
  Returns (fillTurn nbytes) ⟨0, g.seeded time, []⟩ out

/-- `val` before the call holds what was on the stack. -/
def loaded (stack : ℕ → BitVec 8) (stores : List Store) : BitVec 32 :=
  let m := stores.foldl (fun m w => Function.update m w.index w.byte) stack
  m 3 ++ m 2 ++ m 1 ++ m 0

def arc4random (stack : ℕ → BitVec 8) (v : BitVec 32) : Prop :=
  ∃ out, arc4random_buf g time 4 out ∧ v = loaded stack out.1

end

/-- The store of byte `k` when the call starts from `seed` -/
def expected (seed : BitVec 64) (k : ℕ) : Store :=
  ⟨k, byteOf (result (next^[k / 4 + 1] seed)) (k % 4), false⟩

theorem word_range (hi : i % 4 = 0) (hn : nbytes < 2 ^ 64) (hlt : i < nbytes) :
    ((range 4).takeWhile fun j => (i + j) % 2 ^ 64 < nbytes) = range (min 4 (nbytes - i)) := by
  have hmod : ∀ j < 4, (i + j) % 2 ^ 64 = i + j := by omega
  rw [show range 4 = [0, 1, 2, 3] from rfl]
  simp only [takeWhile_cons, hmod 0, hmod 1, hmod 2, hmod 3, Nat.reduceLT]
  rcases (by omega : nbytes = i + 1 ∨ nbytes = i + 2 ∨ nbytes = i + 3 ∨ i + 3 < nbytes) with
    rfl | rfl | rfl | hfour
  · simp
  · simp [range_succ]
  · simp [range_succ]
  · rw [Nat.min_eq_left (by omega)]
    simp [show i + 1 < nbytes by omega, show i + 2 < nbytes by omega, hlt, hfour, range_succ]

theorem fillTurn_again (hi : i % 4 = 0) (hn : nbytes < 2 ^ 64) (hlt : i < nbytes) (seed : BitVec 64)
    (l : List Store) :
    fillTurn nbytes ⟨i, next^[i / 4] seed, l⟩ = .again ⟨(i + 4) % 2 ^ 64, next^[(i + 4) / 4] seed,
      l ++ (range' i (min 4 (nbytes - i))).map (expected seed)⟩ := by
  have hseed : next (next^[i / 4] seed) = next^[(i + 4) / 4] seed := by
    rw [show (i + 4) / 4 = i / 4 + 1 by omega, Function.iterate_succ_apply']
  have hword : ((range (min 4 (nbytes - i))).map fun j =>
      (⟨(i + j) % 2 ^ 64, byteOf (result (next^[(i + 4) / 4] seed)) j, false⟩ : Store)) =
      (range' i (min 4 (nbytes - i))).map (expected seed) := by
    rw [range'_eq_map_range, map_map]
    apply map_congr_left
    intro j hj
    have hj := mem_range.mp hj
    rw [Function.comp_apply, expected, Nat.mod_eq_of_lt (by omega),
      show (i + j) / 4 + 1 = (i + 4) / 4 by omega, show (i + j) % 4 = j by omega]
  rw [fillTurn, if_pos hlt, if_pos hi, hseed, word_range hi hn hlt, hword,
    show ((i + 3) % 2 ^ 64 + 1) % 2 ^ 64 = (i + 4) % 2 ^ 64 by omega]

theorem fills (hn : nbytes ≤ 2 ^ 64 - 4) (hi : i % 4 = 0) (seed : BitVec 64) (l : List Store) :
    ∃ seed',
    Returns (fillTurn nbytes) ⟨i, next^[i / 4] seed, l⟩
      (l ++ (range' i (nbytes - i)).map (expected seed), seed') := by
  induction h : nbytes - i using Nat.strongRecOn generalizing i l with
  | ind n ih =>
    by_cases hlt : i < nbytes
    · have hturn := fillTurn_again hi (by omega) hlt seed l
      obtain ⟨seed', hreturns⟩ := ih (nbytes - (i + 4)) (by omega) (by omega)
        (l ++ (range' i (min 4 (nbytes - i))).map (expected seed)) rfl
      have hrange : range' i (min 4 (nbytes - i)) ++ range' (i + 4) (nbytes - (i + 4)) =
          range' i n := by
        rcases Nat.le_total 4 (nbytes - i) with h4 | h4
        · rw [Nat.min_eq_left h4, range'_append_1, show 4 + (nbytes - (i + 4)) = n by omega]
        · rw [Nat.min_eq_right h4, Nat.sub_eq_zero_of_le (show nbytes ≤ i + 4 by omega),
            range'_zero,
            append_nil, h]
      rw [Nat.mod_eq_of_lt (by omega)] at hturn
      rw [append_assoc, ← map_append, hrange] at hreturns
      exact ⟨seed', hreturns.again hturn⟩
    · rw [show n = 0 by omega, range'_zero, map_nil, append_nil]
      exact ⟨_, Returns.ret (if_neg hlt)⟩

theorem arc4random_buf_returns (hn : nbytes ≤ 2 ^ 64 - 4) (g : Generator) (time : BitVec 64) :
    ∃ seed', arc4random_buf g time nbytes
      ((range nbytes).map (expected (g.seeded time)), seed') := by
  rw [range_eq_range']
  exact fills hn rfl (g.seeded time) []

/-- The counter comes back to zero before it reaches `nbytes`. -/
theorem arc4random_buf_diverges (hn : 2 ^ 64 - 4 < nbytes) (hlt : nbytes < 2 ^ 64) :
    ¬ arc4random_buf g time nbytes out := by
  rintro ⟨fuel, hloop⟩
  have hstart : 0 < nbytes := by omega
  have h := loop_rule (fillTurn nbytes) (fun f => f.i % 4 = 0 ∧ f.i < nbytes) (fun _ => False) ?_
    fuel ⟨0, g.seeded time, []⟩ ⟨rfl, hstart⟩
  · rw [hloop] at h
    exact h
  · rintro f ⟨hi, hf⟩
    rw [fillTurn, if_pos hf, if_pos hi]
    constructor
    all_goals
      dsimp only
      omega

theorem bytes_append (v : BitVec 32) :
    byteOf v 3 ++ byteOf v 2 ++ byteOf v 1 ++ byteOf v 0 = v := by
  unfold byteOf
  grind

theorem arc4random_iff : arc4random g time stack v ↔ v = result (next (g.seeded time)) := by
  obtain ⟨seed', hfill⟩ := arc4random_buf_returns (show 4 ≤ 2 ^ 64 - 4 by decide) g time
  have hloaded : loaded stack ((range 4).map (expected (g.seeded time))) =
      result (next (g.seeded time)) := bytes_append _
  constructor
  · rintro ⟨out, ⟨n, hout⟩, rfl⟩
    rw [hfill.unique (congrArg Turn.result hout), hloaded]
  · rintro rfl
    exact ⟨_, hfill, hloaded.symm⟩

theorem result_lt (seed : BitVec 64) : (result seed).toNat < 2 ^ 31 := by
  rw [result, BitVec.toNat_setWidth, BitVec.toNat_ushiftRight]
  omega

theorem exists_result (hv : v.toNat < 2 ^ 31) : ∃ seed, result (next seed) = v := by
  -- the multiplier is odd, so the step of the generator can be undone
  have hnext : ∀ x, next (13877824140714322085#64 * (x - 1)) = x := by
    intro x
    rw [next, ← BitVec.mul_assoc,
      show 6364136223846793005#64 * 13877824140714322085#64 = 1#64 by decide,
      BitVec.one_mul, BitVec.sub_add_cancel]
  refine ⟨13877824140714322085#64 * (v.setWidth 64 <<< 33 - 1), ?_⟩
  apply BitVec.eq_of_toNat_eq
  rw [hnext, result, BitVec.toNat_setWidth, BitVec.toNat_ushiftRight, BitVec.toNat_shiftLeft,
    BitVec.toNat_setWidth, Nat.shiftLeft_eq]
  omega

/-- `v` can be drawn, and a call for `nbytes` bytes stores each of them once, from the results of
`rand` in turn. -/
structure Covers (v : BitVec 32) (nbytes : ℕ) : Prop where
  drawn : ∃ g time stack, arc4random g time stack v
  stored : ∀ g time, ∃ seed',
    arc4random_buf g time nbytes ((range nbytes).map (expected (g.seeded time)), seed')

theorem covers_iff (v : BitVec 32) (nbytes : ℕ) (hn : nbytes < 2 ^ 64) :
    Covers v nbytes ↔ v.toNat < 2 ^ 31 ∧ nbytes ≤ 2 ^ 64 - 4 := by
  constructor
  · intro h
    constructor
    · obtain ⟨g, time, stack, hv⟩ := h.drawn
      rw [arc4random_iff.mp hv]
      exact result_lt _
    · by_contra hlarge
      obtain ⟨seed', hbuf⟩ := h.stored ⟨0, true⟩ 0
      exact arc4random_buf_diverges (not_le.mp hlarge) hn hbuf
  · rintro ⟨hv, hsmall⟩
    obtain ⟨seed, hseed⟩ := exists_result hv
    exact ⟨⟨⟨seed, true⟩, 0, fun _ => 0, arc4random_iff.mpr hseed.symm⟩,
      arc4random_buf_returns hsmall⟩

theorem covers_seven : Covers 7 10 := (covers_iff 7 10 (by decide)).mpr (by decide)

theorem arc4random_top_bit : ¬ ∃ g time stack, arc4random g time stack 0x80000000 := by
  rintro ⟨g, time, stack, hv⟩
  have hlt := result_lt (next (g.seeded time))
  rw [← arc4random_iff.mp hv] at hlt
  exact absurd hlt (by decide)

end Arc4random
