import GcompatMusl.LaggedFibonacci
import Mathlib.Data.BitVec
import Mathlib.Algebra.Group.Subgroup.Basic

/-! # Reentrant random state

`srandom_r`, `initstate_r`, `setstate_r` and `random_r` of `libgcompat/random_r.c`. The
caller's state is a buffer of 32-bit words whose first word packs the degree and the two
positions of the generator. An access outside the buffer has no result. -/
namespace RandomState

open LaggedFibonacci Function List Option Nat

abbrev Word := BitVec 32

def EINVAL : ℕ := 22

def lcg31 (x : Word) : Word := (1103515245#32 * x + 12345#32) &&& 0x7fffffff#32

def lcg64 (x : BitVec 64) : BitVec 64 := 6364136223846793005#64 * x + 1#64

/-- `size` bytes of memory; `x[k]` is word `k + 1`, and `x[-1]` word `0`. -/
structure StateBuf where
  size : ℕ
  word : ℕ → Word

def StateBuf.get (b : StateBuf) (k : ℕ) : Option Word :=
  if 4 * (k + 1) ≤ b.size then some (b.word k) else none

def StateBuf.put (b : StateBuf) (k : ℕ) (v : Word) : StateBuf :=
  ⟨b.size, Function.update b.word k v⟩

def StateBuf.set (b : StateBuf) (k : ℕ) (v : Word) : Option StateBuf :=
  if 4 * (k + 1) ≤ b.size then some (b.put k v) else none

/-- The state buffers and the one `struct random_data`, whose only used field `x` points
one word into a buffer. -/
structure World (β : Type*) where
  mem : β → StateBuf
  x : β
  errno : ℕ

variable {β : Type} [DecidableEq β]

def World.current (w : World β) : StateBuf := w.mem w.x

def World.write (w : World β) (b : StateBuf) : World β :=
  { w with mem := Function.update w.mem w.x b }

def packHeader (n : ℤ) (i j : ℕ) : Word :=
  (BitVec.ofInt 32 n <<< 16) ||| (BitVec.ofNat 32 i <<< 8) ||| BitVec.ofNat 32 j

def headerN (h : Word) : ℤ := (h.sshiftRight 16).toInt

def headerI (h : Word) : ℕ := (h.sshiftRight 8 &&& 0xff#32).toNat

def headerJ (h : Word) : ℕ := (h &&& 0xff#32).toNat

def seedLoop : ℕ → BitVec 64 → ℕ → StateBuf → Option StateBuf
  | 0, _, _, b => some b
  | todo + 1, s, k, b => do
    let b ← b.set (k + 1) ((lcg64 s >>> 32).setWidth 32)
    seedLoop todo (lcg64 s) (k + 1) b

def seedWords (n : ℕ) (seed : Word) (b : StateBuf) : Option StateBuf := do
  let b ← seedLoop n (seed.setWidth 64) 0 b
  let x0 ← b.get 1
  b.set 1 (x0 ||| 1#32)

def srandomR (seed : Word) (bufNull : Bool) (w : World β) : Option (ℤ × World β) :=
  if bufNull then some (-1, w)
  else do
    let h ← w.current.get 0
    let n := headerN h
    if n > 63 then return (-1, w)
    else if n = 0 then
      let b ← w.current.set 1 seed
      return (0, w.write b)
    else
      let i := if n = 31 ∨ n = 7 then 3 else 1
      let b ← seedWords n.toNat seed w.current
      let b ← b.set 0 (packHeader n i 0)
      return (0, w.write b)

def degreeOf (size : ℕ) : ℕ :=
  if size < 32 then 0 else if size < 64 then 7 else if size < 128 then 15
  else if size < 256 then 31 else 63

def initstateR (seed : Word) (state : β) (size : ℕ) (w : World β) : Option (ℤ × World β) :=
  if size < 8 then some (-1, { w with errno := EINVAL })
  else do
    let w := { w with x := state }
    let b ← w.current.set 0 (packHeader (degreeOf size) 3 0)
    let r ← srandomR seed false (w.write b)
    return (0, r.2)

def setstateR (state : Option β) (bufNull : Bool) (w : World β) : ℤ × World β :=
  match state, bufNull with
  | some s, false => (0, { w with x := s })
  | _, _ => (-1, { w with errno := EINVAL })

/-- The second component is the value stored through `result`; the shift is the one of the
signed type `int32_t`. -/
def randomR (bufNull resultNull : Bool) (w : World β) :
    Option (ℤ × Option Word × World β) :=
  if resultNull || bufNull then some (-1, none, { w with errno := EINVAL })
  else do
    let h ← w.current.get 0
    let n := headerN h
    let i := headerI h
    let j := headerJ h
    if n = 0 then
      let x0 ← w.current.get 1
      let b ← w.current.set 1 (lcg31 x0)
      return (0, some (lcg31 x0), w.write b)
    else
      let xi ← w.current.get (i + 1)
      let xj ← w.current.get (j + 1)
      let b ← w.current.set (i + 1) (xi + xj)
      let i := if (i + 1 : ℤ) = n then 0 else i + 1
      let j := if (j + 1 : ℤ) = n then 0 else j + 1
      let b ← b.set 0 (packHeader n i j)
      return (0, some ((xi + xj).sshiftRight 1), w.write b)

variable {n i j k : ℕ} {b : StateBuf} {G : Generator}

section

variable (hn : n < 64) (hi : i < 256) (hj : j < 256)
include hn hi hj

theorem packHeader_toNat : (packHeader n i j).toNat = n * 65536 + i * 256 + j := by
  have hor : (n <<< 16 ||| i <<< 8 ||| j) = n * 65536 + i * 256 + j := by
    have ha : i <<< 8 ||| j = i <<< 8 + j := (shiftLeft_add_eq_or_of_lt hj i).symm
    have hb : i <<< 8 + j < 2 ^ 16 := by rw [shiftLeft_eq]; omega
    rw [Nat.or_assoc, ha, ← Nat.shiftLeft_add_eq_or_of_lt hb n, Nat.shiftLeft_eq]
    omega
  rw [← hor, packHeader]
  simp only [BitVec.ofInt_natCast, BitVec.toNat_or, BitVec.toNat_shiftLeft, BitVec.toNat_ofNat]
  rw [mod_eq_of_lt (show n < 2 ^ 32 by omega), mod_eq_of_lt (show i < 2 ^ 32 by omega),
    mod_eq_of_lt (show j < 2 ^ 32 by omega),
    mod_eq_of_lt (by rw [shiftLeft_eq]; omega),
    mod_eq_of_lt (by rw [shiftLeft_eq]; omega)]

theorem packHeader_msb : (packHeader n i j).msb = false := by
  rw [BitVec.msb_eq_decide, packHeader_toNat hn hi hj]
  simp only [decide_eq_false_iff_not]
  omega

theorem headerN_packHeader : headerN (packHeader n i j) = n := by
  have hs : ((packHeader n i j) >>> 16).toNat = n := by
    rw [BitVec.toNat_ushiftRight, packHeader_toNat hn hi hj]
    omega
  rw [headerN, BitVec.sshiftRight_eq_of_msb_false (packHeader_msb hn hi hj),
    BitVec.toInt_eq_toNat_of_lt (by omega), hs]

theorem headerI_packHeader : headerI (packHeader n i j) = i := by
  rw [headerI, BitVec.sshiftRight_eq_of_msb_false (packHeader_msb hn hi hj), BitVec.toNat_and,
    BitVec.toNat_ushiftRight, packHeader_toNat hn hi hj,
    show (0xff#32).toNat = 2 ^ 8 - 1 from rfl, and_two_pow_sub_one_eq_mod]
  omega

theorem headerJ_packHeader : headerJ (packHeader n i j) = j := by
  rw [headerJ, BitVec.toNat_and, packHeader_toNat hn hi hj,
    show (0xff#32).toNat = 2 ^ 8 - 1 from rfl, and_two_pow_sub_one_eq_mod]
  omega

end

theorem StateBuf.get_of_le (h : 4 * (k + 1) ≤ b.size) : b.get k = some (b.word k) := if_pos h

theorem StateBuf.set_of_le (h : 4 * (k + 1) ≤ b.size) (v : Word) :
    b.set k v = some (b.put k v) := if_pos h

@[simp] theorem StateBuf.put_size (b : StateBuf) (k : ℕ) (v : Word) :
    (b.put k v).size = b.size := rfl

@[simp] theorem StateBuf.put_word_self (b : StateBuf) (k : ℕ) (v : Word) :
    (b.put k v).word k = v := update_self _ _ _

theorem StateBuf.put_word_of_ne (b : StateBuf) (v : Word) (h : p ≠ k) :
    (b.put k v).word p = b.word p := update_of_ne h _ _

@[simp] theorem World.current_write (w : World β) (b : StateBuf) : (w.write b).current = b := by
  simp [World.write, World.current]

theorem World.forall_write {w : World β} {P : β → StateBuf → Prop} (hx : P w.x b)
    (h : ∀ c, c ≠ w.x → P c (w.mem c)) (c : β) : P c ((w.write b).mem c) := by
  by_cases hc : c = w.x
  · simpa [hc, World.write] using hx
  · simpa [hc, World.write] using h c hc

open StateBuf

def lcgWord (s : BitVec 64) (t : ℕ) : Word := (lcg64^[t + 1] s >>> 32).setWidth 32

theorem seedLoop_eq (todo : ℕ) (s : BitVec 64) (k : ℕ) (b : StateBuf)
    (h : 4 * (k + todo + 1) ≤ b.size) :
    seedLoop todo s k b = some { b with
      word := fun p => if k < p ∧ p ≤ k + todo then lcgWord s (p - k - 1) else b.word p } := by
  induction todo generalizing s k b with
  | zero =>
    have hf : ∀ p, ¬ (k < p ∧ p ≤ k) := fun p => by omega
    simp [seedLoop, hf]
  | succ todo ih =>
    rw [seedLoop, set_of_le (by omega)]
    simp only [bind_eq_bind, bind_some]
    rw [ih _ _ _ (by rw [put_size]; omega)]
    congr 2
    funext p
    rcases lt_trichotomy p (k + 1) with hp | hp | hp
    · rw [if_neg (by omega), if_neg (by omega), put_word_of_ne _ _ (by omega)]
    · subst hp
      simp [lcgWord]
    · by_cases hle : p ≤ k + 1 + todo
      · rw [if_pos (by omega), if_pos (by omega), show p - k - 1 = p - (k + 1) - 1 + 1 by omega]
        rfl
      · rw [if_neg (by omega), if_neg (by omega), put_word_of_ne _ _ (by omega)]

def laggedDegrees : List ℕ := [7, 15, 31, 63]

theorem laggedDegrees_bounds (h : n ∈ laggedDegrees) : 7 ≤ n ∧ n ≤ 63 := by
  simp only [laggedDegrees, mem_cons, not_mem_nil, or_false] at h
  omega

theorem laggedDegrees_neZero (h : n ∈ laggedDegrees) : NeZero n :=
  ⟨by have := laggedDegrees_bounds h; omega⟩

theorem header_gen (h : n ∈ laggedDegrees) (g : Gen n Word) : headerN (packHeader n g.i g.j) = n ∧
    headerI (packHeader n g.i g.j) = g.i ∧ headerJ (packHeader n g.i g.j) = g.j := by
  have hb := laggedDegrees_bounds h
  have hn : n < 64 := by omega
  have hi : (g.i : ℕ) < 256 := by omega
  have hj : (g.j : ℕ) < 256 := by omega
  exact ⟨headerN_packHeader hn hi hj, headerI_packHeader hn hi hj, headerJ_packHeader hn hi hj⟩

inductive Generator where
  | linear (x : Word)
  | lagged (n : ℕ) (hn : n ∈ laggedDegrees) (g : Gen n Word)

def separation (n : ℕ) : ℕ := if n = 31 ∨ n = 7 then 3 else 1

theorem separation_bounds (n : ℕ) : 0 < separation n ∧ separation n ≤ 3 := by
  unfold separation
  split <;> omega

def seedWord (seed : Word) (k : ℕ) : Word :=
  if k = 0 then lcgWord (seed.setWidth 64) 0 ||| 1#32 else lcgWord (seed.setWidth 64) k

def seedRing (n : ℕ) (hn : n ∈ laggedDegrees) (seed : Word) : Gen n Word where
  i := ⟨separation n, by have := separation_bounds n; have := laggedDegrees_bounds hn; omega⟩
  j := ⟨0, by have := laggedDegrees_bounds hn; omega⟩
  x := fun k => seedWord seed k
  apart := fun h => by have := separation_bounds n; have := congrArg Fin.val h; simp at this; omega

def Generator.fresh (n : ℕ) (seed : Word) : Generator :=
  if hn : n ∈ laggedDegrees then .lagged n hn (seedRing n hn seed) else .linear seed

def Generator.degree : Generator → ℕ
  | .linear _ => 0
  | .lagged n _ _ => n

def Generator.word : Generator → Word
  | .linear x => lcg31 x
  | .lagged _ hn g => haveI := laggedDegrees_neZero hn; g.output

def Generator.next : Generator → Generator
  | .linear x => .linear (lcg31 x)
  | .lagged n hn g => haveI := laggedDegrees_neZero hn; .lagged n hn g.step

def Encodes (b : StateBuf) : Generator → Prop
  | .linear x => b.word 0 = packHeader 0 3 0 ∧ 8 ≤ b.size ∧ b.word 1 = x
  | .lagged n _ g => b.word 0 = packHeader n g.i g.j ∧ 4 * (n + 1) ≤ b.size ∧
      ∀ k : Fin n, b.word (k + 1) = g.x k

theorem packHeader_linear : headerN (packHeader 0 3 0) = 0 := by decide

theorem next_position [NeZero n] (i : Fin n) :
    (if ((i : ℕ) + 1 : ℤ) = (n : ℤ) then 0 else (i : ℕ) + 1) = ((i + 1 : Fin n) : ℕ) := by
  rw [Fin.val_add_eq_ite]
  have h1 : (((1 : Fin n) : ℕ)) = 1 % n := Fin.val_one' n
  rcases lt_or_ge 1 n with hn | hn
  · rw [h1, mod_eq_of_lt hn]
    split <;> split <;> omega
  · have : n = 1 := by have := NeZero.pos n; omega
    subst this
    simp

def Generator.storedR : Generator → Word
  | .linear x => lcg31 x
  | .lagged _ hn g => haveI := laggedDegrees_neZero hn; g.output.sshiftRight 1

theorem randomR_linear {w : World β} (h : Encodes w.current (.linear x)) :
    randomR false false w = some (0, some (lcg31 x), w.write (w.current.put 1 (lcg31 x))) := by
  obtain ⟨hh, hs, hx⟩ := h
  have h0 := get_of_le (b := w.current) (k := 0) (by omega)
  have h1 := get_of_le (k := 1) (by omega)
  have h2 := set_of_le (k := 1) (by omega) (lcg31 x)
  simp [randomR, h0, hh, packHeader_linear, h1, hx, h2]

def ringStep {n : ℕ} [NeZero n] (b : StateBuf) (g : Gen n Word) : StateBuf :=
  (b.put (g.i + 1) g.output).put 0 (packHeader n g.step.i g.step.j)

theorem randomR_lagged [NeZero n] {w : World β}
    (h : Encodes w.current (.lagged n hn g)) :
    randomR false false w =
      some (0, some (g.output.sshiftRight 1), w.write (ringStep w.current g)) := by
  obtain ⟨hh, hs, hx⟩ := h
  have h0 := get_of_le (b := w.current) (k := 0) (by omega)
  have h1 := get_of_le (b := w.current) (k := g.i + 1) (by omega)
  have h2 := get_of_le (b := w.current) (k := g.j + 1) (by omega)
  have h3 := set_of_le (b := w.current) (k := g.i + 1) (by omega)
  have h4 := fun v => set_of_le (b := w.current.put (g.i + 1) v) (k := 0)
    (by rw [put_size]; omega)
  obtain ⟨hN, hI, hJ⟩ := header_gen hn g
  have hne : (n : ℤ) ≠ 0 := by omega
  simp only [randomR, h0, hh, bind_eq_bind, bind_some, hN, hI, hJ, hne,
    if_false, h1, h2, hx, h3, h4, Bool.or_self]
  rw [next_position g.i, next_position g.j]
  rfl

theorem ringStep_encodes [NeZero n] (h : Encodes b (.lagged n hn g)) :
    Encodes (ringStep b g) (.lagged n hn g.step) := by
  obtain ⟨-, hs, hx⟩ := h
  refine ⟨put_word_self _ _ _, hs, fun k => ?_⟩
  rw [ringStep, put_word_of_ne _ _ (succ_ne_zero _)]
  by_cases hk : k = g.i
  · subst hk
    rw [put_word_self, Gen.step_x_self]
    rfl
  · have hv : (k : ℕ) + 1 ≠ g.i + 1 := fun he => hk (Fin.ext (by omega))
    rw [put_word_of_ne _ _ hv, hx, g.step_x_of_ne hk]

theorem randomR_refines {w : World β} (h : Encodes w.current G) :
    ∃ b, randomR false false w = some (0, some G.storedR, w.write b) ∧ Encodes b G.next ∧
      b.size = w.current.size := by
  cases G with
  | linear x =>
    exact ⟨w.current.put 1 (lcg31 x), randomR_linear h,
      ⟨h.1, h.2.1, put_word_self _ _ _⟩, rfl⟩
  | lagged n hn g =>
    have := laggedDegrees_neZero hn
    exact ⟨ringStep w.current g, randomR_lagged h, ringStep_encodes h, rfl⟩

def seeded (b : StateBuf) (n : ℕ) (seed : Word) : StateBuf :=
  ⟨b.size, fun p => if 0 < p ∧ p ≤ n then seedWord seed (p - 1) else b.word p⟩

variable (seed : Word)

theorem srandomR_linear {w : World β} (h : w.current.word 0 = packHeader 0 3 0)
    (hs : 8 ≤ w.current.size) :
    srandomR seed false w = some (0, w.write (w.current.put 1 seed)) := by
  have h0 := get_of_le (b := w.current) (k := 0) (by omega)
  have h1 := set_of_le (k := 1) (by omega) seed
  simp [srandomR, h0, h, packHeader_linear, h1]

theorem seedWords_eq (hn : 0 < n) (seed : Word) (hs : 4 * (n + 1) ≤ b.size) :
    seedWords n seed b = some (seeded b n seed) := by
  rw [seedWords, seedLoop_eq n (seed.setWidth 64) 0 b (by omega)]
  simp only [bind_eq_bind, bind_some]
  rw [get_of_le (by dsimp only; omega), bind_some,
    set_of_le (by dsimp only; omega), StateBuf.put]
  congr 2
  funext p
  by_cases hp : p = 1
  · subst hp
    dsimp only
    rw [if_pos (by omega), if_pos (by omega)]
    simp [seedWord]
  · rw [update_of_ne hp]
    dsimp only
    by_cases hr : 0 < p ∧ p ≤ n
    · rw [if_pos hr, if_pos (by omega), seedWord, if_neg (by omega)]
      simp
    · rw [if_neg hr, if_neg (by omega)]

theorem srandomR_lagged {w : World β} (hn : n ∈ laggedDegrees)
    (h : w.current.word 0 = packHeader n i j) (hi : i < 256) (hj : j < 256)
    (hs : 4 * (n + 1) ≤ w.current.size) :
    srandomR seed false w = some (0, w.write
      ((seeded w.current n seed).put 0 (packHeader n (separation n) 0))) := by
  have hb := laggedDegrees_bounds hn
  have h0 := get_of_le (b := w.current) (k := 0) (by omega)
  have hN := headerN_packHeader (n := n) (by omega) hi hj
  have hgt : ¬ ((n : ℤ) > 63) := by omega
  have hne : (n : ℤ) ≠ 0 := by omega
  have hsep : (if (n : ℤ) = 31 ∨ (n : ℤ) = 7 then 3 else 1) = separation n := by
    norm_cast
  have hset := set_of_le (b := seeded w.current n seed)
    (show 4 * (0 + 1) ≤ w.current.size by omega)
  simp only [srandomR, h0, h, bind_eq_bind, bind_some, hN, hgt, hne, if_false,
    Int.toNat_natCast, seedWords_eq (by omega) seed hs, hsep, hset]
  rfl

theorem seeded_encodes (hn : n ∈ laggedDegrees) (hs : 4 * (n + 1) ≤ b.size) :
    Encodes ((seeded b n seed).put 0 (packHeader n (separation n) 0))
      (Generator.fresh n seed) := by
  rw [Generator.fresh, dif_pos hn]
  refine ⟨put_word_self _ _ _, hs, fun k => ?_⟩
  rw [put_word_of_ne _ _ (succ_ne_zero _), seeded]
  dsimp only
  rw [if_pos (by omega)]
  rfl

theorem srandomR_refines {w : World β} (h : Encodes w.current G) :
    ∃ b, srandomR seed false w = some (0, w.write b) ∧
      Encodes b (Generator.fresh G.degree seed) ∧ b.size = w.current.size := by
  cases G with
  | linear x =>
    refine ⟨w.current.put 1 seed, srandomR_linear seed h.1 h.2.1, ?_, rfl⟩
    exact ⟨h.1, h.2.1, put_word_self _ _ _⟩
  | lagged n hn g =>
    have hb := laggedDegrees_bounds hn
    exact ⟨_, srandomR_lagged seed hn h.1 (by omega) (by omega) h.2.1,
      seeded_encodes seed hn h.2.1, rfl⟩

theorem degreeOf_cases {size : ℕ} (h : 8 ≤ size) :
    (degreeOf size = 0 ∨ degreeOf size ∈ laggedDegrees) ∧ 4 * (degreeOf size + 1) ≤ size := by
  unfold degreeOf
  split_ifs <;> exact ⟨by decide, by omega⟩

@[simp] theorem World.write_write (w : World β) (b c : StateBuf) :
    (w.write b).write c = w.write c := by
  simp [World.write]

theorem initstateR_refines (state : β) (h : 8 ≤ (w.mem state).size) :
    ∃ b, initstateR seed state (w.mem state).size w =
        some (0, ({ w with x := state } : World β).write b) ∧
      Encodes b (Generator.fresh (degreeOf (w.mem state).size) seed) ∧
      b.size = (w.mem state).size := by
  obtain ⟨hdeg, hfit⟩ := degreeOf_cases h
  generalize hd : degreeOf (w.mem state).size = n at hdeg hfit
  let w' : World β := { w with x := state }
  have hset : w'.current.set 0 (packHeader n 3 0) = some (w'.current.put 0 (packHeader n 3 0)) :=
    set_of_le (show 4 * (0 + 1) ≤ (w.mem state).size by omega) _
  have hrun : ∀ c, srandomR seed false (w'.write (w'.current.put 0 (packHeader n 3 0))) =
      some (0, w'.write c) → initstateR seed state (w.mem state).size w = some (0, w'.write c) := by
    intro c hc
    rw [initstateR, if_neg (by omega)]
    simp only [hd, bind_eq_bind]
    rw [hset, bind_some, hc]
    rfl
  rcases hdeg with rfl | hn
  · have hs := srandomR_linear (w := w'.write (w'.current.put 0 (packHeader 0 3 0))) seed
      (by simp) (by rw [World.current_write]; exact h)
    rw [World.write_write, World.current_write] at hs
    refine ⟨_, hrun _ hs, ?_, rfl⟩
    exact ⟨rfl, h, put_word_self _ _ _⟩
  · have hs := srandomR_lagged (w := w'.write (w'.current.put 0 (packHeader n 3 0))) seed
      (i := 3) (j := 0) hn (by simp) (by omega) (by omega)
      (by rw [World.current_write]; exact hfit)
    rw [World.write_write, World.current_write] at hs
    exact ⟨_, hrun _ hs, seeded_encodes seed hn hfit, rfl⟩

inductive Op (β : Type) where
  | srandomR (seed : Word) (bufNull : Bool)
  | randomR (bufNull resultNull : Bool)
  | setstateR (state : Option β) (bufNull : Bool)
  | initstateR (seed : Word) (state : β)

def exec (w : World β) : Op β → Option (World β)
  | .srandomR seed bufNull => (srandomR seed bufNull w).map (·.2)
  | .randomR bufNull resultNull => (randomR bufNull resultNull w).map (·.2.2)
  | .setstateR state bufNull => some (setstateR state bufNull w).2
  | .initstateR seed state => (initstateR seed state (w.mem state).size w).map (·.2)

def run (w : World β) : List (Op β) → Option (World β)
  | [] => some w
  | op :: ops => exec w op >>= fun w' => run w' ops

/-- Buffers are switched to only after `initstate_r` has prepared them, and every buffer
prepared has at least eight bytes. -/
def Legal (size : β → ℕ) : List β → List (Op β) → Prop
  | _, [] => True
  | ready, .setstateR (some b) _ :: ops => b ∈ ready ∧ Legal size ready ops
  | ready, .initstateR _ b :: ops => 8 ≤ size b ∧ Legal size (b :: ready) ops
  | ready, _ :: ops => Legal size ready ops

def evenWords : AddSubgroup Word where
  carrier := { w | w.toNat % 2 = 0 }
  zero_mem' := rfl
  add_mem' := fun {a b} ha hb => by
    simp only [Set.mem_ofPred_eq] at ha hb ⊢
    rw [BitVec.toNat_add]
    omega
  neg_mem' := fun {a} ha => by
    simp only [Set.mem_ofPred_eq] at ha ⊢
    rw [BitVec.toNat_neg]
    omega

theorem notMem_evenWords : w ∉ evenWords ↔ w.toNat % 2 = 1 := by
  change ¬ w.toNat % 2 = 0 ↔ _
  omega

def Generator.HasOdd : Generator → Prop
  | .linear _ => True
  | .lagged _ _ g => ∃ k, g.x k ∉ evenWords

theorem Generator.next_hasOdd (h : G.HasOdd) : G.next.HasOdd := by
  cases G with
  | linear => trivial
  | lagged n hn g =>
    have := laggedDegrees_neZero hn
    exact g.step_outside evenWords h

theorem fresh_hasOdd (n : ℕ) (seed : Word) : (Generator.fresh n seed).HasOdd := by
  unfold Generator.fresh
  split
  · next hn =>
    have hb := laggedDegrees_bounds hn
    refine ⟨⟨0, by omega⟩, ?_⟩
    rw [notMem_evenWords]
    change (lcgWord _ 0 ||| 1#32).toNat % 2 = 1
    simp
  · trivial

structure Usable (b : StateBuf) (n : ℕ) : Prop where
  degree : n ∈ [0, 7, 15, 31, 63]
  decoded : headerN (b.word 0) = n
  inside : 4 * (n + 1) ≤ b.size
  front : 0 < n → headerI (b.word 0) < n
  rear : 0 < n → headerJ (b.word 0) < n
  apart : 0 < n → headerI (b.word 0) ≠ headerJ (b.word 0)
  odd : 0 < n → ∃ k < n, (b.word (k + 1)).toNat % 2 = 1

theorem usable_of_encodes (h : Encodes b G) (ho : G.HasOdd) : Usable b G.degree := by
  cases G with
  | linear x =>
    obtain ⟨hh, hs, -⟩ := h
    exact ⟨by simp [Generator.degree], by rw [hh]; rfl, by rw [Generator.degree]; omega,
      fun h => absurd h (lt_irrefl 0), fun h => absurd h (lt_irrefl 0),
      fun h => absurd h (lt_irrefl 0), fun h => absurd h (lt_irrefl 0)⟩
  | lagged n hn g =>
    obtain ⟨hh, hs, hx⟩ := h
    obtain ⟨hN, hI, hJ⟩ := header_gen hn g
    refine ⟨mem_cons_of_mem 0 hn, by rw [hh]; exact hN, hs, fun _ => ?_, fun _ => ?_, fun _ => ?_,
      fun _ => ?_⟩
    · rw [hh, hI]
      exact g.i.isLt
    · rw [hh, hJ]
      exact g.j.isLt
    · rw [hh, hI, hJ]
      exact fun he => g.apart (Fin.ext he)
    · obtain ⟨k, hk⟩ := ho
      exact ⟨k, k.isLt, by rw [hx]; exact notMem_evenWords.mp hk⟩

structure Invariant (size : β → ℕ) (ready : List β) (w : World β) : Prop where
  current : w.x ∈ ready
  sizes : ∀ b, (w.mem b).size = size b
  encoded : ∀ b ∈ ready, ∃ G, Encodes (w.mem b) G ∧ G.HasOdd

variable {size : β → ℕ}

theorem Invariant.write {ready : List β} {w : World β} (h : Invariant size ready w)
    (hb : Encodes b G) (ho : G.HasOdd) (hs : b.size = w.current.size) :
    Invariant size ready (w.write b) := by
  refine ⟨h.current, ?_, ?_⟩
  · exact World.forall_write (P := fun c b => b.size = size c) (hs.trans (h.sizes w.x))
      fun c _ => h.sizes c
  · exact World.forall_write (P := fun c b => c ∈ ready → ∃ G, Encodes b G ∧ G.HasOdd)
      (fun _ => ⟨G, hb, ho⟩) fun c _ => h.encoded c

theorem initstateR_establishes (size : β → ℕ) (ready : List β) (seed : Word)
    (b : β) (hs : ∀ c, (w.mem c).size = size c) (hb : 8 ≤ size b)
    (he : ∀ c ∈ ready, ∃ G, Encodes (w.mem c) G ∧ G.HasOdd) :
    ∃ w', exec w (.initstateR seed b) = some w' ∧ Invariant size (b :: ready) w' := by
  obtain ⟨buf, hrun, henc, hsize⟩ := initstateR_refines seed b (by rw [hs]; exact hb)
  refine ⟨_, by rw [exec, hrun]; rfl, mem_cons_self, ?_, ?_⟩
  · exact World.forall_write (P := fun c b => b.size = size c) (hsize.trans (hs b)) fun c _ => hs c
  · exact World.forall_write (P := fun c a => c ∈ b :: ready → ∃ G, Encodes a G ∧ G.HasOdd)
      (fun _ => ⟨_, henc, fresh_hasOdd _ _⟩) fun c hcb hc => he c (mem_of_ne_of_mem hcb hc)

theorem exec_preserves (h : Invariant size ready w)
    (hl : Legal size ready (op :: ops)) :
    ∃ w' ready', exec w op = some w' ∧ Invariant size ready' w' ∧ Legal size ready' ops := by
  obtain ⟨G, hG, ho⟩ := h.encoded w.x h.current
  cases op with
  | srandomR seed bufNull =>
    cases bufNull with
    | true => exact ⟨w, ready, rfl, h, hl⟩
    | false =>
      obtain ⟨b, hrun, hb, hs⟩ := srandomR_refines seed hG
      exact ⟨w.write b, ready, by rw [exec, hrun]; rfl, h.write hb (fresh_hasOdd _ _) hs, hl⟩
  | randomR bufNull resultNull =>
    by_cases hnull : (resultNull || bufNull) = true
    · refine ⟨{ w with errno := EINVAL }, ready, ?_, ⟨h.current, h.sizes, h.encoded⟩, hl⟩
      rw [exec, randomR, if_pos hnull]
      rfl
    · simp only [Bool.or_eq_true, not_or, Bool.not_eq_true] at hnull
      obtain ⟨rfl, rfl⟩ := hnull
      obtain ⟨b, hrun, hb, hs⟩ := randomR_refines hG
      exact ⟨w.write b, ready, by rw [exec, hrun]; rfl,
        h.write hb (Generator.next_hasOdd ho) hs, hl⟩
  | setstateR state bufNull =>
    cases state with
    | none => exact ⟨_, ready, rfl, ⟨h.current, h.sizes, h.encoded⟩, hl⟩
    | some b =>
      cases bufNull with
      | true => exact ⟨_, ready, rfl, ⟨h.current, h.sizes, h.encoded⟩, hl.2⟩
      | false => exact ⟨_, ready, rfl, ⟨hl.1, h.sizes, h.encoded⟩, hl.2⟩
  | initstateR seed b =>
    obtain ⟨w', hrun, hw'⟩ := initstateR_establishes _ _ seed b h.sizes hl.1 h.encoded
    exact ⟨w', b :: ready, hrun, hw', hl.2⟩

theorem run_preserves {ready : List β} {w : World β} {ops : List (Op β)}
    (h : Invariant size ready w) (hl : Legal size ready ops) :
    ∃ w' ready', run w ops = some w' ∧ Invariant size ready' w' := by
  induction ops generalizing w ready with
  | nil => exact ⟨w, ready, rfl, h⟩
  | cons op ops ih =>
    obtain ⟨v, ready', hv, hinv, hl'⟩ := exec_preserves h hl
    obtain ⟨w', r, hrun, hw'⟩ := ih hinv hl'
    exact ⟨w', r, by rw [run, hv]; exact hrun, hw'⟩

/-- Every run that starts with `initstate_r` stays inside the buffers and leaves the
current one usable, after any number of calls. -/
theorem random_state_invariant (w : World β) (seed : Word) (b : β) (ops : List (Op β))
    (hb : 8 ≤ (w.mem b).size) (hl : Legal (fun c => (w.mem c).size) [b] ops) :
    ∃ w' n, run w (.initstateR seed b :: ops) = some w' ∧ Usable w'.current n ∧
      w'.current.size = (w.mem w'.x).size := by
  obtain ⟨v, hv, hinv⟩ := initstateR_establishes (fun c => (w.mem c).size) [] seed b
    (fun _ => rfl) hb (fun c hc => absurd hc not_mem_nil)
  obtain ⟨w', r, hrun, hw'⟩ := run_preserves hinv hl
  obtain ⟨G, hG, ho⟩ := hw'.encoded _ hw'.current
  exact ⟨w', G.degree, by rw [run, hv]; exact hrun, usable_of_encodes hG ho, hw'.sizes w'.x⟩

def twoBuffers : World Bool := ⟨fun b => ⟨if b then 32 else 8, fun _ => 0⟩, false, 0⟩

theorem random_state_invariant_twoBuffers :
    ∃ w' n, run twoBuffers [.initstateR 1 true, .randomR false false, .initstateR 2 false,
        .setstateR (some true) false, .randomR false false] = some w' ∧ Usable w'.current n ∧
      w'.current.size = (twoBuffers.mem w'.x).size :=
  random_state_invariant twoBuffers 1 true _ (by decide) (by simp [Legal, twoBuffers])

end RandomState
