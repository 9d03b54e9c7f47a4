import GcompatMusl.RandomState

/-! # random_r against random

`srandom`, `initstate` and `random` of `prng/random.c`. Both libraries are related to the same
abstract generator; what they return from it differs in one shift. -/
namespace RandomAgreement

open LaggedFibonacci RandomState Function List Option BitVec StateBuf Generator Gen

/-- The static variables of `random.c` and the buffers that `x` can point into. -/
structure Musl (γ : Type) where
  mem : γ → StateBuf
  n : ℕ
  i : ℕ
  j : ℕ
  x : γ

variable {β γ : Type} [DecidableEq β] [DecidableEq γ]

def Musl.current (m : Musl γ) : StateBuf := m.mem m.x

def Musl.write (m : Musl γ) (b : StateBuf) : Musl γ := { m with mem := Function.update m.mem m.x b }

def savestate (m : Musl γ) : Option (Musl γ) := do
  let b ← m.current.set 0 (packHeader m.n m.i m.j)
  return m.write b

def srandom (seed : Word) (m : Musl γ) : Option (Musl γ) :=
  if m.n = 0 then do
    let b ← m.current.set 1 seed
    return m.write b
  else do
    let b ← seedWords m.n seed m.current
    return { m.write b with i := if m.n = 31 ∨ m.n = 7 then 3 else 1, j := 0 }

def initstate (seed : Word) (state : γ) (size : ℕ) (m : Musl γ) : Option (Option γ × Musl γ) :=
  if size < 8 then some (none, m)
  else do
    let saved ← savestate m
    let m' ← srandom seed { saved with n := degreeOf size, x := state }
    let m' ← savestate m'
    return (some m.x, m')

def random (m : Musl γ) : Option (ℕ × Musl γ) :=
  if m.n = 0 then do
    let x0 ← m.current.get 1
    let b ← m.current.set 1 (lcg31 x0)
    return ((lcg31 x0).toNat, m.write b)
  else do
    let xi ← m.current.get (m.i + 1)
    let xj ← m.current.get (m.j + 1)
    let b ← m.current.set (m.i + 1) (xi + xj)
    return (((xi + xj) >>> 1).toNat, { m.write b with
      i := if m.i + 1 = m.n then 0 else m.i + 1
      j := if m.j + 1 = m.n then 0 else m.j + 1 })

def Represents (m : Musl γ) : Generator → Prop
  | .linear x => m.n = 0 ∧ 8 ≤ m.current.size ∧ m.current.word 1 = x
  | .lagged n _ g => m.n = n ∧ m.i = g.i ∧ m.j = g.j ∧ 4 * (n + 1) ≤ m.current.size ∧
      ∀ k : Fin n, m.current.word (k + 1) = g.x k

def returned : Generator → ℕ
  | .linear x => (lcg31 x).toNat
  | .lagged _ hn g => haveI := laggedDegrees_neZero hn; (g.output >>> 1).toNat

theorem current_write (m : Musl γ) (b : StateBuf) : (m.write b).current = b := by
  simp [Musl.write, Musl.current]

theorem next_static_position [NeZero n] (i : Fin n) :
    (if (i : ℕ) + 1 = n then 0 else (i : ℕ) + 1) = ((i + 1 : Fin n) : ℕ) := by
  rw [← next_position i]
  norm_cast

variable {m : Musl γ}

theorem random_refines (h : Represents m G) :
    ∃ m', random m = some (returned G, m') ∧ Represents m' G.next := by
  cases G with
  | linear x =>
    obtain ⟨hn, hs, hx⟩ := h
    have h1 := get_of_le (k := 1) (by omega)
    have h2 := set_of_le (k := 1) (by omega) (lcg31 x)
    refine ⟨m.write (m.current.put 1 (lcg31 x)), ?_, hn, ?_, ?_⟩
    · simp [random, hn, h1, hx, h2, returned]
    · rw [current_write]
      exact hs
    · rw [current_write, put_word_self]
  | lagged n hn g =>
    have := laggedDegrees_neZero hn
    obtain ⟨hdeg, hi, hj, hs, hx⟩ := h
    have hn0 := NeZero.ne n
    have h1 := get_of_le (b := m.current) (k := g.i + 1) (by omega)
    have h2 := get_of_le (b := m.current) (k := g.j + 1) (by omega)
    have h3 := set_of_le (b := m.current) (k := g.i + 1) (by omega)
    refine ⟨{ m.write (m.current.put (g.i + 1) g.output) with
      i := g.step.i, j := g.step.j }, ?_, hdeg, rfl, rfl, ?_, fun k => ?_⟩
    · simp only [random, hdeg, hi, hj, hn0, if_false, h1, h2, hx, h3, bind_eq_bind,
        next_static_position]
      rfl
    · exact (congrArg size (current_write m _)).symm ▸ hs
    · change (m.write _).current.word _ = _
      rw [current_write]
      by_cases hk : k = g.i
      · subst hk
        rw [put_word_self, step_x_self]
        rfl
      · have hv : (k : ℕ) + 1 ≠ g.i + 1 := fun he => hk (Fin.ext (by omega))
        rw [put_word_of_ne _ _ hv, hx, g.step_x_of_ne hk]

theorem srandom_establishes (seed : Word)
    (hdeg : m.n = 0 ∨ m.n ∈ laggedDegrees) (hs : 8 ≤ m.current.size)
    (hfit : 4 * (m.n + 1) ≤ m.current.size) :
    ∃ m', srandom seed m = some m' ∧ Represents m' (fresh m.n seed) ∧
      m'.n = m.n ∧ m'.current.size = m.current.size := by
  rcases hdeg with h0 | hn
  · have h1 := set_of_le (k := 1) (by omega) seed
    refine ⟨m.write (m.current.put 1 seed), ?_, ?_, rfl, ?_⟩
    · simp [srandom, h0, h1]
    · rw [h0]
      refine ⟨h0, ?_, ?_⟩
      · rw [current_write]
        exact hs
      · rw [current_write, put_word_self]
    · rw [current_write, put_size]
  · have hb := laggedDegrees_bounds hn
    have hn0 : m.n ≠ 0 := by omega
    refine ⟨{ m.write (seeded m.current m.n seed) with i := separation m.n, j := 0 },
      ?_, ?_, rfl, ?_⟩
    · simp only [srandom, hn0, if_false, seedWords_eq (by omega) seed hfit]
      rfl
    · rw [fresh, dif_pos hn]
      have henc := seeded_encodes seed hn hfit
      rw [fresh, dif_pos hn] at henc
      refine ⟨rfl, rfl, rfl, ?_, fun k => ?_⟩
      · change _ ≤ (m.write _).current.size
        rw [current_write]
        exact hfit
      · change (m.write _).current.word _ = _
        rw [current_write, ← henc.2.2 k, put_word_of_ne _ _ (Nat.succ_ne_zero _)]
    · change (m.write _).current.size = _
      rw [current_write]
      rfl

theorem savestate_eq (h : 4 ≤ m.current.size) :
    savestate m = some (m.write (m.current.put 0 (packHeader m.n m.i m.j))) := by
  rw [savestate, set_of_le (by omega)]
  rfl

theorem savestate_keeps (h : Represents m G) :
    Represents (m.write (m.current.put 0 (packHeader m.n m.i m.j))) G := by
  cases G with
  | linear x =>
    obtain ⟨hn, hs, hx⟩ := h
    refine ⟨hn, ?_, ?_⟩
    · rw [current_write]
      exact hs
    · rw [current_write, put_word_of_ne _ _ (by omega), hx]
  | lagged n hn g =>
    obtain ⟨hdeg, hi, hj, hs, hx⟩ := h
    refine ⟨hdeg, hi, hj, ?_, fun k => ?_⟩
    · rw [current_write]
      exact hs
    · rw [current_write, put_word_of_ne _ _ (Nat.succ_ne_zero _), hx]

omit [DecidableEq γ] in
theorem represents_degree (h : Represents m G) :
    m.n = G.degree ∧ (m.n = 0 ∨ m.n ∈ laggedDegrees) ∧ 8 ≤ m.current.size ∧
      4 * (m.n + 1) ≤ m.current.size := by
  cases G with
  | linear x =>
    obtain ⟨hn, hs, -⟩ := h
    exact ⟨hn, Or.inl hn, hs, by omega⟩
  | lagged n hn g =>
    obtain ⟨hdeg, -, -, hs, -⟩ := h
    have hb := laggedDegrees_bounds hn
    exact ⟨hdeg, Or.inr (hdeg ▸ hn), by omega, by omega⟩

theorem initstate_establishes (seed : Word) (state : γ) (size : ℕ)
    (hold : 4 ≤ m.current.size) (hsize : (m.mem state).size = size) (h8 : 8 ≤ size) :
    ∃ m', initstate seed state size m = some (some m.x, m') ∧
      Represents m' (fresh (degreeOf size) seed) := by
  obtain ⟨hdeg, hfit⟩ := degreeOf_cases h8
  let m1 : Musl γ := { m.write (m.current.put 0 (packHeader m.n m.i m.j)) with
    n := degreeOf size, x := state }
  have hcur : m1.current.size = size := by
    change (update m.mem m.x _ state).size = size
    by_cases hx : state = m.x
    · subst hx
      rw [update_self]
      exact hsize
    · rw [update_of_ne hx]
      exact hsize
  obtain ⟨m2, h2, hr2, -, -⟩ := srandom_establishes (m := m1) seed hdeg
    (by omega) (by rw [hcur]; exact hfit)
  have h3 := savestate_eq (m := m2) (by have := (represents_degree hr2).2.2.1; omega)
  refine ⟨_, ?_, savestate_keeps hr2⟩
  rw [initstate, if_neg (by omega), savestate_eq hold]
  simp only [bind_eq_bind, bind_some]
  rw [show srandom seed _ = some m2 from h2, bind_some, h3]
  rfl

inductive Call where
  | random
  | srandom (seed : Word)
  deriving DecidableEq

def storedValues (w : World β) : List Call → Option (List ℤ)
  | [] => some []
  | .random :: calls => do
    let r ← randomR false false w
    let v ← r.2.1
    let rest ← storedValues r.2.2 calls
    return v.toInt :: rest
  | .srandom seed :: calls => do
    let r ← srandomR seed false w
    storedValues r.2 calls

def returnedValues (m : Musl γ) : List Call → Option (List ℤ)
  | [] => some []
  | .random :: calls => do
    let r ← random m
    let rest ← returnedValues r.2 calls
    return (r.1 : ℤ) :: rest
  | .srandom seed :: calls => do
    let m' ← srandom seed m
    returnedValues m' calls

def visited (G : Generator) : List Call → List Generator
  | [] => []
  | .random :: calls => G :: visited G.next calls
  | .srandom seed :: calls => visited (fresh G.degree seed) calls

theorem storedValues_eq {w : World β} (h : Encodes w.current G) (calls : List Call) :
    storedValues w calls = some ((visited G calls).map fun H => H.storedR.toInt) := by
  induction calls generalizing w G with
  | nil => rfl
  | cons c calls ih =>
    cases c with
    | random =>
      obtain ⟨b, hrun, hb, -⟩ := randomR_refines h
      have hrest := ih (w := w.write b) (by rw [World.current_write]; exact hb)
      simp [storedValues, hrun, hrest, visited]
    | srandom seed =>
      obtain ⟨b, hrun, hb, -⟩ := srandomR_refines seed h
      have hrest := ih (w := w.write b) (by rw [World.current_write]; exact hb)
      simp [storedValues, hrun, hrest, visited]

theorem returnedValues_eq (h : Represents m G) (calls : List Call) :
    returnedValues m calls = some ((visited G calls).map fun H => (returned H : ℤ)) := by
  induction calls generalizing m G with
  | nil => rfl
  | cons c calls ih =>
    cases c with
    | random =>
      obtain ⟨m', hrun, hm'⟩ := random_refines h
      simp [returnedValues, hrun, ih hm', visited]
    | srandom seed =>
      obtain ⟨hdeg, hcase, hs, hfit⟩ := represents_degree h
      obtain ⟨m', hrun, hm', -, -⟩ := srandom_establishes seed hcase hs hfit
      rw [hdeg] at hm'
      simp [returnedValues, hrun, ih hm', visited]

theorem lcg31_lt (x : Word) : (lcg31 x).toNat < 2 ^ 31 := by
  exact lt_of_le_of_lt Nat.and_le_right (by decide)

theorem signed_shift_eq_iff (v : Word) :
    (v.sshiftRight 1).toInt = ((v >>> 1).toNat : ℤ) ↔ v.toNat < 2 ^ 31 := by
  rw [toInt_sshiftRight, toNat_ushiftRight,
    Int.shiftRight_eq_div_pow, toInt_eq_toNat_cond]
  split <;> omega

theorem values_agree_iff (G : Generator) :
    G.storedR.toInt = (returned G : ℤ) ↔ G.word.toNat < 2 ^ 31 := by
  cases G with
  | linear x =>
    have h := lcg31_lt x
    refine iff_of_true ?_ h
    exact toInt_eq_toNat_of_lt (x := lcg31 x) (by omega)
  | lagged n hn g => exact signed_shift_eq_iff _

theorem returned_range (G : Generator) : returned G ≤ 0x7fffffff := by
  cases G with
  | linear x =>
    have := lcg31_lt x
    change (lcg31 x).toNat ≤ _
    omega
  | lagged n hn g =>
    change (g.output >>> 1).toNat ≤ _
    rw [toNat_ushiftRight]
    omega

def exactWords {n : ℕ} (g : Gen n Word) : Gen n ℕ := ⟨g.i, g.j, fun k => (g.x k).toNat, g.apart⟩

theorem exactWords_step [NeZero n] {g : Gen n Word} (h : ∀ k, (g.x k).toNat < 2 ^ 31) :
    exactWords g.step = (exactWords g).step := by
  refine Gen.ext rfl rfl (funext fun k => ?_)
  by_cases hk : k = g.i
  · subst hk
    have hi := h g.i
    have hj := h g.j
    change (g.step.x g.i).toNat = (exactWords g).step.x (exactWords g).i
    rw [step_x_self, step_x_self]
    exact Nat.mod_eq_of_lt (by omega)
  · change (g.step.x k).toNat = (exactWords g).step.x k
    rw [g.step_x_of_ne hk]
    exact ((exactWords g).step_x_of_ne hk).symm

theorem exactWords_iterate [NeZero n] {g : Gen n Word}
    (h : ∀ t k, ((step^[t] g).x k).toNat < 2 ^ 31) (t : ℕ) :
    exactWords (step^[t] g) = step^[t] (exactWords g) := by
  induction t with
  | zero => rfl
  | succ t ih =>
    rw [iterate_succ_apply', iterate_succ_apply', ← ih]
    exact exactWords_step (h t)

theorem iterate_outside [NeZero n] {g : Gen n Word} (h : ∃ k, g.x k ∉ evenWords) (t : ℕ) :
    ∃ k, (step^[t] g).x k ∉ evenWords := by
  induction t with
  | zero => exact h
  | succ t ih =>
    rw [iterate_succ_apply']
    exact step_outside evenWords _ ih

/-- A ring with an odd word soon produces a word with bit 31 set: otherwise no sum ever
wraps and the total doubles with every turn. -/
theorem high_word_exists [NeZero n] (hn : n ≤ 63) (g : Gen n Word) (h : ∃ k, g.x k ∉ evenWords) :
    ∃ t, 2 ^ 31 ≤ (step^[t] g).output.toNat := by
  by_contra hall
  simp only [not_exists, not_le] at hall
  have hlow : ∀ t k, ((step^[t] (step^[n] g)).x k).toNat < 2 ^ 31 := by
    intro t k
    rw [← iterate_add_apply, Nat.add_comm, iterate_add_apply]
    apply all_written (fun v : Word => v.toNat < 2 ^ 31)
    intro s
    rw [← iterate_add_apply]
    exact hall (s + t)
  have hpos : 1 ≤ (exactWords (step^[n] g)).total := by
    obtain ⟨k, hk⟩ := iterate_outside h n
    have hodd := notMem_evenWords.mp hk
    have hle := (exactWords (step^[n] g)).le_total k
    change ((step^[n] g).x k).toNat ≤ _ at hle
    omega
  have hgrow := (exactWords (step^[n] g)).total_turns 37
  rw [← exactWords_iterate hlow] at hgrow
  have hbound := (exactWords (step^[n * 37] (step^[n] g))).total_le
    (fun k => le_of_lt (hlow (n * 37) k))
  omega

theorem iterate_next [NeZero n] (hn : n ∈ laggedDegrees) (g : Gen n Word) (t : ℕ) :
    next^[t] (.lagged n hn g) = .lagged n hn (step^[t] g) := by
  induction t with
  | zero => rfl
  | succ t ih =>
    rw [iterate_succ_apply', ih, iterate_succ_apply']
    rfl

theorem visited_random (G : Generator) (t : ℕ) :
    next^[t] G ∈ visited G (List.replicate (t + 1) .random) := by
  induction t generalizing G with
  | zero => exact mem_cons_self
  | succ t ih => exact mem_cons_of_mem G (ih G.next)

theorem visited_linear (h : G.degree = 0) (calls : List Call) :
    ∀ H ∈ visited G calls, H.word.toNat < 2 ^ 31 := by
  induction calls generalizing G with
  | nil => exact fun H hH => absurd hH not_mem_nil
  | cons c calls ih =>
    cases G with
    | lagged n hn g =>
      have := laggedDegrees_bounds hn
      change n = 0 at h
      omega
    | linear x =>
      cases c with
      | random =>
        exact forall_mem_cons.mpr ⟨lcg31_lt x, ih rfl⟩
      | srandom seed =>
        refine ih ?_
        rfl

/-- After `initstate_r` and `initstate` with one seed and size, the given calls yield the
same values on both sides, all of them in the range of `random`. -/
def Agree (w : World β) (state : β) (m : Musl γ) (state' : γ) (size : ℕ) (seed : Word)
    (calls : List Call) : Prop :=
  ∃ w' m' old vs, initstateR seed state size w = some (0, w') ∧
    initstate seed state' size m = some (old, m') ∧
    storedValues w' calls = some vs ∧ returnedValues m' calls = some vs ∧
    ∀ r ∈ vs, 0 ≤ r ∧ r ≤ 0x7fffffff

theorem agree_iff_low {w : World β} {state : β} {m : Musl γ} {state' : γ} (size : ℕ)
    (seed : Word) (h8 : 8 ≤ size) (hw : (w.mem state).size = size)
    (hm : (m.mem state').size = size) (hold : 4 ≤ m.current.size) (calls : List Call) :
    Agree w state m state' size seed calls ↔
      ∀ H ∈ visited (fresh (degreeOf size) seed) calls, H.word.toNat < 2 ^ 31 := by
  obtain ⟨b, hinit, henc, -⟩ := initstateR_refines (w := w) seed state (by omega)
  obtain ⟨m', hinit', hrep⟩ := initstate_establishes seed state' size hold hm h8
  rw [hw] at hinit henc
  have hs := storedValues_eq (w := ({ w with x := state } : World β).write b)
    (by rw [World.current_write]; exact henc) calls
  have hr := returnedValues_eq hrep calls
  constructor
  · rintro ⟨w1, m1, old, vs, h1, h2, h3, h4, -⟩ H hH
    rw [hinit] at h1
    rw [hinit'] at h2
    cases h1
    cases h2
    rw [hs] at h3
    rw [hr, ← h3, some.injEq, map_inj_left] at h4
    exact (values_agree_iff H).mp (h4 H hH).symm
  · intro hlow
    refine ⟨_, _, _, _, hinit, hinit', hs, ?_, ?_⟩
    · rw [hr, some.injEq, map_inj_left]
      exact fun H hH => ((values_agree_iff H).mpr (hlow H hH)).symm
    · intro r hr'
      obtain ⟨H, hH, rfl⟩ := mem_map.mp hr'
      rw [(values_agree_iff H).mpr (hlow H hH)]
      have := returned_range H
      omega

/-- A run agrees exactly when every word it produces is below `2^31`; all runs of a seed
agree exactly for states of less than 32 bytes. -/
theorem random_r_agrees_iff (w : World β) (state : β) (m : Musl γ) (state' : γ) (size : ℕ)
    (seed : Word) (h8 : 8 ≤ size) (hw : (w.mem state).size = size)
    (hm : (m.mem state').size = size) (hold : 4 ≤ m.current.size) :
    (∀ calls, Agree w state m state' size seed calls ↔
      ∀ H ∈ visited (fresh (degreeOf size) seed) calls, H.word.toNat < 2 ^ 31) ∧
    ((∀ calls, Agree w state m state' size seed calls) ↔ size < 32) := by
  have hrun := agree_iff_low size seed h8 hw hm hold
  refine ⟨hrun, ?_⟩
  obtain ⟨hdeg, -⟩ := degreeOf_cases h8
  constructor
  · intro hall
    by_contra hbig
    have hn : degreeOf size ∈ laggedDegrees := by
      refine hdeg.resolve_left ?_
      unfold degreeOf
      split
      · omega
      · split <;> (try split) <;> (try split) <;> omega
    have := laggedDegrees_neZero hn
    have hfresh : fresh (degreeOf size) seed =
        .lagged (degreeOf size) hn (seedRing (degreeOf size) hn seed) := dif_pos hn
    have hodd := fresh_hasOdd (degreeOf size) seed
    rw [hfresh] at hodd
    obtain ⟨t, ht⟩ := high_word_exists (laggedDegrees_bounds hn).2 _ hodd
    have hlow := (hrun _).mp (hall (replicate (t + 1) .random)) _ (visited_random _ t)
    rw [hfresh, iterate_next] at hlow
    exact absurd hlow (Nat.not_lt.mpr ht)
  · intro hsmall calls
    have hzero : degreeOf size = 0 := if_pos hsmall
    rw [hrun calls, hzero]
    exact visited_linear (by rw [Generator.fresh, dif_neg (by decide)]; rfl) calls

def zeroWorld (size : ℕ) : World Unit := ⟨fun _ => ⟨size, fun _ => 0⟩, (), 0⟩

def startMusl (size : ℕ) : Musl Bool :=
  ⟨fun b => ⟨if b then size else 128, fun _ => 0⟩, 31, 3, 0, false⟩

theorem random_r_agrees_iff_start :
    ((∀ calls, Agree (zeroWorld 16) () (startMusl 16) true 16 1 calls ↔
      ∀ H ∈ visited (fresh (degreeOf 16) 1) calls, H.word.toNat < 2 ^ 31) ∧
    ((∀ calls, Agree (zeroWorld 16) () (startMusl 16) true 16 1 calls) ↔ 16 < 32)) :=
  random_r_agrees_iff (zeroWorld 16) () (startMusl 16) true 16 1 (by decide) rfl rfl (by decide)

/-- With seed 1 and a 32-byte state the second value of `random_r` is negative. -/
theorem random_r_seed_one_differs :
    ¬ Agree (zeroWorld 32) () (startMusl 32) true 32 1 [.random, .random] := by
  intro hagree
  have hlow := (agree_iff_low 32 1 (by decide)
    rfl rfl (by decide) _).mp hagree
  have hsecond := hlow (fresh 7 1).next (mem_cons_of_mem _ mem_cons_self)
  revert hsecond
  decide

end RandomAgreement
