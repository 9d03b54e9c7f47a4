import Mathlib.Algebra.Order.BigOperators.Group.Finset
import GcompatMusl.Futex

/-! # Read-write locks

`tryrdlock`, `trywrlock`, `timedwrlock` and `unlock` on one lock. A thread keeps the numbers of its
read and write locks; it can call any of the functions, but `unlock` only with a lock. -/
namespace RwLock

open Interleaving Futex Nat

structure Lock where
  word : ℕ
  waiters : ℕ

/-- How a futex wait ends: by a wake, with `EINTR` or a word that has changed, or with another
error. -/
inductive Wait where
  | woken
  | again
  | failed

/-- A `pc` names the next access. `woken` tells that the thread is back from its wait by a wake. -/
inductive Pc where
  | outside
  | rdLoad
  | rdCas (val : ℕ)
  | tryWrite
  | first
  | retry (woken : Bool)
  | load (woken : Bool)
  | inc (r : ℕ)
  | mark (r : ℕ)
  | wait (r : ℕ)
  | asleep
  | dec (how : Wait)
  | unLoad
  | unWaiters (val : ℕ)
  | unCas (val waiters : ℕ)
  | wake (cnt : ℕ)

structure Thread where
  pc : Pc
  reads : ℕ
  writes : ℕ

/-- Where a thread goes on when its `trywrlock` fails; the spinning reads behind the first one
change nothing. -/
def Pc.busy : Pc → Option Pc
  | .tryWrite => some .outside
  | .first => some (.retry false)
  | .retry woken => some (.load woken)
  | _ => none

def Wait.next : Wait → Pc
  | .woken => .retry true
  | .again => .retry false
  | .failed => .outside

def low (val : ℕ) : ℕ := val % 2 ^ 31

/-- `r | 0x80000000` -/
def marked (r : ℕ) : ℕ := low r + 2 ^ 31

def released (val : ℕ) : ℕ :=
  if low val = 0x7fffffff ∨ low val = 1 then 0 else (val + (2 ^ 32 - 1)) % 2 ^ 32

def afterUnlock (val waiters : ℕ) : Pc :=
  if released val = 0 ∧ (waiters ≠ 0 ∨ 2 ^ 31 ≤ val) then .wake (low val) else .outside

inductive Turn : Lock → Thread → Lock → Thread → Prop where
  | tryrdlock : Turn s ⟨.outside, a, b⟩ s ⟨.rdLoad, a, b⟩
  | trywrlock : Turn s ⟨.outside, a, b⟩ s ⟨.tryWrite, a, b⟩
  | timedwrlock : Turn s ⟨.outside, a, b⟩ s ⟨.first, a, b⟩
  | unlock : 0 < a + b → Turn s ⟨.outside, a, b⟩ s ⟨.unLoad, a, b⟩
  | rdRefused : 0x7ffffffe ≤ low s.word → Turn s ⟨.rdLoad, a, b⟩ s ⟨.outside, a, b⟩
  | rdLoad : low s.word < 0x7ffffffe → Turn s ⟨.rdLoad, a, b⟩ s ⟨.rdCas s.word, a, b⟩
  | rdCas : s.word = val →
      Turn s ⟨.rdCas val, a, b⟩ { s with word := (val + 1) % 2 ^ 32 } ⟨.outside, a + 1, b⟩
  | rdFailed : s.word ≠ val → Turn s ⟨.rdCas val, a, b⟩ s ⟨.rdLoad, a, b⟩
  | acquire : pc.busy = some pc' → s.word = 0 →
      Turn s ⟨pc, a, b⟩ { s with word := 0x7fffffff } ⟨.outside, a, b + 1⟩
  | busy : pc.busy = some pc' → s.word ≠ 0 → Turn s ⟨pc, a, b⟩ s ⟨pc', a, b⟩
  | loadFree : s.word = 0 → Turn s ⟨.load w, a, b⟩ s ⟨.retry w, a, b⟩
  | load : s.word ≠ 0 → Turn s ⟨.load w, a, b⟩ s ⟨.inc s.word, a, b⟩
  | inc : Turn s ⟨.inc r, a, b⟩ { s with waiters := (s.waiters + 1) % 2 ^ 32 } ⟨.mark r, a, b⟩
  | mark : Turn s ⟨.mark r, a, b⟩
      { s with word := if s.word = r then marked r else s.word } ⟨.wait r, a, b⟩
  | sleep : s.word = marked r → Turn s ⟨.wait r, a, b⟩ s ⟨.asleep, a, b⟩
  | refused : how ≠ .woken → Turn s ⟨.wait r, a, b⟩ s ⟨.dec how, a, b⟩
  | unwoken : how ≠ .woken → Turn s ⟨.asleep, a, b⟩ s ⟨.dec how, a, b⟩
  | dec : Turn s ⟨.dec how, a, b⟩
      { s with waiters := (s.waiters + (2 ^ 32 - 1)) % 2 ^ 32 } ⟨how.next, a, b⟩
  | unLoad : Turn s ⟨.unLoad, a, b⟩ s ⟨.unWaiters s.word, a, b⟩
  | unWaiters : Turn s ⟨.unWaiters val, a, b⟩ s ⟨.unCas val s.waiters, a, b⟩
  | unCas : s.word = val → Turn s ⟨.unCas val w, a, b⟩ { s with word := released val }
      ⟨afterUnlock val w, if b = 0 then a - 1 else a, b - 1⟩
  | unFailed : s.word ≠ val → Turn s ⟨.unCas val w, a, b⟩ s ⟨.unLoad, a, b⟩

def waking : Thread → Option (Option ℕ × Thread)
  | ⟨.wake cnt, a, b⟩ => some (some cnt, ⟨.outside, a, b⟩)
  | _ => none

def machine : Machine Lock Thread :=
  ⟨Turn, fun p => p.pc = .asleep, fun p => { p with pc := .dec .woken }, waking⟩

def Initial {T : Type*} (x : Lock × (T → Thread)) : Prop := x = (⟨0, 0⟩, fun _ => ⟨.outside, 0, 0⟩)

/-- Between `a_inc` and `a_dec` -/
def Thread.waiting (p : Thread) : ℕ :=
  match p.pc with
  | .mark _ | .wait _ | .asleep | .dec _ => 1
  | _ => 0

def Thread.Sane (p : Thread) : Prop :=
  match p.pc with
  | .rdCas val => low val < 0x7ffffffe
  | .unLoad | .unWaiters _ | .unCas _ _ => 0 < p.reads + p.writes
  | .wake cnt => 0 < cnt
  | _ => True

/-- With `R` read locks and `W` write locks given out, and `N` threads that wait -/
structure Fits (s : Lock) (R W N : ℕ) : Prop where
  word : s.word < 2 ^ 32
  count : W = 0 ∧ low s.word = R ∧ R < 0x7fffffff ∨ W = 1 ∧ R = 0 ∧ low s.word = 0x7fffffff
  waiters : s.waiters = N

theorem busy_counts {pc pc' : Pc} (h : pc.busy = some pc') (a b : ℕ) :
    Thread.waiting ⟨pc, a, b⟩ = 0 ∧ Thread.waiting ⟨pc', a, b⟩ = 0 ∧ Thread.Sane ⟨pc', a, b⟩ := by
  cases pc <;> cases h <;> exact ⟨rfl, rfl, trivial⟩

variable {val R : ℕ}

theorem low_released (hlow : 0 < low val) : (low val = 0x7fffffff → low (released val) = 0) ∧
    (low val ≠ 0x7fffffff → low (released val) + 1 = low val) := by
  rw [released]
  rw [low] at hlow ⊢
  split_ifs <;> rw [low] <;> omega

theorem Fits.held (h : Fits s R W N) (ha : a ≤ R) (hb : b ≤ W) (hpos : 0 < a + b) :
    0 < low s.word := by
  rcases h.count with ⟨hW, hR, -⟩ | ⟨-, -, hfull⟩
  · omega
  · rw [hfull]
    decide

theorem Fits.turn (h : Fits s R W N) (hp : p.Sane) (hreads : p.reads ≤ R)
    (hwrites : p.writes ≤ W) (hR : R' + p.reads = R + p'.reads) (hW : W' + p.writes = W + p'.writes)
    (hN : N' + p.waiting = N + p'.waiting) (hN' : N' < 2 ^ 32) (hNlt : N < 2 ^ 32)
    (hturn : Turn s p s' p') : Fits s' R' W' N' ∧ p'.Sane := by
  have hsame : p.reads = p'.reads → p.writes = p'.writes → p.waiting = p'.waiting →
      Fits s R' W' N' := by
    intro hr hw hn
    rw [hr, add_right_cancel_iff] at hR
    rw [hw, add_right_cancel_iff] at hW
    rw [hn, add_right_cancel_iff] at hN
    rwa [hR, hW, hN]
  have hheld := h.held hreads hwrites
  obtain ⟨hword, hlow, hwaiters⟩ := h
  cases hturn with
  | unlock h | rdLoad h => exact ⟨hsame rfl rfl rfl, h⟩
  | unLoad | unWaiters | unFailed => exact ⟨hsame rfl rfl rfl, hp⟩
  | busy h =>
    obtain ⟨hn, hn', hsane⟩ := busy_counts h _ _
    exact ⟨hsame rfl rfl (hn.trans hn'.symm), hsane⟩
  | inc =>
    refine ⟨⟨hword, ?_, ?_⟩, trivial⟩
    · rwa [add_right_cancel hR, add_right_cancel hW]
    · change N' = N + 1 at hN
      rw [hwaiters, hN, mod_eq_of_lt (hN ▸ hN')]
  | @dec _ how a b =>
    have hnext : Thread.waiting ⟨how.next, a, b⟩ = 0 ∧ Thread.Sane ⟨how.next, a, b⟩ := by
      cases how <;> exact ⟨rfl, trivial⟩
    refine ⟨⟨hword, ?_, ?_⟩, hnext.2⟩
    · rwa [add_right_cancel hR, add_right_cancel hW]
    · rw [hnext.1] at hN
      change N' + 1 = N at hN
      dsimp only
      omega
  | @mark _ r a b =>
    refine ⟨⟨?_, ?_, ?_⟩, trivial⟩
    · dsimp only
      rw [marked, low]
      split_ifs <;> omega
    · have hkept : low (if s.word = r then marked r else s.word) = low s.word := by
        split_ifs with heq
        · rw [marked, heq, low, low, add_mod_right, mod_mod]
        · rfl
      rwa [add_right_cancel hR, add_right_cancel hW, hkept]
    · rw [add_right_cancel hN]
      exact hwaiters
  | @rdCas val _ a b heq =>
    change low val < 0x7ffffffe at hp
    change R' + a = R + (a + 1) at hR
    rw [heq] at hlow
    refine ⟨⟨mod_lt _ (by decide), ?_, hwaiters.trans (add_right_cancel hN).symm⟩, trivial⟩
    rw [add_right_cancel hW]
    rcases hlow with ⟨hW0, hlow, -⟩ | ⟨-, -, hlow⟩
    · refine .inl ⟨hW0, ?_, by omega⟩
      dsimp only
      rw [low] at hp hlow ⊢
      omega
    · omega
  | @acquire pc' _ pc a b hbusy h0 =>
    have hn := (busy_counts hbusy a b).1
    change W' + b = W + (b + 1) at hW
    rw [hn] at hN
    rw [low] at hlow
    refine ⟨⟨show 0x7fffffff < 2 ^ 32 by decide, ?_, hwaiters.trans hN.symm⟩, trivial⟩
    rw [add_right_cancel hR]
    dsimp only [low]
    omega
  | @unCas val _ w a b heq =>
    have hafter : ∀ a b, Thread.waiting ⟨afterUnlock val w, a, b⟩ = 0 ∧
        Thread.Sane ⟨afterUnlock val w, a, b⟩ := by
      intro a b
      rw [afterUnlock]
      split_ifs
      · exact ⟨rfl, heq ▸ hheld hp⟩
      · exact ⟨rfl, trivial⟩
    rw [(hafter _ _).1] at hN
    rw [heq] at hlow
    refine ⟨⟨?_, ?_, hwaiters.trans hN.symm⟩, (hafter _ _).2⟩
    · dsimp only
      rw [released]
      split_ifs <;> omega
    · change 0 < a + b at hp
      change R' + a = R + (if b = 0 then a - 1 else a) at hR
      change W' + b = W + (b - 1) at hW
      dsimp only at hreads ⊢
      have hheld' := hheld hp
      rw [heq] at hheld'
      obtain ⟨hwriter, hreader⟩ := low_released hheld'
      rcases hlow with ⟨rfl, hlow, hmax⟩ | ⟨rfl, rfl, hlow⟩
      · obtain rfl : b = 0 := le_zero.mp hwrites
        rw [if_pos rfl] at hR
        exact .inl ⟨hW, by omega, by omega⟩
      · obtain rfl : a = 0 := le_zero.mp hreads
        rw [ite_self] at hR
        exact .inl ⟨by omega, (hwriter hlow).trans hR.symm, by omega⟩
  | _ => exact ⟨hsame rfl rfl rfl, trivial⟩

/-- The waiters bit stays as long as the word is not 0. -/
theorem Fits.bit (h : Fits s R W N) (hp : p.Sane) (hreads : p.reads ≤ R) (hwrites : p.writes ≤ W)
    (hturn : Turn s p s' p') (hbit : 2 ^ 31 ≤ s.word) (hne : s'.word ≠ 0) : 2 ^ 31 ≤ s'.word := by
  have hword := h.word
  cases hturn with
  | @rdCas val _ a b heq =>
    change low val < 0x7ffffffe at hp
    rw [low] at hp
    dsimp only
    omega
  | acquire _ h0 => omega
  | mark =>
    split_ifs
    · exact le_add_left _ _
    · exact hbit
  | @unCas val _ w a b heq =>
    dsimp only [released] at hne ⊢
    split_ifs at hne ⊢ with hlast
    · exact absurd rfl hne
    · have hlow := h.held hreads hwrites hp
      rw [low] at hlow
      omega
  | _ => exact hbit

theorem busy_targets {pc pc' : Pc} (h : pc.busy = some pc') (a b : ℕ) :
    waking ⟨pc, a, b⟩ = none ∧ pc' ≠ .asleep ∧ ∀ val w, pc' ≠ .unCas val w := by
  cases pc <;> cases h <;> exact ⟨rfl, nofun, nofun⟩

variable {T : Type*} [DecidableEq T] {x : Lock × (T → Thread)}

theorem lawful : machine.Lawful := by
  refine ⟨fun h => ?_, fun {p n q} h => ?_, fun _ => nofun⟩
  · cases h with
    | acquire hbusy | busy hbusy => exact (busy_targets hbusy _ _).1
    | _ => rfl
  · obtain ⟨pc, a, b⟩ := p
    cases pc with
    | wake cnt =>
      cases h
      exact ⟨nofun, nofun⟩
    | _ => cases h

theorem waking_pc (h : machine.waking p = some (n, q)) :
    q.pc = .outside := by
  obtain ⟨pc, a, b⟩ := p
  cases pc <;> cases h
  rfl

theorem turn_asleep (h : Turn s p s' p') (hp : p'.pc = .asleep) : 2 ^ 31 ≤ s'.word := by
  cases h with
  | sleep heq =>
    rw [heq]
    exact le_add_left _ _
  | acquire => cases hp
  | busy hbusy => exact absurd hp (busy_targets hbusy 0 0).2.1
  | @dec _ how a b => cases how <;> cases hp
  | unCas =>
    rw [afterUnlock] at hp
    split_ifs at hp
  | _ => cases hp

theorem turn_unCas (h : Turn s p s' p') (hp : p'.pc = .unCas val w) : s.waiters = w := by
  cases h with
  | unWaiters =>
    cases hp
    rfl
  | busy hbusy => exact absurd hp ((busy_targets hbusy 0 0).2.2 _ _)
  | @dec _ how a b => cases how <;> cases hp
  | unCas =>
    rw [afterUnlock] at hp
    split_ifs at hp
  | _ => cases hp

variable [Fintype T]

def readers (own : T → Thread) : ℕ := ∑ t, (own t).reads

def writers (own : T → Thread) : ℕ := ∑ t, (own t).writes

def waiters (own : T → Thread) : ℕ := ∑ t, (own t).waiting

structure Inv (x : Lock × (T → Thread)) : Prop where
  fits : Fits x.1 (readers x.2) (writers x.2) (waiters x.2)
  sane : ∀ t, (x.2 t).Sane
  bit : ∀ t val, (x.2 t).pc = .unCas val 0 → ∀ j, (x.2 j).pc = .asleep → 2 ^ 31 ≤ x.1.word

omit [DecidableEq T] in
theorem le_sum (f : Thread → ℕ) (own : T → Thread) (t : T) : f (own t) ≤ ∑ j, f (own j) :=
  Finset.single_le_sum (f := fun j => f (own j)) (fun _ _ => zero_le _) (Finset.mem_univ t)

theorem inv (hcard : Fintype.card T < 2 ^ 32) (h : Reachable Initial (Step machine) x) : Inv x := by
  have hsmall : ∀ own : T → Thread, waiters own < 2 ^ 32 := fun own => by
    have hone : ∀ t ∈ Finset.univ, (own t).waiting ≤ 1 := fun t _ => by
      rw [Thread.waiting]
      split <;> decide
    exact ((Finset.sum_le_sum hone).trans_eq (Finset.card_eq_sum_ones _).symm).trans_lt hcard
  induction h with
  | start h =>
    cases h
    refine ⟨⟨show 0 < 2 ^ 32 by decide, .inl ?_, ?_⟩, fun _ => trivial, fun _ _ => nofun⟩
    · simp [readers, writers, low]
    · simp [waiters, Thread.waiting]
  | @next x y hx hs ih =>
    obtain ⟨hfits, hsane, hbit⟩ := ih
    obtain ⟨t, p, hm, hcase⟩ := hs.moved
    have hR := hm.sum_add Thread.reads fun _ _ => rfl
    have hW := hm.sum_add Thread.writes fun _ _ => rfl
    have hN := hm.sum_add Thread.waiting fun p hp => by
      rw [Thread.waiting, Thread.waiting, hp]
      rfl
    have hreads := le_sum Thread.reads x.2 t
    have hwrites := le_sum Thread.writes x.2 t
    have hown : Fits y.1 (readers y.2) (writers y.2) (waiters y.2) ∧ p.Sane := by
      rcases hcase with hturn | ⟨heq, n, hwake⟩
      · exact hfits.turn (hsane t) hreads hwrites hR hW hN (hsmall _) (hsmall _) hturn
      · generalize x.2 t = q at hwake hR hW hN
        obtain ⟨pc, a, b⟩ := q
        cases pc with
        | wake cnt =>
          cases hwake
          rw [heq, readers, writers, waiters, add_right_cancel hR, add_right_cancel hW,
            add_right_cancel hN]
          exact ⟨hfits, trivial⟩
        | _ => cases hwake
    have hsane' : ∀ j, (y.2 j).Sane := by
      intro j
      by_cases hj : j = t
      · rw [hj, hm.own]
        exact hown.2
      · rcases hm.other j hj with heq | ⟨-, heq⟩
        · rw [heq]
          exact hsane j
        · rw [heq]
          trivial
    refine ⟨hown.1, hsane', fun u val hu j hj => ?_⟩
    have hkeep : ∀ j ≠ t, (y.2 j).pc ≠ .dec .woken → y.2 j = x.2 j := fun j hj hne =>
      (hm.other j hj).resolve_right fun h => hne (by rw [h.2]; rfl)
    have hasleep : j ≠ t → (x.2 j).pc = .asleep := by
      intro hjt
      rwa [hkeep j hjt (by rw [hj]; exact nofun)] at hj
    by_cases hut : u = t
    · -- it has just read that there are no waiters
      subst hut
      rw [hm.own] at hu
      have hju : j ≠ u := by
        rintro rfl
        rw [hm.own, hu] at hj
        cases hj
      have hone := le_sum Thread.waiting x.2 j
      rw [Thread.waiting, hasleep hju] at hone
      rcases hcase with hturn | ⟨-, n, hwake⟩
      · have hzero := turn_unCas hturn hu
        rw [hfits.waiters, waiters] at hzero
        rw [hzero] at hone
        exact absurd hone (not_succ_le_zero 0)
      · rw [waking_pc hwake] at hu
        cases hu
    · have hsame := hkeep u hut (by rw [hu]; exact nofun)
      have hlocks := hsane' u
      rw [Thread.Sane, hu] at hlocks
      rw [hsame] at hu
      by_cases hjt : j = t
      · rw [hjt, hm.own] at hj
        rcases hcase with hturn | ⟨-, n, hwake⟩
        · exact turn_asleep hturn hj
        · rw [waking_pc hwake] at hj
          cases hj
      · have hbefore := hbit u val hu j (hasleep hjt)
        rcases hcase with hturn | ⟨heq, -⟩
        · -- the unlocker still has its lock
          refine hfits.bit (hsane t) hreads hwrites hturn hbefore fun h0 => ?_
          have hheld := hown.1.held (le_sum Thread.reads y.2 u) (le_sum Thread.writes y.2 u) hlocks
          rw [h0] at hheld
          cases hheld
        · rwa [heq]

def Thread.Woken (p : Thread) : Prop := p.pc = .dec .woken ∨ p.pc = .retry true ∨ p.pc = .load true

theorem covered (hcard : Fintype.card T < 2 ^ 32) (h : Reachable Initial (Step machine) x) :
    (∃ t, (x.2 t).pc = .asleep) →
    x.1.word ≠ 0 ∨ (∃ t, (waking (x.2 t)).isSome) ∨ ∃ t, (x.2 t).Woken := by
  refine Reachable.covered (fun s => s.word ≠ 0) Thread.Woken lawful ?_ ?_ ?_ ?_ ?_ h
  · rintro _ rfl
    exact fun _ => nofun
  · intro x t s' p' _ hturn hp h0
    have hbit := turn_asleep hturn hp
    omega
  · intro x t s' p' _ hturn hp
    generalize x.2 t = p at hturn hp
    cases hturn with
    | acquire => exact .inr (show 0x7fffffff ≠ 0 by decide)
    | busy _ hne | load hne => exact .inr hne
    | loadFree =>
      rcases hp with hp | hp | hp <;> cases hp
      exact .inl (.inr (.inl rfl))
    | dec =>
      rcases hp with hp | hp | hp <;> cases hp
      exact .inl (.inr (.inl rfl))
    | _ => rcases hp with hp | hp | hp <;> cases hp
  · intro x t n q hx hp
    have hsane := (inv hcard hx).sane t
    generalize x.2 t = p at hp hsane
    obtain ⟨pc, a, b⟩ := p
    cases pc with
    | wake cnt =>
      cases hp
      exact .inr ⟨fun h => ne_of_gt hsane (Option.some.inj h), fun _ _ => .inl rfl⟩
    | _ => cases hp
  · intro x t s' p' hx hturn hne
    obtain ⟨hfits, hsane, hbit⟩ := inv hcard hx
    have hsane := hsane t
    have hbit := hbit t
    generalize x.2 t = p at hturn hsane hbit
    cases hturn with
    | @rdCas val _ a b heq =>
      change low val < 0x7ffffffe at hsane
      rw [low] at hsane
      refine .inl ?_
      dsimp only
      omega
    | acquire => exact .inl (show 0x7fffffff ≠ 0 by decide)
    | mark =>
      refine .inl ?_
      split_ifs
      · exact Nat.ne_of_gt (Nat.add_pos_right _ (by decide))
      · exact hne
    | @unCas val _ w a b heq =>
      by_cases h0 : released val = 0
      · by_cases hw : w ≠ 0 ∨ 2 ^ 31 ≤ val
        · rw [afterUnlock, if_pos ⟨h0, hw⟩]
          exact .inr (.inl rfl)
        · refine .inr (.inr fun j hj => hw (.inr ?_))
          obtain rfl : w = 0 := by omega
          exact heq ▸ hbit val rfl j hj
      · exact .inl h0
    | _ => exact .inl hne

/-- The low bits are the writer or the number of readers, and no writer sleeps with the word 0
unless a wake is due or a woken writer tries again. -/
theorem rwlock_sound (hcard : Fintype.card T < 2 ^ 32) (h : Reachable Initial (Step machine) x) :
    (low x.1.word = 0x7fffffff ↔ writers x.2 = 1 ∧ readers x.2 = 0) ∧
    (low x.1.word ≠ 0x7fffffff → low x.1.word = readers x.2 ∧ writers x.2 = 0) ∧
    ¬ (x.1.word = 0 ∧ (∃ t, (x.2 t).pc = .asleep) ∧ (∀ t, waking (x.2 t) = none) ∧
      ∀ t, ¬ (x.2 t).Woken) := by
  have hcount := (inv hcard h).fits.count
  refine ⟨by omega, by omega, ?_⟩
  rintro ⟨h0, hasleep, hwake, hwoken⟩
  rcases covered hcard h hasleep with hne | ⟨t, ht⟩ | ⟨t, ht⟩
  · exact hne h0
  · rw [hwake t] at ht
    cases ht
  · exact hwoken t ht

omit [DecidableEq T] [Fintype T] in
theorem rwlock_sound_written : ∃ x : Lock × (Fin 3 → Thread),
    low x.1.word = 0x7fffffff ∧ writers x.2 = 1 ∧ readers x.2 = 0 := by
  have hcall : Reachable Initial (Step machine) (⟨0, 0⟩, fun _ : Fin 3 => ⟨.outside, 0, 0⟩) :=
    .start rfl
  have htry := hcall.next (.turn 1 .trywrlock)
  obtain ⟨hword, -⟩ := rwlock_sound (by decide) (htry.next (.turn 1 (.acquire rfl rfl)))
  exact ⟨_, rfl, hword.mp rfl⟩

end RwLock
