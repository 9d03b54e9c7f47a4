import Mathlib.Data.BitVec
import GcompatMusl.Futex

/-! # Semaphores

`sem_post`, `sem_trywait`, `sem_timedwait` and `sem_clockwait` as threads that share the
words `__val[0]` (bit 31 says that there are waiters, the rest is the count) and `__val[1]`
(the number of waiters). A phase names the next atomic access of a thread. The two timed
waits differ only in the clock, and pass through the same phases. A thread keeps what its calls
returned. -/
namespace Semaphore

open Interleaving Futex Option BitVec

abbrev Word := BitVec 32

def SEM_VALUE_MAX : ℕ := 0x7fffffff
def INT_MAX : ℕ := 0x7fffffff

def EAGAIN : ℕ := 11
def EINTR : ℕ := 4
def EINVAL : ℕ := 22
def EOVERFLOW : ℕ := 75
def ETIMEDOUT : ℕ := 110
def ECANCELED : ℕ := 125

def count (val : Word) : ℕ := (val &&& 0x7fffffff#32).toNat

def waitersBit : Word := 0x80000000#32

def postWord (val waiters : Word) : Word :=
  if waiters.toInt ≤ 1 then (val + 1) &&& ~~~waitersBit else val + 1

inductive Result where
  | success
  | failure (errno : ℕ)
  deriving DecidableEq, Repr

/-- Who called `sem_trywait`: its user, the first attempt of a timed wait, or its loop;
`released` tells that a wake ended the wait before. -/
inductive Caller where
  | user
  | first
  | loop (released : Bool)
  deriving DecidableEq, Repr

inductive WaitError where
  | invalid | interrupted | timedOut | canceled
  deriving DecidableEq, Repr

def WaitError.errno : WaitError → ℕ
  | .invalid => EINVAL
  | .interrupted => EINTR
  | .timedOut => ETIMEDOUT
  | .canceled => ECANCELED

inductive WaitEnd where
  | woken (released : Bool)
  | failed (e : WaitError)
  | cancelled
  deriving DecidableEq, Repr

inductive Wake where
  | one
  | all
  deriving DecidableEq, Repr

def Wake.limit : Wake → ℕ
  | .one => 1
  | .all => INT_MAX

inductive Phase where
  | idle
  | exited
  | postVal
  | postWaiters (val : Word)
  | postCas (val : { w : Word // count w ≠ SEM_VALUE_MAX }) (waiters : Word)
  | postWake (cnt : Wake)
  | tryVal (caller : Caller)
  | tryCas (caller : Caller) (val : { w : Word // count w ≠ 0 })
  | testcancel
  | spinVal (spins : ℕ)
  | spinWaiters (spins : ℕ)
  | inc
  | setBit
  | futexWait
  | blocked
  | dec (r : WaitEnd)
  deriving DecidableEq

inductive Call where
  | post
  | trywait
  | timedwait
  | clockwait (clockid : ℤ)
  deriving DecidableEq, Repr

/-- What a thread does next: start a call, make its next access, act on a cancellation, or
have its wait end without a wake. -/
inductive Move where
  | call (c : Call)
  | access
  | cancel
  | fail (e : WaitError)
  | spurious
  deriving DecidableEq, Repr

inductive Kind where
  | post
  | wait
  deriving DecidableEq, Repr

/-- A thread goes on in its call, or the call returns. -/
inductive Next where
  | go (p : Phase)
  | ret (k : Kind) (r : Result)
  deriving DecidableEq

structure Words where
  val0 : Word
  val1 : Word
  deriving DecidableEq

def entry : Call → Phase
  | .post => .postVal
  | .trywait => .tryVal .user
  | .timedwait => .testcancel
  | .clockwait _ => .testcancel

/-- Where a caller goes on after `sem_trywait` found no count. -/
def tryFailed : Caller → Next
  | .user => .ret .wait (.failure EAGAIN)
  | .first => .go (.spinVal 100)
  | .loop _ => .go .inc

def waitEnded : WaitEnd → Next
  | .woken released => .go (.tryVal (.loop released))
  | .failed e => .ret .wait (.failure e.errno)
  | .cancelled => .go .exited

def access (s : Words) : Phase → Option (Words × Next)
  | .postVal => some (s, .go (.postWaiters s.val0))
  | .postWaiters val =>
    if h : count val = SEM_VALUE_MAX then some (s, .ret .post (.failure EOVERFLOW))
    else some (s, .go (.postCas ⟨val, h⟩ s.val1))
  | .postCas val waiters =>
    if s.val0 = val then
      let after := if val.val.toInt < 0 then
          .go (.postWake (if waiters.toInt > 1 then .one else .all))
        else .ret .post .success
      some ({ s with val0 := postWord val waiters }, after)
    else some (s, .go .postVal)
  | .tryVal caller =>
    if h : count s.val0 = 0 then some (s, tryFailed caller)
    else some (s, .go (.tryCas caller ⟨s.val0, h⟩))
  | .tryCas caller val =>
    if s.val0 = val then some ({ s with val0 := val - 1 }, .ret .wait .success)
    else some (s, .go (.tryVal caller))
  | .testcancel => some (s, .go (.tryVal .first))
  | .spinVal spins =>
    if spins ≠ 0 ∧ count s.val0 = 0 then some (s, .go (.spinWaiters (spins - 1)))
    else some (s, .go (.tryVal (.loop false)))
  | .spinWaiters spins =>
    if s.val1 = 0 then some (s, .go (.spinVal spins)) else some (s, .go (.tryVal (.loop false)))
  | .inc => some ({ s with val1 := s.val1 + 1 }, .go .setBit)
  | .setBit => some ({ s with val0 := if s.val0 = 0 then waitersBit else s.val0 }, .go .futexWait)
  | .futexWait =>
    if s.val0 = waitersBit then some (s, .go .blocked) else some (s, .go (.dec (.woken false)))
  | .dec r => some ({ s with val1 := s.val1 - 1 }, waitEnded r)
  | .idle | .exited | .postWake _ | .blocked => none

def move (s : Words) (p : Phase) : Move → Option (Words × Next)
  | .access => access s p
  | .call c =>
    match p with
    | .idle => some (s, .go (entry c))
    | _ => none
  | .cancel =>
    match p with
    | .testcancel => some (s, .go .exited)
    | .futexWait | .blocked => some (s, .go (.dec .cancelled))
    | _ => none
  | .fail e =>
    match p with
    | .futexWait | .blocked => some (s, .go (.dec (.failed e)))
    | _ => none
  | .spurious =>
    match p with
    | .blocked => some (s, .go (.dec (.woken false)))
    | _ => none

/-- Where a thread is, and what its calls have returned so far. -/
structure Thread where
  phase : Phase
  returned : List (Kind × Result)
  deriving DecidableEq

def Thread.follow (t : Thread) : Next → Thread
  | .go p => { t with phase := p }
  | .ret k r => ⟨.idle, t.returned ++ [(k, r)]⟩

/-- `__wake` ends `sem_post`; it releases blocked threads, as many as there are up to its limit. -/
def waking (t : Thread) : Option (Option ℕ × Thread) :=
  match t.phase with
  | .postWake cnt => some (some cnt.limit, t.follow (.ret .post .success))
  | _ => none

def machine : Machine Words Thread where
  turn s t s' t' := ∃ m n, move s t.phase m = some (s', n) ∧ t' = t.follow n
  asleep t := t.phase = .blocked
  rouse t := { t with phase := .dec (.woken true) }
  waking := waking

def sem_init (value : ℕ) : Option Words :=
  if value > SEM_VALUE_MAX then none else some ⟨BitVec.ofNat 32 value, 0⟩

variable {T : Type*} [DecidableEq T]

omit [DecidableEq T] in
def Initial (v : ℕ) (x : Words × (T → Thread)) : Prop :=
  sem_init v = some x.1 ∧ x.2 = fun _ => ⟨.idle, []⟩

def exec (x : Words × (T → Thread)) : List (T × Move) → Option (Words × (T → Thread))
  | [] => some x
  | (i, m) :: rest =>
    match move x.1 (x.2 i).phase m with
    | none => none
    | some (s', n) => exec (s', Function.update x.2 i ((x.2 i).follow n)) rest

variable {x y : Words × (T → Thread)} {s s' : Words}

theorem reachable_exec (h : Reachable (Initial v) (Step machine) x) (hl : exec x l = some y) :
    Reachable (Initial v) (Step machine) y := by
  induction l generalizing x with
  | nil =>
    obtain rfl := some.inj hl
    exact h
  | cons a l ih =>
    obtain ⟨i, m⟩ := a
    simp only [exec] at hl
    split at hl
    · simp at hl
    · next s' n he => exact ih (.next h (.turn i ⟨m, n, he, rfl⟩)) hl

theorem count_eq (val : Word) : count val = val.toNat % 2 ^ 31 := by
  have h : (0x7fffffff#32).toNat = 2 ^ 31 - 1 := rfl
  rw [count, toNat_and, h, Nat.and_two_pow_sub_one_eq_mod]

theorem neg_iff (val : Word) : val.toInt < 0 ↔ 2 ^ 31 ≤ val.toNat := by
  rw [toInt_eq_toNat_cond]
  split <;> omega

theorem count_add_one (h : count val ≠ SEM_VALUE_MAX) :
    count (val + 1) = count val + 1 ∧ ((val + 1).toInt < 0 ↔ val.toInt < 0) := by
  simp only [count_eq, neg_iff, SEM_VALUE_MAX] at *
  have hadd : (val + 1).toNat = val.toNat + 1 := by
    exact Nat.mod_eq_of_lt (by simp; omega)
  omega

theorem count_sub_one (h : count val ≠ 0) :
    count (val - 1) + 1 = count val ∧ ((val - 1).toInt < 0 ↔ val.toInt < 0) := by
  simp only [count_eq, neg_iff] at *
  have hsub : (val - 1).toNat = val.toNat - 1 := by
    simp
    omega
  omega

theorem count_clear (val : Word) : count (val &&& ~~~waitersBit) = count val := by
  have h : (~~~waitersBit).toNat = 2 ^ 31 - 1 := rfl
  simp only [count_eq, toNat_and, h, Nat.and_two_pow_sub_one_eq_mod, Nat.mod_mod]

theorem count_postWord (h : count val ≠ SEM_VALUE_MAX) (waiters : Word) :
    count (postWord val waiters) = count val + 1 := by
  unfold postWord
  split
  · rw [count_clear, (count_add_one h).1]
  · exact (count_add_one h).1

def Waiting : Phase → Prop
  | .setBit | .futexWait | .blocked | .dec _ => True
  | _ => False

def Released : Phase → Prop
  | .dec (.woken true) => True
  | .tryVal (.loop true) => True
  | .tryCas (.loop true) _ => True
  | _ => False

def Carrier : Phase → Prop
  | .postWake .one => True
  | p => Released p

instance : DecidablePred Waiting := fun p => by
  cases p <;> simp only [Waiting] <;> infer_instance

instance : DecidablePred Released := fun p => by
  unfold Released
  split <;> infer_instance

instance : DecidablePred Carrier := fun p => by
  unfold Carrier
  split <;> infer_instance

def weight (P : Phase → Prop) [DecidablePred P] (p : Phase) : ℕ := if P p then 1 else 0

def Next.phase : Next → Phase
  | .go p => p
  | .ret _ _ => .idle

/-- A post counts from its `a_cas` on. -/
def Next.posts : Next → ℕ
  | .go (.postWake _) | .ret .post .success => 1
  | _ => 0

def Next.waits : Next → ℕ
  | .ret .wait .success => 1
  | _ => 0

structure MoveSpec (s : Words) (p : Phase) (s' : Words) (n : Next) : Prop where
  count : count s'.val0 + n.waits = count s.val0 + n.posts
  waiters : s'.val1 + BitVec.ofNat 32 (weight Waiting p) =
    s.val1 + BitVec.ofNat 32 (weight Waiting n.phase)
  no_wake : ∀ cnt, p ≠ .postWake cnt
  blocks : n.phase = .blocked → s'.val0 = waitersBit
  wakeup : n.phase ≠ .postWake .all → s.val0.toInt < 0 →
    s'.val0.toInt < 0 ∧ (Semaphore.count s'.val0 = 0 ∨
      Semaphore.count s'.val0 + weight Carrier p ≤
        Semaphore.count s.val0 + weight Carrier n.phase)

theorem moveSpec_same (hn : n.waits = n.posts) (hw : Waiting p ↔ Waiting n.phase)
    (hp : ∀ cnt, p ≠ .postWake cnt) (hq : n.phase = .blocked → s.val0 = waitersBit)
    (hc : Carrier p → count s.val0 = 0 ∨ Carrier n.phase) : MoveSpec s p s n := by
  refine ⟨by rw [hn], by simp only [weight, hw], hp, hq, fun _ hneg => ⟨hneg, ?_⟩⟩
  unfold weight
  by_cases h : Carrier p
  · rcases hc h with h0 | h'
    · exact .inl h0
    · exact .inr (by simp [h, h'])
  · exact .inr (by simp [h])

theorem postCas_spec (val : { w : Word // count w ≠ SEM_VALUE_MAX }) (waiters : Word)
    (hval : s.val0 = val) (h : access s (.postCas val waiters) = some (s', n)) :
    MoveSpec s (.postCas val waiters) s' n := by
  obtain ⟨val, hmax⟩ := val
  have hcount := count_postWord hmax waiters
  rw [access, if_pos hval] at h
  dsimp only at hval h
  subst hval
  split_ifs at h with hneg hone <;> cases h
  · refine ⟨hcount, rfl, by simp, by simp [Next.phase], fun _ _ => ⟨?_, .inr ?_⟩⟩
    · -- Bit 31 stays only when more than one waiter was read, and then one wake is pending.
      rw [postWord, if_neg (by omega)]
      exact (count_add_one hmax).2.mpr hneg
    · simp [hcount, weight, Carrier, Released, Next.phase]
  · exact ⟨hcount, rfl, by simp, by simp [Next.phase], fun hall => absurd rfl hall⟩
  · exact ⟨hcount, rfl, by simp, by simp [Next.phase], fun _ hneg' => absurd hneg' hneg⟩

theorem tryCas_spec (val : { v : Word // count v ≠ 0 })
    (h : access s (.tryCas caller val) = some (s', n)) : MoveSpec s (.tryCas caller val) s' n := by
  simp only [access] at h
  split at h <;> cases h
  · next hval =>
    obtain ⟨val, hpos⟩ := val
    dsimp only at hval
    subst hval
    have hcount := count_sub_one hpos
    refine ⟨hcount.1, rfl, by simp, by simp [Next.phase], ?_⟩
    refine fun _ hneg => ⟨hcount.2.mpr hneg, .inr ?_⟩
    have hw : weight Carrier (.tryCas caller ⟨s.val0, hpos⟩) ≤ 1 := by
      unfold weight
      split <;> omega
    dsimp only
    omega
  · apply moveSpec_same <;> rcases caller with _ | _ | _ | _ <;>
      simp [Waiting, Carrier, Released, Next.phase, Next.waits, Next.posts]

theorem setBit_spec (h : access s .setBit = some (s', n)) : MoveSpec s .setBit s' n := by
  simp only [access, some.injEq, Prod.mk.injEq] at h
  obtain ⟨rfl, rfl⟩ := h
  refine ⟨?_, rfl, by simp, by simp [Next.phase], ?_⟩
  · by_cases hz : s.val0 = 0
    · simp only [hz]
      rfl
    · simp only [if_neg hz]
      rfl
  · intro _ hneg
    have hz : s.val0 ≠ 0 := by
      intro hz
      simp [hz] at hneg
    simp only [if_neg hz]
    exact ⟨hneg, .inr (by simp [weight, Carrier, Released])⟩

theorem dec_spec (h : access s (.dec r) = some (s', n)) : MoveSpec s (.dec r) s' n := by
  simp only [access, some.injEq, Prod.mk.injEq] at h
  obtain ⟨rfl, rfl⟩ := h
  refine ⟨?_, ?_, by simp, ?_, ?_⟩
  · cases r <;> rfl
  · cases r <;> simp [waitEnded, weight, Waiting, Next.phase]
  · cases r <;> simp [waitEnded, Next.phase]
  · refine fun _ hneg => ⟨hneg, .inr ?_⟩
    rcases r with (_ | _) | _ | _ <;> simp [weight, waitEnded, Carrier, Released, Next.phase]

theorem access_spec (h : access s p = some (s', n)) : MoveSpec s p s' n := by
  cases p with
  | idle | exited | postWake | blocked => cases h
  | postVal | testcancel =>
    cases h
    apply moveSpec_same <;> simp [Waiting, Carrier, Released, Next.phase, Next.waits, Next.posts]
  | postWaiters | spinVal | spinWaiters =>
    simp only [access] at h
    split at h <;> cases h
    all_goals apply moveSpec_same <;>
      simp [Waiting, Carrier, Released, Next.phase, Next.waits, Next.posts]
  | postCas val waiters =>
    by_cases hval : s.val0 = val
    · exact postCas_spec val waiters hval h
    · rw [access, if_neg hval] at h
      cases h
      apply moveSpec_same <;> simp [Waiting, Carrier, Released, Next.phase, Next.waits, Next.posts]
  | tryVal caller =>
    simp only [access] at h
    split at h <;> cases h
    · next hzero =>
      apply moveSpec_same
      · cases caller <;> rfl
      · cases caller <;> simp [tryFailed, Waiting, Next.phase]
      · simp
      · cases caller <;> simp [tryFailed, Next.phase]
      · exact fun _ => .inl hzero
    · apply moveSpec_same <;> rcases caller with _ | _ | _ | _ <;>
        simp [Waiting, Carrier, Released, Next.phase, Next.waits, Next.posts]
  | tryCas caller val => exact tryCas_spec val h
  | inc =>
    cases h
    refine ⟨rfl, by simp [weight, Waiting, Next.phase], by simp, by simp [Next.phase], ?_⟩
    exact fun _ hneg => ⟨hneg, .inr (by simp [weight, Carrier, Released])⟩
  | setBit => exact setBit_spec h
  | futexWait =>
    simp only [access] at h
    split at h <;> cases h
    · next hbit =>
      apply moveSpec_same <;>
        simp [Waiting, Carrier, Released, Next.phase, Next.waits, Next.posts, hbit]
    · apply moveSpec_same <;>
        simp [Waiting, Carrier, Released, Next.phase, Next.waits, Next.posts]
  | dec r => exact dec_spec h

theorem move_spec (h : move s p m = some (s', n)) : MoveSpec s p s' n := by
  cases m with
  | access => exact access_spec h
  | call c =>
    simp only [move] at h
    split at h <;> cases h
    apply moveSpec_same <;> cases c <;>
      simp [entry, Waiting, Carrier, Released, Next.phase, Next.waits, Next.posts]
  | cancel | fail | spurious =>
    simp only [move] at h
    split at h <;> cases h
    all_goals apply moveSpec_same <;>
      simp [Waiting, Carrier, Released, Next.phase, Next.waits, Next.posts]

def Pending : Phase → Prop
  | .postWake _ => True
  | _ => False

instance : DecidablePred Pending := fun p => by
  cases p <;> simp only [Pending] <;> infer_instance

def successes (k : Kind) (t : Thread) : ℕ := t.returned.count (k, .success)

theorem follow_phase (t : Thread) (n : Next) : (t.follow n).phase = n.phase := by
  cases n <;> rfl

theorem follow_waits (t : Thread) (n : Next) :
    successes .wait (t.follow n) = successes .wait t + n.waits := by
  cases n with
  | go p => rfl
  | ret k r => cases k <;> cases r <;> simp [successes, Thread.follow, Next.waits]

theorem follow_posts (t : Thread) (n : Next) :
    successes .post (t.follow n) + weight Pending n.phase = successes .post t + n.posts := by
  cases n with
  | go p => cases p <;> rfl
  | ret k r =>
    cases k <;> cases r <;>
      simp [successes, Thread.follow, Next.posts, Next.phase, weight, Pending]

theorem waking_eq (h : machine.waking p = some (n, q)) :
    ∃ cnt, p.phase = .postWake cnt ∧ n = some cnt.limit ∧ q = p.follow (.ret .post .success) := by
  simp only [machine, waking] at h
  split at h
  · next cnt hp =>
    cases h
    exact ⟨cnt, hp, rfl, rfl⟩
  · cases h

variable [Fintype T]

/-- While a thread is blocked and no wake of all is pending, bit 31 is set and each unit of
the count is taken care of. -/
structure Invariant (v : ℕ) (x : Words × (T → Thread)) : Prop where
  count : count x.1.val0 + ∑ i, successes .wait (x.2 i) =
    v + ∑ i, (successes .post (x.2 i) + weight Pending (x.2 i).phase)
  waiters : x.1.val1 = BitVec.ofNat 32 (∑ i, weight Waiting (x.2 i).phase)
  wakeup : (∃ i, (x.2 i).phase = .blocked) → (∀ i, (x.2 i).phase ≠ .postWake .all) →
    x.1.val0.toInt < 0 ∧ Semaphore.count x.1.val0 ≤ ∑ i, weight Carrier (x.2 i).phase

theorem step_counts (hinv : Invariant v x) (h : Step machine x y) :
    count y.1.val0 + ∑ i, successes .wait (y.2 i) =
        v + ∑ i, (successes .post (y.2 i) + weight Pending (y.2 i).phase) ∧
      y.1.val1 = BitVec.ofNat 32 (∑ i, weight Waiting (y.2 i).phase) := by
  obtain ⟨t, p, hm, hcase⟩ := h.moved
  have hcount := hinv.count
  have hwait := hm.sum_add (successes .wait) fun p _ => rfl
  have hpost := hm.sum_add (fun p => successes .post p + weight Pending p.phase) (by
    intro p (hp : p.phase = .blocked)
    simp only [hp]
    rfl)
  have hwaiters := hm.sum_add (fun p => weight Waiting p.phase) (by
    intro p (hp : p.phase = .blocked)
    simp only [hp]
    rfl)
  have hwords := congrArg (BitVec.ofNat 32) hwaiters
  rw [ofNat_add, ofNat_add, ← hinv.waiters] at hwords
  rcases hcase with ⟨m, n, hmove, rfl⟩ | ⟨heq, n, hwake⟩
  · have spec := move_spec hmove
    have hspec := spec.count
    have hown : weight Pending (x.2 t).phase = 0 := by
      refine if_neg ?_
      cases hp : (x.2 t).phase with
      | postWake cnt => exact absurd hp (spec.no_wake cnt)
      | _ => exact id
    have hfollow := follow_posts (x.2 t) n
    rw [follow_waits] at hwait
    rw [follow_phase] at hpost hwords
    refine ⟨by omega, ?_⟩
    rw [← spec.waiters] at hwords
    exact (add_right_cancel hwords).symm
  · obtain ⟨cnt, hp, -, rfl⟩ := waking_eq hwake
    have hfollow := follow_posts (x.2 t) (.ret .post .success)
    rw [follow_waits] at hwait
    rw [follow_phase] at hpost hwords
    have hbefore : weight Pending (x.2 t).phase = 1 := by
      rw [hp]
      rfl
    have hidle : weight Waiting (x.2 t).phase = 0 := by
      rw [hp]
      rfl
    rw [hidle] at hwords
    rw [heq]
    simp only [Next.phase, Next.posts, Next.waits] at hwait hpost hfollow
    exact ⟨by omega, (add_right_cancel hwords).symm⟩

theorem turn_wakeup (hinv : Invariant v (s, own)) (h : machine.turn s (own t) s' p)
    (hblocked : ∃ i, (Function.update own t p i).phase = .blocked)
    (hall : ∀ i, (Function.update own t p i).phase ≠ .postWake .all) :
    s'.val0.toInt < 0 ∧
      count s'.val0 ≤ ∑ i : T, weight Carrier (Function.update own t p i).phase := by
  obtain ⟨m, n, hmove, rfl⟩ := h
  have spec := move_spec hmove
  obtain ⟨j, hj⟩ := hblocked
  have hnew : n.phase ≠ .postWake .all := by
    simpa [follow_phase] using hall t
  by_cases hblock : n.phase = .blocked
  · rw [spec.blocks hblock]
    exact ⟨by decide, Nat.zero_le _⟩
  -- Otherwise the blocked threads and the pending wakes of all are those from before.
  have hold : ∃ j, (own j).phase = .blocked := by
    refine ⟨j, ?_⟩
    by_cases hjt : j = t
    · subst hjt
      simp [follow_phase, hblock] at hj
    · simpa [hjt] using hj
  have hnone : ∀ k, (own k).phase ≠ .postWake .all := by
    intro k
    by_cases hkt : k = t
    · subst hkt
      exact spec.no_wake .all
    · simpa [hkt] using hall k
  obtain ⟨hneg, hle⟩ := hinv.wakeup hold hnone
  obtain ⟨hneg', hstep⟩ := spec.wakeup hnew hneg
  have hsum := sum_update (fun p => weight Carrier p.phase) own t ((own t).follow n)
  rw [follow_phase] at hsum
  dsimp only at hsum hle
  exact ⟨hneg', by omega⟩

theorem wake_wakeup (hT : Fintype.card T ≤ INT_MAX) {own : T → Thread} {R : Finset T}
    (hinv : Invariant v (s, own)) (hwake : machine.waking (own t) = some (n, p))
    (hR : ∀ j ∈ R, machine.asleep (own j))
    (hmany : n = some R.card ∨ (∀ j, machine.asleep (own j) → j ∈ R) ∧ ∀ k ∈ n, R.card ≤ k)
    (hblocked : ∃ i, (Function.update (fun j => if j ∈ R then machine.rouse (own j) else own j)
      t p i).phase = .blocked)
    (hall : ∀ i, (Function.update (fun j => if j ∈ R then machine.rouse (own j) else own j)
      t p i).phase ≠ .postWake .all) :
    s.val0.toInt < 0 ∧ count s.val0 ≤ ∑ i, weight Carrier
      (Function.update (fun j => if j ∈ R then machine.rouse (own j) else own j) t p i).phase := by
  obtain ⟨cnt, hp, rfl, rfl⟩ := waking_eq hwake
  have hawake : ∀ {k phase}, (own k).phase = phase → phase ≠ .blocked → k ∉ R :=
    fun hphase hne h => hne (hphase.symm.trans (hR _ h))
  have htR : t ∉ R := hawake hp Phase.noConfusion
  -- A thread still blocked was blocked before and not released, so the limit was reached.
  obtain ⟨j, hj⟩ := hblocked
  have hjt : j ≠ t := by
    rintro rfl
    rw [Function.update_self] at hj
    cases hj
  rw [Function.update_of_ne hjt] at hj
  have hjR : j ∉ R := by
    intro h
    rw [if_pos h] at hj
    cases hj
  rw [if_neg hjR] at hj
  have hcard : cnt.limit = R.card := by
    rcases hmany with heq | ⟨hsleepers, -⟩
    · exact some.inj heq
    · exact absurd (hsleepers j hj) hjR
  cases cnt with
  | all =>
    have hlt : R.card < Fintype.card T := Finset.card_lt_univ_of_notMem hjR
    rw [← hcard, Wake.limit] at hlt
    omega
  | one =>
    have hnone : ∀ k, (own k).phase ≠ .postWake .all := by
      intro k hk
      have hkt : k ≠ t := by
        rintro rfl
        rw [hp] at hk
        cases hk
      have hkR : k ∉ R := hawake hk Phase.noConfusion
      refine hall k ?_
      rw [Function.update_of_ne hkt, if_neg hkR, hk]
    obtain ⟨hneg, hle⟩ := hinv.wakeup ⟨j, hj⟩ hnone
    have hsum := wake_sum (M := machine) htR ((own t).follow (.ret .post .success))
      (fun p => weight Carrier p.phase) (fun k hk => by
        have hasleep : (own k).phase = .blocked := hR k hk
        rw [hasleep]
        rfl)
    have hcarrier : weight Carrier (own t).phase = 1 := by
      rw [hp]
      rfl
    dsimp only at hsum hle
    rw [hcarrier, ← hcard, follow_phase] at hsum
    simp only [Wake.limit] at hsum
    exact ⟨hneg, by omega⟩

theorem step_preserves_invariant (hT : Fintype.card T ≤ INT_MAX) (hinv : Invariant v x)
    (h : Step machine x y) : Invariant v y := by
  obtain ⟨hcount, hwaiters⟩ := step_counts hinv h
  refine ⟨hcount, hwaiters, ?_⟩
  cases h with
  | turn t hturn => exact turn_wakeup hinv hturn
  | wake t R hwake hR hmany => exact wake_wakeup hT hinv hwake hR hmany

omit [DecidableEq T] in
theorem initial_invariant (h : Initial v x) : Invariant v x := by
  obtain ⟨hinit, hidle⟩ := h
  unfold sem_init at hinit
  split at hinit
  · cases hinit
  · next hv =>
    have hwords : x.1 = ⟨BitVec.ofNat 32 v, 0⟩ := (some.inj hinit).symm
    have hv' : v < 2 ^ 31 := by
      simp only [SEM_VALUE_MAX] at hv
      omega
    rw [show x = (⟨BitVec.ofNat 32 v, 0⟩, fun _ => ⟨.idle, []⟩) from Prod.ext hwords hidle]
    refine ⟨?_, ?_, by simp⟩
    · simp [count_eq, successes, weight, Pending]
      omega
    · simp [weight, Waiting]

theorem reachable_invariant (hT : Fintype.card T ≤ INT_MAX)
    (h : Reachable (Initial v) (Step machine) x) : Invariant v x :=
  h.invariant (I := Invariant v) (fun _ hx => initial_invariant hx)
    fun _ _ hinv hs => step_preserves_invariant hT hinv hs

/-- The calls of `sem_post` that succeed: those that returned success, and those that only have
their `__wake` left to do. -/
def posts (own : T → Thread) : ℕ :=
  ∑ i, successes .post (own i) + (Finset.univ.filter fun i => Pending (own i).phase).card

def waits (own : T → Thread) : ℕ := ∑ i, successes .wait (own i)

theorem semaphore_conserves_and_wakes (hT : Fintype.card T ≤ INT_MAX) (v : ℕ)
    (x : Words × (T → Thread)) (h : Reachable (Initial v) (Step machine) x) :
    ((x.1.val0 &&& 0x7fffffff#32).toNat : ℤ) = v + posts x.2 - waits x.2 ∧
    x.1.val1.toNat = (Finset.univ.filter fun i => Waiting (x.2 i).phase).card ∧
    ¬(0 < (x.1.val0 &&& 0x7fffffff#32).toNat ∧ (∃ i, (x.2 i).phase = .blocked) ∧
      (∀ i cnt, (x.2 i).phase ≠ .postWake cnt) ∧ ∀ i, ¬Released (x.2 i).phase) := by
  have hinv := reachable_invariant hT h
  refine ⟨?_, ?_, ?_⟩
  · have hcount := hinv.count
    simp only [count, weight, Finset.sum_add_distrib, ← Finset.card_filter] at hcount
    rw [posts, waits]
    omega
  · have hle : (Finset.univ.filter fun i => Waiting (x.2 i).phase).card ≤ INT_MAX :=
      (Finset.card_le_univ _).trans hT
    have hwaiters := hinv.waiters
    simp only [weight, ← Finset.card_filter] at hwaiters
    rw [hwaiters, BitVec.toNat_ofNat]
    exact Nat.mod_eq_of_lt (hle.trans_lt (by decide))
  · rintro ⟨hpos, hblocked, hpending, hreleased⟩
    have hzero : ∀ i, weight Carrier (x.2 i).phase = 0 := by
      intro i
      refine if_neg ?_
      cases hp : (x.2 i).phase with
      | postWake cnt => exact absurd hp (hpending i cnt)
      | _ => simpa [Carrier, hp] using hreleased i
    have hle := (hinv.wakeup hblocked fun i => hpending i .all).2
    simp only [hzero, Finset.sum_const_zero, count] at hle
    omega

def blockingSchedule : List (Bool × Move) :=
  [(true, .call (.clockwait 1)), (true, .access), (true, .access),
    (false, .call .post), (false, .access), (false, .access), (false, .access), (true, .access),
    (false, .call .trywait), (false, .access), (false, .access),
    (true, .access), (true, .access), (true, .access), (true, .access)]

theorem semaphore_conserves_and_wakes_blocked :
    ∃ x : Words × (Bool → Thread), Reachable (Initial 0) (Step machine) x ∧
      (x.2 true).phase = .blocked ∧ posts x.2 = 1 ∧ waits x.2 = 1 ∧
      x.1.val1.toNat = (Finset.univ.filter fun i => Waiting (x.2 i).phase).card ∧
      ((x.1.val0 &&& 0x7fffffff#32).toNat : ℤ) = (0 : ℕ) + posts x.2 - waits x.2 := by
  have hstart : Reachable (Initial 0) (Step machine)
      (⟨0, 0⟩, fun _ : Bool => ⟨Phase.idle, []⟩) := .start ⟨rfl, rfl⟩
  have h := reachable_exec hstart (l := blockingSchedule) rfl
  have hall := semaphore_conserves_and_wakes (by decide) 0 _ h
  exact ⟨_, h, rfl, rfl, rfl, hall.2.1, hall.1⟩

end Semaphore
