import Mathlib.Data.BitVec
import GcompatMusl.Futex

/-! # Normal mutexes

Threads that lock and unlock one mutex of type `PTHREAD_MUTEX_NORMAL`. A thread that has it can call
every function; the others call every function but `unlock`. -/
namespace Mutex

open Interleaving Futex Finset

/-- The word `_m_lock`: 0, or `EBUSY` with or without the bit `0x80000000` -/
inductive Lock where
  | free
  | busy (marked : Bool)

structure State where
  lock : Lock
  waiters : BitVec 32

/-- `cas n` has `n` more attempts in front of the loop. -/
inductive Pc where
  | outside
  | cas (n : ℕ)
  | read
  | inc (r : Bool)
  | mark (r : Bool)
  | futex
  | asleep
  | dec (again : Bool)
  | swap (waiters : Bool)
  | wake

/-- `locked` from the success of a call until `unlock` is called -/
structure Thread where
  pc : Pc
  locked : Bool

/-- The spin loop only reads. A wait that failed does not go on `again`; those of `lock` may fail
here as well. -/
inductive Turn : State → Thread → State → Thread → Prop where
  | trylock : m.lock = .free → Turn m ⟨.outside, l⟩ { m with lock := .busy false } ⟨.outside, true⟩
  | tryBusy : m.lock ≠ .free → Turn m ⟨.outside, l⟩ m ⟨.outside, l⟩
  | timedlock : Turn m ⟨.outside, l⟩ m ⟨.cas 2, l⟩
  | lock : Turn m ⟨.outside, l⟩ m ⟨.cas 3, l⟩
  | cas : m.lock = .free → Turn m ⟨.cas n, l⟩ { m with lock := .busy false } ⟨.outside, true⟩
  | missed : m.lock ≠ .free → Turn m ⟨.cas (n + 1), l⟩ m ⟨.cas n, l⟩
  | enter : m.lock ≠ .free → Turn m ⟨.cas 0, l⟩ m ⟨.read, l⟩
  | free : m.lock = .free → Turn m ⟨.read, l⟩ m ⟨.cas 0, l⟩
  | read : m.lock = .busy r → Turn m ⟨.read, l⟩ m ⟨.inc r, l⟩
  | inc : Turn m ⟨.inc r, l⟩ { m with waiters := m.waiters + 1 } ⟨.mark r, l⟩
  | mark : m.lock = .busy r → Turn m ⟨.mark r, l⟩ { m with lock := .busy true } ⟨.futex, l⟩
  | unmarked : m.lock ≠ .busy r → Turn m ⟨.mark r, l⟩ m ⟨.futex, l⟩
  | sleep : m.lock = .busy true → Turn m ⟨.futex, l⟩ m ⟨.asleep, l⟩
  | refused : Turn m ⟨.futex, l⟩ m ⟨.dec again, l⟩
  | spurious : Turn m ⟨.asleep, l⟩ m ⟨.dec again, l⟩
  | again : Turn m ⟨.dec true, l⟩ { m with waiters := m.waiters - 1 } ⟨.cas 0, l⟩
  | leave : Turn m ⟨.dec false, l⟩ { m with waiters := m.waiters - 1 } ⟨.outside, l⟩
  | unlock : Turn m ⟨.outside, true⟩ m ⟨.swap (m.waiters ≠ 0), false⟩
  | swap : w = true ∨ m.lock = .busy true →
      Turn m ⟨.swap w, false⟩ { m with lock := .free } ⟨.wake, false⟩
  | release : m.lock ≠ .busy true →
      Turn m ⟨.swap false, false⟩ { m with lock := .free } ⟨.outside, false⟩

def waking : Thread → Option (Option ℕ × Thread)
  | ⟨.wake, l⟩ => some (some 1, ⟨.outside, l⟩)
  | _ => none

def machine : Machine State Thread :=
  ⟨Turn, fun p => p.pc = .asleep, fun p => { p with pc := .dec true }, waking⟩

def Thread.holding : Thread → Bool
  | ⟨.swap _, _⟩ => true
  | p => p.locked

def Pc.counted : Pc → Bool
  | .mark _ | .futex | .asleep | .dec _ => true
  | _ => false

def Pc.retrying : Pc → Bool
  | .dec true | .cas _ => true
  | _ => false

def Initial {T : Type*} (x : State × (T → Thread)) : Prop :=
  x = (⟨.free, 0⟩, fun _ => ⟨.outside, false⟩)

def Keeps (m m' : State) (p p' : Thread) : Prop :=
  (p'.pc = .swap false → m.waiters = 0) ∧ (p'.pc = .asleep → m'.lock = .busy true) ∧
    (m.lock = .busy true → m'.lock = .busy true ∨ p.holding)

theorem Turn.keeps (h : Turn m p m' p') : Keeps m m' p p' := by
  cases h <;> simp_all [Keeps, Thread.holding]

theorem Turn.waiters (h : Turn m p m' p') :
    m'.waiters + BitVec.ofNat 32 p.pc.counted.toNat =
      m.waiters + BitVec.ofNat 32 p'.pc.counted.toNat := by
  cases h <;> simp [Pc.counted]

theorem waking_eq (h : machine.waking p = some (n, q)) :
    ∃ l, p = ⟨.wake, l⟩ ∧ n = some 1 ∧ q = ⟨.outside, l⟩ := by
  obtain ⟨pc, l⟩ := p
  cases pc <;> cases h
  exact ⟨l, rfl, rfl, rfl⟩

variable {T : Type*} [DecidableEq T] {x : State × (T → Thread)}

theorem token (h : Reachable Initial (Step machine) x) :
    Token (fun m => m.lock ≠ .free) (fun p => p.holding) x := by
  refine Reachable.token ?_ ?_ ?_ ?_ h
  · rintro _ rfl
    exact ⟨absurd rfl, fun _ => Bool.false_ne_true⟩
  · rintro ⟨_, l⟩ rfl
    exact Iff.rfl
  · intro p n q hp
    obtain ⟨l, rfl, -, rfl⟩ := waking_eq hp
    exact Iff.rfl
  · intro x t m' p' hx hturn
    generalize x.2 t = p at hturn
    cases hturn <;> simp_all [Thread.holding]

variable [Fintype T]

theorem count (h : Reachable Initial (Step machine) x) :
    x.1.waiters = BitVec.ofNat 32 (tally (fun p => p.pc.counted) x.2) := by
  induction h with
  | start h =>
    cases h
    simp [tally, Pc.counted]
  | @next x y _ hs ih =>
    obtain ⟨t, p, hm, hcase⟩ := hs.moved
    have hcount := hm.tally_add (fun p => p.pc.counted) (by
      rintro ⟨_, l⟩ rfl
      rfl)
    have hwords := congrArg (BitVec.ofNat 32) hcount
    rw [BitVec.ofNat_add, BitVec.ofNat_add, ← ih] at hwords
    rcases hcase with hturn | ⟨heq, n, hwake⟩
    · rw [← Turn.waiters hturn] at hwords
      exact (add_right_cancel hwords).symm
    · obtain ⟨l, hp, -, rfl⟩ := waking_eq hwake
      rw [hp] at hwords
      rw [heq]
      exact (add_right_cancel hwords).symm

section

variable (hcard : Fintype.card T < 2 ^ 32)
include hcard

theorem count_toNat (h : Reachable Initial (Step machine) x) :
    x.1.waiters.toNat = tally (fun p => p.pc.counted) x.2 := by
  rw [count h, BitVec.toNat_ofNat]
  exact Nat.mod_eq_of_lt ((card_le_univ _).trans_lt hcard)

/-- A holder that saw no waiter releases a marked lock if there is a sleeper by then. -/
theorem marked (h : Reachable Initial (Step machine) x) :
    ∀ t j, (x.2 t).pc = .swap false → (x.2 j).pc = .asleep → x.1.lock = .busy true := by
  induction h with
  | start h =>
    cases h
    simp
  | @next x y hx hs ih =>
    intro u j hu hj
    obtain ⟨t, p, hm, hcase⟩ := hs.moved
    have hother : ∀ k q, q ≠ .dec true → (y.2 k).pc = q →
        k = t ∧ p.pc = q ∨ k ≠ t ∧ (x.2 k).pc = q := by
      rintro k q hq rfl
      by_cases hk : k = t
      · exact .inl ⟨hk, by rw [hk, hm.own]⟩
      · refine .inr ⟨hk, ?_⟩
        rw [(hm.other k hk).resolve_right fun h => hq (by rw [h.2]; rfl)]
    obtain ⟨hzero, hsleep, hkeep⟩ : Keeps x.1 y.1 (x.2 t) p := by
      rcases hcase with hturn | ⟨heq, n, hwake⟩
      · exact Turn.keeps hturn
      · obtain ⟨l, hp, -, rfl⟩ := waking_eq hwake
        simp_all [Keeps]
    rcases hother u _ (by simp) hu with ⟨-, hp⟩ | ⟨hut, hu⟩ <;>
      rcases hother j _ (by simp) hj with ⟨-, hp'⟩ | ⟨-, hj⟩
    · rw [hp] at hp'
      cases hp'
    · -- it has just read the number of waiters
      have hnone := count_toNat hcard hx
      rw [hzero hp] at hnone
      have hcounted : (x.2 j).pc.counted = true := by
        rw [hj]
        rfl
      exact absurd hnone.symm (card_ne_zero_of_mem (mem_filter.mpr ⟨mem_univ j, hcounted⟩))
    · exact hsleep hp'
    · refine (hkeep (ih u j hu hj)).resolve_right fun hhold => hut ?_
      refine (token hx).unique u t ?_ hhold
      rw [show x.2 u = ⟨.swap false, (x.2 u).locked⟩ by rw [← hu]]
      rfl

theorem covered (h : Reachable Initial (Step machine) x) : (∃ t, (x.2 t).pc = .asleep) →
    x.1.lock ≠ .free ∨ (∃ t, (waking (x.2 t)).isSome) ∨ ∃ t, (x.2 t).pc.retrying := by
  refine Reachable.covered (·.lock ≠ .free) (fun p => p.pc.retrying) ?_ ?_ ?_ ?_ ?_ ?_ h
  · refine ⟨fun h => by cases h <;> rfl, fun {p n q} h => ?_, fun h => Pc.noConfusion⟩
    obtain ⟨l, rfl, -, rfl⟩ := waking_eq h
    simp [machine]
  · rintro _ rfl j h
    cases h
  · intro x t m' p' _ hturn hp
    rw [(Turn.keeps hturn).2.1 hp]
    exact Lock.noConfusion
  · intro x t m' p' _ hturn hp
    generalize x.2 t = p at hturn hp
    cases hturn <;> simp_all [Pc.retrying]
  · intro x t n q _ hp
    obtain ⟨l, -, rfl, -⟩ := waking_eq hp
    exact .inr ⟨by decide, fun _ _ => rfl⟩
  · intro x t m' p' hx hturn hheld
    have hmarked := marked hcard hx t
    generalize x.2 t = p at hturn hmarked
    cases hturn with
    | release hlock => exact .inr (.inr fun j hj => hlock (hmarked j rfl hj))
    | swap => exact .inr (.inl rfl)
    | trylock | cas | mark => exact .inl Lock.noConfusion
    | _ => exact .inl hheld

/-- One thread at a time has the mutex, and no sleeper is left behind with a free one. -/
theorem mutex_excludes (h : Reachable Initial (Step machine) x) :
    (∀ t u, (x.2 t).holding → (x.2 u).holding → t = u) ∧
    (x.1.lock ≠ .free ↔ ∃ t, (x.2 t).holding) ∧
    x.1.waiters.toNat = tally (fun p => p.pc.counted) x.2 ∧
    (x.1.lock = .free → (∃ t, (x.2 t).pc = .asleep) →
      (∃ t, (waking (x.2 t)).isSome) ∨ ∃ t, (x.2 t).pc.retrying) :=
  ⟨(token h).unique, (token h).taken, count_toNat hcard h, fun hfree hasleep =>
    (covered hcard h hasleep).resolve_left (absurd hfree)⟩

end

omit [DecidableEq T] [Fintype T] in
/-- One thread has the mutex and waits for it once more, and so does another one. -/
theorem mutex_excludes_asleep : ∃ x : State × (Bool → Thread),
    x.2 true = ⟨.asleep, true⟩ ∧ x.2 false = ⟨.asleep, false⟩ ∧
    (∀ u, (x.2 u).holding → true = u) ∧
    x.1.waiters.toNat = tally (fun p => p.pc.counted) x.2 := by
  have h0 : Reachable Initial (Step machine) (⟨.free, 0⟩, fun _ : Bool => ⟨.outside, false⟩) :=
    .start rfl
  have h1 := h0.next (.turn true (.trylock rfl))
  have h2 := h1.next (.turn true (.tryBusy nofun))
  have h3 := h2.next (.turn true .timedlock)
  have h4 := h3.next (.turn true (.missed nofun))
  have h5 := h4.next (.turn true (.missed nofun))
  have h6 := h5.next (.turn true (.enter nofun))
  have h7 := h6.next (.turn true (.read rfl))
  have h8 := h7.next (.turn true .inc)
  have h9 := h8.next (.turn true (.mark rfl))
  have h10 := h9.next (.turn true (.sleep rfl))
  have h11 := h10.next (.turn false .timedlock)
  have h12 := h11.next (.turn false (.missed nofun))
  have h13 := h12.next (.turn false (.missed nofun))
  have h14 := h13.next (.turn false (.enter nofun))
  have h15 := h14.next (.turn false (.read rfl))
  have h16 := h15.next (.turn false .inc)
  have h17 := h16.next (.turn false (.mark rfl))
  have h18 := h17.next (.turn false (.sleep rfl))
  obtain ⟨hone, -, hcount, -⟩ := mutex_excludes (by decide) h18
  exact ⟨_, rfl, rfl, fun u => hone true u rfl, hcount⟩

end Mutex
