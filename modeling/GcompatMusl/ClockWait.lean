import Mathlib.Algebra.Order.Ring.Int
import Mathlib.Order.WellFounded
import Mathlib.Tactic.Ring
import GcompatMusl.FuelLoop

/-! # Waiting against an arbitrary clock

`pthread_clockjoin_np` and `pthread_cond_clockwait` of `libgcompat/pthread.c`, with an environment
for each iteration that fixes the clock readings and the results of calls. Signed 64-bit results are
reduced to the balanced residue. -/
namespace ClockWait

open FuelLoop

abbrev ClockId := ℤ

def CLOCK_REALTIME : ClockId := 0
def CLOCK_MONOTONIC : ClockId := 1

def EINTR : ℕ := 4
def EBUSY : ℕ := 16
def EINVAL : ℕ := 22
def ETIMEDOUT : ℕ := 110

/-- The result of a call without a time limit: `pthread_tryjoin_np` joins with a null
deadline, a relative sleep ends by itself, and reading a clock does not wait. -/
abbrev Code := { e : ℕ // e ≠ ETIMEDOUT }

structure Timespec where
  sec : ℤ
  nsec : ℤ
  deriving DecidableEq, Repr

structure Timespec.Valid (t : Timespec) : Prop where
  sec_ge : -2 ^ 63 ≤ t.sec
  sec_lt : t.sec < 2 ^ 63
  nsec_ge : 0 ≤ t.nsec
  nsec_lt : t.nsec < 1000000000

abbrev Reading := { t : Timespec // t.Valid }

def Timespec.ns (t : Timespec) : ℤ := t.sec * 1000000000 + t.nsec

def i64 (x : ℤ) : ℤ := x.bmod (2 ^ 64)

def timespecCompare (ts1 ts2 : Timespec) : ℤ :=
  if ts1.sec < ts2.sec then -1
  else if ts1.sec > ts2.sec then 1
  else if ts1.nsec < ts2.nsec then -1
  else if ts1.nsec > ts2.nsec then 1
  else 0

def remainingNs (abstime now : Timespec) : ℤ :=
  i64 (i64 (i64 (abstime.sec - now.sec) * 1000000000) + i64 (abstime.nsec - now.nsec))

inductive Verdict where
  | ret (e : ℕ)
  | again
  deriving DecidableEq, Repr

def pollInterval : Timespec := ⟨0, 50 * 1000 * 1000⟩

def actualSleep (remaining : ℤ) : Timespec :=
  if remaining < pollInterval.sec * 1000000000 + pollInterval.nsec then
    ⟨remaining.tdiv 1000000000, remaining.tmod 1000000000⟩
  else pollInterval

structure JoinEnv where
  tryjoin : Code
  clock : Except Code Reading
  lastTryjoin : Code
  sleep : Timespec → Code

def joinIter (abstime : Timespec) (env : JoinEnv) : Verdict × Option Reading :=
  if env.tryjoin.val = 0 then (.ret 0, none)
  else if env.tryjoin.val ≠ EBUSY then (.ret env.tryjoin, none)
  else match env.clock with
  | .error e => (.ret e, none)
  | .ok now =>
    if timespecCompare now abstime ≥ 0 ∨ remainingNs abstime now ≤ 0 then
      if env.lastTryjoin.val = 0 then (.ret 0, some now)
      else if env.lastTryjoin.val = EBUSY then (.ret ETIMEDOUT, some now)
      else (.ret env.lastTryjoin, some now)
    else
      let sleepRet := (env.sleep (actualSleep (remainingNs abstime now))).val
      if sleepRet ≠ 0 ∧ sleepRet ≠ EINTR then (.ret sleepRet, some now)
      else (.again, some now)

/-- The state is the number of turns with the last reading, which is also returned. -/
def joinTurn (abstime : Timespec) (env : ℕ → JoinEnv) (s : ℕ × Option Reading) :
    Turn (ℕ × Option Reading) (ℕ × Option Reading) :=
  match joinIter abstime (env s.1) with
  | (.ret e, reading) => .ret (e, reading <|> s.2)
  | (.again, reading) => .again (s.1 + 1, reading <|> s.2)

def pthreadClockjoinNp (join : ℕ) (abstime : Option Timespec) (env : ℕ → JoinEnv)
    (fuel : ℕ) : Turn (ℕ × Option Reading) (ℕ × Option Reading) :=
  match abstime with
  | none => .ret (join, none)
  | some abstime =>
    if abstime.nsec < 0 ∨ abstime.nsec ≥ 1000000000 then .ret (EINVAL, none)
    else loop (joinTurn abstime env) fuel (0, none)

structure CondVar where
  clock : ClockId
  deriving DecidableEq, Repr

structure CondEnv where
  clocks : ClockId → Except Code Reading
  timedwait : Timespec → ℕ

def deadlineRealtime (now : Timespec) (delta : ℤ) : Timespec :=
  let sec := i64 (now.sec + delta.tdiv 1000000000)
  let nsec := i64 (now.nsec + delta.tmod 1000000000)
  if nsec ≥ 1000000000 then ⟨i64 (sec + 1), nsec - 1000000000⟩
  else if nsec < 0 then ⟨i64 (sec - 1), nsec + 1000000000⟩
  else ⟨sec, nsec⟩

structure CondIter where
  verdict : Verdict
  reading : Option Reading
  handed : Option Timespec

def condIter (clockid : ClockId) (abstime : Timespec) (env : CondEnv) : CondIter :=
  match env.clocks clockid with
  | .error e => ⟨.ret e, none, none⟩
  | .ok now =>
    if timespecCompare now abstime ≥ 0 then ⟨.ret ETIMEDOUT, some now, none⟩
    else if remainingNs abstime now ≤ 0 then ⟨.ret ETIMEDOUT, some now, none⟩
    else match env.clocks CLOCK_REALTIME with
    | .error e => ⟨.ret e, some now, none⟩
    | .ok realtime =>
      let timeout := deadlineRealtime realtime (remainingNs abstime now)
      if timeout.nsec < 0 ∨ timeout.nsec ≥ 1000000000 then ⟨.ret EINVAL, some now, none⟩
      else if env.timedwait timeout = 0 then ⟨.ret 0, some now, some timeout⟩
      else if env.timedwait timeout = ETIMEDOUT then ⟨.again, some now, some timeout⟩
      else ⟨.ret (env.timedwait timeout), some now, some timeout⟩

structure CondTrace where
  turns : ℕ
  last : Option Reading
  handed : List (ℕ × Timespec)

structure CondRun where
  ret : ℕ
  last : Option Reading
  handed : List (ℕ × Timespec)

def condTurn (clockid : ClockId) (abstime : Timespec) (env : ℕ → CondEnv) (s : CondTrace) :
    Turn CondRun CondTrace :=
  let iter := condIter clockid abstime (env s.turns)
  let last := iter.reading <|> s.last
  let handed := s.handed ++ (iter.handed.map fun t => (s.turns, t)).toList
  match iter.verdict with
  | .ret e => .ret ⟨e, last, handed⟩
  | .again => .again ⟨s.turns + 1, last, handed⟩

def pthreadCondClockwait (clockid : ClockId) (abstime : Option Timespec)
    (env : ℕ → CondEnv) (fuel : ℕ) : Turn CondRun CondTrace :=
  match abstime with
  | none => .ret ⟨EINVAL, none, []⟩
  | some abstime =>
    if abstime.nsec < 0 ∨ abstime.nsec ≥ 1000000000 then .ret ⟨EINVAL, none, []⟩
    else if clockid = CLOCK_REALTIME then
      .ret ⟨(env 0).timedwait abstime, none, [(0, abstime)]⟩
    else loop (condTurn clockid abstime env) fuel ⟨0, none, []⟩

theorem i64_eq_of_range (h1 : -2 ^ 63 ≤ x) (h2 : x < 2 ^ 63) : i64 x = x := by
  apply Int.bmod_eq_of_le <;> omega

theorem i64_range (x : ℤ) : -2 ^ 63 ≤ i64 x ∧ i64 x < 2 ^ 63 := by
  unfold i64
  have h1 := Int.le_bmod (x := x) (m := 2 ^ 64) (by decide)
  have h2 := Int.bmod_lt (x := x) (m := 2 ^ 64) (by decide)
  omega

/-- The code's nanosecond difference is the exact one up to a multiple of `2^64`. -/
theorem remainingNs_eq (abstime now : Timespec) :
    remainingNs abstime now = i64 (abstime.ns - now.ns) := by
  unfold remainingNs i64 Timespec.ns
  simp only [Int.bmod_add_bmod, Int.add_bmod_bmod, Int.bmod_mul_bmod]
  congr 1
  ring

theorem i64_i64_add (x y : ℤ) : i64 (i64 x + y) = i64 (x + y) := by
  simp only [i64, Int.bmod_add_bmod]

theorem i64_of_ge (h1 : 2 ^ 63 ≤ x) (h2 : x < 2 ^ 64) : i64 x = x - 2 ^ 64 := by
  unfold i64 Int.bmod
  push_cast
  split <;> omega

/-- What the translated deadline falls short of by the wraparound of `tv_sec`. -/
def secondsLost (ns : ℤ) : ℤ := if 2 ^ 63 ≤ ns / 1000000000 then 2 ^ 64 * 1000000000 else 0

theorem deadlineRealtime_spec (hv : now.Valid) (h0 : 0 < delta) (h1 : delta < 2 ^ 63) :
    (0 ≤ (deadlineRealtime now delta).nsec ∧ (deadlineRealtime now delta).nsec < 1000000000) ∧
    (deadlineRealtime now delta).ns = now.ns + delta - secondsLost (now.ns + delta) := by
  obtain ⟨hs1, hs2, hn1, hn2⟩ := hv
  have hdiv : delta.tdiv 1000000000 = delta / 1000000000 := Int.tdiv_eq_ediv_of_nonneg (by omega)
  have hmod : delta.tmod 1000000000 = delta % 1000000000 := Int.tmod_eq_emod_of_nonneg (by omega)
  have hnsec : i64 (now.nsec + delta % 1000000000) = now.nsec + delta % 1000000000 :=
    i64_eq_of_range (by omega) (by omega)
  have hsec : ∀ x : ℤ, -2 ^ 63 ≤ x → x < 2 ^ 64 →
      i64 x = x - if 2 ^ 63 ≤ x then 2 ^ 64 else 0 := by
    intro x hx1 hx2
    split
    · exact i64_of_ge (by assumption) hx2
    · rw [i64_eq_of_range hx1 (by omega)]; omega
  unfold deadlineRealtime secondsLost Timespec.ns
  simp only [hdiv, hmod, i64_i64_add]
  split
  swap
  · rw [if_neg (by omega)]
    rw [hsec _ (by omega) (by omega)]
    dsimp only
    split <;> split <;> omega
  · rw [hsec _ (by omega) (by omega)]
    dsimp only
    split <;> split <;> omega

theorem compare_ge_iff (ha : a.Valid) (hb : b.Valid) : timespecCompare a b ≥ 0 ↔ b.ns ≤ a.ns := by
  obtain ⟨-, -, h1, h2⟩ := ha
  obtain ⟨-, -, h3, h4⟩ := hb
  unfold timespecCompare Timespec.ns
  split_ifs <;> omega

def Nondecreasing (clock : ℕ → Except Code Reading) : Prop :=
  ∀ k l t u, k ≤ l → clock k = .ok t → clock l = .ok u → t.val.ns ≤ u.val.ns

section

variable (abstime : Timespec)

def RemainingPositive (clock : ℕ → Except Code Reading) : Prop :=
  ∀ k t, (∀ l < k, ∃ u, clock l = .ok u) → clock k = .ok t →
    t.val.ns < abstime.ns → 0 < (abstime.ns - t.val.ns).bmod (2 ^ 64)

def Reached (last : Option Reading) : Prop :=
  ∃ t, last = some t ∧ abstime.ns ≤ t.val.ns

def JoinNotEarly (env : ℕ → JoinEnv) : Prop :=
  ∀ join fuel last, pthreadClockjoinNp join (some abstime) env fuel = .ret (ETIMEDOUT, last) →
    Reached abstime last

def CondNotEarly (clockid : ClockId) (abstime : Timespec) (env : ℕ → CondEnv) : Prop :=
  ∀ fuel r, pthreadCondClockwait clockid (some abstime) env fuel = .ret r →
    r.ret = ETIMEDOUT → Reached abstime r.last

def Expired (now : Reading) : Prop :=
  timespecCompare now abstime ≥ 0 ∨ remainingNs abstime now ≤ 0

end

variable {abstime : Timespec} {clock : ℕ → Except Code Reading}

theorem expired_iff (hv : abstime.Valid) (now : Reading) :
    Expired abstime now ↔
      abstime.ns ≤ now.val.ns ∨ (abstime.ns - now.val.ns).bmod (2 ^ 64) ≤ 0 := by
  unfold Expired
  rw [compare_ge_iff now.property hv, remainingNs_eq, i64]

/-- A turn with a given clock ends the loop with `ETIMEDOUT` only on an expired reading,
which it reports, and goes on only after a reading. -/
structure TurnSpec (abstime : Timespec) (clock : Except Code Reading) (verdict : Verdict)
    (reading : Option Reading) : Prop where
  timedout : verdict = .ret ETIMEDOUT →
    ∃ now, clock = .ok now ∧ reading = some now ∧ Expired abstime now
  again : verdict = .again → ∃ now, clock = .ok now

theorem joinIter_spec (abstime : Timespec) (env : JoinEnv) :
    TurnSpec abstime env.clock (joinIter abstime env).1 (joinIter abstime env).2 := by
  unfold joinIter
  split
  · exact ⟨by simp [ETIMEDOUT], by simp⟩
  split
  · exact ⟨by simp [env.tryjoin.property], by simp⟩
  split
  · next e _ => exact ⟨by simp [e.property], by simp⟩
  next now hnow =>
  split
  · next hexp =>
    have hread : ∃ t, env.clock = .ok t ∧ some now = some t ∧ Expired abstime t :=
      ⟨now, hnow, rfl, hexp⟩
    split_ifs <;> exact ⟨fun _ => hread, by simp⟩
  · dsimp only
    split
    · exact ⟨by simp [(env.sleep _).property], by simp⟩
    · exact ⟨by simp, fun _ => ⟨now, hnow⟩⟩

theorem condIter_spec (clockid : ClockId) (abstime : Timespec) (env : CondEnv) :
    TurnSpec abstime (env.clocks clockid) (condIter clockid abstime env).verdict
      (condIter clockid abstime env).reading := by
  unfold condIter
  split
  · next e _ => exact ⟨by simp [e.property], by simp⟩
  next now hnow =>
  split
  · next h => exact ⟨fun _ => ⟨now, hnow, rfl, .inl h⟩, by simp⟩
  split
  · next h => exact ⟨fun _ => ⟨now, hnow, rfl, .inr h⟩, by simp⟩
  split
  · next e _ => exact ⟨by simp [e.property], by simp⟩
  dsimp only
  split
  · exact ⟨by simp [EINVAL, ETIMEDOUT], by simp⟩
  split
  · exact ⟨by simp [ETIMEDOUT], by simp⟩
  split
  · exact ⟨by simp, fun _ => ⟨now, hnow⟩⟩
  · next h => exact ⟨by simp [h], by simp⟩

theorem TurnSpec.reached (hv : abstime.Valid) {clock : Except Code Reading}
    (spec : TurnSpec abstime clock (.ret ETIMEDOUT) reading)
    (hpos : ∀ t, clock = .ok t → t.val.ns < abstime.ns → 0 < (abstime.ns - t.val.ns).bmod (2 ^ 64))
    (last : Option Reading) : Reached abstime (reading <|> last) := by
  obtain ⟨now, hclock, rfl, hexp⟩ := spec.timedout rfl
  refine ⟨now, rfl, ?_⟩
  rw [expired_iff hv] at hexp
  by_contra hlt
  have := hpos now hclock (by omega)
  omega

theorem nsec_checked (hv : abstime.Valid) : ¬(abstime.nsec < 0 ∨ abstime.nsec ≥ 1000000000) := by
  have h1 := hv.nsec_ge
  have h2 := hv.nsec_lt
  omega

theorem joinNotEarly_of_remaining (hv : abstime.Valid)
    (h : RemainingPositive abstime fun k => (env k).clock) : JoinNotEarly abstime env := by
  intro join fuel last hrun
  simp only [pthreadClockjoinNp, if_neg (nsec_checked hv)] at hrun
  have hout := loop_rule (joinTurn abstime env)
    (fun s => ∀ l < s.1, ∃ u, (env l).clock = .ok u)
    (fun r => r.1 = ETIMEDOUT → Reached abstime r.2) ?_ fuel (0, none) (by simp)
  · rw [hrun] at hout
    exact hout rfl
  rintro ⟨k, last⟩ hI
  have spec := joinIter_spec abstime (env k)
  simp only [joinTurn]
  generalize joinIter abstime (env k) = iter at spec
  obtain ⟨verdict, reading⟩ := iter
  cases verdict with
  | ret e =>
    rintro rfl
    exact spec.reached hv (fun t ht hlt => h k t hI ht hlt) last
  | again => exact Nat.forall_lt_succ_right.mpr ⟨hI, spec.again rfl⟩

theorem condNotEarly_of_remaining (hne : clockid ≠ CLOCK_REALTIME) (hv : abstime.Valid)
    (h : RemainingPositive abstime fun k => (env k).clocks clockid) :
    CondNotEarly clockid abstime env := by
  intro fuel r hrun htimed
  simp only [pthreadCondClockwait, if_neg (nsec_checked hv), if_neg hne] at hrun
  have hout := loop_rule (condTurn clockid abstime env)
    (fun s => ∀ l < s.turns, ∃ u, (env l).clocks clockid = .ok u)
    (fun r => r.ret = ETIMEDOUT → Reached abstime r.last) ?_ fuel ⟨0, none, []⟩ (by simp)
  · rw [hrun] at hout
    exact hout htimed
  intro s hI
  have spec := condIter_spec clockid abstime (env s.turns)
  simp only [condTurn]
  generalize condIter clockid abstime (env s.turns) = iter at spec
  obtain ⟨verdict, reading, handed⟩ := iter
  cases verdict with
  | ret e =>
    rintro rfl
    exact spec.reached hv (fun t ht hlt => h s.turns t hI ht hlt) s.last
  | again => exact Nat.forall_lt_succ_right.mpr ⟨hI, spec.again rfl⟩

def patientJoin (clock : ℕ → Except Code Reading) (k : ℕ) : JoinEnv where
  tryjoin := ⟨EBUSY, by decide⟩
  clock := clock k
  lastTryjoin := ⟨EBUSY, by decide⟩
  sleep _ := ⟨0, by decide⟩

def epoch : Reading := ⟨⟨0, 0⟩, by constructor <;> decide⟩

def patientCond (clockid : ClockId) (clock : ℕ → Except Code Reading) (k : ℕ) : CondEnv where
  clocks c := if c = clockid then clock k else .ok epoch
  timedwait _ := ETIMEDOUT

theorem patientJoin_iter (abstime : Timespec) (hnow : clock k = .ok now) : (Expired abstime now →
      joinIter abstime (patientJoin clock k) = (.ret ETIMEDOUT, some now)) ∧
    (¬Expired abstime now → joinIter abstime (patientJoin clock k) = (.again, some now)) := by
  constructor
  all_goals
    intro hexp
    simp only [Expired] at hexp
    simp [joinIter, patientJoin, hnow, hexp, EBUSY]

theorem patientCond_iter (hne : clockid ≠ CLOCK_REALTIME) (abstime : Timespec)
    (hnow : clock k = .ok now) :
    (Expired abstime now → ∃ handed,
      condIter clockid abstime (patientCond clockid clock k) = ⟨.ret ETIMEDOUT, some now, handed⟩) ∧
    (¬Expired abstime now → ∃ handed,
      condIter clockid abstime (patientCond clockid clock k) = ⟨.again, some now, handed⟩) := by
  refine ⟨fun hexp => ?_, fun hexp => ?_⟩
  · refine ⟨none, ?_⟩
    simp only [condIter, patientCond, if_pos, hnow]
    split
    · rfl
    · rw [if_pos (hexp.resolve_left (by assumption))]
  · simp only [Expired, not_or, not_le] at hexp
    have hrange := (i64_range (abstime.ns - now.val.ns)).2
    rw [← remainingNs_eq] at hrange
    have hdl := (deadlineRealtime_spec epoch.property hexp.2 hrange).1
    have hnsec : ¬((deadlineRealtime epoch (remainingNs abstime now)).nsec < 0 ∨
        (deadlineRealtime epoch (remainingNs abstime now)).nsec ≥ 1000000000) := by omega
    refine ⟨some (deadlineRealtime epoch (remainingNs abstime now)), ?_⟩
    simp only [condIter, patientCond, if_pos, hnow, if_neg (not_le.mpr hexp.1),
      if_neg (not_le.mpr hexp.2), if_neg (Ne.symm hne), if_neg hnsec]
    rfl

theorem exists_first_bad (hv : abstime.Valid) (hmono : Nondecreasing clock)
    (h : ¬RemainingPositive abstime clock) :
    ∃ n t, clock n = .ok t ∧ t.val.ns < abstime.ns ∧ Expired abstime t ∧
      ∀ j < n, ∃ u, clock j = .ok u ∧ ¬Expired abstime u := by
  classical
  let Bad : ℕ → Prop := fun k => ∃ t, (∀ l < k, ∃ u, clock l = .ok u) ∧ clock k = .ok t ∧
    t.val.ns < abstime.ns ∧ (abstime.ns - t.val.ns).bmod (2 ^ 64) ≤ 0
  have hbad : ∃ k, Bad k := by
    simp only [RemainingPositive, not_forall] at h
    obtain ⟨k, t, hl, hk, hlt, hle⟩ := h
    exact ⟨k, t, hl, hk, hlt, by omega⟩
  obtain ⟨t, hread, hk, hlt, hle⟩ := Nat.find_spec hbad
  refine ⟨Nat.find hbad, t, hk, hlt, (expired_iff hv t).mpr (.inr hle), ?_⟩
  intro j hj
  obtain ⟨u, hu⟩ := hread j hj
  have hut := hmono j _ u t hj.le hu hk
  refine ⟨u, hu, fun hexp => Nat.find_min hbad hj ⟨u, ?_, hu, by omega, ?_⟩⟩
  · intro l hl
    exact hread l (hl.trans hj)
  · exact ((expired_iff hv u).mp hexp).resolve_left (by omega)

theorem not_reached (h : t.val.ns < abstime.ns) : ¬Reached abstime (some t) := by
  rintro ⟨u, hu, hle⟩
  obtain rfl : t = u := by simpa using hu
  omega

theorem remaining_of_joinNotEarly (hv : abstime.Valid) (hmono : Nondecreasing clock)
    (h : JoinNotEarly abstime (patientJoin clock)) : RemainingPositive abstime clock := by
  by_contra hbad
  obtain ⟨n, t, hn, hlt, hexp, hgo⟩ := exists_first_bad hv hmono hbad
  obtain ⟨r, hrun, hr⟩ := loop_reaches (joinTurn abstime (patientJoin clock))
    (fun j s => s.1 = j) (fun r => r = (ETIMEDOUT, some t))
    (by
      rintro j hj ⟨_, last⟩ rfl
      obtain ⟨u, hu, hne⟩ := hgo _ hj
      refine ⟨(_, some u), ?_, rfl⟩
      simp only [joinTurn, (patientJoin_iter abstime hu).2 hne]
      rfl)
    (by
      rintro ⟨_, last⟩ rfl
      refine ⟨_, ?_, rfl⟩
      simp only [joinTurn, (patientJoin_iter abstime hn).1 hexp]
      rfl) (0, none) rfl
  apply not_reached hlt
  apply h 0 (n + 1)
  simp only [pthreadClockjoinNp, if_neg (nsec_checked hv), hrun, hr]

theorem remaining_of_condNotEarly (hne : clockid ≠ CLOCK_REALTIME) (hv : abstime.Valid)
    (hmono : Nondecreasing clock) (h : CondNotEarly clockid abstime (patientCond clockid clock)) :
    RemainingPositive abstime clock := by
  by_contra hbad
  obtain ⟨n, t, hn, hlt, hexp, hgo⟩ := exists_first_bad hv hmono hbad
  obtain ⟨r, hrun, hret, hlast⟩ :=
    loop_reaches (condTurn clockid abstime (patientCond clockid clock))
    (fun j s => s.turns = j) (fun r => r.ret = ETIMEDOUT ∧ r.last = some t)
    (by
      rintro j hj s rfl
      obtain ⟨u, hu, hgo⟩ := hgo _ hj
      obtain ⟨handed, hiter⟩ := (patientCond_iter hne abstime hu).2 hgo
      simp [condTurn, hiter])
    (by
      rintro s rfl
      obtain ⟨handed, hiter⟩ := (patientCond_iter hne abstime hn).1 hexp
      simp [condTurn, hiter]) ⟨0, none, []⟩ rfl
  apply not_reached hlt
  rw [← hlast]
  apply h (n + 1) r _ hret
  simp only [pthreadCondClockwait, if_neg (nsec_checked hv), if_neg hne, hrun]

theorem no_premature_timeout_iff (abstime : Timespec) (hv : abstime.Valid)
    (clockid : ClockId) (hne : clockid ≠ CLOCK_REALTIME)
    (clock : ℕ → Except Code Reading) (hmono : Nondecreasing clock) :
    ((∀ env : ℕ → CondEnv, (∀ k, (env k).clocks clockid = clock k) →
        CondNotEarly clockid abstime env) ↔ RemainingPositive abstime clock) ∧
    ((∀ env : ℕ → JoinEnv, (∀ k, (env k).clock = clock k) →
        JoinNotEarly abstime env) ↔ RemainingPositive abstime clock) := by
  refine ⟨⟨fun h => ?_, fun h env henv => ?_⟩, ⟨fun h => ?_, fun h env henv => ?_⟩⟩
  · exact remaining_of_condNotEarly hne hv hmono (h _ fun k => by simp [patientCond])
  · exact condNotEarly_of_remaining hne hv (by simpa only [henv] using h)
  · exact remaining_of_joinNotEarly hv hmono (h _ fun k => rfl)
  · exact joinNotEarly_of_remaining hv (by simpa only [henv] using h)

theorem no_premature_timeout_iff_second :
    (∀ env : ℕ → CondEnv, (∀ k, (env k).clocks CLOCK_MONOTONIC = .ok epoch) →
      CondNotEarly CLOCK_MONOTONIC ⟨1, 0⟩ env) ∧
    (∀ env : ℕ → JoinEnv, (∀ k, (env k).clock = .ok epoch) → JoinNotEarly ⟨1, 0⟩ env) := by
  have h := no_premature_timeout_iff ⟨1, 0⟩ (by constructor <;> decide) CLOCK_MONOTONIC
    (by decide) (fun _ => .ok epoch)
    (by
      intro k l t u _ ht hu
      obtain rfl : epoch = t := by simpa using ht
      obtain rfl : epoch = u := by simpa using hu
      exact le_rfl)
  have hpos : RemainingPositive ⟨1, 0⟩ fun _ => .ok epoch := by
    intro k t _ ht _
    obtain rfl : epoch = t := by simpa using ht
    decide
  exact ⟨h.1.mpr hpos, h.2.mpr hpos⟩

/-- At the clock's epoch the last second of `time_t` is `2^63 - 1` seconds away, which the
64-bit nanosecond count turns into one second ago. -/
theorem far_deadline_times_out_at_once :
    pthreadCondClockwait CLOCK_MONOTONIC (some ⟨2 ^ 63 - 1, 0⟩)
      (patientCond CLOCK_MONOTONIC fun _ => .ok epoch) 1 = .ret ⟨ETIMEDOUT, some epoch, []⟩ ∧
    pthreadClockjoinNp 0 (some ⟨2 ^ 63 - 1, 0⟩) (patientJoin fun _ => .ok epoch) 1 =
      .ret (ETIMEDOUT, some epoch) ∧
    ¬Reached ⟨2 ^ 63 - 1, 0⟩ (some epoch) := by
  refine ⟨rfl, rfl, not_reached (by decide)⟩

def handedOf : Turn CondRun CondTrace → List (ℕ × Timespec)
  | .ret r => r.handed
  | .again s => s.handed

section

variable (c : CondVar) (clockid : ClockId) (abstime : Timespec) (env : CondEnv)

/-- With the clocks of one turn read together, `timeout` on the clock of the condition
variable lies as far ahead as `abstime` on the caller's clock. -/
def DenotesDeadline (timeout : Timespec) : Prop :=
  ∀ nowCond now, env.clocks c.clock = .ok nowCond → env.clocks clockid = .ok now →
    timeout.ns - nowCond.val.ns = abstime.ns - now.val.ns

def lostNs (clockid : ClockId) (abstime now realtime : Timespec) : ℤ :=
  if clockid = CLOCK_REALTIME then 0
  else (abstime.ns - now.ns) - i64 (abstime.ns - now.ns) +
    secondsLost (realtime.ns + i64 (abstime.ns - now.ns))

def LeadIsLost : Prop :=
  ∀ nowCond now realtime, env.clocks c.clock = .ok nowCond → env.clocks clockid = .ok now →
    env.clocks CLOCK_REALTIME = .ok realtime →
    realtime.val.ns - nowCond.val.ns = lostNs clockid abstime now realtime

end

theorem condIter_handed (h : (condIter clockid abstime env).handed = some timeout) :
    ∃ now realtime, env.clocks clockid = .ok now ∧
      env.clocks CLOCK_REALTIME = .ok realtime ∧ ¬Expired abstime now ∧
      timeout = deadlineRealtime realtime (remainingNs abstime now) := by
  unfold condIter at h
  split at h
  · simp at h
  next now hnow =>
  split at h
  · simp at h
  next hcmp =>
  split at h
  · simp at h
  next hpos =>
  split at h
  · simp at h
  next realtime hreal =>
  refine ⟨now, realtime, hnow, hreal, not_or.mpr ⟨hcmp, hpos⟩, ?_⟩
  dsimp only at h
  split at h
  · simp at h
  split_ifs at h <;> simpa using h.symm

def HandedBy (clockid : ClockId) (abstime : Timespec) (env : ℕ → CondEnv)
    (p : ℕ × Timespec) : Prop :=
  if clockid = CLOCK_REALTIME then p = (0, abstime)
  else (condIter clockid abstime (env p.1)).handed = some p.2

theorem handedBy_of_mem (hv : abstime.Valid) :
    ∀ p ∈ handedOf (pthreadCondClockwait clockid (some abstime) env fuel),
      HandedBy clockid abstime env p := by
  simp only [pthreadCondClockwait, if_neg (nsec_checked hv)]
  split
  · next hr => simp [handedOf, HandedBy, hr]
  next hne =>
  have hout := loop_rule (condTurn clockid abstime env)
    (fun s => ∀ p ∈ s.handed, HandedBy clockid abstime env p)
    (fun r => ∀ p ∈ r.handed, HandedBy clockid abstime env p) ?_ fuel ⟨0, none, []⟩ (by simp)
  · cases hl : loop (condTurn clockid abstime env) fuel ⟨0, none, []⟩ <;> rw [hl] at hout <;>
      exact hout
  intro s hI
  have hnew : ∀ p ∈ s.handed ++ ((condIter clockid abstime (env s.turns)).handed.map
      fun t => (s.turns, t)).toList, HandedBy clockid abstime env p := by
    refine List.forall_mem_append.mpr ⟨hI, fun p hp => ?_⟩
    obtain ⟨t, ht, rfl⟩ : ∃ t, (condIter clockid abstime (env s.turns)).handed = some t ∧
        (s.turns, t) = p := by simpa using hp
    simpa [HandedBy, hne] using ht
  simp only [condTurn]
  cases (condIter clockid abstime (env s.turns)).verdict <;> exact hnew

theorem denotes_iff_of_handed (c : CondVar) (h : HandedBy clockid abstime env p) :
    DenotesDeadline c clockid abstime (env p.1) p.2 ↔ LeadIsLost c clockid abstime (env p.1) := by
  unfold HandedBy at h
  unfold LeadIsLost lostNs
  split at h
  · next hr =>
    subst hr h
    simp only [if_pos]
    refine ⟨fun hd nc now rt hnc hnow hrt => ?_, fun hl nc now hnc hnow => ?_⟩
    · obtain rfl : now = rt := by simpa [hnow] using hrt
      have := hd nc now hnc hnow
      omega
    · have := hl nc now now hnc hnow hnow
      omega
  next hne =>
  obtain ⟨now, rt, hnow, hrt, hexp, hdl⟩ := condIter_handed h
  have hpos : 0 < remainingNs abstime now := by
    simp only [Expired, not_or, not_le] at hexp
    exact hexp.2
  have hrange := (i64_range (abstime.ns - now.val.ns)).2
  rw [remainingNs_eq] at hpos hdl
  have hns := (deadlineRealtime_spec rt.property hpos hrange).2
  rw [← hdl] at hns
  simp only [if_neg hne]
  refine ⟨fun hd nc now' rt' hnc hnow' hrt' => ?_, fun hl nc now' hnc hnow' => ?_⟩
  · obtain rfl : now = now' := by simpa [hnow] using hnow'
    obtain rfl : rt = rt' := by simpa [hrt] using hrt'
    have := hd nc now hnc hnow
    omega
  · obtain rfl : now = now' := by simpa [hnow] using hnow'
    have := hl nc now rt hnc hnow hrt
    omega

theorem handed_deadline_denotes_iff (c : CondVar) (clockid : ClockId) (abstime : Timespec)
    (hv : abstime.Valid) (env : ℕ → CondEnv) (fuel : ℕ) :
    (∀ p ∈ handedOf (pthreadCondClockwait clockid (some abstime) env fuel),
      DenotesDeadline c clockid abstime (env p.1) p.2) ↔
    ∀ p ∈ handedOf (pthreadCondClockwait clockid (some abstime) env fuel),
      LeadIsLost c clockid abstime (env p.1) := by
  refine forall₂_congr fun p hp => ?_
  exact denotes_iff_of_handed c (handedBy_of_mem hv p hp)

def skewed : CondEnv where
  clocks c := if c = CLOCK_REALTIME then .ok ⟨⟨1000, 0⟩, by constructor <;> decide⟩
    else .ok epoch
  timedwait _ := 0

theorem handed_deadline_denotes_iff_second :
    handedOf (pthreadCondClockwait CLOCK_MONOTONIC (some ⟨1, 0⟩) (fun _ => skewed) 1) =
      [(0, ⟨1001, 0⟩)] ∧
    DenotesDeadline ⟨CLOCK_REALTIME⟩ CLOCK_MONOTONIC ⟨1, 0⟩ skewed ⟨1001, 0⟩ := by
  have hall := (handed_deadline_denotes_iff ⟨CLOCK_REALTIME⟩ CLOCK_MONOTONIC ⟨1, 0⟩
    (by constructor <;> decide) (fun _ => skewed) 1).mpr (by
      intro p _ nowCond now realtime hc hnow hr
      obtain rfl : nowCond = realtime := by simpa [hc] using hr
      obtain rfl : epoch = now := by simpa [skewed, CLOCK_MONOTONIC, CLOCK_REALTIME] using hnow
      obtain rfl : _ = nowCond := by simpa [skewed] using hr
      decide)
  exact ⟨rfl, hall (0, ⟨1001, 0⟩) (List.mem_singleton.mpr rfl)⟩

/-- A condition variable on the monotonic clock is handed a real-time deadline, both by the
translation and by the direct call. -/
theorem monotonic_condvar_waits_for_realtime :
    handedOf (pthreadCondClockwait CLOCK_MONOTONIC (some ⟨1, 0⟩) (fun _ => skewed) 1) =
      [(0, ⟨1001, 0⟩)] ∧
    ¬DenotesDeadline ⟨CLOCK_MONOTONIC⟩ CLOCK_MONOTONIC ⟨1, 0⟩ skewed ⟨1001, 0⟩ ∧
    handedOf (pthreadCondClockwait CLOCK_REALTIME (some ⟨1001, 0⟩) (fun _ => skewed) 1) =
      [(0, ⟨1001, 0⟩)] ∧
    ¬DenotesDeadline ⟨CLOCK_MONOTONIC⟩ CLOCK_REALTIME ⟨1001, 0⟩ skewed ⟨1001, 0⟩ := by
  refine ⟨rfl, fun h => ?_, rfl, fun h => ?_⟩
  · exact absurd (h epoch epoch rfl rfl) (by decide)
  · exact absurd (h epoch ⟨⟨1000, 0⟩, by constructor <;> decide⟩ rfl rfl) (by decide)

end ClockWait
