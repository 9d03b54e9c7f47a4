import GcompatMusl.FuelLoop
import GcompatMusl.MaskAlign

/-! # Small wrappers

`close_range`, `pthread_attr_setaffinity_np` and `pvalloc` of `custom.c`. The file defines a
variable `errno` of its own, while a system call that fails stores its code at
`__errno_location()`. -/
namespace CompatWrappers

open FuelLoop MaskAlign List

def EBADF : ℤ := 9

def UINT_MAX : ℕ := 2 ^ 32 - 1

structure Process where
  /-- The variable of the file -/
  errno : ℤ
  /-- What `__errno_location()` points to -/
  location : ℤ
  /-- The descriptors that `close` has been called for -/
  closed : List ℕ

def close (answer : ℕ → Option ℤ) (p : Process) (fd : ℕ) : ℤ × Process :=
  match answer p.closed.length with
  | none => (0, { p with closed := p.closed ++ [fd] })
  | some e => (-1, { p with location := e, closed := p.closed ++ [fd] })

structure Work where
  fd : ℕ
  ret : ℤ
  process : Process

def closeTurn (answer : ℕ → Option ℤ) (fd_end : ℕ) (w : Work) : Turn (ℤ × Process) Work :=
  if w.fd ≤ fd_end then
    let (r, p) := close answer w.process w.fd
    .again ⟨(w.fd + 1) % 2 ^ 32, if r = -1 ∧ p.errno ≠ EBADF then -1 else w.ret, p⟩
  else .ret (w.ret, w.process)

def CloseRange (answer : ℕ → Option ℤ) (p : Process) (fd_start fd_end : ℕ) (ret : ℤ)
    (p' : Process) :
    Prop :=
  Returns (closeTurn answer fd_end) ⟨fd_start, 0, p⟩ (ret, p')

/-- `tid` is what `gettid` returns, and `failure` the code of `sched_setaffinity` if that fails. -/
def pthread_attr_setaffinity_np (p : Process) (tid : ℤ) (failure : Option ℤ) : ℤ × Process :=
  if tid = -1 then (p.errno, p)
  else
    match failure with
    | some e => (p.errno, { p with location := e })
    | none => (0, p)

variable {fd_start fd_end n : ℕ}

def Failed (answer : ℕ → Option ℤ) (n : ℕ) : Prop := ∃ i < n, answer i ≠ none

structure Closing (answer : ℕ → Option ℤ) (fd_start : ℕ) (own : ℤ) (n : ℕ) (w : Work) : Prop where
  fd : w.fd = (fd_start + n) % 2 ^ 32
  errno : w.process.errno = own
  closed : w.process.closed = List.range' fd_start n
  ret : w.ret = 0 ∧ (¬ Failed answer n ∨ own = EBADF) ∨ w.ret = -1 ∧ Failed answer n ∧ own ≠ EBADF

theorem Closing.next (h : Closing answer fd_start own n w) (fd_end : ℕ)
    (hsmall : fd_start + n < 2 ^ 32) (hle : fd_start + n ≤ fd_end) :
    ∃ w', closeTurn answer fd_end w = .again w' ∧ Closing answer fd_start own (n + 1) w' := by
  obtain ⟨hfd, herrno, hclosed, hret⟩ := h
  rw [Nat.mod_eq_of_lt hsmall] at hfd
  have hnumber : w.process.closed.length = n := by
    rw [hclosed, length_range']
  have hclosed' : w.process.closed ++ [w.fd] = range' fd_start (n + 1) := by
    rw [hclosed, hfd, range'_concat, Nat.one_mul]
  have hfailed : Failed answer (n + 1) ↔ Failed answer n ∨ answer n ≠ none := by
    simp only [Failed, Nat.lt_succ_iff_lt_or_eq, or_and_right, exists_or, exists_eq_left]
  rw [closeTurn, if_pos (by omega), close, hnumber]
  cases hanswer : answer n with
  | none =>
    refine ⟨_, rfl, by rw [hfd]; rfl, herrno, hclosed', ?_⟩
    rw [hfailed, hanswer]
    simpa using hret
  | some e =>
    refine ⟨_, rfl, by rw [hfd]; rfl, herrno, hclosed', ?_⟩
    rw [hfailed, hanswer]
    rw [herrno]
    by_cases heq : own = EBADF
    · simpa [heq] using hret
    · simp [heq]

theorem closing_returns (answer : ℕ → Option ℤ) (own location : ℤ) (hle : fd_start ≤ fd_end)
    (hend : fd_end < UINT_MAX) :
    ∃ w, CloseRange answer ⟨own, location, []⟩ fd_start fd_end w.ret w.process ∧
      Closing answer fd_start own (fd_end + 1 - fd_start) w := by
  rw [UINT_MAX] at hend
  have hstart : Closing answer fd_start own 0 ⟨fd_start, 0, ⟨own, location, []⟩⟩ := by
    refine ⟨(Nat.mod_eq_of_lt (show fd_start < 2 ^ 32 by omega)).symm, rfl, rfl,
      .inl ⟨rfl, .inl ?_⟩⟩
    rintro ⟨i, hi, -⟩
    exact Nat.not_lt_zero i hi
  have hlast : ∀ w, Closing answer fd_start own (fd_end + 1 - fd_start) w →
      ∃ r, closeTurn answer fd_end w = .ret r ∧ ∃ w' : Work, r = (w'.ret, w'.process) ∧
        Closing answer fd_start own (fd_end + 1 - fd_start) w' := by
    intro w hw
    have hfd := hw.fd
    exact ⟨_, if_neg (by omega), w, rfl, hw⟩
  obtain ⟨r, hloop, w, rfl, hw⟩ := loop_reaches _ (Closing answer fd_start own) _
    (fun n hn w hw => hw.next fd_end (by omega) (by omega)) hlast _ hstart
  exact ⟨w, ⟨_, hloop⟩, hw⟩

theorem never_returns (hw : w.fd ≤ UINT_MAX) : ¬ Returns (closeTurn answer UINT_MAX) w r := by
  rintro ⟨fuel, hret⟩
  have hrule := loop_rule (closeTurn answer UINT_MAX) (fun w => w.fd ≤ UINT_MAX) (fun _ => False) ?_
    fuel w hw
  · rw [hret] at hrule
    exact hrule
  · intro w hw
    rw [closeTurn, if_pos hw]
    exact Nat.le_of_lt_succ (Nat.mod_lt _ (by decide))

/-- The loop ends, with one `close` for each descriptor of the range, for every bound but
`UINT_MAX`. -/
theorem close_range_ends_iff (answer : ℕ → Option ℤ) (own location : ℤ) (hle : fd_start ≤ fd_end)
    (hend : fd_end ≤ UINT_MAX) :
    (∃ ret p, CloseRange answer ⟨own, location, []⟩ fd_start fd_end ret p ∧
      ∀ fd, p.closed.count fd = if fd_start ≤ fd ∧ fd ≤ fd_end then 1 else 0) ↔
    fd_end ≠ UINT_MAX := by
  refine ⟨?_, fun hne => ?_⟩
  · rintro ⟨ret, p, hreturns, -⟩ rfl
    exact never_returns hle hreturns
  · obtain ⟨w, hw, hclosing⟩ := closing_returns answer own location hle
      (Nat.lt_of_le_of_ne hend hne)
    refine ⟨_, _, hw, fun fd => ?_⟩
    have hmem : fd ∈ range' fd_start (fd_end + 1 - fd_start) ↔ fd_start ≤ fd ∧ fd ≤ fd_end := by
      rw [mem_range'_1]
      omega
    rw [hclosing.closed, Nodup.count nodup_range']
    exact if_congr hmem rfl rfl

theorem close_range_ends_three : (∃ ret p, CloseRange (fun _ => none) ⟨0, 0, []⟩ 3 5 ret p ∧
      ∀ fd, p.closed.count fd = if 3 ≤ fd ∧ fd ≤ 5 then 1 else 0) ↔ 5 ≠ UINT_MAX :=
  close_range_ends_iff _ 0 0 (by decide) (by decide)

theorem close_everything_never_ends :
    ¬ ∃ ret p', CloseRange (fun _ => none) ⟨0, 0, []⟩ 3 UINT_MAX ret p' := by
  rintro ⟨ret, p', h⟩
  exact never_returns (by decide) h

def Benign (answer : ℕ → Option ℤ) (n : ℕ) : Prop := ∀ i < n, ∀ e, answer i = some e → e = EBADF

theorem returns_zero_iff (answer : ℕ → Option ℤ) (own location : ℤ) (hle : fd_start ≤ fd_end)
    (hend : fd_end ≤ UINT_MAX) :
    (∃ p, CloseRange answer ⟨own, location, []⟩ fd_start fd_end 0 p) ↔
      fd_end ≠ UINT_MAX ∧ (¬ Failed answer (fd_end + 1 - fd_start) ∨ own = EBADF) := by
  by_cases hmax : fd_end = UINT_MAX
  · subst hmax
    exact ⟨fun ⟨p, h⟩ => absurd h (never_returns hle), fun h => absurd rfl h.1⟩
  obtain ⟨w, hw, hclosing⟩ := closing_returns answer own location hle (Nat.lt_of_le_of_ne hend hmax)
  refine ⟨fun ⟨p, h⟩ => ⟨hmax, ?_⟩, fun h => ⟨w.process, ?_⟩⟩
  · obtain ⟨fuel, hfuel⟩ := h
    have hsame : (0, p) = (w.ret, w.process) := hw.unique (congrArg Turn.result hfuel)
    rcases hclosing.ret with ⟨-, hcase⟩ | ⟨hret, -⟩
    · exact hcase
    · rw [hret] at hsame
      exact absurd (congrArg Prod.fst hsame) (show (0 : ℤ) ≠ -1 by decide)
  · rcases hclosing.ret with ⟨hret, -⟩ | ⟨-, hfailed, hown⟩
    · rw [← hret]
      exact hw
    · exact absurd h.2 (not_or.mpr ⟨not_not.mpr hfailed, hown⟩)

/-- The variable of the file has to have the code that the calls have stored. -/
theorem wrappers_report_iff (answer : ℕ → Option ℤ) (own location : ℤ) (hle : fd_start ≤ fd_end)
    (hend : fd_end ≤ UINT_MAX) (tid : ℕ) (failure : Option ℤ) :
    (((∃ p, CloseRange answer ⟨own, location, []⟩ fd_start fd_end 0 p) ↔
        Benign answer (fd_end + 1 - fd_start)) ↔
      if fd_end = UINT_MAX then ¬ Benign answer (fd_end + 1 - fd_start)
      else if own = EBADF then Benign answer (fd_end + 1 - fd_start)
      else Benign answer (fd_end + 1 - fd_start) → ¬ Failed answer (fd_end + 1 - fd_start)) ∧
    let ret := (pthread_attr_setaffinity_np ⟨own, location, []⟩ tid failure).1
    ((ret = 0 ↔ failure = none) ∧ (∀ e, failure = some e → ret = e) ↔
      ∀ e, failure = some e → e = own ∧ e ≠ 0) := by
  refine ⟨?_, ?_⟩
  · rw [returns_zero_iff answer own location hle hend]
    have hnone : ¬ Failed answer (fd_end + 1 - fd_start) →
        Benign answer (fd_end + 1 - fd_start) := by
      intro h i hi e he
      exact absurd ⟨i, hi, by rw [he]; exact Option.some_ne_none e⟩ h
    split_ifs with hmax hown
    · simp [hmax]
    · simp [hmax, hown]
    · simp only [ne_eq, hmax, not_false_eq_true, hown, or_false, true_and]
      exact ⟨fun h => h.mpr, fun h => ⟨hnone, h⟩⟩
  · have htid : (tid : ℤ) ≠ -1 := by omega
    cases failure with
    | none => simp [pthread_attr_setaffinity_np, htid]
    | some e =>
      simp only [Option.some.injEq, forall_eq',
        reduceCtorEq, iff_false]
      exact ⟨fun h => ⟨h.2.symm, h.2 ▸ h.1⟩, fun h => ⟨h.1 ▸ h.2, h.1.symm⟩⟩

def secondClosed (i : ℕ) : Option ℤ := if i = 1 then some EBADF else none

/-- The second of three descriptors is not open, and the variable of the file is `EBADF`. -/
theorem wrappers_report_closed :
    (∃ p, CloseRange secondClosed ⟨EBADF, 0, []⟩ 3 5 0 p) ∧
      (pthread_attr_setaffinity_np ⟨EBADF, 0, []⟩ 1 (some EBADF)).1 = EBADF := by
  obtain ⟨hclose, haffinity⟩ := wrappers_report_iff secondClosed EBADF 0
    (show 3 ≤ 5 by decide) (by decide) 1 (some EBADF)
  have hbenign : Benign secondClosed (5 + 1 - 3) := by
    intro i _ e he
    unfold secondClosed at he
    split_ifs at he
    exact (Option.some.inj he).symm
  constructor
  · exact (hclose.mpr (by rw [if_neg (by decide), if_pos rfl]; exact hbenign)).mpr hbenign
  · refine (haffinity.mpr fun e he => ?_).2 EBADF rfl
    cases he
    decide

/-- A descriptor that is not open makes `close_range` return -1, and a failure of
`sched_setaffinity` is returned as success. -/
theorem wrappers_misreport : (∃ p, CloseRange (fun _ => some EBADF) ⟨0, 0, []⟩ 3 3 (-1) p) ∧
      (pthread_attr_setaffinity_np ⟨0, 0, []⟩ 1 (some 22)).1 = 0 :=
  ⟨⟨_, 2, rfl⟩, rfl⟩

structure Allocated where
  address : ℕ
  usable : ℕ
  deriving DecidableEq

def pvalloc (malloc : ℕ → Option Allocated) (page_size size : ℕ) : Option Allocated :=
  malloc ((size + page_size - 1) % 2 ^ 64 &&& negWord page_size)

/-- What is assumed of `malloc` -/
def LawfulMalloc (malloc : ℕ → Option Allocated) : Prop :=
  ∀ n b, malloc n = some b → 16 ∣ b.address ∧ n ≤ b.usable ∧ b.address + b.usable ≤ 2 ^ 64

def roundedUp (n a : ℕ) : ℕ := (n + a - 1) / a * a

/-- What is expected of `pvalloc`, whichever `malloc` it is linked with -/
def PageBlocks (page_size size : ℕ) : Prop :=
  ∀ malloc, LawfulMalloc malloc → ∀ b, pvalloc malloc page_size size = some b →
    roundedUp size page_size ≤ b.usable ∧ page_size ∣ b.address

def low16 (n : ℕ) : Option Allocated := if 16 + n ≤ 2 ^ 64 then some ⟨16, n⟩ else none

theorem lawful_low16 : LawfulMalloc low16 := by
  intro n b hb
  unfold low16 at hb
  split_ifs at hb with hfits
  cases hb
  exact ⟨Nat.dvd_refl 16, Nat.le_refl n, hfits⟩

theorem pvalloc_eq (hk : k < 64) (malloc : ℕ → Option Allocated) :
    pvalloc malloc (2 ^ k) size = malloc (roundedUp size (2 ^ k) % 2 ^ 64) := by
  rw [pvalloc, negWord_two_pow hk, roundedUp]
  generalize size + 2 ^ k - 1 = x
  have hlow := mod_word_mod hk x
  have hle : x % 2 ^ k ≤ x % 2 ^ 64 := hlow ▸ Nat.mod_le (x % 2 ^ 64) (2 ^ k)
  have hpage := Nat.div_add_mod' x (2 ^ k)
  have hmod := Nat.mod_lt x (show 2 ^ 64 > 0 by decide)
  have hsplit : x / 2 ^ k * 2 ^ k = 2 ^ 64 * (x / 2 ^ 64) + (x % 2 ^ 64 - x % 2 ^ k) := by omega
  rw [and_high hk hmod, hlow, hsplit, Nat.mul_add_mod]
  congr 1
  exact (Nat.mod_eq_of_lt (by omega)).symm

theorem pvalloc_right_iff (hk : k < 64) (hsize : size < 2 ^ 64) :
    PageBlocks (2 ^ k) size ↔ k ≤ 4 ∧ roundedUp size (2 ^ k) < 2 ^ 64 := by
  have hdvd : 2 ^ k ∣ roundedUp size (2 ^ k) % 2 ^ 64 :=
    (Nat.dvd_mod_iff (Nat.pow_dvd_pow 2 hk.le)).mpr (Nat.dvd_mul_left ..)
  constructor
  · intro h
    have hblock := h low16 lawful_low16
    rw [pvalloc_eq hk, low16] at hblock
    constructor
    · by_contra hlarge
      have h32 : 32 ∣ roundedUp size (2 ^ k) % 2 ^ 64 :=
        (Nat.pow_dvd_pow 2 (show 5 ≤ k by omega)).trans hdvd
      rw [if_pos (by omega)] at hblock
      have h16 : 32 ∣ 16 := (Nat.pow_dvd_pow 2 (show 5 ≤ k by omega)).trans (hblock _ rfl).2
      omega
    · by_contra hwraps
      have hupper : roundedUp size (2 ^ k) < 2 ^ 64 + 2 ^ k := by
        have := Nat.div_mul_le_self (size + 2 ^ k - 1) (2 ^ k)
        unfold roundedUp
        omega
      have hzero : roundedUp size (2 ^ k) % 2 ^ 64 = 0 := by
        apply Nat.eq_zero_of_dvd_of_lt hdvd
        omega
      rw [hzero] at hblock
      have hle := (hblock _ rfl).1
      dsimp only at hle
      omega
  · rintro ⟨hsmall, hfits⟩ malloc hmalloc b hb
    rw [pvalloc_eq hk, Nat.mod_eq_of_lt hfits] at hb
    obtain ⟨halign, hroom, -⟩ := hmalloc _ b hb
    exact ⟨hroom, (Nat.pow_dvd_pow 2 hsmall).trans halign⟩

theorem pvalloc_right_small : PageBlocks (2 ^ 4) 100 :=
  (pvalloc_right_iff (by decide) (by decide)).mpr (by decide)

theorem pvalloc_misaligned : LawfulMalloc low16 ∧ pvalloc low16 4096 1 = some ⟨16, 4096⟩ ∧
    ¬ 4096 ∣ 16 :=
  ⟨lawful_low16, by decide, by decide⟩

end CompatWrappers
