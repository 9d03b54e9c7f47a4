import Mathlib.Data.List.TakeWhile
import Mathlib.Data.UInt
import Mathlib.Tactic.IntervalCases

/-! # Integer conversion

`__intscan` reads a number from a string through a pseudo file, `strtox` turns what it consumed
into an end pointer, and the `strto*` functions and their `__isoc23_` names choose the limit. A
string is its bytes before the terminator; the byte last fetched is the head of a list, or the
terminator when that is empty. -/
namespace IntScan

open List

inductive Errno where
  | EINVAL
  | ERANGE
  deriving DecidableEq, Repr

/-- The 64 bits of the returned value, the offset stored through the end pointer, and the value
`errno` was set to -/
structure Conversion where
  value : BitVec 64
  stop : ℕ
  errno : Option Errno
  deriving DecidableEq

def isspace (c : UInt8) : Bool := c = 32 || (9 ≤ c && c ≤ 13)

def val (c : UInt8) : ℕ :=
  if 48 ≤ c.toNat ∧ c.toNat ≤ 57 then c.toNat - 48
  else if 65 ≤ c.toNat ∧ c.toNat ≤ 90 then c.toNat - 55
  else if 97 ≤ c.toNat ∧ c.toNat ≤ 122 then c.toNat - 87
  else 255

def current (cur : List UInt8) : UInt8 := cur.headD 0

/-- `for (; test; c = shgetc(f)) x = step;` from the byte at hand; the terminator fails every
test. -/
def scanWhile (test : ℕ → UInt8 → Bool) (step : ℕ → UInt8 → ℕ) :
    ℕ → List UInt8 → ℕ × List UInt8
  | x, [] => (x, [])
  | x, c :: rest => if test x c then scanWhile test step (step x c) rest else (x, c :: rest)

def UINT_MAX : ℕ := 2 ^ 32 - 1

def ULLONG_MAX : ℕ := 2 ^ 64 - 1

def scanDecimal (cur : List UInt8) : ℕ × List UInt8 :=
  let (x, cur) := scanWhile (fun x c => val c < 10 && x ≤ UINT_MAX / 10 - 1)
    (fun x c => (x * 10 + val c) % 2 ^ 32) 0 cur
  scanWhile (fun y c => val c < 10 && y ≤ ULLONG_MAX / 10 && 10 * y ≤ ULLONG_MAX - val c)
    (fun y c => (y * 10 + val c) % 2 ^ 64) x cur

section

variable (base : ℕ)

/-- The number of bits of a digit, read from the string at index `(0x17*base)>>5&7`. -/
def digitBits : ℕ := [0, 1, 2, 4, 7, 3, 6, 5].getD ((0x17 * base) >>> 5 &&& 7) 0

def scanShift (cur : List UInt8) : ℕ × List UInt8 :=
  let bs := digitBits base
  let (x, cur) := scanWhile (fun x c => val c < base && x ≤ UINT_MAX / 32)
    (fun x c => (x <<< bs ||| val c) % 2 ^ 32) 0 cur
  scanWhile (fun y c => val c < base && y ≤ ULLONG_MAX >>> bs)
    (fun y c => (y <<< bs ||| val c) % 2 ^ 64) x cur

def scanGeneral (cur : List UInt8) : ℕ × List UInt8 :=
  let (x, cur) := scanWhile (fun x c => val c < base && x ≤ UINT_MAX / 36 - 1)
    (fun x c => (x * base + val c) % 2 ^ 32) 0 cur
  scanWhile (fun y c => val c < base && y ≤ ULLONG_MAX / base && base * y ≤ ULLONG_MAX - val c)
    (fun y c => (y * base + val c) % 2 ^ 64) x cur

def scanDigits (cur : List UInt8) : ℕ × List UInt8 :=
  if base = 10 then scanDecimal cur
  else if base &&& (base - 1) = 0 then scanShift base cur
  else scanGeneral base cur

/-- How far into `s` the byte at hand stands; `shunget` steps back to it. -/
def offset (s cur : List UInt8) : ℕ := s.length - cur.length

/-- The part of `__intscan` before the first digit. It ends the call or hands on the base, the sign
and the bytes from the first digit on. -/
def intscanPrefix (pok : Bool) (s : List UInt8) : Except Conversion (ℕ × Bool × List UInt8) :=
  if 36 < base || base = 1 then .error ⟨0, 0, some .EINVAL⟩
  else
    let cur := s.dropWhile isspace
    let c := current cur
    let neg := c = 45
    let cur := if c = 43 || c = 45 then cur.tail else cur
    if (base = 0 || base = 16) && current cur = 48 then
      let cur := cur.tail
      if current cur ||| 32 = 120 then
        let cur := cur.tail
        if 16 ≤ val (current cur) then
          .error ⟨0, if pok then offset s cur - 1 else 0, none⟩
        else .ok (16, neg, cur)
      else .ok (if base = 0 then 8 else base, neg, cur)
    else
      let base := if base = 0 then 10 else base
      -- nothing was converted, and shlim sets the count back
      if base ≤ val (current cur) then .error ⟨0, 0, some .EINVAL⟩
      else .ok (base, neg, cur)

def applySign (y : ℕ) (neg : Bool) : BitVec 64 :=
  let n : BitVec 64 := if neg then BitVec.allOnes 64 else 0
  (BitVec.ofNat 64 y ^^^ n) - n

def intscanDone (lim y : ℕ) (neg : Bool) (stop : ℕ) (errno : Option Errno) : Conversion :=
  if lim ≤ y then
    if lim % 2 = 0 && !neg then ⟨BitVec.ofNat 64 (lim - 1), stop, some .ERANGE⟩
    else if lim < y then ⟨BitVec.ofNat 64 lim, stop, some .ERANGE⟩
    else ⟨applySign y neg, stop, errno⟩
  else ⟨applySign y neg, stop, errno⟩

def intscan (pok : Bool) (lim : ℕ) (s : List UInt8) : Conversion :=
  match intscanPrefix base pok s with
  | .error r => r
  | .ok (base, neg, cur) =>
    let (y, cur) := scanDigits base cur
    if val (current cur) < base then
      -- more digits than the accumulator holds: they are skipped and the value saturates
      let cur := cur.dropWhile (fun c => val c < base)
      intscanDone lim lim (if lim % 2 = 1 then false else neg) (offset s cur) (some .ERANGE)
    else intscanDone lim y neg (offset s cur) none

end

section

variable (s : List UInt8) (base : ℤ)

/-- The base is an `int` that `__intscan` takes as an `unsigned`. -/
def strtox (lim : ℕ) : Conversion :=
  intscan (base % 2 ^ 32).toNat true lim s

def LONG_MIN : ℕ := 2 ^ 63

def strtoull : Conversion := strtox s base ULLONG_MAX

def strtoll : Conversion := strtox s base LONG_MIN

def strtoul : Conversion := strtox s base ULLONG_MAX

def strtol : Conversion := strtox s base LONG_MIN

def strtoimax : Conversion := strtoll s base

def strtoumax : Conversion := strtoull s base

/-- The value, and whether `perror` is called. The test also sees the `errno` of an earlier call. -/
def strtoul_l (errnoBefore : Option Errno) (s : List UInt8) (base : ℤ) : Conversion × Bool :=
  let result := strtoul s base
  let errno := result.errno.orElse fun _ => errnoBefore
  (result, (result.value = BitVec.ofNat 64 ULLONG_MAX || result.value = 0) && errno = some .ERANGE)

def isoc23_strtol : Conversion := strtol s base

/-- It delegates to `strtol`, not to `strtoul`. -/
def isoc23_strtoul : Conversion := strtol s base

def isoc23_strtoll : Conversion := strtoll s base

def isoc23_strtoull : Conversion := strtoull s base

def isoc23_strtoimax : Conversion := strtoimax s base

def isoc23_strtoumax : Conversion := strtoumax s base

def isoc23_strtoul_l : Conversion := strtoul s base

end

def valueFrom (base v : ℕ) (ds : List UInt8) : ℕ := ds.foldl (fun v c => v * base + val c) v

def isDigit (base : ℕ) (c : UInt8) : Bool := val c < base

theorem valueFrom_append (base v : ℕ) (ds es : List UInt8) :
    valueFrom base v (ds ++ es) = valueFrom base (valueFrom base v ds) es := by
  simp [valueFrom]

variable {base y n : ℕ}

theorem le_valueFrom (hb : 0 < base) (ds : List UInt8) : ∀ v, v ≤ valueFrom base v ds := by
  induction ds with
  | nil => intro v; exact le_rfl
  | cons c ds ih =>
    intro v
    have hv : v ≤ v * base + val c := (Nat.le_mul_of_pos_right v hb).trans (Nat.le_add_right _ _)
    exact hv.trans (ih (v * base + val c))

def Accumulates (base : ℕ) (test : ℕ → UInt8 → Bool) (step : ℕ → UInt8 → ℕ) : Prop :=
  ∀ x c, test x c = true → isDigit base c ∧ step x c = x * base + val c ∧ step x c < 2 ^ 64

structure Run (base v : ℕ) (cur : List UInt8) (y : ℕ) (cur' : List UInt8) : Prop where
  split : ∃ ds, cur = ds ++ cur' ∧ (∀ c ∈ ds, isDigit base c) ∧ y = valueFrom base v ds
  fits : y < 2 ^ 64

theorem Run.trans (h : Run base v cur y cur') (h' : Run base y cur' z cur'') :
    Run base v cur z cur'' := by
  obtain ⟨ds, rfl, hds, rfl⟩ := h.split
  obtain ⟨es, rfl, hes, rfl⟩ := h'.split
  exact ⟨⟨ds ++ es, by simp, forall_mem_append.mpr ⟨hds, hes⟩, by rw [valueFrom_append]⟩, h'.fits⟩

theorem scanWhile_run (hacc : Accumulates base test step) (cur : List UInt8) :
    ∀ x, x < 2 ^ 64 →
      Run base x cur (scanWhile test step x cur).1 (scanWhile test step x cur).2 := by
  induction cur with
  | nil => intro x hx; exact ⟨⟨[], rfl, by simp, rfl⟩, hx⟩
  | cons c rest ih =>
    intro x hx
    by_cases ht : test x c = true
    · obtain ⟨hc, hstep, hlt⟩ := hacc x c ht
      have hone : Run base x (c :: rest) (step x c) rest :=
        ⟨⟨[c], rfl, by simpa using hc, by rw [hstep]; rfl⟩, hlt⟩
      simpa only [scanWhile, ht, if_true] using hone.trans (ih (step x c) hlt)
    · simpa only [scanWhile, ht] using ⟨⟨[], rfl, by simp, rfl⟩, hx⟩

theorem scanWhile_stop (test : ℕ → UInt8 → Bool) (step : ℕ → UInt8 → ℕ) (cur : List UInt8) :
    ∀ x c rest, (scanWhile test step x cur).2 = c :: rest →
      test (scanWhile test step x cur).1 c = false := by
  induction cur with
  | nil => intro x c rest h; simp [scanWhile] at h
  | cons d cur ih =>
    intro x c rest h
    by_cases ht : test x d = true
    · simp only [scanWhile, ht] at h ⊢
      exact ih _ c rest h
    · simp only [scanWhile, ht] at h ⊢
      simp only [Bool.false_eq_true, if_false, cons.injEq] at h
      rw [← h.1]
      simpa using ht

/-- What the digit loops of a base leave behind: a run that ends at no digit, or at a digit for
which the accumulator has no room. -/
structure Scanned (base : ℕ) (cur : List UInt8) (y : ℕ) (cur' : List UInt8) : Prop where
  run : Run base 0 cur y cur'
  full : ∀ c rest, cur' = c :: rest → isDigit base c → 2 ^ 64 ≤ y * base + val c

theorem scanned_of_loops (h1 : Accumulates base test1 step1) (h2 : Accumulates base test2 step2)
    (hfull : ∀ y c, test2 y c = false → isDigit base c → 2 ^ 64 ≤ y * base + val c)
    (cur : List UInt8) :
    Scanned base cur
      (scanWhile test2 step2 (scanWhile test1 step1 0 cur).1 (scanWhile test1 step1 0 cur).2).1
      (scanWhile test2 step2 (scanWhile test1 step1 0 cur).1
        (scanWhile test1 step1 0 cur).2).2 := by
  have hrun1 := scanWhile_run h1 cur 0 (by norm_num)
  have hrun2 := scanWhile_run h2 (scanWhile test1 step1 0 cur).2 _ hrun1.fits
  refine ⟨hrun1.trans hrun2, ?_⟩
  intro c rest hcur hc
  exact hfull _ c (scanWhile_stop test2 step2 _ _ c rest hcur) hc

theorem step_exact (hd : isDigit base d) (hw : w ≤ 64) (heq : c = x * base + val d)
    (hlt : c < 2 ^ w) : isDigit base d ∧ c % 2 ^ w = x * base + val d ∧ c % 2 ^ w < 2 ^ 64 := by
  have hpow : 2 ^ w ≤ 2 ^ 64 := Nat.pow_le_pow_right (by omega) hw
  rw [Nat.mod_eq_of_lt hlt]
  exact ⟨hd, heq, by omega⟩

theorem scanDecimal_scanned (cur : List UInt8) :
    Scanned 10 cur (scanDecimal cur).1 (scanDecimal cur).2 := by
  apply scanned_of_loops
  · intro x c ht
    simp only [Bool.and_eq_true, decide_eq_true_eq] at ht
    simp only [UINT_MAX] at ht
    exact step_exact (by simpa [isDigit] using ht.1) (by omega) rfl (by omega)
  · intro y c ht
    simp only [Bool.and_eq_true, decide_eq_true_eq] at ht
    simp only [ULLONG_MAX] at ht
    exact step_exact (by simpa [isDigit] using ht.1.1) le_rfl rfl (by omega)
  · intro y c ht hc
    simp only [isDigit, decide_eq_true_eq] at hc
    simp only [Bool.and_eq_false_iff, decide_eq_false_iff_not] at ht
    simp only [ULLONG_MAX] at ht
    omega

theorem base_eq_two_pow_digitBits (hlo : 2 ≤ base) (hhi : base ≤ 36)
    (hpow : base &&& (base - 1) = 0) : base = 2 ^ digitBits base ∧ digitBits base ≤ 5 := by
  interval_cases base <;> first | exact absurd hpow (by decide) | decide

theorem shiftLeft_or_eq (hd : d < 2 ^ bs) : x <<< bs ||| d = x * 2 ^ bs + d := by
  rw [Nat.shiftLeft_eq, Nat.mul_comm, Nat.two_pow_add_eq_or_of_lt hd]

theorem shift_room_iff (hbs : bs ≤ 5) (hd : d < 2 ^ bs) :
    y ≤ ULLONG_MAX >>> bs ↔ y * 2 ^ bs + d < 2 ^ 64 := by
  rw [ULLONG_MAX]
  interval_cases bs <;> omega

theorem scanShift_scanned (hlo : 2 ≤ base) (hhi : base ≤ 36) (hpow : base &&& (base - 1) = 0)
    (cur : List UInt8) : Scanned base cur (scanShift base cur).1 (scanShift base cur).2 := by
  obtain ⟨hbase, hbits⟩ := base_eq_two_pow_digitBits hlo hhi hpow
  have hor : ∀ {x : ℕ} {c : UInt8}, val c < base →
      x <<< digitBits base ||| val c = x * base + val c := by
    intro x c hc
    rw [hbase] at hc
    rw [shiftLeft_or_eq hc, ← hbase]
  have hroom : ∀ {y : ℕ} {c : UInt8}, val c < base →
      (y ≤ ULLONG_MAX >>> digitBits base ↔ y * base + val c < 2 ^ 64) := by
    intro y c hc
    rw [hbase] at hc
    rw [shift_room_iff hbits hc, ← hbase]
  apply scanned_of_loops
  · intro x c ht
    simp only [Bool.and_eq_true, decide_eq_true_eq] at ht
    have hbase32 : base ≤ 32 := hbase ▸ Nat.pow_le_pow_right (by omega) hbits
    have hx : x * base ≤ x * 32 := Nat.mul_le_mul_left x hbase32
    have hx' := ht.2
    simp only [UINT_MAX] at hx'
    exact step_exact (by simpa [isDigit] using ht.1) (by omega) (hor ht.1) (by rw [hor ht.1]; omega)
  · intro y c ht
    simp only [Bool.and_eq_true, decide_eq_true_eq] at ht
    have hlt := (hroom ht.1).mp ht.2
    exact step_exact (by simpa [isDigit] using ht.1) le_rfl (hor ht.1) (by rw [hor ht.1]; exact hlt)
  · intro y c ht hc
    simp only [isDigit, decide_eq_true_eq] at hc
    simp only [Bool.and_eq_false_iff, decide_eq_false_iff_not, hroom hc] at ht
    omega

theorem scanGeneral_scanned (hlo : 2 ≤ base) (hhi : base ≤ 36) (cur : List UInt8) :
    Scanned base cur (scanGeneral base cur).1 (scanGeneral base cur).2 := by
  apply scanned_of_loops
  · intro x c ht
    simp only [Bool.and_eq_true, decide_eq_true_eq] at ht
    simp only [UINT_MAX] at ht
    have hx : x * base ≤ x * 36 := Nat.mul_le_mul_left x hhi
    exact step_exact (by simpa [isDigit] using ht.1) (by omega) rfl (by omega)
  · intro y c ht
    simp only [Bool.and_eq_true, decide_eq_true_eq] at ht
    simp only [ULLONG_MAX] at ht
    have hy : y * base = base * y := Nat.mul_comm y base
    exact step_exact (by simpa [isDigit] using ht.1.1) le_rfl rfl (by omega)
  · intro y c ht hc
    simp only [isDigit, decide_eq_true_eq] at hc
    simp only [Bool.and_eq_false_iff, decide_eq_false_iff_not] at ht
    simp only [ULLONG_MAX] at ht
    have hy : y * base = base * y := Nat.mul_comm y base
    have hdiv : ¬ y ≤ (2 ^ 64 - 1) / base → 2 ^ 64 ≤ y * base := by
      intro h
      have := (Nat.div_lt_iff_lt_mul (by omega)).mp (not_le.mp h)
      omega
    omega

theorem scanDigits_scanned (hlo : 2 ≤ base) (hhi : base ≤ 36) (cur : List UInt8) :
    Scanned base cur (scanDigits base cur).1 (scanDigits base cur).2 := by
  unfold scanDigits
  split_ifs with h10 hpow
  · rw [h10]
    exact scanDecimal_scanned cur
  · exact scanShift_scanned hlo hhi hpow cur
  · exact scanGeneral_scanned hlo hhi cur

def magnitude (base : ℕ) (cur : List UInt8) : ℕ := valueFrom base 0 (cur.takeWhile (isDigit base))

theorem Scanned.complete (h : Scanned base cur y cur') (hend : ¬ isDigit base (current cur')) :
    y = magnitude base cur ∧ cur' = cur.dropWhile (isDigit base) := by
  obtain ⟨ds, rfl, hds, rfl⟩ := h.run.split
  cases cur' with
  | nil =>
    have htake : ds.takeWhile (isDigit base) = ds := takeWhile_eq_self_iff.2 hds
    have hdrop : ds.dropWhile (isDigit base) = [] := dropWhile_eq_nil_iff.2 hds
    simp [magnitude, htake, hdrop]
  | cons c rest =>
    have hc : ¬ isDigit base c := hend
    simp [magnitude, takeWhile_append_of_pos hds, dropWhile_append_of_pos hds, hc]

theorem Scanned.overflow (h : Scanned base cur y cur') (hlo : 2 ≤ base) (hhi : base ≤ 36)
    (hend : isDigit base (current cur')) : 2 ^ 64 ≤ magnitude base cur := by
  cases cur' with
  | nil =>
    -- the terminator is no digit
    have : val 0 < base := by simpa [isDigit, current] using hend
    have hzero : val 0 = 255 := by decide
    omega
  | cons c rest =>
    have hfull := h.full c rest rfl hend
    obtain ⟨ds, rfl, hds, rfl⟩ := h.run.split
    have hc : isDigit base c := hend
    have hmag : magnitude base (ds ++ c :: rest) = valueFrom base
        (valueFrom base 0 ds * base + val c) (rest.takeWhile (isDigit base)) := by
      rw [magnitude, takeWhile_append_of_pos hds, takeWhile_cons_of_pos hc, valueFrom_append]
      rfl
    rw [hmag]
    exact hfull.trans (le_valueFrom (by omega) _ _)

theorem intscanPrefix_base (h : intscanPrefix base pok s = .ok (b, neg, cur)) :
    2 ≤ b ∧ b ≤ 36 := by
  unfold intscanPrefix at h
  split at h
  · cases h
  · rename_i hbase
    simp only [Bool.or_eq_true, decide_eq_true_eq] at hbase
    dsimp only at h
    split_ifs at h <;> simp only [Except.ok.injEq, Prod.mk.injEq] at h <;> omega

def denotes (s : List UInt8) (base : ℤ) : Option (Bool × ℕ) :=
  match intscanPrefix (base % 2 ^ 32).toNat true s with
  | .error _ => none
  | .ok (b, neg, cur) => some (neg, magnitude b cur)

theorem strtox_of_denotes_none {base : ℤ} (h : denotes s base = none) (lim lim' : ℕ) :
    strtox s base lim = strtox s base lim' := by
  unfold denotes at h
  unfold strtox intscan
  cases hp : intscanPrefix (base % 2 ^ 32).toNat true s with
  | error r => rfl
  | ok r => simp only [hp, reduceCtorEq] at h

theorem intscan_of_prefix (hp : intscanPrefix base pok s = .ok (b, neg, cur)) :
    intscan base pok lim s =
      if magnitude b cur < 2 ^ 64 then
        intscanDone lim (magnitude b cur) neg (offset s (cur.dropWhile (isDigit b))) none
      else intscanDone lim lim (if lim % 2 = 1 then false else neg)
        (offset s (cur.dropWhile (isDigit b))) (some .ERANGE) := by
  obtain ⟨hlo, hhi⟩ := intscanPrefix_base hp
  have hscan := scanDigits_scanned hlo hhi cur
  by_cases hend : isDigit b (current (scanDigits b cur).2)
  · have hover := hscan.overflow hlo hhi hend
    have hrest : (scanDigits b cur).2.dropWhile (fun c => val c < b) =
        cur.dropWhile (isDigit b) := by
      obtain ⟨ds, hcur, hds, -⟩ := hscan.run.split
      rw [hcur, dropWhile_append_of_pos hds, ← hcur]
      rfl
    rw [if_neg (by omega), ← hrest]
    simp only [intscan, hp]
    rw [if_pos (by simpa [isDigit] using hend)]
  · obtain ⟨hy, hcur⟩ := hscan.complete hend
    have hfits := hscan.run.fits
    rw [if_pos (by omega), ← hy, ← hcur]
    simp only [intscan, hp]
    rw [if_neg (by simpa [isDigit] using hend)]

theorem strtox_of_denotes {base : ℤ} (h : denotes s base = some (neg, n)) :
    ∃ stop, ∀ lim, strtox s base lim =
      if n < 2 ^ 64 then intscanDone lim n neg stop none
      else intscanDone lim lim (if lim % 2 = 1 then false else neg) stop (some .ERANGE) := by
  unfold denotes at h
  cases hp : intscanPrefix (base % 2 ^ 32).toNat true s with
  | error r => simp only [hp, reduceCtorEq] at h
  | ok r =>
    obtain ⟨b, sign, cur⟩ := r
    simp only [hp] at h
    obtain ⟨rfl, rfl⟩ := h
    exact ⟨offset s (cur.dropWhile (isDigit b)), fun lim => intscan_of_prefix hp⟩

theorem applySign_false (y : ℕ) : applySign y false = BitVec.ofNat 64 y := by
  simp [applySign]

theorem applySign_true (y : ℕ) : applySign y true = -BitVec.ofNat 64 y := by
  have hone : BitVec.allOnes 64 = -1#64 := by decide
  rw [applySign, if_pos rfl, BitVec.xor_allOnes, hone, BitVec.sub_neg, BitVec.neg_eq_not_add]

def LongRange (neg : Bool) (n : ℕ) : Prop := n < LONG_MIN ∨ (neg = true ∧ n = LONG_MIN)

instance (neg : Bool) (n : ℕ) : Decidable (LongRange neg n) := inferInstanceAs (Decidable (_ ∨ _))

theorem intscanDone_unsigned (hn : n ≤ ULLONG_MAX) (neg : Bool) (stop : ℕ) (errno : Option Errno) :
    intscanDone ULLONG_MAX n neg stop errno = ⟨applySign n neg, stop, errno⟩ := by
  have hodd : ULLONG_MAX % 2 = 1 := by decide
  simp [intscanDone, hodd, not_lt.mpr hn]

theorem intscanDone_signed (neg : Bool) (n stop : ℕ) (errno : Option Errno) :
    intscanDone LONG_MIN n neg stop errno =
      if LongRange neg n then ⟨applySign n neg, stop, errno⟩
      else ⟨BitVec.ofNat 64 (if neg then LONG_MIN else LONG_MIN - 1), stop, some .ERANGE⟩ := by
  have heven : LONG_MIN % 2 = 0 := by decide
  rcases lt_trichotomy n LONG_MIN with hlt | rfl | hgt
  · simp [intscanDone, LongRange, hlt]
  · cases neg <;> simp [intscanDone, LongRange, heven]
  · have hne : n ≠ LONG_MIN := hgt.ne'
    have hnlt : ¬ n < LONG_MIN := hgt.le.not_gt
    cases neg <;> simp [intscanDone, LongRange, heven, hgt, hne, hnlt]

theorem saturated_differ (neg : Bool) (stop : ℕ) :
    intscanDone LONG_MIN LONG_MIN neg stop (some .ERANGE) ≠
      intscanDone ULLONG_MAX ULLONG_MAX false stop (some .ERANGE) := by
  intro h
  have hvalue := congrArg Conversion.value h
  cases neg
  · have hne : BitVec.ofNat 64 (LONG_MIN - 1) ≠ applySign ULLONG_MAX false := by decide
    exact hne hvalue
  · have hne : applySign LONG_MIN true ≠ applySign ULLONG_MAX false := by decide
    exact hne hvalue

/-- The two limits give one result exactly on the numbers of a `long`. -/
theorem strtol_eq_strtoul_iff {base : ℤ} (h : denotes s base = some (neg, n)) :
    strtol s base = strtoul s base ↔ LongRange neg n := by
  obtain ⟨stop, hx⟩ := strtox_of_denotes h
  rw [strtol, strtoul, hx, hx]
  by_cases hn : n < 2 ^ 64
  · have hle : n ≤ ULLONG_MAX := by simp only [ULLONG_MAX]; omega
    rw [if_pos hn, if_pos hn, intscanDone_unsigned hle, intscanDone_signed]
    by_cases hr : LongRange neg n <;> simp [hr]
  · have hr : ¬ LongRange neg n := by
      simp only [LongRange, LONG_MIN]
      omega
    have heven : ¬ LONG_MIN % 2 = 1 := by decide
    have hodd : ULLONG_MAX % 2 = 1 := by decide
    rw [if_neg hn, if_neg hn, if_pos hodd]
    exact iff_of_false (saturated_differ neg stop) hr

def InLongRange (s : List UInt8) (base : ℤ) : Prop :=
  ∀ neg n, denotes s base = some (neg, n) → LongRange neg n

theorem strtol_agrees_iff (s : List UInt8) (base : ℤ) :
    strtol s base = strtoul s base ↔ InLongRange s base := by
  cases h : denotes s base with
  | none => simp [InLongRange, h, strtol, strtoul, strtox_of_denotes_none h LONG_MIN ULLONG_MAX]
  | some r =>
    rw [strtol_eq_strtoul_iff h]
    constructor
    · intro hr neg n hd
      rw [h, Option.some.injEq] at hd
      rwa [hd] at hr
    · intro hr
      exact hr r.1 r.2 h

/-- Each C23 name agrees with the plain function, except `__isoc23_strtoul`, which agrees exactly on
the numbers that a `long` holds. -/
theorem isoc23_aliases_agree_iff (s : List UInt8) (base : ℤ) :
    isoc23_strtol s base = strtol s base ∧ isoc23_strtoll s base = strtoll s base ∧
      isoc23_strtoull s base = strtoull s base ∧ isoc23_strtoimax s base = strtoimax s base ∧
      isoc23_strtoumax s base = strtoumax s base ∧ isoc23_strtoul_l s base = strtoul s base ∧
      (∀ errno, (strtoul_l errno s base).1 = strtoul s base) ∧
      (isoc23_strtoul s base = strtoul s base ↔ InLongRange s base) :=
  ⟨rfl, rfl, rfl, rfl, rfl, rfl, fun _ => rfl, strtol_agrees_iff s base⟩

def pastLong : List UInt8 :=
  [57, 50, 50, 51, 51, 55, 50, 48, 51, 54, 56, 53, 52, 55, 55, 53, 56, 48, 56]

theorem isoc23_strtoul_saturates :
    strtoul pastLong 10 = ⟨0x8000000000000000, 19, none⟩ ∧
      isoc23_strtoul pastLong 10 = ⟨0x7fffffffffffffff, 19, some .ERANGE⟩ := by
  decide +kernel

end IntScan
