import GcompatMusl.IntScan
import GcompatMusl.MuslString

/-! # Integer conversion from memory

`strtox` sets up a pseudo file over a string, and `__intscan` reads it with `shgetc` and steps back
with `shunget`. A read behind the byte `last` is `none`. -/
namespace Strto

open FlatMemory IntScan MuslString List Option

structure ShFile where
  buf : ℕ
  rpos : ℕ
  rend : ℕ
  shend : ℕ
  shlim : ℤ
  shcnt : ℤ

structure View where
  mem : ByteMem
  last : ℕ

/-- The fields that it leaves as they were are set by `__shlim`. -/
def sh_fromstring (s : ℕ) : ShFile := ⟨s, s, 2 ^ 64 - 1, 0, 0, 0⟩

def shlim (f : ShFile) (lim : ℤ) : ShFile :=
  { f with
    shlim := lim
    shcnt := f.buf - f.rpos
    shend := if lim ≠ 0 ∧ (f.rend : ℤ) - f.rpos > lim then f.rpos + lim.toNat else f.rend }

def shcnt (f : ShFile) : ℤ := f.shcnt + (f.rpos - f.buf)

/-- A string has no end at which `__shgetc` would be called. -/
def shgetc (v : View) (f : ShFile) : Option (UInt8 × ShFile) :=
  if f.rpos ≠ f.shend ∧ f.rpos ≤ v.last then
    some (v.mem f.rpos, { f with rpos := f.rpos + 1 })
  else none

def shunget (f : ShFile) : ShFile := if f.shlim ≥ 0 then { f with rpos := f.rpos - 1 } else f

def scanLoop (v : View) (test : ℕ → UInt8 → Bool) (step : ℕ → UInt8 → ℕ) :
    ℕ → ℕ → UInt8 → ShFile → Option (ℕ × UInt8 × ShFile)
  | 0, _, _, _ => none
  | turns + 1, x, c, f =>
    if test x c then do
      let (c', f) ← shgetc v f
      scanLoop v test step turns (step x c) c' f
    else some (x, c, f)

def scan (v : View) (test : ℕ → UInt8 → Bool) (step : ℕ → UInt8 → ℕ) (x : ℕ) (c : UInt8)
    (f : ShFile) : Option (ℕ × UInt8 × ShFile) :=
  scanLoop v test step (v.last + 2 - f.rpos + 1) x c f

def basePrefix (v : View) (base : ℕ) (pok : Bool) (c : UInt8) (f : ShFile) :
    Option (Except (Option Errno × ShFile) (ℕ × UInt8 × ShFile)) :=
  if (base = 0 || base = 16) && c = 48 then do
    let (c, f) ← shgetc v f
    if c ||| 32 = 120 then
      let (c, f) ← shgetc v f
      if 16 ≤ val c then
        let f := shunget f
        some (.error (none, if pok then shunget f else shlim f 0))
      else some (.ok (16, c, f))
    else some (.ok (if base = 0 then 8 else base, c, f))
  else
    let base := if base = 0 then 10 else base
    if base ≤ val c then some (.error (some .EINVAL, shlim (shunget f) 0))
    else some (.ok (base, c, f))

def scanTwice (v : View) (test₁ test₂ : ℕ → UInt8 → Bool) (step₁ step₂ : ℕ → UInt8 → ℕ) (c : UInt8)
    (f : ShFile) : Option (ℕ × UInt8 × ShFile) := do
  let (x, c, f) ← scan v test₁ step₁ 0 c f
  scan v test₂ step₂ x c f

def digits (v : View) (base : ℕ) (c : UInt8) (f : ShFile) : Option (ℕ × UInt8 × ShFile) :=
  if base = 10 then
    scanTwice v (fun x c => val c < 10 && x ≤ UINT_MAX / 10 - 1)
      (fun y c => val c < 10 && y ≤ ULLONG_MAX / 10 && 10 * y ≤ ULLONG_MAX - val c)
      (fun x c => (x * 10 + val c) % 2 ^ 32) (fun y c => (y * 10 + val c) % 2 ^ 64) c f
  else if base &&& (base - 1) = 0 then
    scanTwice v (fun x c => val c < base && x ≤ UINT_MAX / 32)
      (fun y c => val c < base && y ≤ ULLONG_MAX >>> digitBits base)
      (fun x c => (x <<< digitBits base ||| val c) % 2 ^ 32)
      (fun y c => (y <<< digitBits base ||| val c) % 2 ^ 64) c f
  else
    scanTwice v (fun x c => val c < base && x ≤ UINT_MAX / 36 - 1)
      (fun y c => val c < base && y ≤ ULLONG_MAX / base && base * y ≤ ULLONG_MAX - val c)
      (fun x c => (x * base + val c) % 2 ^ 32) (fun y c => (y * base + val c) % 2 ^ 64) c f

def intscanDigits (v : View) (base lim : ℕ) (neg : Bool) (c : UInt8) (f : ShFile) :
    Option Conversion := do
  let (y, c, f) ← digits v base c f
  if val c < base then
    let (_, _, f) ← scan v (fun _ c => val c < base) (fun x _ => x) 0 c f
    some (intscanDone lim lim (if lim % 2 = 1 then false else neg) (shcnt (shunget f)).toNat
      (some .ERANGE))
  else some (intscanDone lim y neg (shcnt (shunget f)).toNat none)

def finish (v : View) (lim : ℕ) (neg : Bool) :
    Except (Option Errno × ShFile) (ℕ × UInt8 × ShFile) → Option Conversion
  | .error (errno, f) => some ⟨0, (shcnt f).toNat, errno⟩
  | .ok (base, c, f) => intscanDigits v base lim neg c f

/-- The value, the count `shcnt(f)` and what `errno` is set to -/
def intscan (v : View) (base : ℕ) (pok : Bool) (lim : ℕ) (f : ShFile) : Option Conversion :=
  if 36 < base || base = 1 then some ⟨0, (shcnt f).toNat, some .EINVAL⟩
  else do
    let (c, f) ← shgetc v f
    let (_, c, f) ← scan v (fun _ c => isspace c) (fun x _ => x) 0 c f
    let neg := c = 45
    let (c, f) ← if c = 43 || c = 45 then shgetc v f else some (c, f)
    let r ← basePrefix v base pok c f
    finish v lim neg r

section

variable (v : View) (s : ℕ) (base : ℤ)

/-- The end pointer is `s` and what has been counted. -/
def strtox (lim : ℕ) : Option Conversion :=
  intscan v (base % 2 ^ 32).toNat true lim (shlim (sh_fromstring s) 0)

def strtoull : Option Conversion := strtox v s base ULLONG_MAX

def strtoll : Option Conversion := strtox v s base LONG_MIN

def strtoul : Option Conversion := strtox v s base ULLONG_MAX

def strtol : Option Conversion := strtox v s base LONG_MIN

end

def fileAt (s p : ℕ) : ShFile := ⟨s, p, 2 ^ 64 - 1, 2 ^ 64 - 1, 0, 0⟩

section Reading

variable {mem : ByteMem} {s n : ℕ} (hs : StringAt mem s n) (hend : s + n < 2 ^ 64 - 1)

variable {k base : ℕ}

theorem current_drop (hs : StringAt mem s n) (hk : k ≤ n) :
    current ((readList mem s n).drop k) = mem (s + k) := by
  rcases Nat.lt_or_eq_of_le hk with hlt | rfl
  · rw [current, headD_eq_head?_getD, head?_drop, readList, getElem?_map, getElem?_range hlt]
    rfl
  · rw [drop_eq_nil_of_le (by rw [readList_length])]
    exact hs.terminator.symm

theorem offset_drop (hk : k ≤ n) : offset (readList mem s n) ((readList mem s n).drop k) = k := by
  rw [offset, length_drop, readList_length]
  omega

theorem lt_of_byte (hs : StringAt mem s n) (hk : k ≤ n) (h : mem (s + k) ≠ 0) : k < n := by
  rcases Nat.lt_or_eq_of_le hk with hlt | rfl
  · exact hlt
  · exact absurd hs.terminator h

include hend in
theorem shgetc_fileAt (hk : k ≤ n) :
    shgetc ⟨mem, s + n⟩ (fileAt s (s + k)) = some (mem (s + k), fileAt s (s + k + 1)) := by
  rw [shgetc, if_pos]
  · rfl
  · refine ⟨?_, ?_⟩
    · change s + k ≠ 2 ^ 64 - 1
      omega
    · change s + k ≤ s + n
      omega

include hs hend in
/-- A loop reads what the loop over the bytes of the string does, if it stops at the terminator. -/
theorem scanLoop_eq (htest : ∀ x, test x 0 = false) (turns : ℕ) : ∀ x k, k ≤ n → n - k < turns →
    ∃ k', k ≤ k' ∧ k' ≤ n ∧
      scanWhile test step x ((readList mem s n).drop k) =
        ((scanWhile test step x ((readList mem s n).drop k)).1, (readList mem s n).drop k') ∧
      scanLoop ⟨mem, s + n⟩ test step turns x (mem (s + k)) (fileAt s (s + k + 1)) =
        some ((scanWhile test step x ((readList mem s n).drop k)).1, mem (s + k'),
          fileAt s (s + k' + 1)) := by
  induction turns with
  | zero => exact fun x k _ hlt => absurd hlt (Nat.not_lt_zero _)
  | succ turns ih =>
    intro x k hk hlt
    rw [scanLoop]
    by_cases ht : test x (mem (s + k)) = true
    · have hklt : k < n := by
        refine lt_of_byte hs hk fun hzero => ?_
        rw [hzero, htest] at ht
        cases ht
      have hcons : (readList mem s n).drop k = mem (s + k) :: (readList mem s n).drop (k + 1) := by
        rw [drop_eq_getElem_cons (by rw [readList_length]; exact hklt)]
        simp only [readList, getElem_map, getElem_range]
      obtain ⟨k', hle, hk', hwhile, hloop⟩ := ih (step x (mem (s + k))) (k + 1) hklt (by omega)
      have hstep : scanWhile test step x ((readList mem s n).drop k) =
          scanWhile test step (step x (mem (s + k))) ((readList mem s n).drop (k + 1)) := by
        rw [hcons, scanWhile, if_pos ht]
      refine ⟨k', by omega, hk', by rw [hstep]; exact hwhile, ?_⟩
      rw [if_pos ht, Nat.add_assoc s k 1, shgetc_fileAt hend hklt, hstep]
      exact hloop
    · have hstop : scanWhile test step x ((readList mem s n).drop k) =
          (x, (readList mem s n).drop k) := by
        cases hdrop : (readList mem s n).drop k with
        | nil => rfl
        | cons c rest =>
          have hc := current_drop hs hk
          rw [hdrop] at hc
          have hc : c = mem (s + k) := hc
          rw [scanWhile, hc, if_neg ht]
      refine ⟨k, le_refl k, hk, by rw [hstop], ?_⟩
      rw [if_neg ht, hstop]

include hs hend in
theorem scan_eq (test : ℕ → UInt8 → Bool) (step : ℕ → UInt8 → ℕ) (htest : ∀ x, test x 0 = false)
    (x : ℕ) (hk : k ≤ n) :
    ∃ y k', k' ≤ n ∧
      scanWhile test step x ((readList mem s n).drop k) = (y, (readList mem s n).drop k') ∧
      scan ⟨mem, s + n⟩ test step x (mem (s + k)) (fileAt s (s + k + 1)) =
        some (y, mem (s + k'), fileAt s (s + k' + 1)) := by
  obtain ⟨k', -, hk', hwhile, hloop⟩ := scanLoop_eq hs hend htest
    (s + n + 2 - (s + k + 1) + 1) x k hk (by omega)
  exact ⟨_, k', hk', hwhile, hloop⟩

include hs hend in
theorem scanTwice_eq (step₁ step₂ : ℕ → UInt8 → ℕ) (h1 : ∀ x, test₁ x 0 = false)
    (h2 : ∀ x, test₂ x 0 = false) (hk : k ≤ n) :
    ∃ y k', k' ≤ n ∧
      scanWhile test₂ step₂ (scanWhile test₁ step₁ 0 ((readList mem s n).drop k)).1
        (scanWhile test₁ step₁ 0 ((readList mem s n).drop k)).2 = (y, (readList mem s n).drop k') ∧
      scanTwice ⟨mem, s + n⟩ test₁ test₂ step₁ step₂ (mem (s + k)) (fileAt s (s + k + 1)) =
        some (y, mem (s + k'), fileAt s (s + k' + 1)) := by
  obtain ⟨x, k1, hk1, hwhile1, hscan1⟩ := scan_eq hs hend _ step₁ h1 0 hk
  obtain ⟨y, k2, hk2, hwhile2, hscan2⟩ := scan_eq hs hend _ step₂ h2 x hk1
  refine ⟨y, k2, hk2, by rw [hwhile1]; exact hwhile2, ?_⟩
  rw [scanTwice, hscan1]
  exact hscan2

theorem val_zero_ge (h : base ≤ 36) : ¬ val 0 < base := by
  have hzero : val 0 = 255 := by decide
  omega

include hs hend in
theorem digits_eq (hbase : base ≤ 36) (hk : k ≤ n) :
    ∃ y k', k' ≤ n ∧
      scanDigits base ((readList mem s n).drop k) = (y, (readList mem s n).drop k') ∧
      digits ⟨mem, s + n⟩ base (mem (s + k)) (fileAt s (s + k + 1)) =
        some (y, mem (s + k'), fileAt s (s + k' + 1)) := by
  have hzero := val_zero_ge hbase
  have hten := val_zero_ge (show 10 ≤ 36 by decide)
  rw [digits, scanDigits]
  split_ifs
  · exact scanTwice_eq hs hend _ _ (fun x => by simp [hten]) (fun x => by simp [hten]) hk
  · exact scanTwice_eq hs hend _ _ (fun x => by simp [hzero]) (fun x => by simp [hzero]) hk
  · exact scanTwice_eq hs hend _ _ (fun x => by simp [hzero]) (fun x => by simp [hzero]) hk

theorem scanWhile_skip (p : UInt8 → Bool) (x : ℕ) (cur : List UInt8) :
    scanWhile (fun _ c => p c) (fun x _ => x) x cur = (x, cur.dropWhile p) := by
  induction cur with
  | nil => rfl
  | cons c cur ih =>
    rw [scanWhile, dropWhile_cons]
    split_ifs
    · exact ih
    · rfl

theorem shcnt_shunget (s k : ℕ) : shcnt (shunget (fileAt s (s + k + 1))) = k := by
  change (0 : ℤ) + (((s + k + 1 - 1 : ℕ) : ℤ) - s) = k
  omega

theorem shunget_fileAt (s p : ℕ) : shunget (fileAt s (p + 1)) = fileAt s p :=
  if_pos (show (fileAt s (p + 1)).shlim ≥ 0 from le_refl 0)

theorem shcnt_shlim (f : ShFile) (lim : ℤ) : shcnt (shlim f lim) = 0 := by
  change (f.buf : ℤ) - f.rpos + (f.rpos - f.buf) = 0
  omega

include hs hend in
theorem intscanDigits_eq (hbase : base ≤ 36) (lim : ℕ) (neg : Bool) (hk : k ≤ n) :
    intscanDigits ⟨mem, s + n⟩ base lim neg (mem (s + k)) (fileAt s (s + k + 1)) =
      some (if val (current (scanDigits base ((readList mem s n).drop k)).2) < base then
          intscanDone lim lim (if lim % 2 = 1 then false else neg)
            (offset (readList mem s n) ((scanDigits base ((readList mem s n).drop k)).2.dropWhile
              fun c => val c < base)) (some .ERANGE)
        else intscanDone lim (scanDigits base ((readList mem s n).drop k)).1 neg
          (offset (readList mem s n) (scanDigits base ((readList mem s n).drop k)).2) none) := by
  obtain ⟨y, k1, hk1, hlist, hdigits⟩ := digits_eq hs hend hbase hk
  rw [intscanDigits, hdigits, hlist]
  simp only [bind_eq_bind, bind_some]
  rw [current_drop hs hk1]
  by_cases hmore : val (mem (s + k1)) < base
  · obtain ⟨x, k2, hk2, hwhile, hscan⟩ := scan_eq hs hend (fun _ c => val c < base)
      (fun x _ => x) (fun x => decide_eq_false (val_zero_ge hbase)) 0 hk1
    rw [scanWhile_skip fun c => decide (val c < base)] at hwhile
    obtain ⟨-, hdrop⟩ := Prod.mk.inj hwhile
    rw [if_pos hmore, if_pos hmore, hscan, hdrop, offset_drop hk2]
    simp only [bind_some, shcnt_shunget, Int.toNat_natCast]
  · rw [if_neg hmore, if_neg hmore, offset_drop hk1, shcnt_shunget, Int.toNat_natCast]

def prefixAt (base : ℕ) (pok neg : Bool) (str cur : List UInt8) :
    Except Conversion (ℕ × Bool × List UInt8) :=
  if (base = 0 || base = 16) && current cur = 48 then
    if current cur.tail ||| 32 = 120 then
      if 16 ≤ val (current cur.tail.tail) then
        .error ⟨0, if pok then offset str cur.tail.tail - 1 else 0, none⟩
      else .ok (16, neg, cur.tail.tail)
    else .ok (if base = 0 then 8 else base, neg, cur.tail)
  else if (if base = 0 then 10 else base) ≤ val (current cur) then .error ⟨0, 0, some .EINVAL⟩
  else .ok (if base = 0 then 10 else base, neg, cur)

theorem intscanPrefix_eq (hbase : ¬ (36 < base || base = 1) = true) (pok : Bool)
    (str : List UInt8) :
    intscanPrefix base pok str =
      prefixAt base pok (current (str.dropWhile isspace) = 45) str
        (if current (str.dropWhile isspace) = 43 || current (str.dropWhile isspace) = 45 then
          (str.dropWhile isspace).tail else str.dropWhile isspace) :=
  if_neg hbase

def finishList (lim : ℕ) (str : List UInt8) :
    Except Conversion (ℕ × Bool × List UInt8) → Conversion
  | .error r => r
  | .ok (base, neg, cur) =>
    if val (current (scanDigits base cur).2) < base then
      intscanDone lim lim (if lim % 2 = 1 then false else neg)
        (offset str ((scanDigits base cur).2.dropWhile fun c => val c < base)) (some .ERANGE)
    else intscanDone lim (scanDigits base cur).1 neg (offset str (scanDigits base cur).2) none

theorem intscan_list_eq (base : ℕ) (pok : Bool) (lim : ℕ) (str : List UInt8) :
    IntScan.intscan base pok lim str = finishList lim str (intscanPrefix base pok str) := by
  rw [IntScan.intscan]
  cases intscanPrefix base pok str <;> rfl

include hs hend in
theorem basePrefix_eq (hbase : base ≤ 36) (lim : ℕ) (neg : Bool) (hk : k ≤ n) :
    (basePrefix ⟨mem, s + n⟩ base true (mem (s + k)) (fileAt s (s + k + 1))).bind
        (finish ⟨mem, s + n⟩ lim neg) =
      some (finishList lim (readList mem s n)
        (prefixAt base true neg (readList mem s n) ((readList mem s n).drop k))) := by
  rw [basePrefix, prefixAt, current_drop hs hk]
  by_cases hzero : ((base = 0 || base = 16) && mem (s + k) = 48) = true
  · rw [if_pos hzero, if_pos hzero]
    have hbyte : mem (s + k) ≠ 0 := by
      rw [Bool.and_eq_true, decide_eq_true_eq] at hzero
      rw [hzero.2]
      decide
    have hklt := lt_of_byte hs hk hbyte
    rw [Nat.add_assoc s k 1, shgetc_fileAt hend hklt, tail_drop, current_drop hs hklt]
    simp only [bind_eq_bind, bind_some]
    by_cases hx : mem (s + (k + 1)) ||| 32 = 120
    · rw [if_pos hx, if_pos hx]
      have hbyte' : mem (s + (k + 1)) ≠ 0 := by
        intro h
        rw [h] at hx
        exact absurd hx (by decide)
      have hklt' := lt_of_byte hs hklt hbyte'
      rw [Nat.add_assoc s (k + 1) 1, shgetc_fileAt hend hklt', tail_drop, current_drop hs hklt']
      simp only [bind_some]
      by_cases hhex : 16 ≤ val (mem (s + (k + 1 + 1)))
      · rw [if_pos hhex, if_pos hhex, if_pos trivial, if_pos trivial, offset_drop hklt', bind_some,
          finish, shunget_fileAt, ← Nat.add_assoc s (k + 1) 1, shcnt_shunget]
        rfl
      · rw [if_neg hhex, if_neg hhex, bind_some]
        exact intscanDigits_eq hs hend (by decide) lim neg hklt'
    · rw [if_neg hx, if_neg hx, bind_some]
      exact intscanDigits_eq hs hend (by split_ifs <;> omega) lim neg hklt
  · rw [if_neg hzero, if_neg hzero]
    dsimp only
    have hten : (if base = 0 then 10 else base) ≤ 36 := by split_ifs <;> omega
    by_cases hdigit : (if base = 0 then 10 else base) ≤ val (mem (s + k))
    · rw [if_pos hdigit, if_pos hdigit, bind_some, finish, shcnt_shlim]
      rfl
    · rw [if_neg hdigit, if_neg hdigit, bind_some]
      exact intscanDigits_eq hs hend hten lim neg hk

include hs hend in
theorem intscan_eq (base lim : ℕ) : intscan ⟨mem, s + n⟩ base true lim (fileAt s s) =
    some (IntScan.intscan base true lim (readList mem s n)) := by
  rw [intscan, intscan_list_eq]
  by_cases hbase : (36 < base || base = 1) = true
  · rw [if_pos hbase, intscanPrefix, if_pos hbase]
    rw [shcnt]
    change some (Conversion.mk 0 ((0 : ℤ) + ((s : ℤ) - s)).toNat _) = _
    rw [sub_self]
    rfl
  · rw [if_neg hbase, intscanPrefix_eq hbase]
    have hle : base ≤ 36 := by
      rw [Bool.or_eq_true, decide_eq_true_eq] at hbase
      omega
    have hfirst : shgetc ⟨mem, s + n⟩ (fileAt s (s + 0)) =
        some (mem (s + 0), fileAt s (s + 0 + 1)) :=
      shgetc_fileAt hend (Nat.zero_le n)
    rw [Nat.add_zero] at hfirst
    obtain ⟨x, k, hk, hwhile, hscan⟩ := scan_eq hs hend (fun _ c => isspace c) (fun x _ => x)
      (fun _ => rfl) 0 (Nat.zero_le n)
    rw [scanWhile_skip, drop_zero] at hwhile
    obtain ⟨-, hdrop⟩ := Prod.mk.inj hwhile
    rw [Nat.add_zero] at hscan
    rw [hfirst]
    simp only [bind_eq_bind, bind_some]
    rw [hscan]
    simp only [bind_some]
    rw [hdrop, current_drop hs hk]
    by_cases hsign : (mem (s + k) = 43 || mem (s + k) = 45) = true
    · have hklt : k < n := by
        refine lt_of_byte hs hk fun hzero => ?_
        rw [hzero] at hsign
        exact absurd hsign (by decide)
      rw [if_pos hsign, if_pos hsign, Nat.add_assoc s k 1, shgetc_fileAt hend hklt, tail_drop]
      exact basePrefix_eq hs hend hle lim _ hklt
    · rw [if_neg hsign, if_neg hsign]
      exact basePrefix_eq hs hend hle lim _ hk

include hs hend in
theorem strtox_eq (base : ℤ) (lim : ℕ) :
    strtox ⟨mem, s + n⟩ s base lim = some (IntScan.strtox (readList mem s n) base lim) := by
  have hfile : shlim (sh_fromstring s) 0 = fileAt s s := by
    rw [shlim, if_neg (fun h => h.1 rfl)]
    change ShFile.mk s s _ _ 0 ((s : ℤ) - s) = _
    rw [sub_self]
    rfl
  rw [strtox, hfile, intscan_eq hs hend]
  rfl

end Reading

end Strto
