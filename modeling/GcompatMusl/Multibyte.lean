import GcompatMusl.FuelLoop
import GcompatMusl.LimitedConversion
import GcompatMusl.MuslString

/-! # Multibyte and wide strings

musl's `mbsrtowcs`, `mbstowcs`, `wcrtomb` and `wcsrtombs`. Source strings are memories read
at an address; what is written through the destination pointer is the list of units in the
order of their addresses. `utf8` is `MB_CUR_MAX != 1`. -/
namespace Multibyte

open FuelLoop LimitedConversion MuslString BitVec

abbrev Wide := BitVec 32

def SIZE_MAX : ℕ := 2 ^ 64 - 1
def EILSEQ : ℕ := 84

def widen (b : UInt8) : Wide := b.toBitVec.setWidth 32

def narrow (w : Wide) : UInt8 := UInt8.ofBitVec (w.setWidth 8)

def interval (a b : Wide) : Wide := (if a = 0x80 then 0x40 - b else 0 - a) <<< 23

def tabC (x : ℕ) : Wide := if x < 2 then -1 else interval 0x80 0xc0 ||| BitVec.ofNat 32 x

def tabD (x : ℕ) : Wide := tabC (x + 16)

def tabE (x : ℕ) : Wide :=
  (if x = 0 then interval 0xa0 0xc0
    else if x = 0xd then interval 0x80 0xa0
    else interval 0x80 0xc0) |||
  (interval 0x80 0xc0 >>> 6) ||| BitVec.ofNat 32 x

def tabF (x : ℕ) : Wide :=
  (if x ≥ 5 then 0
    else if x = 0 then interval 0x90 0xc0
    else if x = 4 then interval 0x80 0x90
    else interval 0x80 0xc0) |||
  (interval 0x80 0xc0 >>> 6) ||| (interval 0x80 0xc0 >>> 12) ||| BitVec.ofNat 32 x

def bittab (i : ℕ) : Wide :=
  if i < 14 then tabC (i + 2)
  else if i < 30 then tabD (i - 14)
  else if i < 46 then tabE (i - 30)
  else tabF (i - 46)

def SA : Wide := 0xc2
def SB : Wide := 0xf4

def oob (c : Wide) (b : UInt8) : Bool :=
  ((((widen b >>> 3) - 0x10#32) ||| ((widen b >>> 3) + c.sshiftRight 26)) &&& ~~~7#32) != 0

/-- `pending` is the state of a character begun in an earlier call, or zero. -/
structure Source where
  pending : Wide
  addr : ℕ
  deriving DecidableEq

def ascii (b : UInt8) : Bool := widen b - 1 < 0x7f

def continuation (b : UInt8) : Bool := widen b - 0x80 < 0x40

def unit (w : Wide) : { l : List Wide // l ≠ [] } := ⟨[w], by simp⟩

def leave (mem : ByteMem) (c : Wide) (s : ℕ) : Next Wide Source :=
  if c = 0 ∧ mem s = 0 then .finish else .malformed ⟨0, s⟩

def push (c : Wide) (b : UInt8) : Wide := (c <<< 6) ||| (widen b - 0x80)

/-- From the label `resume` to the end of the character. -/
def resume (mem : ByteMem) (c : Wide) (s : ℕ) : Next Wide Source :=
  if oob c (mem s) then leave mem c (s - 1)
  else
    let c := push c (mem s)
    if c.getLsbD 31 then
      if !continuation (mem (s + 1)) then leave mem c (s + 1 - 2)
      else
        let c := push c (mem (s + 1))
        if c.getLsbD 31 then
          if !continuation (mem (s + 2)) then leave mem c (s + 2 - 3)
          else .emit (unit (push c (mem (s + 2)))) ⟨0, s + 3⟩
        else .emit (unit c) ⟨0, s + 2⟩
    else .emit (unit c) ⟨0, s + 1⟩

def nextChar (mem : ByteMem) (src : Source) : Next Wide Source :=
  if src.pending ≠ 0 then resume mem src.pending src.addr
  else
    let b := mem src.addr
    if ascii b then .emit (unit (widen b)) ⟨0, src.addr + 1⟩
    else if widen b - SA > SB - SA then leave mem 0 src.addr
    else resume mem (bittab (b.toNat - 0xc2)) (src.addr + 1)

def wordAt (mem : ByteMem) (s : ℕ) : Wide :=
  (mem (s + 3)).toBitVec ++ (mem (s + 2)).toBitVec ++ (mem (s + 1)).toBitVec ++
    (mem s).toBitVec

def asciiWord (mem : ByteMem) (s : ℕ) : Bool :=
  ((wordAt mem s ||| (wordAt mem s - 0x01010101)) &&& 0x80808080) == 0

def copyWords (mem : ByteMem) : ℕ → ℕ → List Wide × ℕ × ℕ
  | wn + 5, s =>
    if asciiWord mem s then
      let r := copyWords mem (wn + 1) (s + 4)
      ([widen (mem s), widen (mem (s + 1)), widen (mem (s + 2)), widen (mem (s + 3))] ++ r.1, r.2)
    else ([], s, wn + 5)
  | wn, s => ([], s, wn)

theorem copyWords_limit_le (mem : ByteMem) (wn s : ℕ) : (copyWords mem wn s).2.2 ≤ wn := by
  fun_induction copyWords mem wn s with
  | case1 wn s _ r ih => dsimp only [r]; omega
  | case2 | case3 => simp

/-- `if (*s-1u < 0x7f && (uintptr_t)s%4 == 0)` with its loop. -/
def fastPath (mem : ByteMem) (wn s : ℕ) : List Wide × ℕ × ℕ :=
  if ascii (mem s) ∧ s % 4 = 0 then copyWords mem wn s else ([], s, wn)

theorem fastPath_limit_le (mem : ByteMem) (wn s : ℕ) : (fastPath mem wn s).2.2 ≤ wn := by
  unfold fastPath
  split
  · exact copyWords_limit_le mem wn s
  · exact le_rfl

def mbLoop (mem : ByteMem) (wn s : ℕ) : Out Wide Source :=
  if wn = 0 then ⟨[], 0, .full ⟨0, s⟩⟩
  else
    let fast := fastPath mem wn s
    let rest : Out Wide Source :=
      match nextChar mem ⟨0, fast.2.1⟩ with
      | .finish => ⟨[], fast.2.2, .finished⟩
      | .malformed t => ⟨[], fast.2.2, .malformed t⟩
      | .emit out t => (mbLoop mem (fast.2.2 - 1) t.addr).prepend out
    rest.prepend fast.1
termination_by wn
decreasing_by
  have := fastPath_limit_le mem wn s
  omega

def codeunit (b : UInt8) : Wide := 0xdfff &&& b.toBitVec.signExtend 32

/-- The loop for `MB_CUR_MAX==1`. -/
def unitLoop (mem : ByteMem) : ℕ → ℕ → Out Wide Source
  | 0, s => ⟨[], 0, .full ⟨0, s⟩⟩
  | wn + 1, s =>
    if mem s = 0 then ⟨[], wn + 1, .finished⟩
    else (unitLoop mem wn (s + 1)).prepend [codeunit (mem s)]

structure MbResult where
  ret : ℕ
  written : List Wide
  src : Option ℕ
  st : Option Wide
  errno : Option ℕ

def mbFinish (wn0 : ℕ) (st : Option Wide) (o : Out Wide Source) : MbResult :=
  match o.stop with
  | .full t => ⟨wn0, o.written, some t.addr, st, none⟩
  | .finished => ⟨(wn0 + 2 ^ 64 - o.left) % 2 ^ 64, o.written ++ [0], none, st, none⟩
  | .malformed t => ⟨SIZE_MAX, o.written, some t.addr, st, some EILSEQ⟩

def mbsrtowcs (utf8 : Bool) (mem : ByteMem) (src wn : ℕ) (st : Option Wide) : MbResult :=
  let c := st.getD 0
  if c ≠ 0 then
    -- The limit is not looked at before the pending character is stored.
    match resume mem c src with
    | .finish => mbFinish wn (some 0) ⟨[], wn, .finished⟩
    | .malformed t => mbFinish wn (some 0) ⟨[], wn, .malformed t⟩
    | .emit out t =>
      mbFinish wn (some 0) ((mbLoop mem ((wn + 2 ^ 64 - 1) % 2 ^ 64) t.addr).prepend out)
  else if utf8 then mbFinish wn st (mbLoop mem wn src)
  else mbFinish wn st (unitLoop mem wn src)

/-- `mbstowcs` with a destination; its source pointer is a copy. -/
def mbstowcs (utf8 : Bool) (mem : ByteMem) (s wn : ℕ) : ℕ × List Wide :=
  let r := mbsrtowcs utf8 mem s wn none
  (r.ret, r.written)

structure CountState where
  pending : Wide
  addr : ℕ
  wn : ℕ
  words : Bool

def lower (wn k : ℕ) : ℕ := (wn + 2 ^ 64 - k) % 2 ^ 64

/-- What a call with a null destination returns, and what it leaves in `errno` -/
structure Count where
  ret : ℕ
  errno : Option ℕ

def Count.of (ret : ℕ) : Count := ⟨ret % 2 ^ 64, none⟩

def Count.failed : Count := ⟨SIZE_MAX, some EILSEQ⟩

def countLeave (mem : ByteMem) (wn0 : ℕ) (c : Wide) (s wn : ℕ) : Count :=
  if c = 0 ∧ mem s = 0 then .of (wn0 + 2 ^ 64 - wn) else .failed

/-- From the label `resume0` to the end of the character: the address after it, or the one
at which the loop is left. -/
def skipChar (mem : ByteMem) (c : Wide) (s : ℕ) : Except ℕ ℕ :=
  if oob c (mem s) then .error (s - 1)
  else if c.getLsbD 25 then
    if !continuation (mem (s + 1)) then .error (s + 1 - 2)
    else if c.getLsbD 19 then
      if !continuation (mem (s + 2)) then .error (s + 2 - 3) else .ok (s + 3)
    else .ok (s + 2)
  else .ok (s + 1)

def countChar (mem : ByteMem) (wn0 : ℕ) (c : Wide) (s wn : ℕ) : Turn Count CountState :=
  match skipChar mem c s with
  | .error a => .ret (countLeave mem wn0 c a wn)
  | .ok a => .again ⟨0, a, lower wn 1, false⟩

/-- `words` tells that the loop over aligned words has been entered. -/
def countTurn (mem : ByteMem) (wn0 : ℕ) (s : CountState) : Turn Count CountState :=
  if s.pending ≠ 0 then countChar mem wn0 s.pending s.addr s.wn
  else if s.words ∧ asciiWord mem s.addr then .again ⟨0, s.addr + 4, lower s.wn 4, true⟩
  else if ¬s.words ∧ ascii (mem s.addr) ∧ s.addr % 4 = 0 then .again ⟨0, s.addr, s.wn, true⟩
  else if ascii (mem s.addr) then .again ⟨0, s.addr + 1, lower s.wn 1, false⟩
  else if widen (mem s.addr) - SA > SB - SA then .ret (countLeave mem wn0 0 s.addr s.wn)
  else countChar mem wn0 (bittab ((mem s.addr).toNat - 0xc2)) (s.addr + 1) s.wn

def strlenTurn (mem : ByteMem) (s a : ℕ) : Turn Count ℕ :=
  if mem a = 0 then .ret (.of (a - s)) else .again (a + 1)

/-- `mbsrtowcs` with a null destination ends in `r`. -/
def CountsMb (utf8 : Bool) (mem : ByteMem) (src wn : ℕ) (st : Option Wide) (r : Count) : Prop :=
  if st.getD 0 ≠ 0 ∨ utf8 then Returns (countTurn mem wn) ⟨st.getD 0, src, wn, false⟩ r
  else Returns (strlenTurn mem src) src r

def bytes (b : UInt8) (l : List UInt8) : { l : List UInt8 // l ≠ [] } := ⟨b :: l, by simp⟩

/-- The bytes `wcrtomb` stores, unless it fails. -/
def wcrtomb (utf8 : Bool) (wc : Wide) : Option { l : List UInt8 // l ≠ [] } :=
  if wc < 0x80 then some (bytes (narrow wc) [])
  else if !utf8 then
    if wc - 0xdf80 < 0x80 then some (bytes (narrow wc) []) else none
  else if wc < 0x800 then
    some (bytes (narrow (0xc0#32 ||| (wc >>> 6))) [narrow (0x80#32 ||| (wc &&& 0x3f#32))])
  else if wc < 0xd800 ∨ wc - 0xe000 < 0x2000 then
    some (bytes (narrow (0xe0#32 ||| (wc >>> 12)))
      [narrow (0x80#32 ||| ((wc >>> 6) &&& 0x3f#32)), narrow (0x80#32 ||| (wc &&& 0x3f#32))])
  else if wc - 0x10000 < 0x100000 then
    some (bytes (narrow (0xf0#32 ||| (wc >>> 18)))
      [narrow (0x80#32 ||| ((wc >>> 12) &&& 0x3f#32)),
       narrow (0x80#32 ||| ((wc >>> 6) &&& 0x3f#32)),
        narrow (0x80#32 ||| (wc &&& 0x3f#32))])
  else none

/-- The wide character at `ws`, as both loops of `wcsrtombs` treat it. -/
def nextWide (utf8 : Bool) (mem : ℕ → Wide) (ws : ℕ) : Next UInt8 ℕ :=
  let wc := mem ws
  if wc - 1 ≥ 0x7f then
    if wc = 0 then .finish
    else match wcrtomb utf8 wc with
    | none => .malformed ws
    | some l => .emit l (ws + 1)
  else .emit (bytes (narrow wc) []) (ws + 1)

def wcsTail (utf8 : Bool) (mem : ℕ → Wide) (n ws : ℕ) : Out UInt8 ℕ :=
  if n = 0 then ⟨[], n, .full ws⟩
  else match nextWide utf8 mem ws with
  | .finish => ⟨[], n, .finished⟩
  | .malformed t => ⟨[], n, .malformed t⟩
  | .emit l t =>
    if l.val.length > n then ⟨[], n, .full ws⟩
    else (wcsTail utf8 mem (n - l.val.length) t).prepend l
termination_by n
decreasing_by
  have := List.length_pos_iff.mpr l.property
  omega

def wcsLoop (utf8 : Bool) (mem : ℕ → Wide) (n ws : ℕ) : Out UInt8 ℕ :=
  if n ≥ 4 then
    match nextWide utf8 mem ws with
    | .finish => ⟨[], n, .finished⟩
    | .malformed t => ⟨[], n, .malformed t⟩
    | .emit l t => (wcsLoop utf8 mem (n - l.val.length) t).prepend l
  else wcsTail utf8 mem n ws
termination_by n
decreasing_by
  have := List.length_pos_iff.mpr l.property
  omega

structure WcResult where
  ret : ℕ
  written : List UInt8
  ws : Option ℕ
  errno : Option ℕ

/-- `wcsrtombs` with a destination; its conversion state is not used. -/
def wcsrtombs (utf8 : Bool) (mem : ℕ → Wide) (ws n : ℕ) : WcResult :=
  let o := wcsLoop utf8 mem n ws
  match o.stop with
  | .full t => ⟨n - o.left, o.written, some t, none⟩
  | .finished => ⟨n - o.left, o.written ++ [0], none, none⟩
  | .malformed t => ⟨SIZE_MAX, o.written, some t, some EILSEQ⟩

def wcsCountTurn (utf8 : Bool) (mem : ℕ → Wide) (s : ℕ × ℕ) : Turn Count (ℕ × ℕ) :=
  if mem s.1 = 0 then .ret (.of s.2)
  else if mem s.1 ≥ 0x80 then
    match wcrtomb utf8 (mem s.1) with
    | none => .ret .failed
    | some l => .again (s.1 + 1, (s.2 + l.val.length) % 2 ^ 64)
  else .again (s.1 + 1, (s.2 + 1) % 2 ^ 64)

/-- `wcsrtombs` with a null destination ends in `r`. -/
def CountsWc (utf8 : Bool) (mem : ℕ → Wide) (ws : ℕ) (r : Count) : Prop :=
  Returns (wcsCountTurn utf8 mem) (ws, 0) r

theorem widen_toNat (b : UInt8) : (widen b).toNat = b.toNat := by
  have := b.toNat_lt
  simp only [widen, toNat_setWidth, UInt8.toNat_toBitVec]
  omega

theorem ascii_iff (b : UInt8) : ascii b ↔ 1 ≤ b.toNat ∧ b.toNat < 0x80 := by
  have := b.toNat_lt
  simp only [ascii, lt_def, toNat_sub, widen_toNat]
  simp
  omega

theorem wordAt_toNat (mem : ByteMem) (s : ℕ) :
    (wordAt mem s).toNat = (mem s).toNat + 2 ^ 8 * (mem (s + 1)).toNat +
      2 ^ 16 * (mem (s + 2)).toNat + 2 ^ 24 * (mem (s + 3)).toNat := by
  have h0 := (mem s).toNat_lt
  have h1 := (mem (s + 1)).toNat_lt
  have h2 := (mem (s + 2)).toNat_lt
  simp only [wordAt, toNat_append, UInt8.toNat_toBitVec]
  rw [← Nat.shiftLeft_add_eq_or_of_lt (by omega), ← Nat.shiftLeft_add_eq_or_of_lt (by omega),
    ← Nat.shiftLeft_add_eq_or_of_lt (by omega)]
  omega

variable {i wn : ℕ} {mem : ByteMem} {c : Wide}

theorem clear_of_and_zero {x : Wide} (h : x &&& 0x80808080 = 0)
    (hi : i = 7 ∨ i = 15 ∨ i = 23 ∨ i = 31) : x.toNat / 2 ^ i % 2 = 0 := by
  have hbit := congrArg (fun w : Wide => w.getLsbD i) h
  have hmask : (0x80808080 : Wide).getLsbD i = true := by
    rcases hi with rfl | rfl | rfl | rfl <;> rfl
  simp only [getLsbD_and, hmask] at hbit
  rw [getLsbD, Nat.testBit_eq_decide_div_mod_eq] at hbit
  simp at hbit
  exact hbit

theorem asciiWord_bytes {s : ℕ} (h : asciiWord mem s) :
    ascii (mem s) ∧ ascii (mem (s + 1)) ∧ ascii (mem (s + 2)) ∧ ascii (mem (s + 3)) := by
  have hor : (wordAt mem s &&& 0x80808080) ||| ((wordAt mem s - 0x01010101) &&& 0x80808080) =
      0 := by
    rw [← and_or_distrib_right]
    simpa [asciiWord] using h
  obtain ⟨hword, hsub⟩ := or_eq_zero_iff.mp hor
  have hw := wordAt_toNat mem s
  have hd : (wordAt mem s - 0x01010101).toNat =
      (2 ^ 32 - 0x01010101 + (wordAt mem s).toNat) % 2 ^ 32 := toNat_sub _ _
  have w7 := clear_of_and_zero hword (.inl rfl)
  have w15 := clear_of_and_zero hword (.inr (.inl rfl))
  have w23 := clear_of_and_zero hword (.inr (.inr (.inl rfl)))
  have w31 := clear_of_and_zero hword (.inr (.inr (.inr rfl)))
  have d7 := clear_of_and_zero hsub (.inl rfl)
  have d15 := clear_of_and_zero hsub (.inr (.inl rfl))
  have d23 := clear_of_and_zero hsub (.inr (.inr (.inl rfl)))
  have d31 := clear_of_and_zero hsub (.inr (.inr (.inr rfl)))
  have h0 := (mem s).toNat_lt
  have h1 := (mem (s + 1)).toNat_lt
  have h2 := (mem (s + 2)).toNat_lt
  have h3 := (mem (s + 3)).toNat_lt
  rw [hd] at d7 d15 d23 d31
  rw [hw] at w7 w15 w23 w31 d7 d15 d23 d31
  clear hd hw hor hsub h
  simp only [ascii_iff]
  omega

theorem nextChar_ascii (h : ascii (mem a)) :
    nextChar mem ⟨0, a⟩ = .emit (unit (widen (mem a))) ⟨0, a + 1⟩ := by
  simp [nextChar, h]

theorem copyWords_chain (mem : ByteMem) (wn s : ℕ) :
    Chain (nextChar mem) ⟨0, s⟩ (copyWords mem wn s).1 ⟨0, (copyWords mem wn s).2.1⟩ ∧
    (copyWords mem wn s).1.length + (copyWords mem wn s).2.2 = wn ∧
    (0 < wn → 0 < (copyWords mem wn s).2.2) := by
  fun_induction copyWords mem wn s with
  | case1 wn s hword r ih =>
    obtain ⟨hchain, hlen, hpos⟩ := ih
    obtain ⟨h0, h1, h2, h3⟩ := asciiWord_bytes hword
    refine ⟨?_, ?_, fun _ => hpos (by omega)⟩
    rotate_left
    · simp only [List.length_append, List.length_cons, List.length_nil, r]
      omega
    exact .cons (nextChar_ascii h0) (.cons (nextChar_ascii h1) (.cons (nextChar_ascii h2)
      (.cons (nextChar_ascii h3) hchain)))
  | case2 wn s => exact ⟨.nil _, by simp, by simp⟩
  | case3 wn s => exact ⟨.nil _, by simp, id⟩

theorem fastPath_chain (mem : ByteMem) (wn s : ℕ) :
    Chain (nextChar mem) ⟨0, s⟩ (fastPath mem wn s).1 ⟨0, (fastPath mem wn s).2.1⟩ ∧
    (fastPath mem wn s).1.length + (fastPath mem wn s).2.2 = wn ∧
    (0 < wn → 0 < (fastPath mem wn s).2.2) := by
  unfold fastPath
  split
  · exact copyWords_chain mem wn s
  · exact ⟨.nil _, by simp, id⟩

theorem leave_bad (h : c ≠ 0) (s : ℕ) : leave mem c s = .malformed ⟨0, s⟩ := by
  rw [leave, if_neg fun hz => h hz.1]

theorem ne_zero_of_getLsbD (h : c.getLsbD i) : c ≠ 0 := by
  rintro rfl
  simp at h

theorem tail_of_not_oob (h : oob c b = false) : 0x80 ≤ b.toNat ∧ b.toNat < 0xc0 := by
  have hall : ∀ x : BitVec 8, ((x.setWidth 32 >>> 3) - 0x10#32) &&& ~~~7#32 = 0 →
      0x80 ≤ x.toNat ∧ x.toNat < 0xc0 := by decide +kernel
  have hor : (((widen b >>> 3) - 0x10#32) &&& ~~~7#32) |||
      (((widen b >>> 3) + c.sshiftRight 26) &&& ~~~7#32) = 0 := by
    rw [← and_or_distrib_right]
    simpa [oob] using h
  exact hall b.toBitVec (or_eq_zero_iff.mp hor).1

theorem continuation_iff (b : UInt8) : continuation b ↔ 0x80 ≤ b.toNat ∧ b.toNat < 0xc0 := by
  have := b.toNat_lt
  simp only [continuation, lt_def, toNat_sub, widen_toNat]
  simp
  omega

theorem push_getLsbD (c : Wide) (h : 0x80 ≤ b.toNat ∧ b.toNat < 0xc0) (h6 : 6 ≤ i) (h32 : i < 32) :
    (push c b).getLsbD i = c.getLsbD (i - 6) := by
  have hlow : (widen b - 0x80).getLsbD i = false := by
    have hval : (widen b - 0x80).toNat < 2 ^ 6 := by
      simp only [toNat_sub, widen_toNat]
      simp
      omega
    exact Nat.testBit_lt_two_pow (hval.trans_le (Nat.pow_le_pow_right (by omega) h6))
  simp only [push, getLsbD_or, hlow, Bool.or_false]
  simp
  omega

theorem skipChar_eq (mem : ByteMem) (hc : c ≠ 0) (s : ℕ) :
    (resume mem c s = .malformed ⟨0, s - 1⟩ ∧ skipChar mem c s = .error (s - 1)) ∨
      ∃ w a, resume mem c s = .emit (unit w) ⟨0, a⟩ ∧ skipChar mem c s = .ok a := by
  unfold resume skipChar
  split
  · exact .inl ⟨leave_bad hc _, rfl⟩
  next hoob =>
  have h0 := tail_of_not_oob (by simpa using hoob)
  dsimp only
  rw [push_getLsbD c h0 (by omega) (by omega)]
  split
  · next hbit =>
    have hpush : push c (mem s) ≠ 0 := by
      apply ne_zero_of_getLsbD (i := 31)
      rw [push_getLsbD c h0 (by omega) (by omega)]
      exact hbit
    split
    · exact .inl ⟨leave_bad hpush _, rfl⟩
    next hcont =>
    have h1 := (continuation_iff _).mp (by simpa using hcont)
    rw [push_getLsbD _ h1 (by omega) (by omega), push_getLsbD c h0 (by omega) (by omega)]
    split
    · next hbit' =>
      have hpush' : push (push c (mem s)) (mem (s + 1)) ≠ 0 := by
        apply ne_zero_of_getLsbD (i := 31)
        rw [push_getLsbD _ h1 (by omega) (by omega), push_getLsbD c h0 (by omega) (by omega)]
        exact hbit'
      split
      · exact .inl ⟨leave_bad hpush' _, rfl⟩
      · exact .inr ⟨_, _, rfl, rfl⟩
    · exact .inr ⟨_, _, rfl, rfl⟩
  · exact .inr ⟨_, _, rfl, rfl⟩

theorem resume_cases (mem : ByteMem) (hc : c ≠ 0) (s : ℕ) :
    resume mem c s = .malformed ⟨0, s - 1⟩ ∨ ∃ w a, resume mem c s = .emit (unit w) ⟨0, a⟩ := by
  rcases skipChar_eq mem hc s with ⟨h, -⟩ | ⟨w, a, h, -⟩
  · exact .inl h
  · exact .inr ⟨w, a, h⟩

theorem bittab_ne_zero : ∀ i ≤ 50, bittab i ≠ 0 := by decide

theorem lead_index (h : ¬(widen b - SA > SB - SA)) : b.toNat - 0xc2 ≤ 50 := by
  have hb := b.toNat_lt
  simp only [SA, SB, lt_def, toNat_sub, widen_toNat, not_lt] at h
  simp at h
  omega

theorem nextChar_emit (h : nextChar mem src = .emit out t) :
    out.val.length = 1 ∧ t.pending = 0 := by
  have hresume : ∀ c s, c ≠ 0 → resume mem c s = .emit out t →
      out.val.length = 1 ∧ t.pending = 0 := by
    intro c s hc hr
    rcases resume_cases mem hc s with hbad | ⟨w, a, hemit⟩
    · rw [hbad] at hr
      cases hr
    · rw [hemit] at hr
      cases hr
      exact ⟨rfl, rfl⟩
  unfold nextChar at h
  split at h
  · next hc => exact hresume _ _ hc h
  dsimp only at h
  split at h
  · cases h
    exact ⟨rfl, rfl⟩
  split at h
  · unfold leave at h
    split at h <;> cases h
  · next hlead => exact hresume _ _ (bittab_ne_zero _ (lead_index hlead)) h

theorem mbLoop_eq (mem : ByteMem) (wn s : ℕ) :
    mbLoop mem wn s = convert (nextChar mem) wn ⟨0, s⟩ := by
  induction wn using Nat.strong_induction_on generalizing s with
  | _ wn ih =>
    rw [mbLoop]
    split
    · next h => rw [h, convert_zero]
    next hwn =>
    obtain ⟨hchain, hlen, hpos⟩ := fastPath_chain mem wn s
    have hleft := hpos (by omega)
    rw [convert_chain hchain (by omega)]
    dsimp only
    rw [show wn - (fastPath mem wn s).1.length = (fastPath mem wn s).2.2 by omega]
    congr 1
    generalize (fastPath mem wn s).2.1 = a
    cases hnext : nextChar mem ⟨0, a⟩ with
    | finish => rw [convert_finish hleft hnext]
    | malformed t => rw [convert_malformed hleft hnext]
    | emit out t =>
      obtain ⟨hout, hpending⟩ := nextChar_emit hnext
      obtain ⟨pending, addr⟩ := t
      obtain rfl : pending = 0 := hpending
      rw [convert_emit hnext (by omega), hout, ← ih _ (by omega)]

/-- One code unit, for `MB_CUR_MAX==1`. -/
def nextUnit (mem : ByteMem) (src : Source) : Next Wide Source :=
  if mem src.addr = 0 then .finish
  else .emit (unit (codeunit (mem src.addr))) ⟨0, src.addr + 1⟩

theorem unitLoop_eq (mem : ByteMem) (wn s : ℕ) :
    unitLoop mem wn s = convert (nextUnit mem) wn ⟨0, s⟩ := by
  induction wn generalizing s with
  | zero => rw [unitLoop, convert_zero]
  | succ wn ih =>
    rw [unitLoop]
    split
    · next h => rw [convert_finish (by omega) (by simp [nextUnit, h])]
    · next h =>
      have hnext : nextUnit mem ⟨0, s⟩ = .emit (unit (codeunit (mem s))) ⟨0, s + 1⟩ := by
        simp [nextUnit, h]
      rw [convert_emit hnext (by simp [unit]), ih]
      rfl

/-- The items of a source: characters, or code units when there is no partial character and
`MB_CUR_MAX==1`. -/
def reader (utf8 : Bool) (c : Wide) (mem : ByteMem) : Source → Next Wide Source :=
  if c ≠ 0 ∨ utf8 then nextChar mem else nextUnit mem

def limitOf (c : Wide) (wn : ℕ) : ℕ := if c ≠ 0 ∧ wn = 0 then 2 ^ 64 else wn

theorem limitOf_of_ne (c : Wide) (h : wn ≠ 0) : limitOf c wn = wn := if_neg fun hz => h hz.2

theorem limitOf_zero_pending (wn : ℕ) : limitOf 0 wn = wn := if_neg fun hz => hz.1 rfl

theorem limitOf_pending (hc : c ≠ 0) (hwn : wn ≤ SIZE_MAX) :
    0 < limitOf c wn ∧ limitOf c wn - 1 = (wn + 2 ^ 64 - 1) % 2 ^ 64 := by
  unfold SIZE_MAX at hwn
  by_cases h0 : wn = 0
  · rw [limitOf, if_pos ⟨hc, h0⟩]
    omega
  · rw [limitOf_of_ne c h0]
    omega

def stateAfter (st : Option Wide) : Option Wide := if st.getD 0 ≠ 0 then some 0 else st

theorem reader_emit (h : reader utf8 c mem src = .emit out t) : out.val.length = 1 := by
  unfold reader at h
  split at h
  · exact (nextChar_emit h).1
  · unfold nextUnit at h
    split at h <;> cases h
    rfl

theorem mbsrtowcs_eq (utf8 : Bool) (mem : ByteMem) (src : ℕ) (hwn : wn ≤ SIZE_MAX)
    (st : Option Wide) :
    mbsrtowcs utf8 mem src wn st = mbFinish wn (stateAfter st)
      (convert (reader utf8 (st.getD 0) mem) (limitOf (st.getD 0) wn) ⟨st.getD 0, src⟩) := by
  unfold mbsrtowcs stateAfter reader
  generalize st.getD 0 = c
  by_cases hc : c ≠ 0
  · obtain ⟨hpos, hlower⟩ := limitOf_pending hc hwn
    have hnext : nextChar mem ⟨c, src⟩ = resume mem c src := by simp only [nextChar, if_pos hc]
    simp only [if_pos hc, if_pos (Or.inl hc : c ≠ 0 ∨ utf8 = true)]
    rcases resume_cases mem hc src with hbad | ⟨w, a, hemit⟩
    · rw [hbad, convert_malformed hpos (hnext.trans hbad)]
      rfl
    · rw [hemit, convert_emit (hnext.trans hemit) (Nat.succ_le_of_lt hpos)]
      dsimp only
      rw [mbLoop_eq, ← hlower]
      rfl
  · obtain rfl : c = 0 := not_not.mp hc
    simp only [hc, if_false, false_or, limitOf_zero_pending]
    split
    · rw [mbLoop_eq]
    · rw [unitLoop_eq]

theorem wcrtomb_length (h : wcrtomb utf8 wc = some l) : l.val.length ≤ 4 := by
  unfold wcrtomb at h
  split_ifs at h <;>
    cases h <;>
    simp [bytes]

theorem nextWide_length {mem : ℕ → Wide} (h : nextWide utf8 mem ws = .emit l t) :
    l.val.length ≤ 4 := by
  unfold nextWide at h
  dsimp only at h
  split at h
  · split at h
    · cases h
    · split at h
      · cases h
      · next hl =>
        cases h
        exact wcrtomb_length hl
  · cases h
    simp [bytes]

theorem wcsTail_eq (utf8 : Bool) (mem : ℕ → Wide) (n ws : ℕ) :
    wcsTail utf8 mem n ws = convert (nextWide utf8 mem) n ws := by
  fun_induction wcsTail utf8 mem n ws with
  | case1 ws => rw [convert_zero]
  | case2 n ws hn hnext => rw [convert_finish (by omega) hnext]
  | case3 n ws hn t hnext => rw [convert_malformed (by omega) hnext]
  | case4 n ws hn l t hnext hlt => rw [convert_fills (.inr ⟨l, t, hnext, by simpa using hlt⟩)]
  | case5 n ws hn l t hnext hle ih => rw [ih, convert_emit hnext (by omega)]

theorem wcsLoop_eq (utf8 : Bool) (mem : ℕ → Wide) (n ws : ℕ) :
    wcsLoop utf8 mem n ws = convert (nextWide utf8 mem) n ws := by
  fun_induction wcsLoop utf8 mem n ws with
  | case1 n ws hn hnext => rw [convert_finish (by omega) hnext]
  | case2 n ws hn t hnext => rw [convert_malformed (by omega) hnext]
  | case3 n ws hn l t hnext ih =>
    have := nextWide_length hnext
    rw [ih, convert_emit hnext (by omega)]
  | case4 n ws hn => exact wcsTail_eq utf8 mem n ws

end Multibyte
