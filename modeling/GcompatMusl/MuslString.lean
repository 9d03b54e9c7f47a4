import Mathlib.Data.UInt
import GcompatMusl.FlatMemory

/-! # musl byte-string functions

The loops of `string/*.c` over a flat byte memory. The scans and copies of terminated strings have
the size of the address space as their bound. -/
namespace MuslString

open FlatMemory

abbrev ByteMem := Mem UInt8

def addressSpace : ℕ := 2 ^ 64

def memcpy (m : ByteMem) (dest src n : ℕ) : ByteMem × ℕ := (copy m dest src n, dest)

def mempcpy (m : ByteMem) (dest src n : ℕ) : ByteMem × ℕ :=
  ((memcpy m dest src n).1, (memcpy m dest src n).2 + n)

def memset (m : ByteMem) (dest : ℕ) (c : UInt8) (n : ℕ) : ByteMem × ℕ := (fill m dest c n, dest)

def memchr (m : ByteMem) (src : ℕ) (c : UInt8) : ℕ → Option ℕ
  | 0 => none
  | n + 1 => if m src = c then some src else memchr m (src + 1) c n

def strnlen (m : ByteMem) (s n : ℕ) : ℕ :=
  match memchr m s 0 n with
  | some p => p - s
  | none => n

def strlenLoop (m : ByteMem) : ℕ → ℕ → ℕ
  | 0, s => s
  | fuel + 1, s => if m s = 0 then s else strlenLoop m fuel (s + 1)

def strlen (m : ByteMem) (s : ℕ) : ℕ := strlenLoop m addressSpace s - s

def stpcpyLoop : ℕ → ByteMem → ℕ → ℕ → ByteMem × ℕ
  | 0, m, d, _ => (m, d)
  | fuel + 1, m, d, s =>
    if m s = 0 then (store m d (m s), d)
    else stpcpyLoop fuel (store m d (m s)) (d + 1) (s + 1)

def stpcpy (m : ByteMem) (d s : ℕ) : ByteMem × ℕ := stpcpyLoop addressSpace m d s

def strcpy (m : ByteMem) (dest src : ℕ) : ByteMem × ℕ := ((stpcpy m dest src).1, dest)

def strcat (m : ByteMem) (dest src : ℕ) : ByteMem × ℕ :=
  ((strcpy m (dest + strlen m dest) src).1, dest)

def strncatLoop (m : ByteMem) (d s : ℕ) : ℕ → ByteMem × ℕ
  | 0 => (m, d)
  | n + 1 => if m s = 0 then (m, d) else strncatLoop (store m d (m s)) (d + 1) (s + 1) n

def strncat (m : ByteMem) (d s n : ℕ) : ByteMem × ℕ :=
  let (m', e) := strncatLoop m (d + strlen m d) s n
  (store m' e 0, d)

def stpncpyLoop (m : ByteMem) (d s : ℕ) : ℕ → ByteMem × ℕ × ℕ
  | 0 => (m, d, 0)
  | n + 1 =>
    if m s = 0 then (store m d (m s), d, n + 1)
    else stpncpyLoop (store m d (m s)) (d + 1) (s + 1) n

def stpncpy (m : ByteMem) (d s n : ℕ) : ByteMem × ℕ :=
  let (m', e, k) := stpncpyLoop m d s n
  ((memset m' e 0 k).1, e)

def strncpy (m : ByteMem) (d s n : ℕ) : ByteMem × ℕ := ((stpncpy m d s n).1, d)

theorem memchr_of_nonzero (h : ∀ k < n, m (s + k) ≠ 0) : memchr m s 0 n = none := by
  induction n generalizing s with
  | zero => rfl
  | succ n ih =>
    have h0 : m s ≠ 0 := h 0 (by omega)
    rw [memchr, if_neg h0]
    apply ih
    intro k hk
    rw [show s + 1 + k = s + (k + 1) by omega]
    exact h (k + 1) (by omega)

theorem memchr_of_string (h : StringAt m s l) (hl : l < n) : memchr m s 0 n = some (s + l) := by
  induction l generalizing s n with
  | zero =>
    cases n with
    | zero => omega
    | succ n => rw [memchr, if_pos h.head_eq]; rfl
  | succ l ih =>
    cases n with
    | zero => omega
    | succ n =>
      rw [memchr, if_neg h.head_ne, ih h.tail (by omega)]
      congr 1
      omega

theorem strnlen_of_nonzero (h : ∀ k < n, m (s + k) ≠ 0) : strnlen m s n = n := by
  rw [strnlen, memchr_of_nonzero h]

theorem strnlen_of_string (h : StringAt m s l) (n : ℕ) : strnlen m s n = min l n := by
  by_cases hl : l < n
  · rw [strnlen, memchr_of_string h hl]
    dsimp only
    omega
  · rw [strnlen_of_nonzero (fun k hk => h.nonzero k (by omega))]
    omega

theorem strlenLoop_of_string (h : StringAt m s l) (hl : l < fuel) :
    strlenLoop m fuel s = s + l := by
  induction l generalizing s fuel with
  | zero =>
    cases fuel with
    | zero => omega
    | succ fuel => rw [strlenLoop, if_pos h.head_eq]; rfl
  | succ l ih =>
    cases fuel with
    | zero => omega
    | succ fuel =>
      rw [strlenLoop, if_neg h.head_ne, ih h.tail (by omega)]
      omega

theorem strlenLoop_of_nonzero (h : ∀ k < fuel, m (s + k) ≠ 0) :
    strlenLoop m fuel s = s + fuel := by
  induction fuel generalizing s with
  | zero => rfl
  | succ fuel ih =>
    have h0 : m s ≠ 0 := h 0 (by omega)
    rw [strlenLoop, if_neg h0, ih]
    · omega
    · intro k hk
      rw [show s + 1 + k = s + (k + 1) by omega]
      exact h (k + 1) (by omega)

theorem strlen_of_string (h : StringAt m s l) (hl : l < addressSpace) : strlen m s = l := by
  rw [strlen, strlenLoop_of_string h hl]
  omega

theorem le_strlen_of_nonzero (h : ∀ k < n, m (s + k) ≠ 0) (hn : n ≤ addressSpace) :
    n ≤ strlen m s := by
  rcases string_or_nonzero m s addressSpace with ⟨l, hl, hs⟩ | hz
  · rw [strlen_of_string hs hl]
    by_contra hlt
    exact h l (by omega) hs.terminator
  · rw [strlen, strlenLoop_of_nonzero hz]
    omega

end MuslString
