import GcompatMusl.MuslString

/-! # Fortified byte-string functions

The `_chk` wrappers of `libgcompat/string.c`. A failed assertion is the only way out other
than the unchecked call, so a wrapper is an `Except` whose error is the asserted text.
Pointer and `size_t` sums are reduced modulo the address space, as the machine does. -/
namespace StringFortify

open FlatMemory MuslString

def wrap (x : ℕ) : ℕ := x % addressSpace

def assertThat (c : Prop) [Decidable c] (text : String) : Except String Unit :=
  if c then .ok () else .error text

/-- The checks shared by the copying wrappers, on the number `n` of bytes they copy. -/
def copyGuard (forward backward : String) (dest src n destlen : ℕ) : Except String Unit := do
  assertThat (dest ≠ 0) "dest != NULL"
  assertThat (src ≠ 0) "src != NULL"
  assertThat (destlen ≥ n) "destlen >= n"
  if dest < src then assertThat (wrap (dest + n) ≤ src) forward
  else assertThat (wrap (src + n) ≤ dest) backward

section

variable (m : ByteMem) (dest src n destlen : ℕ)

def memcpyChk : Except String (ByteMem × ℕ) := do
  copyGuard "(char *) dest + n <= (char *) src" "(char *) src + n <= (char *) dest"
    dest src n destlen
  return memcpy m dest src n

def mempcpyChk : Except String (ByteMem × ℕ) := do
  copyGuard "(char *) dest + n <= (char *) src" "(char *) src + n <= (char *) dest"
    dest src n destlen
  return mempcpy m dest src n

def stpcpyChk (m : ByteMem) (dest src destlen : ℕ) : Except String (ByteMem × ℕ) := do
  copyGuard "dest + n <= src" "src + n <= dest" dest src (wrap (strlen m src + 1)) destlen
  return stpcpy m dest src

def strcpyChk (m : ByteMem) (dest src destlen : ℕ) : Except String (ByteMem × ℕ) := do
  copyGuard "dest + n <= src" "src + n <= dest" dest src (wrap (strlen m src + 1)) destlen
  return strcpy m dest src

def stpncpyChk : Except String (ByteMem × ℕ) := do
  copyGuard "dest + n <= src" "src + n <= dest" dest src n destlen
  return stpncpy m dest src n

def strncpyChk : Except String (ByteMem × ℕ) := do
  copyGuard "dest + n <= src" "src + n <= dest" dest src n destlen
  return strncpy m dest src n

def strcatChk (m : ByteMem) (dest src destlen : ℕ) : Except String (ByteMem × ℕ) := do
  assertThat (dest ≠ 0) "dest != NULL"
  assertThat (src ≠ 0) "src != NULL"
  let n := wrap (strlen m src + 1)
  let total := wrap (strnlen m dest destlen + n)
  assertThat (destlen ≥ total) "destlen >= total"
  if dest < src then assertThat (wrap (dest + total) ≤ src) "dest + total <= src"
  else assertThat (wrap (src + n) ≤ dest) "src + n <= dest"
  return strcat m dest src

/-- The source length is measured up to `destlen`, not up to `n`. -/
def strncatChk : Except String (ByteMem × ℕ) := do
  assertThat (dest ≠ 0) "dest != NULL"
  assertThat (src ≠ 0) "src != NULL"
  let total := wrap (strnlen m dest destlen + strnlen m src destlen + 1)
  assertThat (destlen ≥ total) "destlen >= total"
  if dest < src then assertThat (wrap (dest + total) ≤ src) "dest + total <= src"
  else assertThat (wrap (src + n) ≤ dest) "src + n <= dest"
  return strncat m dest src n

end

def Aborts {β : Type} (r : Except String β) : Prop := ∃ text, r = .error text

instance {β : Type} (r : Except String β) : Decidable (Aborts r) :=
  match r with
  | .error text => isTrue ⟨text, rfl⟩
  | .ok _ => isFalse (fun ⟨_, h⟩ => nomatch h)

@[simp] theorem aborts_error (text : String) :
    Aborts (.error text : Except String β) := ⟨text, rfl⟩

@[simp] theorem not_aborts_ok (b : β) : ¬ Aborts (.ok b : Except String β) :=
  fun ⟨_, h⟩ => nomatch h

theorem aborts_assertThat_bind (c : Prop) [Decidable c] (text : String)
    (k : Unit → Except String β) :
    Aborts (assertThat c text >>= k) ↔ ¬ c ∨ Aborts (k ()) := by
  by_cases hc : c <;> simp [assertThat, hc, bind, Except.bind]

theorem aborts_assertThat (c : Prop) [Decidable c] (text : String) :
    Aborts (assertThat c text) ↔ ¬ c := by
  by_cases hc : c <;> simp [assertThat, hc]

theorem aborts_guard_bind (g : Except String Unit) (b : β) :
    Aborts (g >>= fun _ => pure b) ↔ Aborts g := by
  cases g <;> simp [bind, Except.bind, pure, Except.pure]

theorem guard_bind_ok {β : Type} {g : Except String Unit} {b r : β}
    (h : (g >>= fun _ => pure b) = .ok r) : r = b := by
  cases g with
  | error => cases h
  | ok => exact (Except.ok.inj h).symm

def Fits (p n : ℕ) : Prop := p + n < addressSpace

instance (p n : ℕ) : Decidable (Fits p n) := inferInstanceAs (Decidable (_ < _))

theorem wrap_fits (h : Fits p n) : wrap (p + n) = p + n := Nat.mod_eq_of_lt h

variable (f b : String)

theorem copyGuard_aborts (dest src n destlen : ℕ) :
    Aborts (copyGuard f b dest src n destlen) ↔
      dest = 0 ∨ src = 0 ∨ destlen < n ∨
        (dest < src ∧ src < wrap (dest + n)) ∨ (src ≤ dest ∧ dest < wrap (src + n)) := by
  unfold copyGuard
  simp only [aborts_assertThat_bind, not_not, ne_eq, not_le]
  refine or_congr_right (or_congr_right (or_congr_right ?_))
  split <;>
    rw [aborts_assertThat] <;>
    omega

theorem copyGuard_aborts_iff (h : n ≤ destlen → Fits dest n ∧ Fits src n) :
    Aborts (copyGuard f b dest src n destlen) ↔
      dest = 0 ∨ src = 0 ∨ destlen < n ∨ Overlap dest n src n := by
  rw [copyGuard_aborts]
  refine or_congr_right (or_congr_right ?_)
  by_cases hn : n ≤ destlen
  · obtain ⟨hd, hs⟩ := h hn
    rw [overlap_iff, wrap_fits hd, wrap_fits hs]
    omega
  · exact iff_of_true (Or.inl (by omega)) (Or.inl (by omega))

structure Access where
  readAt : ℕ
  readLen : ℕ
  writeAt : ℕ
  writeLen : ℕ
  deriving DecidableEq, Repr

def Access.WritesPast (a : Access) (limit : ℕ) : Prop :=
  ∃ b, InRange b a.writeAt a.writeLen ∧ limit ≤ b

def Access.ReadsWritten (a : Access) : Prop := Overlap a.readAt a.readLen a.writeAt a.writeLen

theorem Access.writesPast_iff {a : Access} {limit : ℕ} (h : 0 < a.writeLen) :
    a.WritesPast limit ↔ limit < a.writeAt + a.writeLen := by
  constructor
  · rintro ⟨b, ⟨_, hb⟩, hl⟩
    omega
  · intro hl
    refine ⟨a.writeAt + a.writeLen - 1, ?_, by omega⟩
    unfold InRange
    omega

def strcpyAccess (m : ByteMem) (dest src : ℕ) : Access :=
  ⟨src, strlen m src + 1, dest, strlen m src + 1⟩

def strcatAccess (m : ByteMem) (dest src : ℕ) : Access :=
  ⟨src, strlen m src + 1, dest + strlen m dest, strlen m src + 1⟩

def strncatAccess (m : ByteMem) (dest src n : ℕ) : Access :=
  ⟨src, min n (strlen m src + 1), dest + strlen m dest, min n (strlen m src) + 1⟩

def strncpyAccess (m : ByteMem) (dest src n : ℕ) : Access :=
  ⟨src, min n (strlen m src + 1), dest, n⟩

variable {m : ByteMem} {dest src n destlen l : ℕ}

theorem string_in_space (h : Fits src (l + 1)) : l < addressSpace := by
  unfold Fits at h
  omega

theorem copied_length (hs : StringAt m src l) (hl : Fits src (l + 1)) :
    wrap (strlen m src + 1) = l + 1 := by
  rw [strlen_of_string hs (string_in_space hl), wrap, Nat.mod_eq_of_lt]
  unfold Fits at hl
  omega

theorem string_guard_aborts_iff (hs : StringAt m src l) (hl : Fits src (l + 1))
    (hd : l + 1 ≤ destlen → Fits dest (l + 1)) :
    Aborts (copyGuard f b dest src (wrap (strlen m src + 1)) destlen) ↔
      dest = 0 ∨ src = 0 ∨ (strcpyAccess m dest src).WritesPast (dest + destlen) ∨
        (strcpyAccess m dest src).ReadsWritten := by
  rw [copied_length hs hl, copyGuard_aborts_iff f b fun h => ⟨hd h, hl⟩,
    Access.writesPast_iff (Nat.succ_pos _), Access.ReadsWritten, overlap_iff, overlap_iff]
  simp only [strcpyAccess, strlen_of_string hs (string_in_space hl)]
  omega

/-- When `dest` is not after `src`, the code's order tests are exact for the appended bytes. -/
theorem strcat_order_tests (hs : StringAt m src l) (ht : StringAt m dest d) :
    (dest < src ∧ src < dest + (d + (l + 1))) ∨ (src ≤ dest ∧ dest < src + (l + 1)) ↔
      Overlap src (l + 1) (dest + d) (l + 1) := by
  rw [overlap_iff]
  constructor
  · rintro (⟨hlt, ho⟩ | ⟨hle, ho⟩)
    · refine ⟨by omega, by omega, by omega, ?_⟩
      -- a source that ended inside `dest` would terminate `dest` there
      by_contra hin
      apply ht.nonzero (src + l - dest) (by omega)
      rw [show dest + (src + l - dest) = src + l by omega]
      exact hs.terminator
    · have hsuf := hs.suffix (k := dest - src) (by omega)
      rw [show src + (dest - src) = dest by omega] at hsuf
      have := hsuf.unique ht
      omega
  · rintro ⟨_, _, h1, h2⟩
    rcases Nat.lt_or_ge dest src with h | h
    · exact Or.inl ⟨h, by omega⟩
    · exact Or.inr ⟨h, by omega⟩

theorem strcatChk_aborts (m : ByteMem) (dest src destlen : ℕ) :
    Aborts (strcatChk m dest src destlen) ↔
      dest = 0 ∨ src = 0 ∨
        destlen < wrap (strnlen m dest destlen + wrap (strlen m src + 1)) ∨
        (dest < src ∧ src < wrap (dest + wrap (strnlen m dest destlen + wrap (strlen m src + 1)))) ∨
        (src ≤ dest ∧ dest < wrap (src + wrap (strlen m src + 1))) := by
  unfold strcatChk
  simp only [aborts_assertThat_bind, not_not, ne_eq, not_le]
  refine or_congr_right (or_congr_right (or_congr_right ?_))
  split <;>
    rw [aborts_guard_bind, aborts_assertThat] <;>
    omega

theorem strcatChk_aborts_iff (hs : StringAt m src l) (hl : Fits src (l + 1))
    (ht : strnlen m dest destlen + (l + 1) < addressSpace)
    (hd : strnlen m dest destlen + (l + 1) ≤ destlen →
      Fits dest (strnlen m dest destlen + (l + 1))) :
    Aborts (strcatChk m dest src destlen) ↔
      dest = 0 ∨ src = 0 ∨ (strcatAccess m dest src).WritesPast (dest + destlen) ∨
        (strcatAccess m dest src).ReadsWritten := by
  rw [strcatChk_aborts, copied_length hs hl, Access.writesPast_iff (Nat.succ_pos _)]
  simp only [strcatAccess, strlen_of_string hs (string_in_space hl), wrap_fits hl]
  have hw : wrap (strnlen m dest destlen + (l + 1)) = strnlen m dest destlen + (l + 1) :=
    Nat.mod_eq_of_lt ht
  rw [hw]
  refine or_congr_right (or_congr_right ?_)
  rcases string_or_nonzero m dest destlen with ⟨d, hdl, hds⟩ | hn
  · have hnl : strnlen m dest destlen = d := by
      rw [strnlen_of_string hds]
      omega
    rw [hnl] at hd ⊢
    rw [strlen_of_string hds (by omega)]
    by_cases hfit : d + (l + 1) ≤ destlen
    · rw [wrap_fits (hd hfit), strcat_order_tests hs hds]
      exact or_congr_left (by omega)
    · exact iff_of_true (Or.inl (by omega)) (Or.inl (by omega))
  · have hnl := strnlen_of_nonzero hn
    have hge := le_strlen_of_nonzero hn (by omega)
    exact iff_of_true (Or.inl (by omega)) (Or.inl (by omega))

/-- A wrapper aborts on the forbidden calls alone, and does what the unchecked function does on
every other. -/
structure Exact (checked : Except String (ByteMem × ℕ)) (unchecked : ByteMem × ℕ)
    (forbidden : Prop) : Prop where
  aborts : Aborts checked ↔ forbidden
  result : ∀ r, checked = .ok r → r = unchecked

theorem exact_of_guard {g : Except String Unit} {unchecked : ByteMem × ℕ} {forbidden : Prop}
    (h : Aborts g ↔ forbidden) : Exact (g >>= fun _ => pure unchecked) unchecked forbidden :=
  ⟨(aborts_guard_bind g unchecked).trans h, fun _ => guard_bind_ok⟩

theorem assertThat_bind_ok {β : Type} {c : Prop} [Decidable c] {text : String}
    {k : Unit → Except String β} {r : β} (h : (assertThat c text >>= k) = .ok r) :
    k () = .ok r := by
  by_cases hc : c
  · simpa [assertThat, hc, bind, Except.bind] using h
  · simp [assertThat, hc, bind, Except.bind] at h

theorem strcatChk_result (h : strcatChk m dest src destlen = .ok r) :
    r = strcat m dest src := by
  have h := assertThat_bind_ok (assertThat_bind_ok (assertThat_bind_ok h))
  split at h <;> exact guard_bind_ok h

/-- The five unlimited wrappers refuse null pointers, overflow of `destlen` and overlap of
the bytes read and written, and nothing else. -/
theorem byte_string_checks_exact (m : ByteMem) (dest src n destlen : ℕ) :
    ((n ≤ destlen → Fits dest n ∧ Fits src n) →
      Exact (memcpyChk m dest src n destlen) (memcpy m dest src n)
        (dest = 0 ∨ src = 0 ∨ destlen < n ∨ Overlap dest n src n) ∧
      Exact (mempcpyChk m dest src n destlen) (mempcpy m dest src n)
        (dest = 0 ∨ src = 0 ∨ destlen < n ∨ Overlap dest n src n)) ∧
    (∀ l, StringAt m src l → Fits src (l + 1) →
      ((l + 1 ≤ destlen → Fits dest (l + 1)) →
        Exact (strcpyChk m dest src destlen) (strcpy m dest src)
          (dest = 0 ∨ src = 0 ∨ (strcpyAccess m dest src).WritesPast (dest + destlen) ∨
            (strcpyAccess m dest src).ReadsWritten) ∧
        Exact (stpcpyChk m dest src destlen) (stpcpy m dest src)
          (dest = 0 ∨ src = 0 ∨ (strcpyAccess m dest src).WritesPast (dest + destlen) ∨
            (strcpyAccess m dest src).ReadsWritten)) ∧
      (strnlen m dest destlen + (l + 1) < addressSpace →
        (strnlen m dest destlen + (l + 1) ≤ destlen →
          Fits dest (strnlen m dest destlen + (l + 1))) →
        Exact (strcatChk m dest src destlen) (strcat m dest src)
          (dest = 0 ∨ src = 0 ∨ (strcatAccess m dest src).WritesPast (dest + destlen) ∨
            (strcatAccess m dest src).ReadsWritten))) := by
  refine ⟨fun h => ?_, fun l hs hl => ⟨fun hd => ?_, fun ht hd => ?_⟩⟩
  · exact ⟨exact_of_guard (copyGuard_aborts_iff _ _ h), exact_of_guard (copyGuard_aborts_iff _ _ h)⟩
  · exact ⟨exact_of_guard (string_guard_aborts_iff _ _ hs hl hd),
      exact_of_guard (string_guard_aborts_iff _ _ hs hl hd)⟩
  · exact ⟨strcatChk_aborts_iff hs hl ht hd, fun _ => strcatChk_result⟩

def abAt32 : ByteMem := fun a => if a = 32 then 97 else if a = 33 then 98 else 0

theorem byte_string_checks_exact_ab :
    Exact (memcpyChk abAt32 16 32 3 8) (memcpy abAt32 16 32 3)
      (16 = 0 ∨ 32 = 0 ∨ 8 < 3 ∨ Overlap 16 3 32 3) ∧
    Exact (strcpyChk abAt32 16 32 8) (strcpy abAt32 16 32)
      (16 = 0 ∨ 32 = 0 ∨ (strcpyAccess abAt32 16 32).WritesPast (16 + 8) ∨
        (strcpyAccess abAt32 16 32).ReadsWritten) ∧
    Exact (strcatChk abAt32 16 32 8) (strcat abAt32 16 32)
      (16 = 0 ∨ 32 = 0 ∨ (strcatAccess abAt32 16 32).WritesPast (16 + 8) ∨
        (strcatAccess abAt32 16 32).ReadsWritten) := by
  have h := byte_string_checks_exact abAt32 16 32 3 8
  have hs := h.2 2 ⟨by decide, by decide⟩ (by decide)
  exact ⟨(h.1 (by decide)).1, (hs.1 (by decide)).1, hs.2 (by decide) (by decide)⟩

/-- A null destination is refused even when no byte is to be copied. -/
theorem memcpyChk_null_aborts :
    ¬ (Aborts (memcpyChk (fun _ => 0) 0 16 0 0) ↔ 0 < 0 ∨ Overlap 0 0 16 0) := by
  decide

section

variable (m : ByteMem) (dest src n destlen : ℕ)

def StrncatOverflows : Prop :=
  ∀ d, StringAt m dest d → destlen < d + min n (strlen m src) + 1

/-- What the code asks of a call that does not overflow: room for the whole source string, before
`src` when `dest` comes first, and `n` bytes before `dest` when `src` comes first -/
def StrncatAccepted : Prop :=
  dest ≠ 0 ∧ src ≠ 0 ∧ strlen m dest + strlen m src + 1 ≤ destlen ∧
    (dest < src → dest + (strlen m dest + strlen m src + 1) ≤ src) ∧
    (src ≤ dest → wrap (src + n) ≤ dest)

theorem strncatChk_aborts :
    Aborts (strncatChk m dest src n destlen) ↔
      dest = 0 ∨ src = 0 ∨
        destlen < wrap (strnlen m dest destlen + strnlen m src destlen + 1) ∨
        (dest < src ∧
          src < wrap (dest + wrap (strnlen m dest destlen + strnlen m src destlen + 1))) ∨
        (src ≤ dest ∧ dest < wrap (src + n)) := by
  unfold strncatChk
  simp only [aborts_assertThat_bind, not_not, ne_eq, not_le]
  refine or_congr_right (or_congr_right (or_congr_right ?_))
  split <;>
    rw [aborts_guard_bind, aborts_assertThat] <;>
    omega

end

theorem strncatChk_aborts_of_overflow (hs : StringAt m src l)
    (ht : strnlen m dest destlen + (l + 1) < addressSpace)
    (ho : StrncatOverflows m dest src n destlen) :
    Aborts (strncatChk m dest src n destlen) := by
  have hl : strlen m src = l := strlen_of_string hs (by omega)
  have hsl : strnlen m src destlen = min l destlen := strnlen_of_string hs destlen
  rw [strncatChk_aborts]
  refine Or.inr (Or.inr (Or.inl ?_))
  rw [wrap, Nat.mod_eq_of_lt (by omega)]
  rcases string_or_nonzero m dest destlen with ⟨d, hdl, hds⟩ | hn
  · have := ho d hds
    rw [strnlen_of_string hds]
    omega
  · rw [strnlen_of_nonzero hn]
    omega

theorem strncatChk_aborts_iff_of_fits (hs : StringAt m src l)
    (ht : strnlen m dest destlen + (l + 1) < addressSpace)
    (hd : strnlen m dest destlen + (l + 1) ≤ destlen → Fits dest (strnlen m dest destlen + (l + 1)))
    (ho : ¬ StrncatOverflows m dest src n destlen) :
    Aborts (strncatChk m dest src n destlen) ↔ ¬ StrncatAccepted m dest src n destlen := by
  have hl : strlen m src = l := strlen_of_string hs (by omega)
  have hsl : strnlen m src destlen = min l destlen := strnlen_of_string hs destlen
  simp only [StrncatOverflows, not_forall] at ho
  obtain ⟨d, hds, hfit⟩ := ho
  have hnl : strnlen m dest destlen = d := by
    rw [strnlen_of_string hds]
    omega
  rw [hnl] at hd
  rw [strncatChk_aborts, StrncatAccepted, hnl, hsl, strlen_of_string hds (by omega)]
  have hw : wrap (d + min l destlen + 1) = d + min l destlen + 1 := Nat.mod_eq_of_lt (by omega)
  rw [hw]
  by_cases hroom : d + l + 1 ≤ destlen
  · rw [show d + min l destlen + 1 = d + (l + 1) by omega, wrap_fits (hd (by omega))]
    omega
  · omega

theorem limited_guard_aborts_iff (hd : n ≤ destlen → Fits dest n)
    (ho : ¬ (strncpyAccess m dest src n).ReadsWritten) :
    (Aborts (copyGuard f b dest src n destlen) ↔ destlen < n) ↔
      destlen < n ∨ (dest ≠ 0 ∧ src ≠ 0 ∧ (src ≤ dest → src + n ≤ dest)) := by
  rw [copyGuard_aborts]
  by_cases hn : n ≤ destlen
  · have hf := hd hn
    rw [Access.ReadsWritten, overlap_iff] at ho
    simp only [strncpyAccess] at ho
    rw [wrap_fits hf]
    rcases Nat.lt_or_ge dest src with hlt | hge
    · omega
    · have hs : Fits src n := by
        unfold Fits at hf ⊢
        omega
      rw [wrap_fits hs]
      omega
  · have hlt : destlen < n := by omega
    simp [hlt]

/-- Exactly when the length-limited wrappers agree with their specification. -/
theorem length_limited_checks_hold_iff (m : ByteMem) (dest src n destlen l : ℕ)
    (hs : StringAt m src l) (ht : strnlen m dest destlen + (l + 1) < addressSpace)
    (hcat : strnlen m dest destlen + (l + 1) ≤ destlen →
      Fits dest (strnlen m dest destlen + (l + 1)))
    (hcpy : n ≤ destlen → Fits dest n) :
    ((¬ (strncatAccess m dest src n).ReadsWritten →
        (Aborts (strncatChk m dest src n destlen) ↔ StrncatOverflows m dest src n destlen)) ∧
      (¬ (strncpyAccess m dest src n).ReadsWritten →
        (Aborts (strncpyChk m dest src n destlen) ↔ destlen < n) ∧
        (Aborts (stpncpyChk m dest src n destlen) ↔ destlen < n))) ↔
    ((¬ (strncatAccess m dest src n).ReadsWritten →
        StrncatOverflows m dest src n destlen ∨ StrncatAccepted m dest src n destlen) ∧
      (¬ (strncpyAccess m dest src n).ReadsWritten →
        destlen < n ∨ (dest ≠ 0 ∧ src ≠ 0 ∧ (src ≤ dest → src + n ≤ dest)))) := by
  refine and_congr (imp_congr_right fun _ => ?_) (imp_congr_right fun ho => ?_)
  · by_cases hov : StrncatOverflows m dest src n destlen
    · simp [hov, strncatChk_aborts_of_overflow hs ht hov]
    · rw [strncatChk_aborts_iff_of_fits hs ht hcat hov]
      simp [hov]
  · unfold strncpyChk stpncpyChk
    rw [aborts_guard_bind, aborts_guard_bind, and_self]
    exact limited_guard_aborts_iff _ _ hcpy ho

def helloAt32 : ByteMem := fun a =>
  if a = 32 then 104 else if a = 33 then 101 else if a = 34 then 108 else if a = 35 then 108
  else if a = 36 then 111 else 0

/-- Two bytes of `"hello"` and the capacity for all of it -/
theorem length_limited_checks_roomy :
    (¬ (strncatAccess helloAt32 16 32 2).ReadsWritten →
      (Aborts (strncatChk helloAt32 16 32 2 8) ↔ StrncatOverflows helloAt32 16 32 2 8)) ∧
    (¬ (strncpyAccess helloAt32 16 32 2).ReadsWritten →
      (Aborts (strncpyChk helloAt32 16 32 2 8) ↔ 8 < 2) ∧
      (Aborts (stpncpyChk helloAt32 16 32 2 8) ↔ 8 < 2)) := by
  have hsrc : StringAt helloAt32 32 5 := ⟨by decide, by decide⟩
  have hdest : StringAt helloAt32 16 0 := .zero (by decide)
  have haccepted : StrncatAccepted helloAt32 16 32 2 8 := by
    rw [StrncatAccepted, strlen_of_string hsrc (by decide), strlen_of_string hdest (by decide)]
    decide
  refine (length_limited_checks_hold_iff helloAt32 16 32 2 8 5 hsrc (by decide) (by decide)
    (by decide)).mpr ⟨fun _ => .inr haccepted, fun _ => .inr (by decide)⟩

/-- Appending two bytes of `"hello"` to an empty string of capacity four is refused. -/
theorem strncatChk_short_append_aborts :
    Aborts (strncatChk helloAt32 16 32 2 4) ∧
      ¬ (strncatAccess helloAt32 16 32 2).ReadsWritten ∧
      ¬ StrncatOverflows helloAt32 16 32 2 4 := by
  refine ⟨by decide, ?_, ?_⟩
  · unfold Access.ReadsWritten
    decide
  · intro h
    have := h 0 (StringAt.zero (by decide))
    revert this
    decide

end StringFortify
