import GcompatMusl.StringFortify

/-! # Fortified wide-character functions

`__wcscpy_chk` and `__wcscat_chk` over a memory of units of four bytes. Pointers count units, so
that a pointer wraps at `2 ^ 62` of them. -/
namespace WideFortify

open FlatMemory MuslString StringFortify

abbrev WideMem := Mem UInt32

def unitSpace : ℕ := 2 ^ 62

def unitPtr (p : ℕ) : ℕ := p % unitSpace

def wcslenLoop (m : WideMem) : ℕ → ℕ → ℕ
  | 0, s => s
  | fuel + 1, s => if m s = 0 then s else wcslenLoop m fuel (s + 1)

section

variable (m : WideMem)

def wcslen (s : ℕ) : ℕ := wcslenLoop m unitSpace s - s

def wcscpyLoop : ℕ → WideMem → ℕ → ℕ → WideMem
  | 0, m, _, _ => m
  | fuel + 1, m, d, s =>
    if m s = 0 then store m d (m s) else wcscpyLoop fuel (store m d (m s)) (d + 1) (s + 1)

def wcscpy (d s : ℕ) : WideMem × ℕ := (wcscpyLoop unitSpace m d s, d)

def wcscat (dest src : ℕ) : WideMem × ℕ :=
  ((wcscpy m (dest + wcslen m dest) src).1, dest)

def wcscpyChk (dest src n : ℕ) : Except String (WideMem × ℕ) := do
  assertThat (dest ≠ 0) "dest != NULL"
  assertThat (src ≠ 0) "src != NULL"
  let srclen := wrap (wcslen m src + 1)
  assertThat (n ≥ srclen) "n >= srclen"
  if dest < src then assertThat (unitPtr (dest + n) ≤ src) "dest + n <= src"
  else assertThat (unitPtr (src + n) ≤ dest) "src + n <= dest"
  return wcscpy m dest src

/-- The loop of `__wcscat_chk`, which counts `n` down, and the terminator -/
def catLoop : ℕ → WideMem → ℕ → ℕ → WideMem
  | 0, m, d, _ => store m d 0
  | n + 1, m, d, s => if m s = 0 then store m d 0 else catLoop n (store m d (m s)) (d + 1) (s + 1)

def wcscatChk (dest src n : ℕ) : Except String (WideMem × ℕ) := do
  let destlen := wcslen m dest
  assertThat (wrap (destlen + wcslen m src + 1) ≤ n) "destlen + wcslen(src) + 1 <= n"
  return (catLoop n m (dest + destlen) src, dest)

end

/-- A wide string of `l` units at `p` -/
structure Wide (m : WideMem) (p l : ℕ) : Prop where
  string : StringAt m p l
  space : p ≠ 0 ∧ p + l < unitSpace

variable {m : WideMem} {dest src n l : ℕ}

theorem wcslenLoop_of_string (h : StringAt m s l) (hl : l < fuel) :
    wcslenLoop m fuel s = s + l := by
  induction l generalizing s fuel with
  | zero =>
    obtain ⟨fuel, rfl⟩ := Nat.exists_eq_add_of_lt hl
    rw [wcslenLoop, if_pos h.head_eq, Nat.add_zero]
  | succ l ih =>
    obtain ⟨fuel, rfl⟩ := Nat.exists_eq_add_of_lt hl
    rw [wcslenLoop, if_neg h.head_ne, ih h.tail (by omega)]
    omega

theorem Wide.wcslen (h : Wide m s l) : wcslen m s = l := by
  have hl : l < unitSpace := lt_of_le_of_lt (Nat.le_add_left l s) h.space.2
  rw [WideFortify.wcslen, wcslenLoop_of_string h.string hl, Nat.add_sub_cancel_left]

theorem stringAt_store (h : StringAt m s l) (hd : d < s ∨ s + l < d) (v : UInt32) :
    StringAt (store m d v) s l := by
  refine ⟨?_, fun k hk => ?_⟩
  · rw [store_ne _ _ (by omega)]
    exact h.terminator
  · rw [store_ne _ _ (by omega)]
    exact h.nonzero k hk

theorem copied_head (hd : d + (l + 1) < s ∨ s + (l + 1) < d) :
    writeList (store m d (m s)) (d + 1) (readList (store m d (m s)) (s + 1) l ++ [0]) =
      writeList m d (readList m s (l + 1) ++ [0]) := by
  have hsame : readList (store m d (m s)) (s + 1) l = readList m (s + 1) l := by
    refine readList_congr fun a ha => store_ne _ _ ?_
    rw [InRange] at ha
    omega
  rw [hsame, readList_succ]
  rfl

/-- What both loops leave: the units of the string and one terminator -/
theorem wcscpyLoop_spec (h : StringAt m s l) (hd : d + l < s ∨ s + l < d) (hl : l < fuel) :
    wcscpyLoop fuel m d s = writeList m d (readList m s l ++ [0]) := by
  induction l generalizing m d s fuel with
  | zero =>
    obtain ⟨fuel, rfl⟩ := Nat.exists_eq_add_of_lt hl
    rw [wcscpyLoop, h.head_eq]
    rfl
  | succ l ih =>
    obtain ⟨fuel, rfl⟩ := Nat.exists_eq_add_of_lt hl
    rw [wcscpyLoop, if_neg h.head_ne, ← copied_head hd]
    exact ih (stringAt_store h.tail (by omega) _) (by omega) (by omega)

theorem catLoop_spec (h : StringAt m s l) (hd : d + l < s ∨ s + l < d) (hl : l ≤ n) :
    catLoop n m d s = writeList m d (readList m s l ++ [0]) := by
  induction l generalizing m d s n with
  | zero =>
    cases n with
    | zero => rfl
    | succ n =>
      rw [catLoop, if_pos h.head_eq]
      rfl
  | succ l ih =>
    obtain ⟨n, rfl⟩ := Nat.exists_eq_add_of_le' hl
    rw [← Nat.add_assoc, catLoop, if_neg h.head_ne, ← copied_head hd]
    exact ih (stringAt_store h.tail (by omega) _) (by omega) (by omega)

theorem apart_of_not_overlap (h : ¬ Overlap s (l + 1) d (l + 1)) : d + l < s ∨ s + l < d := by
  rw [overlap_iff] at h
  omega

theorem wrap_length (h : l < 2 * unitSpace) : wrap (l + 1) = l + 1 := by
  refine Nat.mod_eq_of_lt ?_
  rw [unitSpace] at h
  rw [addressSpace]
  omega

/-- What is asked of a call of `__wcscpy_chk` with a string of `l` units -/
def CopyRight (m : WideMem) (dest src n l : ℕ) : Prop :=
  (l + 1 ≤ n → ¬ Overlap src (l + 1) dest (l + 1) →
    wcscpyChk m dest src n = .ok (wcscpy m dest src)) ∧
  (n < l + 1 → Aborts (wcscpyChk m dest src n))

def CatRight (m : WideMem) (dest src n l d : ℕ) : Prop :=
  (d + l + 1 ≤ n → ¬ Overlap src (l + 1) (dest + d) (l + 1) →
    wcscatChk m dest src n = .ok (wcscat m dest src) ∧
    (wcscat m dest src).1 = writeList m (dest + d) (readList m src l ++ [0])) ∧
  (n < d + l + 1 → Aborts (wcscatChk m dest src n))

theorem wcscatChk_right (hs : Wide m src l) (hd : Wide m dest d) : CatRight m dest src n l d := by
  have hwrap : wrap (d + l + 1) = d + l + 1 := by
    have hsrc := hs.space.2
    have hdest := hd.space.2
    exact wrap_length (by omega)
  refine ⟨fun hfits hno => ?_, fun hlong => ?_⟩
  · have hapart := apart_of_not_overlap hno
    have hcat : (wcscat m dest src).1 = writeList m (dest + d) (readList m src l ++ [0]) := by
      rw [wcscat, hd.wcslen]
      exact wcscpyLoop_spec hs.string hapart (lt_of_le_of_lt (Nat.le_add_left l src) hs.space.2)
    refine ⟨?_, hcat⟩
    rw [wcscatChk, hs.wcslen, hd.wcslen, hwrap, assertThat, if_pos hfits,
      catLoop_spec hs.string hapart (by omega), ← hcat]
    rfl
  · rw [wcscatChk, hs.wcslen, hd.wcslen, hwrap, aborts_assertThat_bind]
    exact .inl (Nat.not_le_of_gt hlong)

theorem wcscpyChk_aborts (hs : Wide m src l) (hdest : dest ≠ 0) : Aborts (wcscpyChk m dest src n) ↔
    n < l + 1 ∨ max dest src < unitPtr (min dest src + n) := by
  have hlen : wrap (WideFortify.wcslen m src + 1) = l + 1 := by
    have hsrc := hs.space.2
    rw [hs.wcslen]
    exact wrap_length (by omega)
  simp only [wcscpyChk, hlen, aborts_assertThat_bind, not_not, not_le]
  rw [or_iff_right hdest, or_iff_right hs.space.1]
  refine or_congr_right ?_
  split_ifs with hlt
  · rw [aborts_guard_bind, aborts_assertThat, max_eq_right hlt.le, min_eq_left hlt.le, not_le]
  · have hle : src ≤ dest := Nat.le_of_not_lt hlt
    rw [aborts_guard_bind, aborts_assertThat, max_eq_left hle, min_eq_right hle, not_le]

theorem wcscpyChk_ok (h : wcscpyChk m dest src n = .ok r) : r = wcscpy m dest src := by
  rw [wcscpyChk] at h
  dsimp only [assertThat, bind, pure, Except.pure] at h
  split_ifs at h <;> cases h
  all_goals rfl

theorem wcscpyChk_right_iff (hs : Wide m src l) (hdest : dest ≠ 0) : CopyRight m dest src n l ↔
    (l + 1 ≤ n → ¬ Overlap src (l + 1) dest (l + 1) →
      unitPtr (min dest src + n) ≤ max dest src) := by
  have haborts := wcscpyChk_aborts (n := n) hs hdest
  constructor
  · intro h hfits hno
    by_contra hfar
    have habort := haborts.mpr (.inr (Nat.lt_of_not_le hfar))
    rw [h.1 hfits hno] at habort
    exact not_aborts_ok _ habort
  · intro h
    refine ⟨fun hfits hno => ?_, fun hlong => haborts.mpr (.inl hlong)⟩
    cases hr : wcscpyChk m dest src n with
    | ok r => rw [wcscpyChk_ok hr]
    | error text =>
      have hnear := h hfits hno
      rcases haborts.mp ⟨text, hr⟩ with hlong | hfar <;> omega

/-- The wrappers are right just if the capacity, not the length, reaches no further from the lower
of the two pointers than to the other one. -/
theorem wide_checks_right_iff (hs : Wide m src l) (hdest : dest ≠ 0) :
    (CopyRight m dest src n l ∧ ∀ d, Wide m dest d → CatRight m dest src n l d) ↔
    (l + 1 ≤ n → ¬ Overlap src (l + 1) dest (l + 1) →
      unitPtr (min dest src + n) ≤ max dest src) := by
  rw [wcscpyChk_right_iff hs hdest]
  exact and_iff_left fun _ hd => wcscatChk_right hs hd

def wideA : WideMem := fun p => if p = 100 then 97 else 0

theorem wideA_string : Wide wideA 100 1 := ⟨⟨rfl, by decide⟩, by decide⟩

theorem wide_checks_right_near : CopyRight wideA 102 100 2 1 := by
  refine ((wide_checks_right_iff wideA_string (by decide)).mpr fun _ _ => ?_).1
  decide

/-- A string of one unit, copied to an array of eight units that begins four units behind it -/
theorem wcscpyChk_roomy_aborts : Wide wideA 100 1 ∧ 1 + 1 ≤ 8 ∧ ¬ Overlap 100 2 104 8 ∧
    Aborts (wcscpyChk wideA 104 100 8) :=
  ⟨wideA_string, by decide, by decide,
    (wcscpyChk_aborts wideA_string (by decide)).mpr (.inr (by decide))⟩

end WideFortify
