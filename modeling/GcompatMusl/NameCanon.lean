import Mathlib.Data.UInt
import Mathlib.Tactic.Common

/-! # Canonical names

`__libc_ns_makecanon` and `__libc_ns_samename` of `custom.c`. A string is the list of its bytes, and
its end is looked at with the last byte first. -/
namespace NameCanon

open List

abbrev dot : UInt8 := 46

abbrev backslash : UInt8 := 92

def NS_MAXDNAME : ℕ := 1025

/-- The string `dst` up to `n` after the loop, and the positions where the loop stores -/
def stripDots : List UInt8 → List UInt8 × List ℕ
  | [] => ([], [])
  | c :: r =>
    if c = dot then
      if r.head? = some backslash ∧ r[1]? ≠ some backslash then (c :: r, [])
      else ((stripDots r).1, r.length :: (stripDots r).2)
    else (c :: r, [])

/-- The string in `dst`, or none for -1, and the positions of all stores -/
def makecanon (src : List UInt8) (dstsize : ℕ) : Option (List UInt8) × List ℕ :=
  if dstsize < src.length + 2 then (none, [])
  else
    let (r, w) := stripDots src.reverse
    (some (r.reverse ++ [dot]), range (src.length + 1) ++ w ++ [r.length, r.length + 1])

def tolower (c : UInt8) : UInt8 := if c - 65 < 26 then c ||| 32 else c

def strcasecmp : List UInt8 → List UInt8 → ℤ
  | a :: l, b :: r =>
    if tolower a = tolower b then strcasecmp l r else (tolower a).toNat - (tolower b).toNat
  | l, r => (tolower (l.headD 0)).toNat - (tolower (r.headD 0)).toNat

def samename (a b : List UInt8) : ℤ :=
  match (makecanon a NS_MAXDNAME).1, (makecanon b NS_MAXDNAME).1 with
  | some ta, some tb => if strcasecmp ta tb = 0 then 1 else 0
  | _, _ => -1

/-- The backslashes at the end -/
def slashes (r : List UInt8) : ℕ := (r.takeWhile (· = backslash)).length

/-- Without the dots at the end that have a `loose` number of backslashes before them -/
def trim (loose : ℕ → Prop) [DecidablePred loose] : List UInt8 → List UInt8
  | [] => []
  | c :: r => if c = dot ∧ loose (slashes r) then trim loose r else c :: r

/-- What the code leaves -/
def stripped (s : List UInt8) : List UInt8 := (trim (· ≠ 1) s.reverse).reverse

/-- A string without its unescaped trailing dots -/
def removed (s : List UInt8) : List UInt8 := (trim (· % 2 = 0) s.reverse).reverse

/-- Three backslashes, or five and so on, before the dots at the end -/
def misread : List UInt8 → Bool
  | [] => false
  | c :: r => c = dot && (slashes r % 2 = 1 && slashes r ≠ 1 || misread r)

variable {r s a b : List UInt8} {size : ℕ}

@[simp] theorem slashes_dot : slashes (dot :: r) = 0 := rfl

theorem trim_of_slashes [DecidablePred l] (h : slashes r ≠ 0) : trim l r = r := by
  cases r with
  | nil => rfl
  | cons c r =>
    rw [trim, if_neg]
    rintro ⟨rfl, _⟩
    exact h slashes_dot

theorem misread_slashes (h : misread r) : slashes r = 0 := by
  cases r with
  | nil => rfl
  | cons c r =>
    rw [misread, Bool.and_eq_true, decide_eq_true_iff] at h
    rw [h.1, slashes_dot]

variable (r : List UInt8)

theorem trim_even :
    (misread r → trim (· % 2 = 0) r = dot :: trim (· ≠ 1) r) ∧
    (¬ misread r → trim (· % 2 = 0) r = trim (· ≠ 1) r) := by
  induction r with
  | nil => simp [misread, trim]
  | cons c r ih =>
    by_cases hc : c = dot
    · subst hc
      by_cases heven : slashes r % 2 = 0
      · have hne : slashes r ≠ 1 := by omega
        simpa [misread, trim, heven, hne] using ih
      · have hr : ¬ misread r := fun h => heven (by rw [misread_slashes h])
        have hkeep : trim (· ≠ 1) r = r := trim_of_slashes (by omega)
        by_cases hone : slashes r = 1
        · simp [misread, trim, hone, hr]
        · have hodd : slashes r % 2 = 1 := by omega
          simp [misread, trim, hodd, hone, hkeep]
    · simp [misread, trim, hc]

theorem removed_eq_iff (s : List UInt8) : removed s = stripped s ↔ ¬ misread s.reverse := by
  rw [removed, stripped]
  by_cases h : misread s.reverse
  · simp [(trim_even _).1 h, h]
  · simp [(trim_even _).2 h, h]

theorem escaped_iff :
    r.head? = some backslash ∧ r[1]? ≠ some backslash ↔ slashes r = 1 := by
  rcases r with _ | ⟨a, _ | ⟨b, r⟩⟩
  · simp [slashes]
  · by_cases ha : a = backslash <;> simp [slashes, ha]
  · by_cases ha : a = backslash <;> by_cases hb : b = backslash <;> simp [slashes, ha, hb]

theorem stripDots_eq : (stripDots r).1 = trim (· ≠ 1) r := by
  induction r with
  | nil => rfl
  | cons c r ih =>
    rw [stripDots, trim]
    by_cases hone : slashes r = 1 <;> by_cases hc : c = dot <;>
      simp [escaped_iff, hone, hc, ih]

theorem stripDots_stores :
    (stripDots r).1 <:+ r ∧ ∀ i ∈ (stripDots r).2, i < r.length := by
  induction r with
  | nil => simp [stripDots]
  | cons c r ih =>
    rw [stripDots]
    split_ifs
    · simp
    · refine ⟨ih.1.trans (suffix_cons c r), ?_⟩
      simp only [mem_cons, forall_eq_or_imp]
      exact ⟨Nat.lt_succ_self _, fun i hi => Nat.lt_succ_of_lt (ih.2 i hi)⟩
    · simp

theorem makecanon_eq (h : s.length + 2 ≤ size) :
    (makecanon s size).1 = some (stripped s ++ [dot]) := by
  rw [makecanon, if_neg (by omega), stripped, ← stripDots_eq]

theorem makecanon_none (h : size < s.length + 2) : makecanon s size = (none, []) := if_pos h

theorem tolower_ne_zero (hc : c ≠ 0) : (tolower c).toNat ≠ 0 := by
  intro h
  have h := UInt8.toNat_inj.mp (h.trans UInt8.toNat_zero.symm)
  unfold tolower at h
  split at h
  · exact hc (UInt8.or_eq_zero_iff.mp h).1
  · exact hc h

/-- Equal but for the case of letters -/
abbrev Alike (x y : List UInt8) : Prop := x.map tolower = y.map tolower

theorem strcasecmp_eq_zero (x y : List UInt8) (hx : 0 ∉ x) (hy : 0 ∉ y) :
    strcasecmp x y = 0 ↔ Alike x y := by
  unfold Alike
  fun_induction strcasecmp x y with
  | case1 a x b y heq ih =>
    refine (ih (fun h => hx (mem_cons_of_mem a h)) fun h => hy (mem_cons_of_mem b h)).trans ?_
    simp [heq]
  | case2 a x b y hne =>
    have hnat : (tolower a).toNat ≠ (tolower b).toNat := fun h => hne (UInt8.toNat_inj.mp h)
    simp [hne]
    omega
  | case3 x y hcons =>
    have h0 : (tolower 0).toNat = 0 := by decide
    rcases x with _ | ⟨a, x⟩ <;> rcases y with _ | ⟨b, y⟩
    · simp
    · have := tolower_ne_zero fun h => hy (h ▸ mem_cons_self)
      simp [h0]
      omega
    · have := tolower_ne_zero fun h => hx (h ▸ mem_cons_self)
      simp [h0]
      omega
    · exact (hcons a x b y rfl rfl).elim

theorem zero_notMem_canon (h0 : 0 ∉ s) : 0 ∉ stripped s ++ [dot] := by
  rw [mem_append]
  rintro (h | h)
  · rw [stripped, mem_reverse, ← stripDots_eq] at h
    exact h0 (mem_reverse.mp ((stripDots_stores _).1.mem h))
  · cases mem_singleton.mp h

abbrev Fits (s : List UInt8) : Prop := s.length + 2 ≤ NS_MAXDNAME

theorem samename_eq_one (ha : 0 ∉ a) (hb : 0 ∉ b) :
    samename a b = 1 ↔ Fits a ∧ Fits b ∧ Alike (stripped a) (stripped b) := by
  by_cases hfa : Fits a
  · by_cases hfb : Fits b
    · rw [samename, makecanon_eq hfa, makecanon_eq hfb]
      simp [strcasecmp_eq_zero _ _ (zero_notMem_canon ha) (zero_notMem_canon hb), hfa, hfb]
    · simp [samename, makecanon_none (Nat.not_le.mp hfb), hfb]
  · simp [samename, makecanon_none (Nat.not_le.mp hfa), hfa]

/-- What is said of a call of `makecanon` -/
structure Canonical (src : List UInt8) (size : ℕ) (r : Option (List UInt8) × List ℕ) : Prop where
  refused : r = (none, []) ↔ size < src.length + 2
  stored : src.length + 2 ≤ size → r.1 = some (removed src ++ [dot])
  inside : ∀ i ∈ r.2, i < size

theorem canonical_iff (s : List UInt8) :
    (∀ size, Canonical s size (makecanon s size)) ↔ ¬ misread s.reverse := by
  rw [← removed_eq_iff]
  constructor
  · intro h
    have hstored := (h (s.length + 2)).stored (Nat.le_refl _)
    rw [makecanon_eq (Nat.le_refl _)] at hstored
    simpa using hstored.symm
  · intro h size
    by_cases hsize : size < s.length + 2
    · rw [makecanon_none hsize]
      exact ⟨by simp [hsize], fun _ => by omega, nofun⟩
    · have heq := makecanon_eq (Nat.not_lt.mp hsize)
      refine ⟨?_, fun _ => by rw [heq, h], ?_⟩
      · simp [hsize, Prod.ext_iff, heq]
      · obtain ⟨hle, hlt⟩ := stripDots_stores s.reverse
        have hle := hle.length_le
        rw [length_reverse] at hle hlt
        rw [makecanon, if_neg hsize]
        simp only [mem_append, mem_range, mem_cons, not_mem_nil, or_false]
        rintro i ((hi | hi) | rfl | rfl)
        · omega
        · have := hlt i hi
          omega
        · omega
        · omega

/-- What is said of two names holds just when neither ends in misread dots, and names that are the
same have room. -/
theorem names_canonical_iff (ha : 0 ∉ a) (hb : 0 ∉ b) :
    ((∀ size, Canonical a size (makecanon a size)) ∧ (∀ size, Canonical b size (makecanon b size)) ∧
      (samename a b = 1 ↔ Alike (removed a) (removed b))) ↔
    ¬ misread a.reverse ∧ ¬ misread b.reverse ∧
      (Alike (removed a) (removed b) → Fits a ∧ Fits b) := by
  rw [canonical_iff, canonical_iff, samename_eq_one ha hb]
  refine and_congr_right fun hma => and_congr_right fun hmb => ?_
  rw [(removed_eq_iff a).mpr hma, (removed_eq_iff b).mpr hmb]
  tauto

theorem names_canonical_iff_letters :
    (∀ size, Canonical [65] size (makecanon [65] size)) ∧
      (∀ size, Canonical [97, 46] size (makecanon [97, 46] size)) ∧
      (samename [65] [97, 46] = 1 ↔ Alike (removed [65]) (removed [97, 46])) :=
  (names_canonical_iff (by decide) (by decide)).mpr (by decide)

/-- The dot behind three backslashes is escaped and is stripped all the same. -/
theorem escaped_dot_stripped :
    (makecanon [92, 92, 92, 46] 6).1 = some [92, 92, 92, 46] ∧
      removed [92, 92, 92, 46] ++ [dot] = [92, 92, 92, 46, 46] ∧
      samename [92, 92, 92, 46] [92, 92, 92] = 1 ∧
      ¬ Alike (removed [92, 92, 92, 46]) (removed [92, 92, 92]) := by
  decide

theorem slashes_trim : slashes (trim (· ≠ 1) r) = 1 ↔ slashes r = 1 := by
  induction r with
  | nil => rfl
  | cons c r ih =>
    rw [trim]
    split
    · rename_i h
      rw [ih, h.1]
      simp [h.2]
    · rfl

theorem trim_trim : trim (· ≠ 1) (trim (· ≠ 1) r) = trim (· ≠ 1) r := by
  induction r with
  | nil => rfl
  | cons c r ih =>
    by_cases h : c = dot ∧ slashes r ≠ 1
    · rw [trim, if_pos h, ih]
    · rw [trim, if_neg h, trim, if_neg h]

theorem stripped_canon (s : List UInt8) :
    stripped (stripped s ++ [dot]) =
      if slashes s.reverse = 1 then stripped s ++ [dot] else stripped s := by
  rw [stripped, stripped, reverse_append]
  by_cases h : slashes s.reverse = 1
  · simp [trim, slashes_trim, h]
  · simp [trim, slashes_trim, h, trim_trim]

/-- A second call leaves the string as it is unless the name ends in one backslash. Then it is also
the same name, if both have room. -/
theorem canon_twice_iff {t : List UInt8} {size' : ℕ} (h0 : 0 ∉ s)
    (hcanon : (makecanon s size).1 = some t) (hsize' : t.length + 2 ≤ size') :
    ((makecanon t size').1 = some t ↔ slashes s.reverse ≠ 1) ∧
      (samename s t = 1 ↔ slashes s.reverse ≠ 1 ∧ Fits s ∧ Fits t) := by
  have hsize : s.length + 2 ≤ size := by
    by_contra h
    rw [makecanon_none (Nat.not_le.mp h)] at hcanon
    cases hcanon
  obtain rfl : stripped s ++ [dot] = t := Option.some.inj ((makecanon_eq hsize).symm.trans hcanon)
  rw [makecanon_eq hsize', samename_eq_one h0 (zero_notMem_canon h0), stripped_canon]
  by_cases h : slashes s.reverse = 1 <;> simp [h]

theorem canon_twice_iff_letter :
    ((makecanon [97, 46] 4).1 = some [97, 46] ↔ slashes [97] ≠ 1) ∧
      (samename [97] [97, 46] = 1 ↔ slashes [97] ≠ 1 ∧ Fits [97] ∧ Fits [97, 46]) :=
  canon_twice_iff (s := [97]) (t := [97, 46]) (by decide) (by decide : (makecanon [97] 3).1 = _)
    (by decide)

/-- The dot that is put behind a backslash is escaped by it. -/
theorem canon_of_backslash :
    (makecanon [97, 92] 8).1 = some [97, 92, 46] ∧
      (makecanon [97, 92, 46] 8).1 = some [97, 92, 46, 46] ∧
      samename [97, 92] [97, 92, 46] = 0 := by
  decide

end NameCanon
