import GcompatMusl.IconvDecoding

/-! # The code points that the decoders of `iconv` hand on

Three decoders can hand on a number that is not a scalar value: `EUC_KR` counts on from lead byte
`0xc8`, `GB18030` counts through the surrogates and beyond, and `SHIFT_JIS` reads behind its
table. -/
namespace Iconv

open Multibyte List Utf8
open BitVec (ofNat toNat_ofNat not_le)

theorem tally_eq_zero (h : tally p width row n = 0) (hj : j < n) :
    p (digit width row j) = false := by
  induction n with
  | zero => exact absurd hj (Nat.not_lt_zero j)
  | succ n ih =>
    rw [tally, Nat.add_eq_zero_iff] at h
    rcases Nat.lt_succ_iff_lt_or_eq.1 hj with hlt | rfl
    · exact ih h.1 hlt
    · cases hp : p (digit width row j) with
      | false => rfl
      | true =>
        rw [hp] at h
        cases h.2

theorem entry_outside (hwidth : 0 < width) (hlo : 0 < lo) (h : countBetween width rows lo hi = 0)
    (i : ℕ) : ¬ (lo ≤ entry width rows i ∧ entry width rows i ≤ hi) := by
  intro hin
  rw [entry] at hin
  by_cases hi : i / width < rows.length
  · rw [getD_eq_getElem _ _ hi] at hin
    rw [countBetween, countIn, List.sum_eq_zero_iff_forall_eq_nat] at h
    have hrow := h _ (mem_map_of_mem (getElem_mem hi))
    have hout := tally_eq_zero hrow (Nat.mod_lt i hwidth)
    rw [between_iff.2 hin] at hout
    cases hout
  · rw [getD_eq_default _ _ (Nat.le_of_not_lt hi), digit, Nat.zero_shiftRight,
      Nat.zero_mod] at hin
    omega

variable {d : ℕ} {b₀ : UInt8}

theorem scalar_of_outside (hv : v < 2 ^ 16) (h : ¬ (0xd800 ≤ v ∧ v ≤ 0xdfff)) : Scalar v := by
  rw [Scalar]
  omega

theorem entry_lt (i : ℕ) : entry width rows i < 2 ^ 16 := digit_lt _ _ _

theorem no_surrogates : countBetween 94 jis0208Rows 0xd800 0xdfff = 0 ∧
    countBetween 157 big5Rows 0xd800 0xdfff = 0 ∧
      countBetween 34 legacyCharsRows 0xd800 0xdfff = 0 ∧
    countBetween 12 (hkscsRows.take 406) 0xd800 0xdbff = 0 ∧
    countBetween 12 (hkscsRows.take 406) 0xdd00 0xdfff = 0 :=
  ⟨by decide +kernel, by decide +kernel, by decide +kernel, by decide +kernel, by decide +kernel⟩

theorem jis0208_scalar (i : ℕ) : Scalar (entry 94 jis0208Rows i) :=
  scalar_of_outside (entry_lt i) (entry_outside (by decide) (by decide) no_surrogates.1 i)

theorem legacy_chars_scalar (i : ℕ) : Scalar (legacy_chars i) :=
  scalar_of_outside (entry_lt i) (entry_outside (by decide) (by decide) no_surrogates.2.2.1 i)

/-- The surrogates in the HKSCS table all stand for pairs. The rest of the table is a bitmap. -/
theorem hkscs_outside (hi : i < 4867) (hpair : hkscs i / 256 ≠ 0xdc) :
    ¬ (0xd800 ≤ hkscs i ∧ hkscs i ≤ 0xdfff) := by
  obtain ⟨-, -, -, hlow, hhigh⟩ := no_surrogates
  have htake : entry 12 (hkscsRows.take 406) i = hkscs i := by
    rw [hkscs, entry, entry, getD_eq_getElem?_getD, getD_eq_getElem?_getD,
      getElem?_take_of_lt (by omega)]
  have h1 := entry_outside (by decide) (by decide) hlow i
  have h2 := entry_outside (by decide) (by decide) hhigh i
  omega

theorem countBetween_mono (width : ℕ) (rows : List ℕ) {e : ℕ} (hdc : d ≤ c + 1) (hce : c ≤ e) :
    countBetween width rows d c ≤ countBetween width rows d e := by
  have hsplit := countBetween_split width rows hdc (.inl hce)
  omega

theorem countBetween_empty (c : ℕ) : countBetween width rows (c + 1) c = 0 := by
  have hsplit := countBetween_split width rows (le_refl (c + 1)) (.inl (le_refl c))
  omega

theorem skipTaken_le (width : ℕ) (rows : List ℕ) (hi : ℕ)
    (h : c + countBetween width rows d hi ≤ hi) : skipTaken width rows d c ≤ hi := by
  fun_induction skipTaken width rows d c with
  | case1 d c hle ih =>
    have hsplit := countBetween_split width rows (show d ≤ c + 1 by omega)
      (.inl (show c ≤ hi by omega))
    exact ih (by omega)
  | case2 d c hgt => omega

theorem passed_le_skipTaken (width : ℕ) (rows : List ℕ) (h : d ≤ c + 1) :
    c + countBetween width rows d (skipTaken width rows d c) ≤ skipTaken width rows d c := by
  fun_induction skipTaken width rows d c with
  | case1 d c hle ih =>
    have hsplit := countBetween_split width rows (show d ≤ c + 1 by omega)
      (.inl (show c ≤ skipTaken width rows (c + 1) (c + countBetween width rows d c) by omega))
    omega
  | case2 d c hgt =>
    have hd : d = c + 1 := by omega
    rw [hd, countBetween_empty, Nat.add_zero]

theorem le_skipTaken (width : ℕ) (rows : List ℕ) (h : d ≤ c + 1) :
    c ≤ skipTaken width rows d c := by
  have := passed_le_skipTaken width rows h
  omega

theorem skipTaken_round (width : ℕ) (rows : List ℕ) (h : d ≤ c + 1) (hdm : d ≤ m + 1)
    (hm : m ≤ skipTaken width rows d c) :
    c + countBetween width rows d m ≤ skipTaken width rows d c := by
  have hpassed := passed_le_skipTaken width rows h
  have hmono := countBetween_mono width rows hdm hm
  omega

theorem gb_counts : countBetween 190 gb18030Rows 0 33597 = 14427 ∧
    countBetween 190 gb18030Rows 0 48024 = 21699 ∧
    countBetween 190 gb18030Rows 0 0xdfff = 21699 :=
  ⟨by decide +kernel, by decide +kernel, by decide +kernel⟩

theorem ksc_counts : countBetween 94 kscRows 0xac00 53004 = 1924 ∧
    countBetween 94 kscRows 0xac00 54928 = 2282 ∧
    countBetween 94 kscRows 0xac00 55286 = 2350 ∧
    countBetween 94 kscRows 0xac00 0xdfff = 2350 :=
  ⟨by decide +kernel, by decide +kernel, by decide +kernel, by decide +kernel⟩

/-- From `c` on, `c` below the surrogates, the table has no entry up to their end. -/
theorem entry_scalar (hwidth : 0 < width) (hd : d ≤ c + 1) (hc : c ≤ 0xd7ff)
    (h : countBetween width rows d 0xdfff = countBetween width rows d c) (i : ℕ) :
    Scalar (entry width rows i) := by
  have hsplit := countBetween_split width rows hd (.inl (show c ≤ 0xdfff by omega))
  have hnone := entry_outside hwidth (Nat.succ_pos c)
    (show countBetween width rows (c + 1) 0xdfff = 0 by omega) i
  exact scalar_of_outside (entry_lt i) (by omega)

theorem gb18030_scalar : ∀ i, Scalar (entry 190 gb18030Rows i) :=
  entry_scalar (by decide) (by decide) (by decide) (gb_counts.2.2.trans gb_counts.2.1.symm)

theorem ksc_scalar : ∀ i, Scalar (entry 94 kscRows i) :=
  entry_scalar (by decide) (by decide) (by decide)
    (ksc_counts.2.2.2.trans ksc_counts.2.2.1.symm)

theorem countBetween_all (h : 2 ^ 16 ≤ c) : countBetween width rows 0 c = width * rows.length := by
  have hrow : ∀ row n, tally (between 0 c) width row n = n := by
    intro row n
    induction n with
    | zero => rfl
    | succ n ih =>
      have hdigit := digit_lt width row n
      rw [tally, ih, between_toNat, if_pos (by omega)]
  induction rows with
  | nil => rfl
  | cons row rows ih =>
    rw [countBetween, countIn] at ih ⊢
    rw [map_cons, sum_cons, length_cons, Nat.mul_succ, ih, hrow, Nat.add_comm]

def gbCount (n : ℕ) : ℕ := skipTaken 190 gb18030Rows 0 (n + 128)

theorem gbCount_low (h : n ≤ 33468) : gbCount n < 0xd800 := by
  have hmono := countBetween_mono 190 gb18030Rows (d := 0) (c := 0xd7ff)
    (e := 0xdfff) (by decide) (by decide)
  have hcount := gb_counts.2.2
  have hle := skipTaken_le 190 gb18030Rows (d := 0) (c := n + 128) 0xd7ff (by omega)
  rw [gbCount]
  omega

theorem gbCount_le (h : n ≤ 35516) : gbCount n ≤ 0xdfff := by
  have hcount := gb_counts.2.2
  exact skipTaken_le _ _ 0xdfff (by omega)

theorem gb_count_all (h : 2 ^ 16 ≤ c) : countBetween 190 gb18030Rows 0 c = 23940 := by
  have hlength : gb18030Rows.length = 126 := by decide +kernel
  rw [countBetween_all h, hlength]

theorem gbCount_lt (h : n ≤ 1090043) : gbCount n < 0x110000 := by
  have hcount := gb_count_all (show 2 ^ 16 ≤ 0x10ffff by decide)
  have hle := skipTaken_le 190 gb18030Rows (d := 0) (c := n + 128) 0x10ffff (by omega)
  rw [gbCount]
  omega

theorem gbCount_beyond (h : 1090044 ≤ n) : 0x110000 ≤ gbCount n := by
  have hcount := gb_count_all (show 2 ^ 16 ≤ n + 128 by omega)
  have hstart := le_skipTaken 190 gb18030Rows (d := 0) (c := n + 128) (by omega)
  have hround := skipTaken_round 190 gb18030Rows (by omega) (by omega) hstart
  rw [gbCount]
  omega

theorem gbCount_ge (h : 33469 ≤ n) : n + 128 + 21699 ≤ gbCount n := by
  obtain ⟨hfirst, hsecond, -⟩ := gb_counts
  have hround := fun m => skipTaken_round 190 gb18030Rows (d := 0)
    (c := n + 128) (m := m) (by omega) (by omega)
  have hstart := le_skipTaken 190 gb18030Rows (d := 0) (c := n + 128) (by omega)
  have hone := hround 33597 (by omega)
  have htwo := hround 48024 (by omega)
  rw [gbCount]
  omega

def uhcCount (n : ℕ) : ℕ := skipTaken 94 kscRows 0xac00 (n + 0xac00)

theorem uhcCount_low (h : n ≤ 8905) : uhcCount n < 0xd800 := by
  have hmono := countBetween_mono 94 kscRows (d := 0xac00) (c := 0xd7ff)
    (e := 0xdfff) (by decide) (by decide)
  have hcount := ksc_counts.2.2.2
  have hle := skipTaken_le 94 kscRows (d := 0xac00) (c := n + 0xac00) 0xd7ff (by omega)
  rw [uhcCount]
  omega

theorem uhcCount_le (h : n ≤ 10753) : uhcCount n ≤ 0xdfff := by
  have hcount := ksc_counts.2.2.2
  exact skipTaken_le _ _ 0xdfff (by omega)

theorem uhcCount_ge (h : 8972 ≤ n) : 0xd800 ≤ uhcCount n := by
  obtain ⟨hfirst, hsecond, hthird, -⟩ := ksc_counts
  have hround := fun m => skipTaken_round 94 kscRows (d := 0xac00)
    (c := n + 0xac00) (m := m) (by omega)
  have hstart := le_skipTaken 94 kscRows (d := 0xac00) (c := n + 0xac00) (by omega)
  have hone := hround 53004 (by decide) (by omega)
  have htwo := hround 54928 (by decide) (by omega)
  have hthree := hround 55286 (by decide) (by omega)
  rw [uhcCount]
  omega

def Scalars : Decoded → Prop
  | .char _ c => Scalar c.toNat
  | _ => True

theorem Scalars.ite {p : Prop} [Decidable p] {x y : Decoded} (hx : p → Scalars x)
    (hy : ¬ p → Scalars y) : Scalars (if p then x else y) := by
  split_ifs with hp
  · exact hx hp
  · exact hy hp

theorem Scalars.past {p : Prop} [Decidable p] {x y : Decoded} (hx : Scalars x)
    (hy : ¬ p → Scalars y) : Scalars (if p then x else y) :=
  .ite (fun _ => hx) hy

theorem Scalars.two (h : ∀ a b t, s = a :: b :: t → Scalars (k a b)) : Scalars (two s k) := by
  match s with
  | [] | [_] => trivial
  | a :: b :: s => exact h a b s rfl

theorem Scalars.four (h : ∀ a b c d t, s = a :: b :: c :: d :: t → Scalars (k a b c d)) :
    Scalars (four s k) := by
  match s with
  | [] | [_] | [_, _] | [_, _, _] => trivial
  | a :: b :: c :: d :: s => exact h a b c d s rfl

theorem scalars_low {c : Wide} (h : c.toNat < 0xd800) : Scalars (.char l c) := .inl h

theorem scalars_ascii {c : Wide} (h : c < 128) : Scalars (.char l c) :=
  scalars_low (lt_trans h (by decide))

theorem scalars_nonzero {c : Wide} (h : Scalar c.toNat) : Scalars (nonzero c) :=
  .past ⟨⟩ fun _ => h

theorem ofNat_entry_toNat (i : ℕ) :
    (ofNat 32 (entry width rows i)).toNat = entry width rows i := by
  have hlt := @entry_lt width rows i
  rw [toNat_ofNat, Nat.mod_eq_of_lt (by omega)]

variable (b : UInt8)

theorem fromUtf8_scalars (s : List UInt8) : Scalars (fromUtf8 (widen b) (b :: s)) := by
  rcases fromUtf8_cases b s with h | h | ⟨l, c, h, -, -, hscalar⟩
  · rw [h]
    trivial
  · rw [h]
    trivial
  · rw [h]
    exact hscalar

theorem fromUtf32_scalars (e : ℕ) (s : List UInt8) : Scalars (fromUtf32 e s) := by
  refine .four fun b₀ b₁ b₂ b₃ _ _ => .past ⟨⟩ fun h => ?_
  rw [Scalars, Scalar]
  bv_omega

theorem get_16_lt (b₀ b₁ : UInt8) (e : ℕ) : (get_16 b₀ b₁ e).toNat < 2 ^ 16 := by
  have hword : ∀ a b : UInt8, (widen a <<< 8 ||| widen b).toNat < 2 ^ 16 := by
    intro a b
    have ha := a.toNat_lt
    have hb := b.toNat_lt
    rw [BitVec.toNat_or, BitVec.toNat_shiftLeft, widen_toNat, widen_toNat]
    exact Nat.or_lt_two_pow (by omega) (by omega)
  rw [get_16]
  split_ifs <;> exact hword _ _

theorem fromUtf16_scalars (ucs2 : Bool) (e : ℕ) (s : List UInt8) :
    Scalars (fromUtf16 ucs2 e s) := by
  refine .two fun b₀ b₁ _ _ => .past ⟨⟩ fun htail => ?_
  refine .ite (fun hlead => ?_) fun hlead => ?_
  · refine .past ⟨⟩ fun _ => .four fun _ _ b₂ b₃ _ _ => ?_
    refine .past ⟨⟩ fun hpair => ?_
    rw [Scalars, Scalar]
    generalize get_16 b₀ b₁ e = c at *
    generalize get_16 b₂ b₃ e = d at *
    have hlow : (c - 0xd7c0).toNat = c.toNat - 0xd7c0 ∧ 0xd800 ≤ c.toNat ∧ c.toNat < 0xdc00 := by
      bv_omega
    have hhigh : (d - 0xdc00).toNat < 0x400 := by bv_omega
    rw [BitVec.toNat_add, BitVec.toNat_shiftLeft, hlow.1]
    omega
  · have hc := get_16_lt b₀ b₁ e
    rw [Scalars, Scalar]
    bv_omega

variable (state : ℕ)

theorem jisChar_scalars (c d : Wide) : Scalars (jisChar beyond c d) := by
  refine .past ⟨⟩ fun h => scalars_nonzero ?_
  have hplace : c.toNat * 94 + d.toNat < 84 * 94 := by bv_omega
  rw [jis0208, if_pos hplace, ofNat_entry_toNat]
  exact jis0208_scalar _

theorem fromEucJp_scalars (s : List UInt8) : Scalars (fromEucJp beyond (widen b) s) := by
  refine .ite scalars_ascii fun _ => .two fun _ b₁ _ _ => .ite (fun _ => ?_) fun _ => ?_
  · refine .past ⟨⟩ fun h => ?_
    rw [Scalars, Scalar]
    bv_omega
  · exact jisChar_scalars _ _

theorem escape_scalars (b₁ b₂ : UInt8) : Scalars (escape b₁ b₂) := by
  rw [escape]
  split_ifs
  · trivial
  · split <;> trivial

theorem fromIso2022Jp_scalars (b : UInt8) (s : List UInt8) :
    Scalars (fromIso2022Jp beyond state (widen b) s) := by
  refine .past ⟨⟩ fun hc => .ite (fun _ => ?_) fun _ => ?_
  · match s with
    | [] | [_] | [_, _] => trivial
    | _ :: b₁ :: b₂ :: _ => exact escape_scalars b₁ b₂
  · have hascii : widen b < 128 := BitVec.not_le.1 hc
    match state with
    | 0 | _ + 5 => exact scalars_ascii hascii
    | 1 =>
      refine scalars_low ?_
      split_ifs
      · decide
      · decide
      · exact lt_trans hascii (by decide)
    | 2 | 3 => exact .two fun _ _ _ _ => jisChar_scalars _ _
    | 4 =>
      refine .past ⟨⟩ fun hkana => ?_
      rw [Scalars, Scalar]
      split_ifs with hlow <;> bv_omega

theorem legacy_map_scalar (quads bytes : ℕ) (b : UInt8) :
    Scalar (legacy_map quads bytes b.toNat) := by
  have hb := b.toNat_lt
  rw [legacy_map]
  dsimp only
  split_ifs with hlow hbyte
  · exact .inl (by omega)
  · exact .inl (by omega)
  · exact legacy_chars_scalar _

theorem fromCodepage_scalars (quads bytes : ℕ) (b : UInt8) :
    Scalars (fromCodepage quads bytes (widen b)) := by
  refine .ite (fun h => scalars_ascii (by rw [h]; decide)) fun _ => .past ⟨⟩ fun _ => ?_
  rw [Scalars, toNat_ofNat, widen_toNat]
  have hscalar := legacy_map_scalar quads bytes b
  rwa [Nat.mod_eq_of_lt]
  rw [Scalar] at hscalar
  omega

theorem plane_or (hv : v < 2 ^ 16) : bit <<< 17 ||| v = bit * 2 ^ 17 + v := by
  rw [← Nat.shiftLeft_add_eq_or_of_lt (by omega), Nat.shiftLeft_eq]

theorem hkscsChar_scalars (hi : i < 4867) : Scalars (hkscsChar i) := by
  have hlt : hkscs i < 2 ^ 16 := entry_lt i
  have hout := hkscs_outside hi
  rw [hkscsChar, plane_or hlt]
  refine .past ⟨⟩ fun hpair => scalars_nonzero ?_
  rw [toNat_ofNat, Scalar]
  omega

theorem big5_scalar (c d : Wide) (p : Prop) [Decidable p] :
    Scalar (big5 c d ||| if p then 0x20000 else 0).toNat := by
  have hlt := @entry_lt 157 big5Rows (c.toNat * 157 + d.toNat)
  have hout := entry_outside (by decide) (by decide) no_surrogates.2.1 (c.toNat * 157 + d.toNat)
  rw [BitVec.toNat_or, big5, ofNat_entry_toNat, Nat.or_comm]
  split_ifs
  · have hplane := @plane_or _ 1 hlt
    rw [show (1 : ℕ) <<< 17 = (0x20000 : Wide).toNat by decide] at hplane
    rw [Scalar]
    omega
  · exact scalar_of_outside (by simpa using hlt) (by simpa using hout)

theorem fromBig5_scalars (s : List UInt8) : Scalars (fromBig5 (widen b) s) := by
  refine .ite scalars_ascii fun hc => .two fun _ b₁ _ _ => .past ⟨⟩ fun hd => ?_
  refine .ite (fun hrow => .past ⟨⟩ fun hext => hkscsChar_scalars ?_) fun _ => ?_
  · have hfirst : (if widen b < 0xa1 then widen b - 0x87
        else widen b - (0x87 + (0xfa - 0xa1))).toNat ≤ 30 := by
      split_ifs <;> bv_omega
    have hsecond : (if widen b₁ - 0x40 > 0x3e then widen b₁ - 0x40 - 0x22
        else widen b₁ - 0x40).toNat ≤ 156 := by
      split_ifs <;> bv_omega
    omega
  · exact scalars_nonzero (big5_scalar _ _ _)

structure GbForm (b₀ b₁ b₂ b₃ : UInt8) : Prop where
  first : 0x81 ≤ b₀.toNat ∧ b₀.toNat ≤ 0xfe
  second : 0x30 ≤ b₁.toNat ∧ b₁.toNat ≤ 0x39
  third : 0x81 ≤ b₂.toNat
  fourth : 0x30 ≤ b₃.toNat ∧ b₃.toNat ≤ 0x39

def gbNumber (b₀ b₁ b₂ b₃ : UInt8) : ℕ :=
  (10 * (b₀.toNat - 0x81) + (b₁.toNat - 0x30)) * 1260 + 10 * (b₂.toNat - 0x81) + (b₃.toNat - 0x30)

def Strays (beyond : ℕ → BitVec 16) : Charset → List UInt8 → Prop
  | .SHIFT_JIS, b₀ :: b₁ :: _ => ∃ row d,
      (sjisRow (widen b₀)).bind (fun row => sjisPlace row (widen b₁)) = some (row, d) ∧
      84 * 94 ≤ row.toNat * 94 + d.toNat ∧
      0xd800 ≤ (beyond (row.toNat * 94 + d.toNat - 84 * 94)).toNat ∧
      (beyond (row.toNat * 94 + d.toNat - 84 * 94)).toNat ≤ 0xdfff
  | .GB18030, b₀ :: b₁ :: b₂ :: b₃ :: _ => GbForm b₀ b₁ b₂ b₃ ∧
      (33469 ≤ gbNumber b₀ b₁ b₂ b₃ ∧ gbNumber b₀ b₁ b₂ b₃ ≤ 35516 ∨ 1090044 ≤ gbNumber b₀ b₁ b₂ b₃)
  | .EUC_KR, b₀ :: b₁ :: _ =>
      (0xc8 ≤ b₀.toNat ∧ b₀.toNat ≤ 0xdd) ∧ 0x41 ≤ b₁.toNat ∧ b₁.toNat ≤ 0x52
  | _, _ => False

theorem gbCount_scalar_iff (n : ℕ) :
    Scalar (gbCount n) ↔ ¬ (33469 ≤ n ∧ n ≤ 35516 ∨ 1090044 ≤ n) := by
  have hlow := @gbCount_low n
  have hle := @gbCount_le n
  have hlt := @gbCount_lt n
  have hge := @gbCount_ge n
  have hbeyond := @gbCount_beyond n
  rw [Scalar]
  omega

theorem gbCount_toNat (h : n < 2 ^ 31) : (BitVec.ofNat 32 (gbCount n)).toNat = gbCount n := by
  have hcount := gb_count_all (show 2 ^ 16 ≤ 2 ^ 31 + 2 ^ 16 by decide)
  have hle := skipTaken_le 190 gb18030Rows (d := 0) (c := n + 128) (2 ^ 31 + 2 ^ 16) (by omega)
  rw [toNat_ofNat]
  rw [gbCount]
  omega

theorem uhcCount_toNat (h : n ≤ 10753) : (BitVec.ofNat 32 (uhcCount n)).toNat = uhcCount n := by
  have hle := uhcCount_le h
  rw [toNat_ofNat, Nat.mod_eq_of_lt (by omega)]

theorem GbForm.number_lt (h : GbForm b₀ b₁ b₂ b₃) : gbNumber b₀ b₁ b₂ b₃ < 2 ^ 31 := by
  have hlt := b₂.toNat_lt
  obtain ⟨h0, h1, -, h3⟩ := h
  rw [gbNumber]
  omega

theorem GbForm.linear (h : GbForm b₀ b₁ b₂ b₃) :
    (gbLinear (widen b₀ - 0x81) (widen b₁) (widen b₂) (widen b₃)).toNat = gbNumber b₀ b₁ b₂ b₃ := by
  obtain ⟨h0, h1, h2, h3⟩ := h
  have hlt := b₂.toNat_lt
  rw [gbNumber]
  rw [← widen_toNat] at h0 h1 h2 h3 hlt
  rw [← widen_toNat b₀, ← widen_toNat b₁, ← widen_toNat b₂, ← widen_toNat b₃, gbLinear]
  bv_omega

theorem GbForm.char (h : GbForm b₀ b₁ b₂ b₃) (s : List UInt8) :
    fromGb .GB18030 (widen b₀) (b₀ :: b₁ :: b₂ :: b₃ :: s) =
      .char 4 (ofNat 32 (gbCount (gbNumber b₀ b₁ b₂ b₃))) := by
  rw [gbCount, ← h.linear]
  obtain ⟨h0, h1, h2, h3⟩ := h
  have hlt := b₂.toNat_lt
  rw [← widen_toNat] at h0 h1 h2 h3 hlt
  rw [fromGb, if_neg (by bv_omega), if_neg (fun h => nomatch h.1), if_neg (by bv_omega)]
  change gbTrail .GB18030 _ _ _ = _
  rw [gbTrail, if_neg (fun h => nomatch h.2), if_pos (by bv_omega), if_neg]
  · change gbFour _ _ _ _ = _
    rw [gbFour, if_neg (by bv_omega), if_neg (by bv_omega)]
  · rintro (hd | hd)
    · bv_omega
    · exact hd rfl

theorem gbFour_scalars (h : ¬ Strays beyond .GB18030 (b₀ :: b₁ :: b₂ :: b₃ :: s))
    (h0 : 0x81 ≤ b₀.toNat ∧ b₀.toNat ≤ 0xfe) (h1 : 0x30 ≤ b₁.toNat ∧ b₁.toNat ≤ 0x39) :
    Scalars (gbFour (widen b₀ - 0x81) (widen b₁) (widen b₂) (widen b₃)) := by
  refine .past ⟨⟩ fun h2 => .past ⟨⟩ fun h3 => ?_
  have hform : GbForm b₀ b₁ b₂ b₃ := by
    refine ⟨h0, h1, ?_, ?_⟩
    all_goals
      rw [← widen_toNat]
      bv_omega
  rw [hform.linear]
  change Scalar (ofNat 32 (gbCount _)).toNat
  rw [gbCount_toNat hform.number_lt, gbCount_scalar_iff]
  exact fun hstray => h ⟨hform, hstray⟩

theorem fromGb_scalars (type : Charset) (b : UInt8) {s : List UInt8}
    (h : type = .GB18030 → ¬ Strays beyond .GB18030 (b :: s)) :
    Scalars (fromGb type (widen b) (b :: s)) := by
  refine .ite scalars_ascii fun hascii => .past ⟨⟩ fun _ => ?_
  refine .past ⟨⟩ fun hlead => .two fun a b₁ t hs => ?_
  refine .past ⟨⟩ fun _ => .ite (fun _ => ?_) fun _ => ?_
  · refine .past ⟨⟩ fun htrail => .four fun _ _ b₂ b₃ _ hs' => ?_
    rw [not_or, not_not] at htrail
    obtain ⟨htrail, htype⟩ := htrail
    have h := h htype
    cases hs
    cases hs'
    refine gbFour_scalars h ?_ ?_
    all_goals
      rw [← widen_toNat]
      bv_omega
  · change Scalar (ofNat 32 (entry _ _ _)).toNat
    rw [ofNat_entry_toNat]
    exact gb18030_scalar _

theorem jis0208_beyond (row d : Wide) :
    (¬ Scalar (jis0208 beyond row d).toNat) ↔ 84 * 94 ≤ row.toNat * 94 + d.toNat ∧
      0xd800 ≤ (beyond (row.toNat * 94 + d.toNat - 84 * 94)).toNat ∧
      (beyond (row.toNat * 94 + d.toNat - 84 * 94)).toNat ≤ 0xdfff := by
  rw [jis0208]
  split_ifs with hi
  · rw [ofNat_entry_toNat]
    have hscalar := jis0208_scalar (row.toNat * 94 + d.toNat)
    exact ⟨fun h => absurd hscalar h, fun h => by omega⟩
  · rw [BitVec.toNat_setWidth, Nat.mod_eq_of_lt (by omega), Scalar]
    omega

theorem fromShiftJis_scalars {s : List UInt8} (h : ¬ Strays beyond .SHIFT_JIS (b :: s)) :
    Scalars (fromShiftJis beyond (widen b) (b :: s)) := by
  refine .ite scalars_ascii fun _ => .ite (fun hkana => ?_) fun _ => .two fun a b₁ t hs => ?_
  · rw [Scalars, Scalar]
    bv_omega
  · cases hs
    cases hplace : (sjisRow (widen b)).bind fun row => sjisPlace row (widen b₁) with
    | none => trivial
    | some place =>
      refine scalars_nonzero (not_not.1 fun hstray => h ?_)
      exact ⟨place.1, place.2, hplace, (jis0208_beyond _ _).1 hstray⟩

theorem uhcTrail_le {d : Wide} (h : uhcTrail d = some e) :
    e.toNat ≤ 177 ∧ (d ≤ 0x52 → e.toNat ≤ 17) := by
  rw [uhcTrail] at h
  split_ifs at h
  all_goals
    cases h
    bv_omega

/-- The number of a syllable; the rows from `0xa1` on have 84 places. -/
def uhcNumber (c d : Wide) : Wide :=
  if c < 0x20 then 178 * c + d else 178 * 0x20 + 84 * (c - 0x20) + d

theorem uhcNumber_toNat {c : Wide} (hc : c.toNat < 93) (he : e.toNat ≤ 177) :
    (uhcNumber c e).toNat =
      if c.toNat < 32 then 178 * c.toNat + e.toNat
      else 178 * 32 + 84 * (c.toNat - 32) + e.toNat := by
  have hlow : (178 * c).toNat = 178 * c.toNat :=
    BitVec.toNat_mul_of_lt (show 178 * c.toNat < 2 ^ 32 by omega)
  rw [uhcNumber]
  by_cases h : c.toNat < 32
  · rw [if_pos h, if_pos (show c < 0x20 from h), BitVec.toNat_add_of_lt (by omega), hlow]
  · have hsub : (c - 0x20).toNat = c.toNat - 32 := by bv_omega
    have hhigh : (84 * (c - 0x20)).toNat = 84 * (c.toNat - 32) := by
      rw [← hsub]
      exact BitVec.toNat_mul_of_lt (show 84 * (c - 0x20).toNat < 2 ^ 32 by omega)
    have hbase : (178 * 0x20 + 84 * (c - 0x20)).toNat = 178 * 32 + 84 * (c.toNat - 32) := by
      rw [← hhigh]
      exact BitVec.toNat_add_of_lt (show 178 * 32 + (84 * (c - 0x20)).toNat < 2 ^ 32 by omega)
    rw [if_neg h, if_neg (show ¬ c < 0x20 from h), BitVec.toNat_add_of_lt (by omega), hbase]

theorem uhcChar_scalars {c d : Wide}
    (h : ¬ ((71 ≤ c.toNat ∧ c.toNat ≤ 92) ∧ 0x41 ≤ d.toNat ∧ d.toNat ≤ 0x52)) :
    Scalars (uhcChar c d) := by
  refine .past ⟨⟩ fun hplace => ?_
  cases htrail : uhcTrail d with
  | none => trivial
  | some e =>
    obtain ⟨hle, hshort⟩ := uhcTrail_le htrail
    have hlow : d ≤ 0x52 → 0x41 ≤ d.toNat := by
      intro hd
      rw [uhcTrail] at htrail
      split_ifs at htrail <;> bv_omega
    have hnumber : (uhcNumber c e).toNat ≤ 8905 := by
      rw [uhcNumber_toNat (by bv_omega) hle]
      split_ifs <;> bv_omega
    change Scalar (ofNat 32 (uhcCount (uhcNumber c e).toNat)).toNat
    rw [uhcCount_toNat (by omega)]
    exact .inl (uhcCount_low hnumber)

theorem fromEucKr_scalars {s : List UInt8} (h : ¬ Strays beyond .EUC_KR (b :: s)) :
    Scalars (fromEucKr (widen b) (b :: s)) := by
  refine .ite scalars_ascii fun hascii => .two fun _ b₁ t hs => .ite (fun _ => ?_) fun _ => ?_
  · cases hs
    rw [Strays, ← widen_toNat, ← widen_toNat] at h
    refine uhcChar_scalars ?_
    bv_omega
  · refine scalars_nonzero ?_
    rw [ksc, ofNat_entry_toNat]
    exact ksc_scalar _

theorem decode_scalars {type : Charset} {s : List UInt8} (h : ¬ Strays beyond type s) :
    Scalars (decode beyond type state s) := by
  cases s with
  | nil => trivial
  | cons b s =>
    cases type with
    | UTF_8 => exact fromUtf8_scalars b s
    | US_ASCII => exact .past ⟨⟩ fun h => scalars_ascii (BitVec.not_le.1 h)
    | codepage => exact fromCodepage_scalars _ _ b
    | WCHAR_T | UTF_32BE | UTF_32LE => exact fromUtf32_scalars _ _
    | UCS2BE | UCS2LE | UTF_16BE | UTF_16LE => exact fromUtf16_scalars _ _ _
    | UCS2 | UTF_16 => exact .past ⟨⟩ fun _ => .two fun _ _ _ _ => trivial
    | UTF_32 => exact .past ⟨⟩ fun _ => .four fun _ _ _ _ _ _ => trivial
    | SHIFT_JIS => exact fromShiftJis_scalars b h
    | EUC_JP => exact fromEucJp_scalars b _
    | ISO2022_JP => exact fromIso2022Jp_scalars _ b _
    | GB2312 | GBK => exact @fromGb_scalars beyond _ b _ fun htype => nomatch htype
    | GB18030 => exact fromGb_scalars _ b fun _ => h
    | BIG5 => exact fromBig5_scalars b _
    | EUC_KR => exact fromEucKr_scalars b h

theorem strays_shiftJis (h : Strays beyond .SHIFT_JIS (b₀ :: b₁ :: s)) :
    ∃ c, fromShiftJis beyond (widen b₀) (b₀ :: b₁ :: s) = .char 2 c ∧ ¬ Scalar c.toNat := by
  obtain ⟨row, d, hplace, hbeyond⟩ := h
  have hstray := (jis0208_beyond row d).2 hbeyond
  refine ⟨jis0208 beyond row d, ?_, hstray⟩
  have hlead : ¬ widen b₀ < 128 ∧ ¬ widen b₀ - 0xa1 ≤ 0xdf - 0xa1 := by
    rw [sjisRow] at hplace
    split_ifs at hplace
    · bv_omega
    · bv_omega
    · cases hplace
  rw [fromShiftJis, if_neg hlead.1, if_neg hlead.2]
  simp only [two, hplace]
  rw [nonzero, if_neg]
  intro hzero
  rw [hzero] at hstray
  exact hstray (.inl (by decide))

theorem strays_eucKr (h : Strays beyond .EUC_KR (b₀ :: b₁ :: s)) :
    ∃ c, fromEucKr (widen b₀) (b₀ :: b₁ :: s) = .char 2 c ∧ ¬ Scalar c.toNat := by
  rw [Strays, ← widen_toNat, ← widen_toNat] at h
  have hrow : widen b₀ - 0xa1 + (0xa1 - 0x81) = widen b₀ - 0x81 := by bv_omega
  have hplace : widen b₁ - 0xa1 + 0xa1 = widen b₁ := by bv_omega
  have hnumber : 8972 ≤ (uhcNumber (widen b₀ - 0x81) (widen b₁ - 65)).toNat ∧
      (uhcNumber (widen b₀ - 0x81) (widen b₁ - 65)).toNat ≤ 10753 := by
    have hc : (widen b₀ - 0x81).toNat = (widen b₀).toNat - 0x81 := by bv_omega
    have hd : (widen b₁ - 65).toNat = (widen b₁).toNat - 65 := by bv_omega
    rw [uhcNumber_toNat (by omega) (by omega), if_neg (by omega), hd]
    omega
  refine ⟨ofNat 32 (uhcCount (uhcNumber (widen b₀ - 0x81) (widen b₁ - 65)).toNat), ?_, ?_⟩
  · rw [fromEucKr, if_neg (by bv_omega)]
    simp only [two]
    rw [if_pos (by bv_omega), hrow, hplace, uhcChar, if_neg (by bv_omega), uhcTrail,
      if_pos (by bv_omega)]
    rfl
  · have hge := uhcCount_ge hnumber.1
    have hle := uhcCount_le hnumber.2
    rw [uhcCount_toNat hnumber.2, Scalar]
    omega

theorem strays_gb (h : Strays beyond .GB18030 (b₀ :: b₁ :: b₂ :: b₃ :: s)) :
    ∃ c, fromGb .GB18030 (widen b₀) (b₀ :: b₁ :: b₂ :: b₃ :: s) = .char 4 c ∧
      ¬ Scalar c.toNat := by
  obtain ⟨hform, hstray⟩ := h
  refine ⟨_, hform.char s, ?_⟩
  rw [gbCount_toNat hform.number_lt, gbCount_scalar_iff, not_not]
  exact hstray

theorem decode_strays (h : Strays beyond type s) :
    ∃ l c, decode beyond type state s = .char l c ∧ ¬ Scalar c.toNat := by
  match type, s, h with
  | .SHIFT_JIS, _ :: _ :: _, h => exact ⟨2, strays_shiftJis h⟩
  | .GB18030, _ :: _ :: _ :: _ :: _, h => exact ⟨4, strays_gb h⟩
  | .EUC_KR, _ :: _ :: _, h => exact ⟨2, strays_eucKr h⟩

end Iconv
