import GcompatMusl.Iconv
import GcompatMusl.Utf8Codec

/-! # The decoders of `iconv`

What a decoder makes of the first bytes of its input does not change with the bytes behind them,
and a character takes at least one byte and no more than there are. -/
namespace Iconv

open Multibyte List

def Stable (f : List UInt8 → Decoded) : Prop := ∀ s, f s ≠ .starved → ∀ t, f (s ++ t) = f s

theorem Stable.const (x : Decoded) : Stable fun _ => x := fun _ _ _ => rfl

variable {x : Decoded}

theorem Stable.ite [Decidable p] (hf : Stable f) (hg : Stable g) :
    Stable fun s => if p then f s else g s := by
  intro s hs t
  split_ifs at hs ⊢ with hp
  · exact hf s hs t
  · exact hg s hs t

theorem Stable.two {k : UInt8 → UInt8 → List UInt8 → Decoded} (hk : ∀ a b, Stable (k a b)) :
    Stable fun s => two s fun a b => k a b s := by
  intro s hs t
  match s with
  | [] | [_] => exact absurd rfl hs
  | a :: b :: s => exact hk a b _ hs t

theorem Stable.three :
    Stable fun s => three s k := by
  intro s hs t
  match s with
  | [] | [_] | [_, _] => exact absurd rfl hs
  | a :: b :: c :: s => rfl

variable {l : ℕ}

theorem Stable.four : Stable fun s => four s k := by
  intro s hs t
  match s with
  | [] | [_] | [_, _] | [_, _, _] => exact absurd rfl hs
  | a :: b :: c :: d :: s => rfl

theorem mbrLoop_append (N : ℕ) (t : List UInt8) :
    ∀ {s : List UInt8} {c : Wide}, (mbrLoop N c s).ret ≠ SIZE_MAX - 1 →
      mbrLoop (N + t.length) c (s ++ t) = mbrLoop N c s := by
  intro s
  induction s with
  | nil => exact fun h => absurd rfl h
  | cons b s ih =>
    intro c h
    rw [cons_append, mbrLoop, mbrLoop]
    rw [mbrLoop] at h
    by_cases hbit : (push c b).getLsbD 31 = true
    · rw [hbit] at h ⊢
      by_cases hs : s = []
      · rw [if_pos hs] at h
        exact absurd rfl h
      · rw [if_neg hs] at h
        have hhead : (s ++ t).headD 0 = s.headD 0 := by
          obtain ⟨d, s, rfl⟩ := exists_cons_of_ne_nil hs
          rfl
        have happend : s ++ t ≠ [] := append_ne_nil_of_left_ne_nil hs t
        simp only [Bool.not_true, Bool.false_eq_true, if_false, hs, happend, hhead]
        by_cases hcont : continuation (s.headD 0) = true
        · rw [hcont] at h
          rw [hcont, if_neg (by decide)]
          exact ih h
        · rw [if_pos (by simpa using hcont), if_pos (by simpa using hcont)]
    · rw [if_pos (by simpa using hbit), if_pos (by simpa using hbit), length_append,
        Nat.add_sub_add_right]

theorem mbrResume_append (N : ℕ) (t : List UInt8) (h : (mbrResume N c s).ret ≠ SIZE_MAX - 1) :
    mbrResume (N + t.length) c (s ++ t) = mbrResume N c s := by
  cases s with
  | nil => exact absurd rfl h
  | cons d s =>
    rw [mbrResume] at h
    rw [cons_append, mbrResume, mbrResume, if_neg (cons_ne_nil d s),
      if_neg (cons_ne_nil d (s ++ t))]
    by_cases hoob : oob c d = true
    · rw [headD_cons, headD_cons, if_pos hoob, if_pos hoob]
    · rw [headD_cons, if_neg hoob] at h
      rw [headD_cons, headD_cons, if_neg hoob, if_neg hoob]
      exact mbrLoop_append N t h

theorem mbrtowc_append (h : (mbrtowc true (some s) 0).ret ≠ SIZE_MAX - 1) (t : List UInt8) :
    mbrtowc true (some (s ++ t)) 0 = mbrtowc true (some s) 0 := by
  cases s with
  | nil => exact absurd rfl h
  | cons b s =>
    rw [cons_append, mbrtowc, mbrtowc, if_pos rfl, if_pos rfl]
    rw [mbrtowc] at h
    by_cases hb : b < 0x80
    · rw [if_pos hb, if_pos hb]
    rw [if_neg hb] at h ⊢
    rw [if_neg hb]
    by_cases hlead : widen b - SA > SB - SA
    · rw [if_pos hlead, if_pos hlead]
    · rw [if_neg hlead] at h
      rw [if_neg hlead, if_neg hlead, length_append, Nat.add_right_comm]
      exact mbrResume_append _ t h

theorem fromUtf8_stable (c : Wide) : Stable (fromUtf8 c) := by
  refine Stable.ite (.const _) ?_
  intro s hs t
  have hret : (mbrtowc true (some s) 0).ret ≠ SIZE_MAX - 1 := by
    intro hret
    refine hs ?_
    dsimp only
    rw [if_neg (by rw [hret]; decide), if_pos hret]
  simp only [mbrtowc_append hret]

theorem fromUtf16_stable (ucs2 : Bool) (e : ℕ) : Stable (fromUtf16 ucs2 e) :=
  .two fun _ _ => .ite (.const _) (.ite (.ite (.const _) .four) (.const _))

theorem order16_stable (big little : Charset) (state : ℕ) : Stable (order16 big little state) :=
  .ite (.const _) (.two fun _ _ => .const _)

theorem fromShiftJis_stable (c : Wide) : Stable (fromShiftJis beyond c) :=
  .ite (.const _) (.ite (.const _) (.two fun _ _ => .const _))

theorem fromEucJp_stable (c : Wide) : Stable (fromEucJp beyond c) :=
  .ite (.const _) (.two fun _ _ => .const _)

theorem fromIso2022Jp_stable (state : ℕ) (c : Wide) : Stable (fromIso2022Jp beyond state c) := by
  refine .ite (.const _) (.ite .three ?_)
  match state with
  | 0 | 1 | 4 | _ + 5 => exact .const _
  | 2 | 3 => exact .two fun _ _ => .const _

theorem fromGb_stable (type : Charset) (c : Wide) : Stable (fromGb type c) :=
  .ite (.const _) (.ite (.const _) (.ite (.const _)
    (.two fun _ _ => .ite (.const _) (.ite (.ite (.const _) .four) (.const _)))))

theorem fromBig5_stable (c : Wide) : Stable (fromBig5 c) :=
  .ite (.const _) (.two fun _ _ => .const _)

theorem fromEucKr_stable (c : Wide) : Stable (fromEucKr c) :=
  .ite (.const _) (.two fun _ _ => .const _)

theorem decode_stable (type : Charset) (state : ℕ) : Stable (decode beyond type state) := by
  intro s hs t
  cases s with
  | nil => exact absurd rfl hs
  | cons b s =>
    cases type with
    | UTF_8 => exact fromUtf8_stable _ _ hs t
    | US_ASCII | codepage => rfl
    | WCHAR_T | UTF_32BE | UTF_32LE => exact Stable.four _ hs t
    | UCS2BE | UCS2LE | UTF_16BE | UTF_16LE => exact fromUtf16_stable _ _ _ hs t
    | UCS2 | UTF_16 => exact order16_stable _ _ _ _ hs t
    | UTF_32 => exact Stable.ite (.const _) .four _ hs t
    | SHIFT_JIS => exact fromShiftJis_stable _ _ hs t
    | EUC_JP => exact fromEucJp_stable _ _ hs t
    | ISO2022_JP => exact fromIso2022Jp_stable _ _ _ hs t
    | GB2312 | GBK | GB18030 => exact fromGb_stable _ _ _ hs t
    | BIG5 => exact fromBig5_stable _ _ hs t
    | EUC_KR => exact fromEucKr_stable _ _ hs t

/-- A character that takes one to `n` bytes, or an end of the call -/
def Fits (n : ℕ) : Decoded → Prop
  | .char l _ | .pair l _ => 1 ≤ l ∧ l ≤ n
  | .shift _ _ _ => False
  | .ilseq | .starved => True

theorem Fits.ite [Decidable p] (hx : Fits n x) (hy : Fits n y) : Fits n (if p then x else y) := by
  by_cases hp : p
  · rwa [if_pos hp]
  · rwa [if_neg hp]

theorem Fits.two {k : UInt8 → UInt8 → Decoded} (h : ∀ a b, 2 ≤ s.length → Fits s.length (k a b)) :
    Fits s.length (two s k) := by
  match s with
  | [] | [_] => trivial
  | a :: b :: s => exact h a b (by simp)

theorem Fits.four (h : ∀ a b c d, 4 ≤ s.length → Fits s.length (k a b c d)) :
    Fits s.length (four s k) := by
  match s with
  | [] | [_] | [_, _] | [_, _, _] => trivial
  | a :: b :: c :: d :: s => exact h a b c d (by simp)

theorem fits_nonzero (hn : 2 ≤ n) (c : Wide) : Fits n (nonzero c) := .ite trivial ⟨by omega, hn⟩

theorem fits_one (b : UInt8) (c : Wide) : Fits (b :: s).length (.char 1 c) := ⟨le_refl 1, by simp⟩

theorem mbrLoop_pos (N : ℕ) (h : s.length ≤ N) : 1 ≤ (mbrLoop N c s).ret := by
  have hlarge : 1 ≤ SIZE_MAX ∧ 1 ≤ SIZE_MAX - 1 := by decide
  induction s generalizing c with
  | nil => exact hlarge.2
  | cons b s ih =>
    rw [length_cons] at h
    rw [mbrLoop]
    split_ifs
    · exact show 1 ≤ N - s.length by omega
    · exact hlarge.2
    · exact hlarge.1
    · exact ih (by omega)

theorem mbrtowc_pos (s : List UInt8) (hb : ¬ b < 0x80) :
    1 ≤ (mbrtowc true (some (b :: s)) 0).ret := by
  have hlarge : 1 ≤ SIZE_MAX ∧ 1 ≤ SIZE_MAX - 1 := by decide
  rw [mbrtowc, if_pos rfl, if_neg hb, if_neg (by decide)]
  rw [mbrResume]
  split_ifs
  · exact hlarge.1
  · exact hlarge.2
  · exact hlarge.1
  · exact mbrLoop_pos _ (Nat.le_succ _)

theorem lt_ascii : widen b < 128 ↔ b < 0x80 := by
  rfl

section

variable (b : UInt8) (s : List UInt8)

theorem fromUtf8_cases :
    fromUtf8 (widen b) (b :: s) = .ilseq ∨ fromUtf8 (widen b) (b :: s) = .starved ∨
      ∃ l c, fromUtf8 (widen b) (b :: s) = .char l c ∧ 1 ≤ l ∧ l ≤ (b :: s).length ∧
        Utf8.Scalar c.toNat := by
  by_cases hb : b < 0x80
  · refine .inr (.inr ⟨1, widen b, if_pos (lt_ascii.2 hb), le_refl 1, by simp, .inl ?_⟩)
    have := UInt8.lt_iff_toNat_lt.1 hb
    exact lt_trans this (by decide)
  have hpos := mbrtowc_pos s hb
  rw [fromUtf8, if_neg (mt lt_ascii.1 hb)]
  rcases mbrtowc_reads (b :: s) (show Carries 0 none from rfl) with ⟨hbad, -⟩ |
      ⟨c, o, hopen, -, -⟩ |
    ⟨w, front, rest, hsplit, hfront, -, hret, hmax, hwc, -, hrun⟩
  · rw [hbad]
    exact .inl rfl
  · rw [hopen]
    exact .inr (.inl rfl)
  · have hlarge : 4 < SIZE_MAX - 1 := by decide
    refine .inr (.inr ⟨_, w, ?_, hpos, ?_, ?_⟩)
    · rw [if_neg (by omega), if_neg (by omega), hwc]
      rfl
    · have hlength := congrArg length hsplit
      rw [length_append] at hlength
      omega
    · obtain ⟨_, ⟨hscalar, -⟩, -⟩ := Utf8.run_splits Utf8.stands_start
      refine hscalar _ ?_
      rw [hrun]
      exact mem_cons_self

theorem fits_fromUtf8 : Fits (b :: s).length (fromUtf8 (widen b) (b :: s)) := by
  rcases fromUtf8_cases b s with h | h | ⟨l, c, h, hpos, hle, -⟩
  · rw [h]
    trivial
  · rw [h]
    trivial
  · rw [h]
    exact ⟨hpos, hle⟩

theorem fits_fromUtf32 (e : ℕ) (s : List UInt8) : Fits s.length (fromUtf32 e s) :=
  .four fun _ _ _ _ h => .ite trivial ⟨by omega, h⟩

theorem fits_fromUtf16 (ucs2 : Bool) (e : ℕ) (s : List UInt8) :
    Fits s.length (fromUtf16 ucs2 e s) := by
  refine .two fun _ _ h => .ite trivial (.ite (.ite trivial (.four fun _ _ _ _ h => ?_)) ?_)
  · exact .ite trivial ⟨by omega, h⟩
  · exact ⟨by omega, h⟩

theorem fits_fromShiftJis : Fits (b :: s).length (fromShiftJis beyond (widen b) (b :: s)) := by
  refine .ite (fits_one b _) (.ite (fits_one b _) (.two fun _ b1 h => ?_))
  cases (sjisRow (widen b)).bind fun row => sjisPlace row (widen b1) with
  | none => trivial
  | some place => exact fits_nonzero h _

theorem fits_jisChar (hn : 2 ≤ n) (c d : Wide) : Fits n (jisChar beyond c d) :=
  .ite trivial (fits_nonzero hn _)

theorem fits_fromEucJp : Fits (b :: s).length (fromEucJp beyond (widen b) (b :: s)) :=
  .ite (fits_one b _) (.two fun _ _ h => .ite (.ite trivial ⟨by omega, h⟩) (fits_jisChar h _ _))

theorem fits_fromGb (type : Charset) (b : UInt8) (s : List UInt8) :
    Fits (b :: s).length (fromGb type (widen b) (b :: s)) := by
  refine .ite (fits_one b _) (.ite trivial
    (.ite trivial (.two fun _ _ h => .ite trivial (.ite ?_ ?_))))
  · exact .ite trivial (.four fun _ _ _ _ h => .ite trivial (.ite trivial ⟨by omega, h⟩))
  · exact ⟨by omega, h⟩

theorem fits_fromBig5 : Fits (b :: s).length (fromBig5 (widen b) (b :: s)) :=
  .ite (fits_one b _) (.two fun _ _ h => .ite trivial
    (.ite (.ite trivial (.ite ⟨by omega, h⟩ (fits_nonzero h _))) (fits_nonzero h _)))

theorem fits_uhcChar (hn : 2 ≤ n) (c d : Wide) : Fits n (uhcChar c d) := by
  refine .ite trivial ?_
  cases uhcTrail d with
  | none => trivial
  | some d => exact ⟨by omega, hn⟩

theorem fits_fromEucKr : Fits (b :: s).length (fromEucKr (widen b) (b :: s)) :=
  .ite (fits_one b _) (.two fun _ _ h => .ite (fits_uhcChar h _ _) (fits_nonzero h _))

end

theorem fits_fromCodepage (quads bytes : ℕ) (b : UInt8) (s : List UInt8) :
    Fits (b :: s).length (fromCodepage quads bytes (widen b)) :=
  .ite (fits_one b _) (.ite trivial (fits_one b _))

def Charset.detects : Charset → Bool
  | .UTF_16 | .UTF_32 | .UCS2 => true
  | _ => false

def current (type : Charset) (state : ℕ) : Charset :=
  if type.detects ∧ state ≠ 0 then .ofState state else type

theorem ofState_stateless (state : ℕ) : (Charset.ofState state).stateful = false := by
  unfold Charset.ofState
  split_ifs <;> rfl

structure Shifts (type : Charset) (n l : ℕ) (type' : Charset) (state' : ℕ) : Prop where
  stateful : type.stateful = true
  type_eq : type' = current type state'
  bound : l ≤ n
  found : 1 ≤ l ∨ type.detects = true ∧ state' ≠ 0

def Takes (type : Charset) (n : ℕ) : Decoded → Prop
  | .shift l type' state' => Shifts type n l type' state'
  | x => Fits n x

theorem Fits.takes (h : Fits n x) : Takes type n x := by
  cases x with
  | shift => exact h.elim
  | _ => exact h

theorem Takes.ite [Decidable p] (hx : Takes type n x) (hy : Takes type n y) :
    Takes type n (if p then x else y) := by
  by_cases hp : p
  · rwa [if_pos hp]
  · rwa [if_neg hp]

theorem resumeOrder_takes (htype : type.detects = true) (hstate : type.stateful = true)
    (hs : state ≠ 0) (n : ℕ) : Takes type n (resumeOrder state) :=
  ⟨hstate, (if_pos ⟨htype, hs⟩).symm, Nat.zero_le _, .inr ⟨htype, hs⟩⟩

def Charset.Ordered (type : Charset) : Prop := type = .ofState type.code ∧ type.code ≠ 0

theorem found_takes (htype : type.detects = true) (hstate : type.stateful = true)
    (hfound : found.Ordered) (hl : l ≤ n) : Takes type n (.shift l found found.code) := by
  refine ⟨hstate, ?_, hl, .inr ⟨htype, hfound.2⟩⟩
  rw [current, if_pos ⟨htype, hfound.2⟩]
  exact hfound.1

theorem ordered_ite [Decidable p] {x y : Charset} (hx : x.Ordered) (hy : y.Ordered) :
    (if p then x else y).Ordered := by
  by_cases hp : p
  · rwa [if_pos hp]
  · rwa [if_neg hp]

theorem mark_le [Decidable p] (h : l ≤ n) : (if p then l else 0) ≤ n := by
  by_cases hp : p
  · rwa [if_pos hp]
  · rw [if_neg hp]
    exact Nat.zero_le n

theorem order16_takes (htype : type.detects = true) (hstate : type.stateful = true)
    (hbig : big.Ordered) (hlittle : little.Ordered) (state : ℕ) (s : List UInt8) :
    Takes type s.length (order16 big little state s) := by
  rw [order16]
  split_ifs with hs
  · exact resumeOrder_takes htype hstate hs _
  match s with
  | [] | [_] => trivial
  | a :: b :: s => exact found_takes htype hstate (ordered_ite hlittle hbig) (mark_le (by simp))

theorem order32_takes (state : ℕ) (s : List UInt8) :
    Takes .UTF_32 s.length (order32 state s) := by
  have hbig : Charset.UTF_32BE.Ordered := ⟨rfl, by decide⟩
  have hlittle : Charset.UTF_32LE.Ordered := ⟨rfl, by decide⟩
  rw [order32]
  split_ifs with hs
  · exact resumeOrder_takes rfl rfl hs _
  match s with
  | [] | [_] | [_, _] | [_, _, _] => trivial
  | a :: b :: c :: d :: s =>
    exact found_takes rfl rfl (ordered_ite hlittle hbig) (mark_le (by simp))

theorem escape_takes (hn : 3 ≤ n) (b1 b2 : UInt8) : Takes .ISO2022_JP n (escape b1 b2) := by
  have hshift : ∀ state, Takes .ISO2022_JP n (.shift 3 .ISO2022_JP state) :=
    fun state => ⟨rfl, rfl, hn, .inl (by omega)⟩
  rw [escape]
  split_ifs
  · trivial
  split
  · exact hshift 0
  · exact hshift 1
  · exact hshift 4
  · exact hshift 2
  · exact hshift 3
  · trivial

theorem fromIso2022Jp_takes (state : ℕ) (b : UInt8) (s : List UInt8) :
    Takes .ISO2022_JP (b :: s).length (fromIso2022Jp beyond state (widen b) (b :: s)) := by
  refine Takes.ite trivial (Takes.ite ?_ ?_)
  · match s with
    | [] | [_] => trivial
    | a :: c :: s => exact escape_takes (by simp) a c
  match state with
  | 0 | 1 | _ + 5 => exact (fits_one b _).takes
  | 2 | 3 => exact (Fits.two fun _ _ h => fits_jisChar h _ _).takes
  | 4 => exact Takes.ite trivial (fits_one b _).takes

theorem decode_takes (beyond : ℕ → BitVec 16) (type : Charset) (state : ℕ) (s : List UInt8) :
    Takes type s.length (decode beyond type state s) := by
  cases s with
  | nil => trivial
  | cons b s =>
    cases type with
    | UTF_8 => exact (fits_fromUtf8 b s).takes
    | US_ASCII => exact Takes.ite trivial (fits_one b _).takes
    | codepage => exact (fits_fromCodepage _ _ b s).takes
    | WCHAR_T | UTF_32BE | UTF_32LE => exact (fits_fromUtf32 _ _).takes
    | UCS2BE | UCS2LE | UTF_16BE | UTF_16LE => exact (fits_fromUtf16 _ _ _).takes
    | UCS2 | UTF_16 => exact order16_takes rfl rfl ⟨rfl, by decide⟩ ⟨rfl, by decide⟩ _ _
    | UTF_32 => exact order32_takes _ _
    | SHIFT_JIS => exact (fits_fromShiftJis b s).takes
    | EUC_JP => exact (fits_fromEucJp b s).takes
    | ISO2022_JP => exact fromIso2022Jp_takes _ b s
    | GB2312 | GBK | GB18030 => exact (fits_fromGb _ b s).takes
    | BIG5 => exact (fits_fromBig5 b s).takes
    | EUC_KR => exact (fits_fromEucKr b s).takes

end Iconv
