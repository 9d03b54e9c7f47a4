import GcompatMusl.IconvAccounting

/-! # Accesses to the tables of characters

What a turn of `iconv` reads of the tables while it decodes, and over all turns of a call. -/
namespace Iconv

open Multibyte MuslString List

/-- An element of a table of `rows` by `cols` -/
structure Access where
  rows : ℕ
  cols : ℕ
  row : ℕ
  col : ℕ

def Access.Inside (a : Access) : Prop := a.row < a.rows ∧ a.col < a.cols

def cell (rows cols : ℕ) (c d : Wide) : List Access := [⟨rows, cols, c.toNat, d.toNat⟩]

/-- The loops that count over a whole table -/
def across (rows cols : ℕ) : List Access :=
  (range rows).flatMap fun i => (range cols).map fun j => ⟨rows, cols, i, j⟩

def sjisAccesses (c d : Wide) : List Access :=
  if c < 128 ∨ c - 0xa1 ≤ 0xdf - 0xa1 then []
  else match (sjisRow c).bind fun row => sjisPlace row d with
  | none => []
  | some (row, d) => cell 84 94 row d

def jisAccesses (c d : Wide) : List Access := if c ≥ 84 ∨ d ≥ 94 then [] else cell 84 94 c d

def gbAccesses (type : Charset) (c d : Wide) (s : List UInt8) : List Access :=
  if c < 128 ∨ type = .GB2312 ∧ c < 0xa1 ∨ c - 0x81 ≥ 126 ∨ d < 0xa1 ∧ type = .GB2312 then []
  else if d - 0x40 ≥ 191 ∨ d = 127 then
    if d - 48 > 9 ∨ type ≠ .GB18030 then []
    else match s with
    | b₂ :: b₃ :: _ => if widen b₂ - 0x81 > 126 ∨ widen b₃ - 48 > 9 then [] else across 126 190
    | _ => []
  else cell 126 190 (c - 0x81) (if d - 0x40 > 63 then d - 0x40 - 1 else d - 0x40)

def hkscsAccesses (i : ℕ) : List Access := [⟨1, 5172, 0, 4867 + i / 16⟩, ⟨1, 5172, 0, i⟩]

def big5Place (c d : Wide) : List Access :=
  if c - 0xa1 ≥ 0xfa - 0xa1 then
    if c - 0x87 ≥ 0xff - 0x87 then []
    else
      let row := if c < 0xa1 then c - 0x87 else c - (0x87 + (0xfa - 0xa1))
      hkscsAccesses (row.toNat * 157 + d.toNat)
  else cell 89 157 (c - 0xa1) d

def big5Accesses (c d : Wide) : List Access :=
  if c < 128 ∨ d - 0x40 ≥ 0xff - 0x40 ∨ d - 0x7f < 0xa1 - 0x7f then []
  else big5Place c (if d - 0x40 > 0x3e then d - 0x40 - 0x22 else d - 0x40)

def eucKrAccesses (c d : Wide) : List Access :=
  if c < 128 then []
  else if c - 0xa1 ≥ 93 ∨ d - 0xa1 ≥ 94 then
    if c - 0x81 ≥ 93 ∨ c - 0x81 ≥ 0xc6 - 0x81 ∧ d > 0x52 ∨ uhcTrail d = none then []
    else across 93 94
  else cell 93 94 (c - 0xa1) (d - 0xa1)

/-- The accesses of `decode`; there are none before the second byte is there. -/
def accesses (type : Charset) (state : ℕ) : List UInt8 → List Access
  | b₀ :: b₁ :: s =>
    let c := widen b₀
    let d := widen b₁
    match type with
    | .SHIFT_JIS => sjisAccesses c d
    | .EUC_JP => if c < 128 ∨ c = 0x8e then [] else jisAccesses (c - 0xa1) (d - 0xa1)
    | .ISO2022_JP =>
      if c ≥ 128 ∨ c = 27 ∨ state ≠ 2 ∧ state ≠ 3 then [] else jisAccesses (c - 0x21) (d - 0x21)
    | .GB2312 | .GBK | .GB18030 => gbAccesses type c d s
    | .BIG5 => big5Accesses c d
    | .EUC_KR => eucKrAccesses c d
    | _ => []
  | _ => []

def AllInside (l : List Access) : Prop := ∀ a ∈ l, a.Inside

@[simp]
theorem allInside_nil : AllInside [] := nofun

@[simp]
theorem allInside_cell : AllInside (cell m n c d) ↔ c.toNat < m ∧ d.toNat < n :=
  forall_mem_singleton

theorem allInside_across (m n : ℕ) : AllInside (across m n) := by
  intro a ha
  obtain ⟨i, hi, ha⟩ := mem_flatMap.mp ha
  obtain ⟨j, hj, rfl⟩ := mem_map.mp ha
  exact ⟨mem_range.mp hi, mem_range.mp hj⟩

theorem allInside_jis (c d : Wide) : AllInside (jisAccesses c d) := by
  unfold jisAccesses
  split
  · exact allInside_nil
  · rw [allInside_cell]
    bv_omega

theorem allInside_hkscs (hrow : row ≤ 30) (hd : d < 157) :
    AllInside (hkscsAccesses (row * 157 + d)) :=
  forall_mem_cons.mpr ⟨⟨one_pos, by dsimp only; omega⟩,
    forall_mem_singleton.mpr ⟨one_pos, by dsimp only; omega⟩⟩

theorem allInside_big5Place {c d : Wide} (hc : c.toNat < 256) (hd : d.toNat < 157) :
    AllInside (big5Place c d) := by
  unfold big5Place
  split_ifs
  · exact allInside_nil
  · exact allInside_hkscs (by bv_omega) hd
  · exact allInside_hkscs (by bv_omega) hd
  · exact allInside_cell.mpr ⟨by bv_omega, hd⟩

section

variable (b₀ b₁ : UInt8)

theorem widen_lt : (widen b₀).toNat < 256 := by
  exact b₀.toNat_lt

theorem allInside_gb (type : Charset) (s : List UInt8) :
    AllInside (gbAccesses type (widen b₀) (widen b₁) s) := by
  unfold gbAccesses
  split_ifs
  · exact allInside_nil
  · exact allInside_nil
  · split
    · split
      · exact allInside_nil
      · exact allInside_across 126 190
    · exact allInside_nil
  all_goals
    rw [allInside_cell]
    bv_omega

theorem allInside_big5 : AllInside (big5Accesses (widen b₀) (widen b₁)) := by
  unfold big5Accesses
  split
  · exact allInside_nil
  · exact allInside_big5Place (widen_lt b₀) (by split <;> bv_omega)

theorem allInside_eucKr : AllInside (eucKrAccesses (widen b₀) (widen b₁)) := by
  unfold eucKrAccesses
  split_ifs
  · exact allInside_nil
  · exact allInside_nil
  · exact allInside_across 93 94
  · rw [allInside_cell]
    bv_omega

/-- A first byte of Shift_JIS and a second that lead out of `jis0208` -/
def Stray : Prop :=
  (129 ≤ b₀.toNat ∧ b₀.toNat ≤ 159 ∨ 224 ≤ b₀.toNat ∧ b₀.toNat ≤ 239) ∧ b₁.toNat ≠ 127 ∧
    (234 < b₀.toNat ∨ 252 < b₁.toNat)

theorem allInside_sjis_iff :
    AllInside (sjisAccesses (widen b₀) (widen b₁)) ↔ ¬ Stray b₀ b₁ := by
  have hc := widen_lt b₀
  have hd := widen_lt b₁
  rw [Stray, ← widen_toNat, ← widen_toNat]
  unfold sjisAccesses sjisRow sjisPlace
  split_ifs <;>
    simp only [allInside_nil, Option.bind_some, Option.bind_none, allInside_cell, true_iff] <;>
    bv_omega

end

/-- Shift_JIS has rows up to 93 of the 84, and does not refuse a second byte past 252. -/
theorem accesses_inside_iff (type : Charset) (state : ℕ) (s : List UInt8) :
    AllInside (accesses type state s) ↔
      ¬ (type = .SHIFT_JIS ∧ ∃ b₀ b₁ r, s = b₀ :: b₁ :: r ∧ Stray b₀ b₁) := by
  obtain _ | ⟨b₀, _ | ⟨b₁, s⟩⟩ := s
  · simp [accesses]
  · simp [accesses]
  by_cases htype : type = .SHIFT_JIS
  · rw [htype, accesses, allInside_sjis_iff]
    simp
  · refine iff_of_true ?_ fun h => htype h.1
    cases type with
    | SHIFT_JIS => exact absurd rfl htype
    | EUC_JP | ISO2022_JP =>
      rw [accesses]
      split
      · exact allInside_nil
      · exact allInside_jis _ _
    | GB2312 | GBK | GB18030 => exact allInside_gb b₀ b₁ _ s
    | BIG5 => exact allInside_big5 b₀ b₁
    | EUC_KR => exact allInside_eucKr b₀ b₁
    | _ => exact allInside_nil

theorem jis0208_inside (h : c.toNat < 84 ∧ d.toNat < 94) (beyond beyond' : ℕ → BitVec 16) :
    jis0208 beyond c d = jis0208 beyond' c d := by
  have hlt : c.toNat * 94 + d.toNat < 84 * 94 := by omega
  simp only [jis0208, if_pos hlt]

theorem jisChar_inside (c d : Wide) (beyond beyond' : ℕ → BitVec 16) :
    jisChar beyond c d = jisChar beyond' c d := by
  have hinside := allInside_jis c d
  unfold jisAccesses at hinside
  unfold jisChar
  split_ifs with hout
  · rfl
  · rw [if_neg hout, allInside_cell] at hinside
    rw [jis0208_inside hinside beyond beyond']

theorem fromShiftJis_inside (h : AllInside (accesses .SHIFT_JIS state (b₀ :: s)))
    (beyond beyond' : ℕ → BitVec 16) :
    fromShiftJis beyond (widen b₀) (b₀ :: s) = fromShiftJis beyond' (widen b₀) (b₀ :: s) := by
  unfold fromShiftJis
  split_ifs with hascii hkana
  · rfl
  · rfl
  cases s with
  | nil => rfl
  | cons b₁ s =>
    rw [accesses, sjisAccesses, if_neg (not_or.mpr ⟨hascii, hkana⟩)] at h
    simp only [two]
    cases hplace : (sjisRow (widen b₀)).bind fun row => sjisPlace row (widen b₁) with
    | none => rfl
    | some place =>
      rw [hplace] at h
      exact congrArg nonzero (jis0208_inside (allInside_cell.mp h) beyond beyond')

/-- What lies behind `jis0208` does not matter to a turn whose accesses are inside. -/
theorem decode_inside (h : AllInside (accesses type state s)) (beyond beyond' : ℕ → BitVec 16) :
    decode beyond type state s = decode beyond' type state s := by
  obtain _ | ⟨b₀, s⟩ := s
  · rfl
  cases type with
  | SHIFT_JIS => exact fromShiftJis_inside h beyond beyond'
  | EUC_JP =>
    simp only [decode, fromEucJp, jisChar_inside _ _ beyond beyond']
  | ISO2022_JP =>
    simp only [decode, fromIso2022Jp, jisChar_inside _ _ beyond beyond']
  | _ => rfl

theorem Passes.shiftJis_iff (h : Passes beyond totype s t) :
    t.type = .SHIFT_JIS ↔ s.type = .SHIFT_JIS := by
  constructor
  · intro ht
    by_contra hs
    refine h.type_rule (P := (· ≠ .SHIFT_JIS)) (fun htype hshifts => ?_) hs ht
    rw [hshifts.type_eq, current]
    split_ifs
    · unfold Charset.ofState
      split_ifs <;> decide
    · exact htype
  · intro hs
    rw [h.type_eq (by rw [hs]; rfl), hs]

section

variable (beyond : ℕ → BitVec 16) (cd : Descriptor) (inp : List UInt8) (mem : ByteMem)
  (out outb : ℕ)

/-- A call reads inside of the tables, unless it is from Shift_JIS and comes to two bytes that lead
out of `jis0208`. -/
theorem iconv_accesses_inside_iff :
    (∀ t, Passes beyond cd.totype (enter cd inp mem out outb) t →
      AllInside (accesses t.type t.state t.inp)) ↔
    (cd.type = .SHIFT_JIS → ∀ t, Passes beyond cd.totype (enter cd inp mem out outb) t →
      ∀ b₀ b₁ r, t.inp = b₀ :: b₁ :: r → ¬ Stray b₀ b₁) := by
  constructor
  · intro h htype t ht b₀ b₁ r hinp hstray
    exact (accesses_inside_iff _ _ _).mp (h t ht)
      ⟨ht.shiftJis_iff.mpr htype, b₀, b₁, r, hinp, hstray⟩
  · intro h t ht
    refine (accesses_inside_iff _ _ _).mpr ?_
    rintro ⟨htype, b₀, b₁, r, hinp, hstray⟩
    exact h (ht.shiftJis_iff.mp htype) t ht b₀ b₁ r hinp hstray

end

/-- From Shift_JIS the bytes `0xef 0xfc` are looked up in row 93 of 84. -/
theorem shift_jis_past_table :
    iconv_open (octetsOf "utf8") (octetsOf "sjis") true = some ⟨.UTF_8, .SHIFT_JIS, 0⟩ ∧
      ∃ t, Passes (fun _ => 0) .UTF_8
        (enter ⟨.UTF_8, .SHIFT_JIS, 0⟩ [0xef, 0xfc] (fun _ => 0) 0x2000 16) t ∧
        ¬ AllInside (accesses t.type t.state t.inp) := by
  refine ⟨by decide +kernel, _, .refl _, fun h => ?_⟩
  have hcell := h ⟨84, 94, 93, 93⟩ (mem_singleton_self _)
  exact absurd hcell.1 (by decide)

end Iconv
