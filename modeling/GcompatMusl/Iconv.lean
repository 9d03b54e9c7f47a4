import GcompatMusl.IconvTables
import GcompatMusl.Utf8Decoding

/-! # `iconv`

A turn of the conversion loop decodes one character of the input and encodes it. The output is
stored in memory; the count `k` that moves the output pointer is the one the encoder returns. What
lies behind the table `jis0208`, which Shift_JIS reads past its end, is a parameter. -/
namespace Iconv

open FlatMemory FuelLoop MuslString Multibyte

def Charset.code : Charset → ℕ
  | .UTF_32BE => 0o300
  | .UTF_16LE => 0o301
  | .UTF_16BE => 0o302
  | .UTF_32LE => 0o303
  | .UCS2BE => 0o304
  | .UCS2LE => 0o305
  | .WCHAR_T => 0o306
  | .US_ASCII => 0o307
  | .UTF_8 => 0o310
  | .UTF_16 => 0o312
  | .UTF_32 => 0o313
  | .UCS2 => 0o314
  | .EUC_JP => 0o320
  | .SHIFT_JIS => 0o321
  | .ISO2022_JP => 0o322
  | .GB18030 => 0o330
  | .GBK => 0o331
  | .GB2312 => 0o332
  | .BIG5 => 0o340
  | .EUC_KR => 0o350
  | .codepage quads _ => quads

def Charset.ofState (state : ℕ) : Charset :=
  if state = 0o301 then .UTF_16LE
  else if state = 0o302 then .UTF_16BE
  else if state = 0o303 then .UTF_32LE
  else if state = 0o304 then .UCS2BE
  else if state = 0o305 then .UCS2LE
  else .UTF_32BE

def skipped (a : UInt8) : Bool := (widen a ||| 32) - 97 > 26 && widen a - 48 > 10

def fuzzycmp : List UInt8 → List UInt8 → Bool
  | a, [] => a.isEmpty
  | [], _ :: _ => false
  | a, c :: b =>
    match a.dropWhile skipped with
    | [] => false
    | d :: a => (widen d ||| 32) = widen c && fuzzycmp a b

def octetsOf (s : String) : List UInt8 := s.toList.map fun c => UInt8.ofNat c.toNat

def find_charmap (name : List UInt8) : Option Charset :=
  let name := if name = [] then octetsOf "utf8" else name
  (charmaps.find? fun m => m.names.any fun b => fuzzycmp name (octetsOf b)).map Charmap.charset

/-- The charset of the output, that of the input, and the state of a `stateful_cd` -/
structure Descriptor where
  totype : Charset
  type : Charset
  state : ℕ
  deriving DecidableEq

def Charset.stateful : Charset → Bool
  | .UTF_16 | .UTF_32 | .UCS2 | .ISO2022_JP => true
  | _ => false

def iconv_open (tocode fromcode : List UInt8) (malloc : Bool) : Option Descriptor := do
  let t ← find_charmap tocode
  let f ← find_charmap fromcode
  if t.code ≥ 0o330 then none
  else if f.stateful && !malloc then none
  else some ⟨t, f, 0⟩

def legacy_chars (i : ℕ) : ℕ := entry 34 legacyCharsRows i

def gb18030 (c d : Wide) : Wide := BitVec.ofNat 32 (entry 190 gb18030Rows (c.toNat * 190 + d.toNat))

def big5 (c d : Wide) : Wide := BitVec.ofNat 32 (entry 157 big5Rows (c.toNat * 157 + d.toNat))

def hkscs (i : ℕ) : ℕ := entry 12 hkscsRows i

def ksc (c d : Wide) : Wide := BitVec.ofNat 32 (entry 94 kscRows (c.toNat * 94 + d.toNat))

def rev_jis (i : ℕ) : ℕ := entry 94 revJisRows i

def jis0208 (beyond : ℕ → BitVec 16) (c d : Wide) : Wide :=
  let i := c.toNat * 94 + d.toNat
  if i < 84 * 94 then BitVec.ofNat 32 (entry 94 jis0208Rows i)
  else (beyond (i - 84 * 94)).setWidth 32

def pageByte (quads bytes i : ℕ) : ℕ := bytes >>> (8 * ((64 - quads) * 5 - 1 - i)) % 256

def legacy_map (quads bytes c : ℕ) : ℕ :=
  if c < 4 * quads then c
  else
    let x := c - 4 * quads
    let v := pageByte quads bytes (x * 5 / 4) >>> (2 * x % 8) |||
      pageByte quads bytes (x * 5 / 4 + 1) <<< (8 - 2 * x % 8) &&& 1023
    if v < 256 then v else legacy_chars (v - 256)

def tally (p : ℕ → Bool) (width row : ℕ) : ℕ → ℕ
  | 0 => 0
  | j + 1 => tally p width row j + (p (digit width row j)).toNat

def countIn (p : ℕ → Bool) (width : ℕ) (rows : List ℕ) : ℕ :=
  (rows.map fun row => tally p width row width).sum

def between (d c e : ℕ) : Bool := Nat.ble d e && Nat.ble e c

def countBetween (width : ℕ) (rows : List ℕ) (d c : ℕ) : ℕ := countIn (between d c) width rows

theorem between_iff : between d c e = true ↔ d ≤ e ∧ e ≤ c := by
  rw [between, Bool.and_eq_true, Nat.ble_eq, Nat.ble_eq]

theorem between_toNat (d c e : ℕ) : (between d c e).toNat = if d ≤ e ∧ e ≤ c then 1 else 0 := by
  split_ifs with h
  · rw [between_iff.2 h]
    rfl
  · rw [Bool.eq_false_of_not_eq_true (mt between_iff.1 h)]
    rfl

theorem digit_lt (width row j : ℕ) : digit width row j < 2 ^ 16 := Nat.mod_lt _ (Nat.two_pow_pos 16)

theorem countIn_add (h : ∀ e < 2 ^ 16, (p e).toNat + (q e).toNat = (r e).toNat) (width : ℕ)
    (rows : List ℕ) : countIn p width rows + countIn q width rows = countIn r width rows := by
  have hrow : ∀ row n, tally p width row n + tally q width row n = tally r width row n := by
    intro row n
    induction n with
    | zero => rfl
    | succ n ih =>
      have hdigit := h _ (digit_lt width row n)
      simp only [tally]
      omega
  induction rows with
  | nil => rfl
  | cons row rows ih =>
    have hhead := hrow row width
    simp only [countIn, List.map_cons, List.sum_cons] at ih ⊢
    omega

theorem countBetween_split (width : ℕ) (rows : List ℕ) (hdc : d ≤ c + 1)
    (hce : c ≤ e ∨ 2 ^ 16 ≤ e) :
    countBetween width rows d c + countBetween width rows (c + 1) e =
      countBetween width rows d e := by
  refine countIn_add (fun v hv => ?_) width rows
  rw [between_toNat, between_toNat, between_toNat]
  split_ifs <;> omega

/-- The loop of `GB18030` and `EUC_KR` that goes on by as many code points as it has passed by
that are in the table. -/
def skipTaken (width : ℕ) (rows : List ℕ) (d c : ℕ) : ℕ :=
  if d ≤ c then skipTaken width rows (c + 1) (c + countBetween width rows d c) else c
termination_by if d ≤ c then countBetween width rows d (2 ^ 16) + 1 else 0
decreasing_by
  have hsplit := countBetween_split width rows (show d ≤ c + 1 by omega) (.inr (le_refl (2 ^ 16)))
  split_ifs <;> omega

/-- A character of `l` bytes, a change of the state, one of the HKSCS characters that stand for two
characters, or an end of the call. -/
inductive Decoded where
  | char (l : ℕ) (c : Wide)
  | shift (l : ℕ) (type : Charset) (state : ℕ)
  | pair (l k : ℕ)
  | ilseq
  | starved

def two (s : List UInt8) (k : UInt8 → UInt8 → Decoded) : Decoded :=
  match s with
  | b₀ :: b₁ :: _ => k b₀ b₁
  | _ => .starved

def three (s : List UInt8) (k : UInt8 → UInt8 → UInt8 → Decoded) : Decoded :=
  match s with
  | b₀ :: b₁ :: b₂ :: _ => k b₀ b₁ b₂
  | _ => .starved

def four (s : List UInt8) (k : UInt8 → UInt8 → UInt8 → UInt8 → Decoded) : Decoded :=
  match s with
  | b₀ :: b₁ :: b₂ :: b₃ :: _ => k b₀ b₁ b₂ b₃
  | _ => .starved

def get_16 (b₀ b₁ : UInt8) (e : ℕ) : Wide :=
  if e % 2 = 0 then widen b₀ <<< 8 ||| widen b₁ else widen b₁ <<< 8 ||| widen b₀

/-- The order is `UTF_32BE` for 0 and `UTF_32LE` for 3. -/
def get_32 (b₀ b₁ b₂ b₃ : UInt8) (e : ℕ) : Wide :=
  let s := [b₀, b₁, b₂, b₃]
  let byte (i : ℕ) := widen (s.getD i 0)
  byte (e % 4) <<< 24 ||| byte (e % 4 ^^^ 1) <<< 16 ||| byte (e % 4 ^^^ 2) <<< 8 |||
    byte (e % 4 ^^^ 3)

def fromUtf8 (c : Wide) (s : List UInt8) : Decoded :=
  if c < 128 then .char 1 c
  else
    let r := mbrtowc true (some s) 0
    if r.ret = SIZE_MAX then .ilseq
    else if r.ret = SIZE_MAX - 1 then .starved
    else .char r.ret (r.wc.getD 0)

def fromAscii (c : Wide) : Decoded := if c ≥ 128 then .ilseq else .char 1 c

def checked32 (c : Wide) : Decoded :=
  if c - 0xd800 < 0x800 ∨ c ≥ 0x110000 then .ilseq else .char 4 c

def fromUtf32 (e : ℕ) (s : List UInt8) : Decoded :=
  four s fun b₀ b₁ b₂ b₃ => checked32 (get_32 b₀ b₁ b₂ b₃ e)

def surrogate (ucs2 : Bool) (e : ℕ) (c : Wide) (s : List UInt8) : Decoded :=
  if ucs2 then .ilseq
  else four s fun _ _ b₂ b₃ =>
    let d := get_16 b₂ b₃ e
    if d - 0xdc00 ≥ 0x400 then .ilseq else .char 4 (((c - 0xd7c0) <<< 10) + (d - 0xdc00))

def fromUtf16 (ucs2 : Bool) (e : ℕ) (s : List UInt8) : Decoded :=
  two s fun b₀ b₁ =>
    let c := get_16 b₀ b₁ e
    if c - 0xdc00 < 0x400 then .ilseq
    else if c - 0xd800 < 0x400 then surrogate ucs2 e c s
    else .char 2 c

def resumeOrder (state : ℕ) : Decoded := .shift 0 (.ofState state) state

/-- `UCS2` and `UTF_16`, which find out the byte order -/
def order16 (big little : Charset) (state : ℕ) (s : List UInt8) : Decoded :=
  if state ≠ 0 then resumeOrder state
  else two s fun b₀ b₁ =>
    let c := get_16 b₀ b₁ 0
    let found := if c = 0xfffe then little else big
    .shift (if c = 0xfffe ∨ c = 0xfeff then 2 else 0) found found.code

def order32 (state : ℕ) (s : List UInt8) : Decoded :=
  if state ≠ 0 then resumeOrder state
  else four s fun b₀ b₁ b₂ b₃ =>
    let c := get_32 b₀ b₁ b₂ b₃ 0
    let found : Charset := if c = 0xfffe0000 then .UTF_32LE else .UTF_32BE
    .shift (if c = 0xfffe0000 ∨ c = 0xfeff then 4 else 0) found found.code

def nonzero (c : Wide) : Decoded := if c = 0 then .ilseq else .char 2 c

def sjisRow (c : Wide) : Option Wide :=
  if c - 129 ≤ 159 - 129 then some ((c - 129) * 2)
  else if c - 224 ≤ 239 - 224 then some ((c - 193) * 2)
  else none

/-- The place in `jis0208`. A second byte that is out of range is not refused. -/
def sjisPlace (c d : Wide) : Option (Wide × Wide) :=
  if d - 64 ≤ 158 - 64 then
    if d = 127 then none
    else some (c, (if d > 127 then d - 1 else d) - 64)
  else if d - 159 ≤ 252 - 159 then some (c + 1, d - 159)
  else some (c, d)

section

variable (beyond : ℕ → BitVec 16)

def fromShiftJis (c : Wide) (s : List UInt8) : Decoded :=
  if c < 128 then .char 1 c
  else if c - 0xa1 ≤ 0xdf - 0xa1 then .char 1 (c + (0xff61 - 0xa1))
  else two s fun _ b₁ =>
    match (sjisRow c).bind fun row => sjisPlace row (widen b₁) with
    | none => .ilseq
    | some (row, d) => nonzero (jis0208 beyond row d)

def jisChar (c d : Wide) : Decoded :=
  if c ≥ 84 ∨ d ≥ 94 then .ilseq else nonzero (jis0208 beyond c d)

def fromEucJp (c : Wide) (s : List UInt8) : Decoded :=
  if c < 128 then .char 1 c
  else two s fun _ b₁ =>
    let d := widen b₁
    if c = 0x8e then
      if d - 0xa1 > 0xdf - 0xa1 then .ilseq else .char 2 (d + (0xff61 - 0xa1))
    else jisChar beyond (c - 0xa1) (d - 0xa1)

def escape (b₁ b₂ : UInt8) : Decoded :=
  if b₁ ≠ 40 ∧ b₁ ≠ 36 then .ilseq
  else match 128 * (b₁ == 36).toNat + b₂.toNat with
  | 66 => .shift 3 .ISO2022_JP 0
  | 74 => .shift 3 .ISO2022_JP 1
  | 73 => .shift 3 .ISO2022_JP 4
  | 192 => .shift 3 .ISO2022_JP 2
  | 194 => .shift 3 .ISO2022_JP 3
  | _ => .ilseq

def fromIso2022Jp (state : ℕ) (c : Wide) (s : List UInt8) : Decoded :=
  if c ≥ 128 then .ilseq
  else if c = 27 then three s fun _ b₁ b₂ => escape b₁ b₂
  else match state with
  | 1 => .char 1 (if c = 92 then 0xa5 else if c = 126 then 0x203e else c)
  | 2 | 3 => two s fun _ b₁ => jisChar beyond (c - 0x21) (widen b₁ - 0x21)
  | 4 =>
    if c - 0x60 < 0x1f then .ilseq
    else .char 1 (if c - 0x21 < 0x5e then c + (0xff61 - 0x21) else c)
  | _ => .char 1 c

end

def gbLinear (c d b₂ b₃ : Wide) : Wide := (10 * c + d - 48) * 1260 + 10 * (b₂ - 0x81) + (b₃ - 48)

def gbFour (c d b₂ b₃ : Wide) : Decoded :=
  if b₂ - 0x81 > 126 then .ilseq
  else if b₃ - 48 > 9 then .ilseq
  else .char 4 (BitVec.ofNat 32 (skipTaken 190 gb18030Rows 0 ((gbLinear c d b₂ b₃).toNat + 128)))

def gbTrail (type : Charset) (c d : Wide) (s : List UInt8) : Decoded :=
  if d < 0xa1 ∧ type = .GB2312 then .ilseq
  else if d - 0x40 ≥ 191 ∨ d = 127 then
    if d - 48 > 9 ∨ type ≠ .GB18030 then .ilseq
    else four s fun _ _ b₂ b₃ => gbFour c d (widen b₂) (widen b₃)
  else .char 2 (gb18030 c (if d - 0x40 > 63 then d - 0x40 - 1 else d - 0x40))

def fromGb (type : Charset) (c : Wide) (s : List UInt8) : Decoded :=
  if c < 128 then .char 1 c
  else if type = .GB2312 ∧ c < 0xa1 then .ilseq
  else if c - 0x81 ≥ 126 then .ilseq
  else two s fun _ b₁ => gbTrail type (c - 0x81) (widen b₁) s

def hkscsChar (i : ℕ) : Decoded :=
  let c := (hkscs (4867 + i / 16) >>> (i % 16) % 2) <<< 17 ||| hkscs i
  if c / 256 = 0xdc then .pair 2 (c % 256) else nonzero (BitVec.ofNat 32 c)

def big5Char (c d : Wide) : Decoded :=
  if c - 0xa1 ≥ 0xfa - 0xa1 then
    if c - 0x87 ≥ 0xff - 0x87 then .ilseq
    else
      let row := if c < 0xa1 then c - 0x87 else c - (0x87 + (0xfa - 0xa1))
      hkscsChar (row.toNat * 157 + d.toNat)
  else
    let row := c - 0xa1
    nonzero (big5 row d ||| if row = 0x27 ∧ (d = 0x3a ∨ d = 0x3c ∨ d = 0x42) then 0x20000 else 0)

def fromBig5 (c : Wide) (s : List UInt8) : Decoded :=
  if c < 128 then .char 1 c
  else two s fun _ b₁ =>
    let d := widen b₁
    if d - 0x40 ≥ 0xff - 0x40 ∨ d - 0x7f < 0xa1 - 0x7f then .ilseq
    else big5Char c (if d - 0x40 > 0x3e then d - 0x40 - 0x22 else d - 0x40)

def uhcTrail (d : Wide) : Option Wide :=
  if d - 65 < 26 then some (d - 65)
  else if d - 97 < 26 then some (d - 97 + 26)
  else if d - 0x81 < 0xff - 0x81 then some (d - 0x81 + 52)
  else none

/-- The number of a syllable outside of KS C 5601. The last of them is in row `0xc6`, but only the
second byte is checked from there on. -/
def uhcChar (c d : Wide) : Decoded :=
  if c ≥ 93 ∨ c ≥ 0xc6 - 0x81 ∧ d > 0x52 then .ilseq
  else match uhcTrail d with
  | none => .ilseq
  | some d =>
    let n := if c < 0x20 then 178 * c + d else 178 * 0x20 + 84 * (c - 0x20) + d
    .char 2 (BitVec.ofNat 32 (skipTaken 94 kscRows 0xac00 (n.toNat + 0xac00)))

def fromEucKr (c : Wide) (s : List UInt8) : Decoded :=
  if c < 128 then .char 1 c
  else two s fun _ b₁ =>
    let d := widen b₁
    if c - 0xa1 ≥ 93 ∨ d - 0xa1 ≥ 94 then uhcChar (c - 0xa1 + (0xa1 - 0x81)) (d - 0xa1 + 0xa1)
    else nonzero (ksc (c - 0xa1) (d - 0xa1))

def fromCodepage (quads bytes : ℕ) (c : Wide) : Decoded :=
  if c = 0 then .char 1 c
  else
    let v := legacy_map quads bytes c.toNat
    if v = 0 then .ilseq else .char 1 (BitVec.ofNat 32 v)

def decode (beyond : ℕ → BitVec 16) (type : Charset) (state : ℕ) : List UInt8 → Decoded
  | [] => .starved
  | b :: s =>
    let c := widen b
    match type with
    | .UTF_8 => fromUtf8 c (b :: s)
    | .US_ASCII => fromAscii c
    | .WCHAR_T => fromUtf32 3 (b :: s)
    | .UTF_32BE | .UTF_32LE => fromUtf32 type.code (b :: s)
    | .UCS2BE | .UCS2LE => fromUtf16 true type.code (b :: s)
    | .UTF_16BE | .UTF_16LE => fromUtf16 false type.code (b :: s)
    | .UCS2 => order16 .UCS2BE .UCS2LE state (b :: s)
    | .UTF_16 => order16 .UTF_16BE .UTF_16LE state (b :: s)
    | .UTF_32 => order32 state (b :: s)
    | .SHIFT_JIS => fromShiftJis beyond c (b :: s)
    | .EUC_JP => fromEucJp beyond c (b :: s)
    | .ISO2022_JP => fromIso2022Jp beyond state c (b :: s)
    | .GB2312 | .GBK | .GB18030 => fromGb type c (b :: s)
    | .BIG5 => fromBig5 c (b :: s)
    | .EUC_KR => fromEucKr c (b :: s)
    | .codepage quads bytes => fromCodepage quads bytes c

/-- The bytes stored, the count that the output moves by and what is added to the result; or the
output has no room, or the code does not get on. -/
inductive Encoded where
  | wrote (bytes : List UInt8) (k x : ℕ)
  | toobig
  | stuck

def put (bytes : List UInt8) (x outb : ℕ) : Encoded :=
  if outb < bytes.length then .toobig else .wrote bytes bytes.length x

def revout (c : Wide) (x outb : ℕ) : Encoded := put [narrow c] x outb

def uniToJis (beyond : ℕ → BitVec 16) (c : Wide) (b nel : ℕ) : ℕ :=
  let i := nel / 2
  let j := rev_jis (b + i)
  let d := jis0208 beyond (BitVec.ofNat 32 (j / 256)) (BitVec.ofNat 32 (j % 256))
  if d = c then j + 0x2121
  else if nel ≤ 1 then 0
  else if c < d then uniToJis beyond c b (nel / 2)
  else uniToJis beyond c (b + i) (nel - nel / 2)
termination_by nel

def uni_to_jis (beyond : ℕ → BitVec 16) (c : Wide) : ℕ := uniToJis beyond c 0 6879

def pageFind (quads bytes : ℕ) (c : Wide) : Option ℕ :=
  if c < 256 ∧ c.toNat = legacy_map quads bytes c.toNat then some c.toNat
  else (List.range 256).find? fun b => 4 * quads ≤ b && c.toNat == legacy_map quads bytes b

/-- From the label `default`; a substitute that is not found either is looked for again. -/
def toCodepage (quads bytes : ℕ) (c : Wide) (x outb : ℕ) : Encoded :=
  if outb < 1 then .toobig
  else match pageFind quads bytes c with
  | some b => .wrote [UInt8.ofNat b] 1 x
  | none =>
    match pageFind quads bytes 42 with
    | some b => .wrote [UInt8.ofNat b] 1 (x + 1)
    | none => .stuck

def subst (quads bytes x outb : ℕ) : Encoded := toCodepage quads bytes 42 (x + 1) outb

def toUtf8 (c : Wide) (outb : ℕ) : Encoded :=
  match wcrtomb true c with
  | some l => put l.val 0 outb
  | none => if outb < 4 then .toobig else .wrote [] SIZE_MAX 0

def kana (c : Wide) : Bool := c - 0xff61 ≤ 0xdf - 0xa1

def toJis (totype : Charset) (j : ℕ) (bytes : ℕ → List UInt8) (outb : ℕ) : Encoded :=
  if j = 0 then subst totype.code 0 0 outb else put (bytes j) 0 outb

def sjisBytes (j : ℕ) : List UInt8 :=
  let d := j % 256
  let c := j / 256
  [UInt8.ofNat ((c + 1) / 2 + if c < 95 then 112 else 176),
    UInt8.ofNat (if c % 2 = 1 then d + 31 + d / 96 else d + 126)]

section

variable (beyond : ℕ → BitVec 16) (c : Wide) (outb : ℕ)

def toShiftJis : Encoded :=
  if c < 128 then revout c 0 outb
  else if c = 0xa5 then revout 92 1 outb
  else if c = 0x203e then revout 126 1 outb
  else if kana c then revout (c + (0xa1 - 0xff61)) 0 outb
  else toJis .SHIFT_JIS (uni_to_jis beyond c) sjisBytes outb

def eucBytes (j : ℕ) : List UInt8 := [UInt8.ofNat (j / 256 + 0x80), UInt8.ofNat (j % 256 + 0x80)]

def toEucJp : Encoded :=
  if c < 128 then revout c 0 outb
  else if kana c then toJis .EUC_JP (c + (0x0e00 + 0x21 - 0xff61)).toNat eucBytes outb
  else toJis .EUC_JP (uni_to_jis beyond c) eucBytes outb

def escaped (set b : UInt8) : List UInt8 := [27, 40, set, b, 27, 40, 66]

def escapedJis (j : ℕ) : List UInt8 :=
  [27, 36, 66, UInt8.ofNat (j / 256), UInt8.ofNat (j % 256), 27, 40, 66]

def toIso2022Jp : Encoded :=
  if c < 128 then revout c 0 outb
  else if c = 0xa5 then put (escaped 74 92) 0 outb
  else if c = 0x203e then put (escaped 74 126) 0 outb
  else if kana c then put (escaped 73 (narrow (c - 0xff61 + 0x21))) 0 outb
  else toJis .ISO2022_JP (uni_to_jis beyond c) escapedJis outb

end

def put_16 (c : Wide) (e : ℕ) : List UInt8 :=
  if e % 2 = 0 then [narrow (c >>> 8), narrow c] else [narrow c, narrow (c >>> 8)]

def put_32 (c : Wide) (e : ℕ) : List UInt8 :=
  (List.range 4).map fun i => narrow (c >>> (8 * (3 - (i ^^^ e % 4))))

def toUtf16 (ucs2 : Bool) (e : ℕ) (c : Wide) (outb : ℕ) : Encoded :=
  if c < 0x10000 ∨ ucs2 then put (put_16 (if c ≥ 0x10000 then 0xfffd else c) e) 0 outb
  else
    let c := c - 0x10000
    put (put_16 (c >>> 10 ||| 0xd800) e ++ put_16 (c &&& 0x3ff ||| 0xdc00) e) 0 outb

def encode (beyond : ℕ → BitVec 16) (totype : Charset) (c : Wide) (outb : ℕ) : Encoded :=
  match totype with
  | .WCHAR_T => put (put_32 c 3) 0 outb
  | .UTF_8 => toUtf8 c outb
  | .US_ASCII => if c > 0x7f then subst totype.code 0 0 outb else toCodepage totype.code 0 c 0 outb
  | .SHIFT_JIS => toShiftJis beyond c outb
  | .EUC_JP => toEucJp beyond c outb
  | .ISO2022_JP => toIso2022Jp beyond c outb
  | .UCS2 => toUtf16 true Charset.UCS2BE.code c outb
  | .UCS2BE | .UCS2LE => toUtf16 true totype.code c outb
  | .UTF_16 | .UTF_16BE | .UTF_16LE => toUtf16 false totype.code c outb
  | .UTF_32 => put (put_32 c Charset.UTF_32BE.code) 0 outb
  | .UTF_32BE | .UTF_32LE => put (put_32 c totype.code) 0 outb
  | .codepage quads bytes => toCodepage quads bytes c 0 outb
  | .GB18030 | .GBK | .GB2312 | .BIG5 | .EUC_KR => toCodepage totype.code 0 c 0 outb

def E2BIG : ℕ := 7
def EINVAL : ℕ := 22

structure Cursor where
  type : Charset
  state : ℕ
  inp : List UInt8
  mem : ByteMem
  out : ℕ
  outb : ℕ
  x : ℕ

structure Result where
  ret : ℕ
  errno : Option ℕ
  cursor : Cursor

def Cursor.fail (s : Cursor) (errno : ℕ) : Turn Result Cursor := .ret ⟨SIZE_MAX, some errno, s⟩

def Cursor.stored (s : Cursor) (l : ℕ) (bytes : List UInt8) (k x : ℕ) : Cursor :=
  { s with
    inp := s.inp.drop l
    mem := writeList s.mem s.out bytes
    out := (s.out + k) % 2 ^ 64
    outb := (s.outb + 2 ^ 64 - k) % 2 ^ 64
    x := s.x + x }

variable (beyond : ℕ → BitVec 16)

/-- A pair of characters is converted by `pair`, to bytes and what is added to the result. -/
def turn (pair : ℕ → List UInt8 × ℕ) (totype : Charset) (s : Cursor) : Turn Result Cursor :=
  if s.inp = [] then .ret ⟨s.x, none, s⟩
  else match decode beyond s.type s.state s.inp with
  | .starved => s.fail EINVAL
  | .ilseq => s.fail EILSEQ
  | .shift l type state => .again { s with type := type, state := state, inp := s.inp.drop l }
  | .pair l k =>
    if (pair k).1.length > s.outb then s.fail E2BIG
    else .again (s.stored l (pair k).1 (pair k).1.length (pair k).2)
  | .char l c =>
    match encode beyond totype c s.outb with
    | .toobig => s.fail E2BIG
    | .stuck => .again s
    | .wrote bytes k x => .again (s.stored l bytes k x)

def pairText (k : ℕ) : List UInt8 :=
  ([0o303, 0o212, 0o314, 0o204, 0o303, 0o212, 0o314, 0o214, 0o303, 0o252, 0o314, 0o204,
    0o303, 0o252, 0o314, 0o214].drop k).take 4

def pairBytes (totype : Charset) (k : ℕ) : List UInt8 × ℕ :=
  let start : Cursor := ⟨.UTF_8, 0, pairText k, fun _ => 0, 0, 8, 0⟩
  match (loop (turn beyond (fun _ => ([], 0)) totype) 10 start).result with
  | none => ([], 0)
  | some r => (readList r.cursor.mem 0 r.cursor.out, if r.ret = 0 then 0 else 1)

def iconvTurn (totype : Charset) : Cursor → Turn Result Cursor :=
  turn beyond (pairBytes beyond totype) totype

variable (cd : Descriptor) (inp : List UInt8) (mem : ByteMem) (out outb : ℕ)

def enter : Cursor :=
  ⟨cd.type, cd.state, inp, mem, out, outb, 0⟩

def iconv : Option Result :=
  (loop (iconvTurn beyond cd.totype) (2 * inp.length + 2) (enter cd inp mem out outb)).result

end Iconv
