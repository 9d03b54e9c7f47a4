import GcompatMusl.WordMemory

/-! # Metadata in the slots of mallocng

A group is an array of slots. The four bytes in front of a slot say which slot it is, how far it is
from the group and how much of it is unused; the last bytes of the slot repeat the unused size.
Words are stored with the lowest byte first. A failed assertion is `none`. -/
namespace Mallocng

open FlatMemory WordMemory Nat

abbrev Bytes := Mem UInt8

def UNIT : ℕ := 16
def IB : ℕ := 4

def sizeClassTable : List ℕ :=
  [1, 2, 3, 4, 5, 6, 7, 8,
   9, 10, 12, 15,
   18, 20, 25, 31,
   36, 42, 50, 63,
   72, 84, 102, 127,
   146, 170, 204, 255,
   292, 340, 409, 511,
   584, 682, 818, 1023,
   1169, 1364, 1637, 2047,
   2340, 2730, 3276, 4095,
   4680, 5460, 6552, 8191]

def size_classes (sc : ℕ) : ℕ := sizeClassTable.getD sc 0

structure Meta where
  prev : ℕ
  next : ℕ
  mem : ℕ
  avail_mask : BitVec 32
  freed_mask : BitVec 32
  last_idx : ℕ
  freeable : Bool
  sizeclass : ℕ
  maplen : ℕ
  deriving DecidableEq

/-- The memory of the groups, the records in the meta areas, the check word of the area at an
address, and the secret. -/
structure Space where
  mem : Bytes
  metas : ℕ → Meta
  check : ℕ → ℕ
  secret : ℕ

def storage (base : ℕ) : ℕ := base + UNIT

def storeNat (m : Bytes) (a n v : ℕ) : Bytes := fun b =>
  if InRange b a n then UInt8.ofNat (v / 256 ^ (b - a)) else m b

def get_slot_index (m : Bytes) (p : ℕ) : ℕ := (m (p - 3)).toNat % 32

def get_offset (m : Bytes) (p : ℕ) : ℕ :=
  if m (p - 4) ≠ 0 then loadNat m (p - 8) 4 else loadNat m (p - 2) 2

/-- The record that the group of `p` points to, if `p` lies where its header says. -/
def groupOf (m : Bytes) (p : ℕ) : ℕ := loadNat m (p - UNIT * get_offset m p - UNIT) 8

def MetaOk (s : Space) (p r : ℕ) : Prop :=
  let offset := get_offset s.mem p
  let index := get_slot_index s.mem p
  let g := s.metas r
  p % 16 = 0 ∧
  -- an offset of 32 bits is read into an `int`
  (s.mem (p - 4) ≠ 0 → loadNat s.mem (p - 2) 2 = 0 ∧ 0xffff < offset ∧ offset < 2 ^ 31) ∧
  g.mem = p - UNIT * offset - UNIT ∧
  index ≤ g.last_idx ∧
  g.avail_mask.getLsbD index = false ∧
  g.freed_mask.getLsbD index = false ∧
  s.check (r - r % 4096) = s.secret ∧
  (if g.sizeclass < 48 then
    size_classes g.sizeclass * index ≤ offset ∧ offset < size_classes g.sizeclass * (index + 1)
  else g.sizeclass = 63) ∧
  (g.maplen ≠ 0 → offset ≤ g.maplen * 4096 / UNIT - 1)

instance (s : Space) (p r : ℕ) : Decidable (MetaOk s p r) := inferInstanceAs (Decidable (_ ∧ _))

def get_meta (s : Space) (p : ℕ) : Option ℕ :=
  if MetaOk s p (groupOf s.mem p) then some (groupOf s.mem p) else none

def nominal (m : Bytes) (p stop reserved : ℕ) : Option ℕ :=
  if reserved ≤ stop - p ∧ m (stop - reserved) = 0 ∧ m stop = 0 then some (stop - reserved - p)
  else none

def get_nominal_size (m : Bytes) (p stop : ℕ) : Option ℕ :=
  let reserved := (m (p - 3)).toNat / 32
  if 5 ≤ reserved then
    if reserved = 5 ∧ 5 ≤ loadNat m (stop - 4) 4 ∧ m (stop - 5) = 0 then
      nominal m p stop (loadNat m (stop - 4) 4)
    else none
  else nominal m p stop reserved

def get_stride (g : Meta) : ℕ :=
  if g.last_idx = 0 ∧ g.maplen ≠ 0 then g.maplen * 4096 - UNIT
  else UNIT * size_classes g.sizeclass

/-- `end[-reserved] = 0` where `reserved` is an `int`. -/
def clearAt (m : Bytes) (stop : ℕ) (reserved : ℤ) : Bytes :=
  if reserved = 0 then m else store m (stop - reserved).toNat 0

def setReserved (m : Bytes) (p : ℕ) (reserved : ℤ) : Bytes :=
  store m (p - 3) (UInt8.ofNat ((m (p - 3)).toNat % 32 + 32 * (reserved % 8).toNat))

/-- The unused size is cut down to an `int`. -/
def set_size (m : Bytes) (p stop n : ℕ) : Bytes :=
  let reserved := (BitVec.ofNat 32 (stop - p - n)).toInt
  let m := clearAt m stop reserved
  if 5 ≤ reserved then
    setReserved (store (storeNat m (stop - 4) 4 reserved.toNat) (stop - 5) 0) p 5
  else setReserved m p reserved

def smear (m : ℕ) : ℕ :=
  let m := m ||| m >>> 1
  let m := m ||| m >>> 2
  m ||| m >>> 4

def cycled (off slack : ℕ) : ℕ :=
  if off ≤ slack then off
  else
    let off := off &&& smear slack
    if slack < off then off - (slack + 1) else off

def slotStart (g : Meta) (idx : ℕ) : ℕ := storage g.mem + get_stride g * idx

def slotEnd (g : Meta) (idx : ℕ) : ℕ := slotStart g idx + get_stride g - IB

section

variable (m : Bytes) (g : Meta)

def nextOffset (idx n ctr : ℕ) : ℕ :=
  let p := slotStart g idx
  cycled ((if m (p - 3) ≠ 0 then loadNat m (p - 2) 2 + 1 else ctr) % 256)
    ((get_stride g - IB - n) / UNIT)

def moveFrame (m : Bytes) (start off : ℕ) : Bytes :=
  if off ≠ 0 then
    store (store (storeNat m (start - 2) 2 off) (start - 3) 0xe0) (start + UNIT * off - 4) 0
  else m

def header (idx off : ℕ) : Bytes :=
  let start := slotStart g idx
  let p := start + UNIT * off
  store (storeNat (moveFrame m start off) (p - 2) 2 ((p - storage g.mem) / UNIT)) (p - 3)
    (UInt8.ofNat idx)

def framed (idx n off : ℕ) : Bytes :=
  set_size (header m g idx off) (slotStart g idx + UNIT * off) (slotEnd g idx) n

def enframe (idx n ctr : ℕ) : Option (Bytes × ℕ) :=
  let off := nextOffset m g idx n ctr
  if m (slotStart g idx - 4) = 0 ∧ off ≤ (get_stride g - IB - n) / UNIT then
    some (framed m g idx n off, slotStart g idx + UNIT * off)
  else none

end

variable {m : Bytes}

theorem storeNat_outside (h : ¬ InRange b a n) : storeNat m a n v b = m b := if_neg h

theorem loadNat_storeNat (m : Bytes) (a n v : ℕ) :
    loadNat (storeNat m a n v) a n = v % 256 ^ n := by
  have hbytes : loadNat (storeNat m a n v) a n = v / 256 ^ 0 % 256 ^ n := by
    apply loadNat_of_bytes
    intro k hk
    have hin : InRange (a + k) a n := by unfold InRange; omega
    simp [storeNat, hin]
  simpa using hbytes

theorem loadNat_frame {m m' : Bytes} (h : ∀ b, InRange b a n → m b = m' b) :
    loadNat m a n = loadNat m' a n :=
  loadNat_congr n a fun k hk => h (a + k) (by unfold InRange; omega)

theorem toInt_small (h : r < 2 ^ 31) : (BitVec.ofNat 32 r).toInt = r := by
  have hval : (BitVec.ofNat 32 r).toNat = r := by
    rw [BitVec.toNat_ofNat]
    omega
  rw [BitVec.toInt_eq_toNat_of_lt (by rw [hval]; omega), hval]

theorem clearAt_eq (hle : r ≤ stop) :
    clearAt m stop r = if r = 0 then m else store m (stop - r) 0 := by
  have haddr : ((stop : ℤ) - r).toNat = stop - r := by omega
  rw [clearAt, haddr]
  simp only [cast_eq_zero]

theorem clearAt_ne (hle : r ≤ stop) (h : r ≠ 0 → b ≠ stop - r) :
    clearAt m stop r b = m b := by
  rw [clearAt_eq hle]
  split_ifs with hzero
  · rfl
  · exact store_ne _ _ (h hzero)

theorem setReserved_at {p r : ℕ} (hr : r ≤ 5) :
    (setReserved m p r (p - 3)).toNat = (m (p - 3)).toNat % 32 + 32 * r := by
  have hmod : ((r : ℤ) % 8).toNat = r := by omega
  rw [setReserved, store_self, UInt8.toNat_ofNat']
  omega

theorem setReserved_ne (h : b ≠ p - 3) : setReserved m p r b = m b := store_ne _ _ h

section SetSize

theorem set_size_eq (hsmall : stop - p - n < 2 ^ 31) :
    set_size m p stop n =
      if 5 ≤ stop - p - n then
        setReserved (store (storeNat (clearAt m stop (stop - p - n : ℕ)) (stop - 4) 4
          (stop - p - n)) (stop - 5) 0) p 5
      else setReserved (clearAt m stop (stop - p - n : ℕ)) p (stop - p - n : ℕ) := by
  simp only [set_size, toInt_small hsmall]
  generalize stop - p - n = r
  have hfive : (5 : ℤ) ≤ (r : ℤ) ↔ 5 ≤ r := by omega
  simp only [hfive, Int.toNat_natCast]

theorem set_size_outside (hfit : p + n ≤ stop) (hsmall : stop - p - n < 2 ^ 31) (hne : b ≠ p - 3)
    (hout : ¬ (p + n ≤ b ∧ b < stop)) : set_size m p stop n b = m b := by
  have hclear := clearAt_ne (m := m) (b := b) (show stop - p - n ≤ stop by omega) (by omega)
  rw [set_size_eq hsmall]
  split_ifs with hfive
  · rw [setReserved_ne hne, store_ne _ _ (by omega), storeNat_outside (by unfold InRange; omega),
      hclear]
  · rw [setReserved_ne hne, hclear]

theorem set_size_index (hp : 3 ≤ p) (hfit : p + n ≤ stop) (hsmall : stop - p - n < 2 ^ 31) :
    (set_size m p stop n (p - 3)).toNat = (m (p - 3)).toNat % 32 + 32 * min (stop - p - n) 5 := by
  have hclear := clearAt_ne (m := m) (b := p - 3) (show stop - p - n ≤ stop by omega) (by omega)
  rw [set_size_eq hsmall]
  split_ifs with hfive
  · rw [show (5 : ℤ) = (5 : ℕ) from rfl, setReserved_at le_rfl, store_ne _ _ (by omega),
      storeNat_outside (by unfold InRange; omega), hclear, min_eq_right hfive]
  · rw [setReserved_at (by omega), hclear, min_eq_left (by omega)]

theorem nominal_eq (hle : reserved ≤ stop - p) (hzero : m (stop - reserved) = 0)
    (hstop : m stop = 0) : nominal m p stop reserved = some (stop - reserved - p) :=
  if_pos ⟨hle, hzero, hstop⟩

theorem nominal_set_size (hp : 3 ≤ p) (hfit : p + n ≤ stop) (hsmall : stop - p - n < 2 ^ 31)
    (hstop : m stop = 0) : get_nominal_size (set_size m p stop n) p stop = some n := by
  have hend : set_size m p stop n stop = 0 := by
    rw [set_size_outside hfit hsmall (by omega) (by omega), hstop]
  have hindex := set_size_index (m := m) hp hfit hsmall
  have hlast : stop - p - n ≠ 0 → set_size m p stop n (stop - (stop - p - n)) = 0 := by
    intro hne
    have hclear : clearAt m stop (stop - p - n : ℕ) (stop - (stop - p - n)) = 0 := by
      rw [clearAt_eq (by omega), if_neg hne, store_self]
    rw [set_size_eq hsmall]
    split_ifs with hfive
    · rw [setReserved_ne (by omega)]
      by_cases hexact : stop - (stop - p - n) = stop - 5
      · rw [hexact, store_self]
      · rw [store_ne _ _ hexact, storeNat_outside (by unfold InRange; omega), hclear]
    · rw [setReserved_ne (by omega), hclear]
  have hzero : set_size m p stop n (stop - (stop - p - n)) = 0 := by
    by_cases hne : stop - p - n = 0
    · rw [hne, Nat.sub_zero, hend]
    · exact hlast hne
  have hvalue : stop - (stop - p - n) - p = n := by omega
  have hfield : (set_size m p stop n (p - 3)).toNat / 32 = min (stop - p - n) 5 := by omega
  rw [get_nominal_size, hfield]
  by_cases hfive : 5 ≤ stop - p - n
  · have hword : loadNat (set_size m p stop n) (stop - 4) 4 = stop - p - n := by
      have hsame : loadNat (set_size m p stop n) (stop - 4) 4 =
          loadNat (storeNat (clearAt m stop (stop - p - n : ℕ)) (stop - 4) 4 (stop - p - n))
            (stop - 4) 4 := by
        refine loadNat_frame fun b hb => ?_
        unfold InRange at hb
        rw [set_size_eq hsmall, if_pos hfive, setReserved_ne (by omega), store_ne _ _ (by omega)]
      rw [hsame, loadNat_storeNat]
      omega
    have hcheck : set_size m p stop n (stop - 5) = 0 := by
      rw [set_size_eq hsmall, if_pos hfive, setReserved_ne (by omega), store_self]
    rw [min_eq_right hfive, if_pos le_rfl, hword, if_pos ⟨rfl, hfive, hcheck⟩,
      nominal_eq (by omega) hzero hend, hvalue]
  · rw [min_eq_left (by omega), if_neg hfive, nominal_eq (by omega) hzero hend, hvalue]

end SetSize

theorem smear_le : ∀ slack < 256, smear slack ≤ 2 * slack + 1 := by decide +kernel

theorem cycled_le (h : off < 256) : cycled off slack ≤ slack ∧ cycled off slack < 256 := by
  rw [cycled]
  split_ifs with hle
  · exact ⟨hle, h⟩
  · have hsmear := smear_le slack (by omega)
    have hand : off &&& smear slack ≤ smear slack := and_le_right
    dsimp only
    split_ifs <;> omega

theorem nextOffset_le (m : Bytes) (g : Meta) (idx n ctr : ℕ) :
    nextOffset m g idx n ctr ≤ (get_stride g - IB - n) / UNIT ∧ nextOffset m g idx n ctr < 256 :=
  cycled_le (mod_lt _ (by decide))

structure Fits (g : Meta) : Prop where
  aligned : g.mem % 16 = 0
  indices : g.last_idx < 32
  inMap : g.maplen ≠ 0 → UNIT + get_stride g * (g.last_idx + 1) ≤ g.maplen * 4096
  kind : (g.sizeclass < 48 ∧ get_stride g = UNIT * size_classes g.sizeclass ∧
      UNIT * size_classes g.sizeclass * (g.last_idx + 1) < 65536 * UNIT) ∨
    (g.last_idx = 0 ∧ g.maplen ≠ 0 ∧ (g.sizeclass = 63 ∨ 27 < g.sizeclass ∧ g.sizeclass < 48))

structure Free (s : Space) (r idx : ℕ) : Prop where
  fits : Fits (s.metas r)
  owner : loadNat s.mem (s.metas r).mem 8 = r
  area : s.check (r - r % 4096) = s.secret
  index : idx ≤ (s.metas r).last_idx
  avail : (s.metas r).avail_mask.getLsbD idx = false
  freed : (s.metas r).freed_mask.getLsbD idx = false
  check : s.mem (slotStart (s.metas r) idx - 4) = 0
  checkEnd : s.mem (slotEnd (s.metas r) idx) = 0

structure Framed (s : Space) (r idx n p : ℕ) : Prop where
  aligned : p % 16 = 0
  lower : slotStart (s.metas r) idx ≤ p
  upper : p + n ≤ slotEnd (s.metas r) idx
  found : get_meta s p = some r
  index : get_slot_index s.mem p = idx
  size : get_nominal_size s.mem p (slotEnd (s.metas r) idx) = some n

theorem large_class : ∀ sc < 48, 27 < sc → 256 ≤ size_classes sc := by decide

theorem size_classes_pos : ∀ sc < 48, 0 < size_classes sc := by decide

theorem Fits.units (h : Fits g) : ∃ c, 0 < c ∧ get_stride g = UNIT * c := by
  rcases h.kind with ⟨hsc, hstride, -⟩ | ⟨hlast, hmap, -⟩
  · exact ⟨_, size_classes_pos _ hsc, hstride⟩
  · refine ⟨g.maplen * 256 - 1, by omega, ?_⟩
    rw [get_stride, if_pos ⟨hlast, hmap⟩, UNIT]
    omega

theorem slotStart_ge (g : Meta) (idx : ℕ) : g.mem + 16 ≤ slotStart g idx := by
  rw [slotStart, storage, UNIT]
  omega

section Header

theorem moveFrame_outside (hstart : ¬ InRange b (start - 3) 3) (hp : b ≠ start + UNIT * off - 4)
    (hpos : 3 ≤ start) : moveFrame m start off b = m b := by
  unfold InRange at hstart
  rw [moveFrame]
  split_ifs
  · rw [store_ne _ _ hp, store_ne _ _ (by omega), storeNat_outside (by unfold InRange; omega)]
  · rfl

theorem header_outside (hstart : ¬ InRange b (slotStart g idx - 3) 3)
    (hp : ¬ InRange b (slotStart g idx + UNIT * off - 4) 4) : header m g idx off b = m b := by
  have hge := slotStart_ge g idx
  unfold InRange at hp
  rw [header, store_ne _ _ (by omega), storeNat_outside (by unfold InRange; omega),
    moveFrame_outside hstart (by omega) (by omega)]

theorem header_check (h : m (slotStart g idx - 4) = 0) :
    header m g idx off (slotStart g idx + UNIT * off - 4) = 0 := by
  have hge := slotStart_ge g idx
  rw [header, store_ne _ _ (by omega), storeNat_outside (by unfold InRange; omega), moveFrame]
  split_ifs with hoff
  · rw [store_self]
  · obtain rfl : off = 0 := not_not.mp hoff
    exact h

variable (m : Bytes) (g : Meta) (idx off : ℕ)

theorem header_offset :
    loadNat (header m g idx off) (slotStart g idx + UNIT * off - 2) 2 =
      (slotStart g idx + UNIT * off - storage g.mem) / UNIT % 65536 := by
  have hge := slotStart_ge g idx
  have hsame : loadNat (header m g idx off) (slotStart g idx + UNIT * off - 2) 2 =
      loadNat (storeNat (moveFrame m (slotStart g idx) off) (slotStart g idx + UNIT * off - 2) 2
        ((slotStart g idx + UNIT * off - storage g.mem) / UNIT))
        (slotStart g idx + UNIT * off - 2) 2 := by
    refine loadNat_frame fun b hb => ?_
    unfold InRange at hb
    exact store_ne _ _ (by omega)
  rw [hsame, loadNat_storeNat]
  rfl

theorem header_index :
    header m g idx off (slotStart g idx + UNIT * off - 3) = UInt8.ofNat idx := store_self _ _ _

end Header

section Enframe

theorem Fits.bounds {g : Meta} (h : Fits g) {n off : ℕ} (hn : n ≤ get_stride g - IB)
    (hoff : off ≤ (get_stride g - IB - n) / UNIT) (idx : ℕ) :
    slotStart g idx + UNIT * off + n ≤ slotEnd g idx := by
  obtain ⟨c, hc, hstride⟩ := h.units
  have hle : UNIT * off ≤ get_stride g - IB - n := by
    have := mul_le_mul_left UNIT hoff
    exact this.trans (mul_div_le _ _)
  rw [slotEnd]
  simp only [UNIT, IB] at *
  omega

theorem Fits.offset {g : Meta} (h : Fits g) {n off : ℕ}
    (hoff : off ≤ (get_stride g - IB - n) / UNIT)
    (hsmall : off < 256) (hidx : idx ≤ g.last_idx) :
    ∃ offset, slotStart g idx + UNIT * off = g.mem + UNIT + UNIT * offset ∧ offset < 65536 ∧
      (if g.sizeclass < 48 then
        size_classes g.sizeclass * idx ≤ offset ∧ offset < size_classes g.sizeclass * (idx + 1)
      else g.sizeclass = 63) ∧
      (g.maplen ≠ 0 → offset ≤ g.maplen * 4096 / UNIT - 1) := by
  obtain ⟨c, hc, hstride⟩ := h.units
  have hlt : off < c := by
    have hdiv : (get_stride g - IB - n) / UNIT < c := by
      rw [hstride]
      simp only [UNIT, IB]
      omega
    omega
  have hmul : c * (idx + 1) ≤ c * (g.last_idx + 1) := mul_le_mul_left c (by omega)
  have hsucc : c * (idx + 1) = c * idx + c := mul_succ c idx
  have hcsc (hsc : get_stride g = UNIT * size_classes g.sizeclass) :
      c = size_classes g.sizeclass := by
    rw [hstride] at hsc
    exact Nat.eq_of_mul_eq_mul_left (by decide) hsc
  refine ⟨c * idx + off, ?_, ?_, ?_, ?_⟩
  · rw [slotStart, storage, hstride, mul_add, mul_assoc, add_assoc]
  · rcases h.kind with ⟨-, hsc, hfit⟩ | ⟨hlast, -, -⟩
    · rw [← hcsc hsc, mul_assoc, mul_comm] at hfit
      have := Nat.lt_of_mul_lt_mul_right hfit
      omega
    · obtain rfl : idx = 0 := by omega
      omega
  · rcases h.kind with ⟨hlt48, hsc, -⟩ | ⟨hlast, -, hclass⟩
    · rw [if_pos hlt48, ← hcsc hsc]
      omega
    · obtain rfl : idx = 0 := by omega
      rcases hclass with h63 | ⟨hlow, hhigh⟩
      · rw [if_neg (by omega)]
        exact h63
      · have := large_class _ hhigh hlow
        rw [if_pos hhigh]
        omega
  · intro hmap
    have hin := h.inMap hmap
    rw [hstride, mul_assoc] at hin
    simp only [UNIT] at hin ⊢
    omega

theorem get_meta_of_header (h : Free s r idx) (hp : p = (s.metas r).mem + UNIT + UNIT * offset)
    (hcheck : s.mem (p - 4) = 0) (hoffset : loadNat s.mem (p - 2) 2 = offset)
    (hindex : get_slot_index s.mem p = idx)
    (hclass : if (s.metas r).sizeclass < 48 then
        size_classes (s.metas r).sizeclass * idx ≤ offset ∧
          offset < size_classes (s.metas r).sizeclass * (idx + 1)
      else (s.metas r).sizeclass = 63)
    (hmap : (s.metas r).maplen ≠ 0 → offset ≤ (s.metas r).maplen * 4096 / UNIT - 1) :
    get_meta s p = some r := by
  have haligned := h.fits.aligned
  have hget : get_offset s.mem p = offset := by
    rw [get_offset, if_neg (not_not.mpr hcheck), hoffset]
  have hbase : p - UNIT * offset - UNIT = (s.metas r).mem := by omega
  have hgroup : groupOf s.mem p = r := by rw [groupOf, hget, hbase, h.owner]
  have hok : MetaOk s p r := by
    rw [MetaOk, hget, hindex, hbase]
    refine ⟨?_, fun hne => absurd hcheck hne, rfl, h.index, h.avail, h.freed, h.area, hclass, hmap⟩
    rw [hp, UNIT]
    omega
  rw [get_meta, hgroup, if_pos hok]

section Framed

variable {g : Meta} (hbounds : slotStart g idx + UNIT * off + n ≤ slotEnd g idx)
  (hreserved : slotEnd g idx - (slotStart g idx + UNIT * off) - n < 2 ^ 31)
include hbounds hreserved

theorem framed_outside (hcheck : m (slotStart g idx - 4) = 0)
    (hb : b ≤ slotStart g idx - 4 ∨ slotEnd g idx ≤ b) : framed m g idx n off b = m b := by
  have hge := slotStart_ge g idx
  rw [framed, set_size_outside hbounds hreserved (by omega) (by omega)]
  by_cases hfour : b = slotStart g idx - 4 ∧ off = 0
  · obtain ⟨rfl, rfl⟩ := hfour
    rw [hcheck]
    exact header_check hcheck
  · refine header_outside (by unfold InRange; omega) ?_
    rw [UNIT] at hbounds ⊢
    unfold InRange
    omega

theorem framed_front (hne : b ≠ slotStart g idx + UNIT * off - 3)
    (hlt : b < slotStart g idx + UNIT * off) :
    framed m g idx n off b = header m g idx off b :=
  set_size_outside hbounds hreserved hne (by omega)

theorem framed_index (hidx : idx < 32) :
    get_slot_index (framed m g idx n off) (slotStart g idx + UNIT * off) = idx := by
  have hge := slotStart_ge g idx
  rw [get_slot_index, framed, set_size_index (by omega) hbounds hreserved, header_index,
    UInt8.toNat_ofNat']
  omega

theorem framed_offset
    (hplace : slotStart g idx + UNIT * off = g.mem + UNIT + UNIT * offset) (hlt : offset < 65536) :
    loadNat (framed m g idx n off) (slotStart g idx + UNIT * off - 2) 2 = offset := by
  have hge := slotStart_ge g idx
  have hsame : loadNat (framed m g idx n off) (slotStart g idx + UNIT * off - 2) 2 =
      loadNat (header m g idx off) (slotStart g idx + UNIT * off - 2) 2 := by
    refine loadNat_frame fun b hb => ?_
    unfold InRange at hb
    exact framed_front hbounds hreserved (by omega) (by omega)
  rw [hsame, header_offset, hplace, storage, Nat.add_sub_cancel_left,
    Nat.mul_div_cancel_left _ (by decide), Nat.mod_eq_of_lt hlt]

theorem framed_size (hend : m (slotEnd g idx) = 0) :
    get_nominal_size (framed m g idx n off) (slotStart g idx + UNIT * off) (slotEnd g idx) =
      some n := by
  have hge := slotStart_ge g idx
  refine nominal_set_size (by omega) hbounds hreserved ?_
  rw [header_outside (by unfold InRange; omega) (by unfold InRange; omega), hend]

theorem framed_check (hcheck : m (slotStart g idx - 4) = 0) :
    framed m g idx n off (slotStart g idx + UNIT * off - 4) = 0 := by
  have hge := slotStart_ge g idx
  rw [framed_front hbounds hreserved (by omega) (by omega), header_check hcheck]

end Framed

theorem Free.of_outside {m : Bytes} (h : Free s r idx)
    (hout : ∀ b, b ≤ slotStart (s.metas r) idx - 4 ∨ slotEnd (s.metas r) idx ≤ b → m b = s.mem b) :
    Free { s with mem := m } r idx := by
  have hge := slotStart_ge (s.metas r) idx
  refine ⟨h.fits, ?_, h.area, h.index, h.avail, h.freed, ?_, ?_⟩
  · refine Eq.trans (loadNat_frame fun b hb => hout b (.inl ?_)) h.owner
    unfold InRange at hb
    dsimp only at hb
    omega
  · exact (hout _ (.inl le_rfl)).trans h.check
  · exact (hout _ (.inr le_rfl)).trans h.checkEnd

theorem enframe_framed {n : ℕ} (ctr : ℕ) (h : Free s r idx) (hn : n ≤ get_stride (s.metas r) - IB)
    (hsmall : get_stride (s.metas r) - IB - n < 2 ^ 31) :
    ∃ m p, enframe s.mem (s.metas r) idx n ctr = some (m, p) ∧
      Framed { s with mem := m } r idx n p ∧
      ∀ b, b ≤ slotStart (s.metas r) idx - 4 ∨ slotEnd (s.metas r) idx ≤ b → m b = s.mem b := by
  obtain ⟨hoff, hbyte⟩ := nextOffset_le s.mem (s.metas r) idx n ctr
  rw [enframe, if_pos ⟨h.check, hoff⟩]
  generalize nextOffset s.mem (s.metas r) idx n ctr = off at hoff hbyte
  have hbounds := h.fits.bounds hn hoff idx
  obtain ⟨offset, hplace, hlt, hclass, hmap⟩ := h.fits.offset hoff hbyte h.index
  have hreserved : slotEnd (s.metas r) idx - (slotStart (s.metas r) idx + UNIT * off) - n <
      2 ^ 31 := by
    rw [slotEnd]
    omega
  have hidx : idx < 32 := lt_of_le_of_lt h.index h.fits.indices
  have hout : ∀ b, b ≤ slotStart (s.metas r) idx - 4 ∨ slotEnd (s.metas r) idx ≤ b →
      framed s.mem (s.metas r) idx n off b = s.mem b :=
    fun b => framed_outside hbounds hreserved h.check
  refine ⟨_, _, rfl, ⟨?_, le_add_right _ _, hbounds, ?_, framed_index hbounds hreserved hidx,
    framed_size hbounds hreserved h.checkEnd⟩, hout⟩
  · have haligned := h.fits.aligned
    rw [hplace, UNIT]
    omega
  · refine get_meta_of_header (h.of_outside hout) hplace ?_ ?_ ?_ hclass hmap
    · exact framed_check hbounds hreserved h.check
    · exact framed_offset hbounds hreserved hplace hlt
    · exact framed_index hbounds hreserved hidx

theorem slotEnd_le_of_lt (h : i < j) : slotEnd g i ≤ slotStart g j - 4 := by
  have hmul : get_stride g * (i + 1) ≤ get_stride g * j := mul_le_mul_left _ h
  rw [mul_succ] at hmul
  rw [slotEnd, slotStart, slotStart, IB]
  omega

/-- A slot that is framed is found again with its index and its size, and nothing but the slot
changes, if the unused size is an `int`. -/
theorem enframe_round_trip (s : Space) (r idx n ctr : ℕ) (h : Free s r idx)
    (hn : n ≤ get_stride (s.metas r) - IB) (hsmall : get_stride (s.metas r) - IB - n < 2 ^ 31) :
    ∃ m p, enframe s.mem (s.metas r) idx n ctr = some (m, p) ∧
      Framed { s with mem := m } r idx n p ∧
      (∀ b, b ≤ slotStart (s.metas r) idx - 4 ∨ slotEnd (s.metas r) idx ≤ b → m b = s.mem b) ∧
      ∀ j ≠ idx, ∀ b, slotStart (s.metas r) j - 4 ≤ b → b ≤ slotEnd (s.metas r) j →
        m b = s.mem b := by
  obtain ⟨m, p, henframe, hframed, hout⟩ := enframe_framed ctr h hn hsmall
  refine ⟨m, p, henframe, hframed, hout, ?_⟩
  intro j hj b hlow hhigh
  refine hout b ?_
  rcases lt_or_gt_of_ne hj with hlt | hlt
  all_goals
    have := slotEnd_le_of_lt (g := s.metas r) hlt
    omega

end Enframe

def mappedSpace (g : Meta) : Space :=
  ⟨storeNat (fun _ => 0) 0x100000000 8 4136, fun _ => g, fun _ => 7, 7⟩

def mappedMeta (pages : ℕ) : Meta := ⟨0, 0, 0x100000000, 0, 0, 0, true, 63, pages⟩

theorem mapped_free (pages : ℕ) (h : pages = 33 ∨ pages = 2 ^ 20) :
    Free (mappedSpace (mappedMeta pages)) 4136 0 := by
  rcases h with rfl | rfl
  all_goals
    refine ⟨⟨by decide, by decide, by decide, by decide⟩, by decide +kernel, rfl, by decide,
      rfl, rfl,
      by decide +kernel, by decide +kernel⟩

theorem enframe_round_trip_mapped : ∃ m p,
    enframe (mappedSpace (mappedMeta 33)).mem (mappedMeta 33) 0 131052 5 = some (m, p) ∧
      Framed { mappedSpace (mappedMeta 33) with mem := m } 4136 0 131052 p := by
  obtain ⟨m, p, henframe, hframed, -⟩ := enframe_round_trip (mappedSpace (mappedMeta 33)) 4136 0
    131052 5 (mapped_free 33 (.inl rfl)) (by decide) (by decide)
  exact ⟨m, p, henframe, hframed⟩

/-- In a mapping of four gigabytes an unused size does not fit into an `int`. -/
theorem enframe_loses_size : Free (mappedSpace (mappedMeta (2 ^ 20))) 4136 0 ∧
    0 ≤ get_stride (mappedMeta (2 ^ 20)) - IB ∧
    (enframe (mappedSpace (mappedMeta (2 ^ 20))).mem (mappedMeta (2 ^ 20)) 0 0 0).map
      (fun x => (x.2, get_nominal_size x.1 x.2 (slotEnd (mappedMeta (2 ^ 20)) 0))) =
      some (0x100000010, some 0xffffffe8) := by
  refine ⟨mapped_free _ (.inr rfl), by decide, ?_⟩
  decide +kernel

end Mallocng
