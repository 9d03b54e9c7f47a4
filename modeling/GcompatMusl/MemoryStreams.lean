import GcompatMusl.StdioStream

/-! # Streams in memory

The write functions of `fmemopen` and `open_memstream`. Both empty the buffer of the stream by a
call of themselves and give up if that comes out short. -/
namespace MemoryStreams

open FlatMemory MuslString Stdio List

/-- A write function that first hands on the bytes in the buffer, where `copy` is what it does when
there are none -/
def viaBuffer {κ : Type} (copy : WriteFn κ) : WriteFn κ := fun f data =>
  let len2 := f.wpos - f.wbase
  if len2 ≠ 0 then
    let (n, g) := copy { f with wpos := f.wbase } f.pending
    if n < len2 then (0, g) else copy g data
  else copy f data

structure Keeps (f f' : Stream κ) : Prop extends Same f f' where
  err : f'.err = f.err
  wbase : f'.wbase = f.wbase
  wpos : f'.wpos = f.wpos
  wend : f'.wend = f.wend

/-- `copy` stores as many of the bytes as it returns, and all of them if `Takes` says so. -/
structure Copies {κ : Type} (copy : WriteFn κ) (Holds : Stream κ → List UInt8 → Prop)
    (Takes : κ → ℕ → Prop) : Prop where
  stable : ∀ {f f' d}, Holds f d → Apart f f' → Holds f' d
  nothing : ∀ c, Takes c 0
  le : ∀ {f d} data, Holds f d → (copy f data).1 ≤ data.length
  takes : ∀ {f d} data, Holds f d → (Takes f.cookie data.length ↔ data.length ≤ (copy f data).1)
  keeps : ∀ {f d} data, Holds f d → Keeps f (copy f data).2
  holds : ∀ {f d} data, Holds f d → Holds (copy f data).2 (d ++ data.take (copy f data).1)

theorem Keeps.emptied {f f' : Stream κ} (h : Keeps f f') (hready : Ready f)
    (hpos : f'.wpos = f.buf) : Emptied f f' :=
  ⟨h.err, h.wbase.trans hready.wbase, hpos, h.wend.trans hready.wend⟩

theorem Copies.contract {κ : Type} {copy : WriteFn κ} {Holds : Stream κ → List UInt8 → Prop}
    {Takes : κ → ℕ → Prop} (h : Copies copy Holds Takes) :
    Contract (viaBuffer copy) (fun _ => Holds) Takes False := by
  refine ⟨h.stable, h.nothing, ?_⟩
  intro _ f d data hbuf hready hd _
  have hlength : f.pending.length = f.wpos - f.wbase := readList_length _ _ _
  have hlow := hready.low
  have hbase := hready.wbase
  rw [viaBuffer]
  by_cases hempty : f.wpos - f.wbase = 0
  · have hpending : f.pending = [] := eq_nil_of_length_eq_zero (hlength.trans hempty)
    have hkeeps := h.keeps data hd
    rw [if_neg (not_not.mpr hempty), hpending]
    refine ⟨(copy f data).1, ⟨hkeeps.toSame, ?_, ?_, ?_, ?_⟩, ?_, False.elim⟩
    · rw [hpending]
      exact h.le data hd
    · rw [hpending]
      rfl
    · exact .inl (hkeeps.emptied hready (by rw [hkeeps.wpos]; omega))
    · rw [hpending]
      exact h.holds data hd
    · exact iff_of_true (h.nothing _) (Nat.zero_le _)
  have hg : Holds { f with wpos := f.wbase } d :=
    h.stable hd ⟨rfl, rfl, rfl, rfl, rfl, rfl, fun _ _ => rfl⟩
  have hkeeps := h.keeps f.pending hg
  have hsame : Same f _ := ⟨hkeeps.nowr, hkeeps.buf, hkeeps.buf_size, hkeeps.lbf⟩
  have hle := h.le f.pending hg
  have htakes := h.takes f.pending hg
  have hfirst := h.holds f.pending hg
  rw [if_pos hempty]
  generalize copy { f with wpos := f.wbase } f.pending = r at hkeeps hsame hle htakes hfirst
  obtain ⟨n, g⟩ := r
  have hwpos : g.wpos = f.buf := hkeeps.wpos.trans hbase
  dsimp only at hle htakes hfirst ⊢
  split_ifs with hshort
  · refine ⟨n, ⟨hsame, ?_, ?_, .inl ?_, ?_⟩, htakes, False.elim⟩
    · rw [length_append]
      omega
    · omega
    · exact ⟨hkeeps.err, hkeeps.wbase.trans hbase, hwpos, hkeeps.wend.trans hready.wend⟩
    · rw [take_append_of_le_length hle]
      exact hfirst
  · rw [take_of_length_le (by omega)] at hfirst
    have hsecond := h.keeps data hfirst
    have hcount := h.le data hfirst
    refine ⟨f.pending.length + (copy g data).1,
      ⟨hsame.trans hsecond.toSame, ?_, ?_, .inl ?_, ?_⟩, ?_, False.elim⟩
    · rw [length_append]
      omega
    · rw [Nat.add_sub_cancel_left]
    · exact ⟨hsecond.err.trans hkeeps.err, hsecond.wbase.trans (hkeeps.wbase.trans hbase),
        hsecond.wpos.trans hwpos, hsecond.wend.trans (hkeeps.wend.trans hready.wend)⟩
    · rw [take_length_add_append, ← append_assoc]
      exact h.holds data hfirst
    · exact iff_of_true (htakes.mpr (by omega)) (Nat.le_add_right _ _)

structure Cookie where
  pos : ℕ
  len : ℕ
  size : ℕ
  buf : ℕ
  mode : UInt8

def terminate (f : Stream Cookie) (mem : ByteMem) (len : ℕ) : ByteMem :=
  if len < f.cookie.size then store mem (f.cookie.buf + len) 0
  else if f.nord ∧ f.cookie.size ≠ 0 then store mem (f.cookie.buf + (f.cookie.size - 1)) 0
  else mem

def mcopy : WriteFn Cookie := fun f data =>
  let c := f.cookie
  let pos := if c.mode = 97 then c.len else c.pos  -- 'a'
  let len := min data.length (c.size - pos)
  let mem := writeList f.mem (c.buf + pos) (data.take len)
  if pos + len > c.len then
    (len, { f with
      mem := terminate f mem (pos + len)
      cookie := { c with pos := pos + len, len := pos + len } })
  else (len, { f with mem := mem, cookie := { c with pos := pos + len } })

def mwrite : WriteFn Cookie := viaBuffer mcopy

/-- There is room in the user's buffer for `h` bytes. -/
def Cookie.Room (c : Cookie) (h : ℕ) : Prop := h ≤ c.size - c.pos

def BUFSIZ : ℕ := 1024

/-- The stream has its own buffer at `internal`; `buf` is not null. -/
def fmemopen (mem : ByteMem) (internal buf size : ℕ) (mode : UInt8) (plus : Bool) :
    Option (Stream Cookie) :=
  if mode ≠ 114 ∧ mode ≠ 119 ∧ mode ≠ 97 then none
  else
    let len := if mode = 114 then size else if mode = 97 then strnlen mem buf size else 0
    some {
      nord := ¬ plus ∧ mode ≠ 114
      nowr := ¬ plus ∧ mode = 114
      err := false
      buf := internal
      buf_size := BUFSIZ
      wbase := 0
      wpos := 0
      wend := 0
      lbf := EOF
      mem := if mode = 119 ∧ plus then store mem buf 0 else mem
      cookie := ⟨if mode = 97 then len else 0, len, size, buf, mode⟩ }

/-- What is settled when the stream is opened: the user's buffer, the position and the length of its
contents -/
structure Place where
  buf : ℕ
  size : ℕ
  start : ℕ
  len : ℕ
  nord : Bool

/-- The last byte of the buffer is used for the terminator after `n` bytes. -/
def Place.full (p : Place) (n : ℕ) : Prop := p.nord = true ∧ p.len < p.size ∧ p.start + n = p.size

instance (p : Place) (n : ℕ) : Decidable (p.full n) := inferInstanceAs (Decidable (_ ∧ _ ∧ _))

def Place.image (p : Place) (d : List UInt8) : List UInt8 :=
  if p.full d.length then d.dropLast ++ [0] else d

structure Holds (p : Place) (f : Stream Cookie) (d : List UInt8) : Prop where
  buf : f.cookie.buf = p.buf
  size : f.cookie.size = p.size
  nord : f.nord = p.nord
  pos : f.cookie.pos = p.start + d.length
  len : f.cookie.len = max p.len (p.start + d.length)
  append : f.cookie.mode = 97 → p.len = p.start
  fits : p.start + d.length ≤ p.size
  bytes : readList f.mem (p.buf + p.start) d.length = p.image d
  apart : ∀ a, InRange a p.buf p.size → ¬ InRange a f.buf f.buf_size

theorem readList_store_last {mem : ByteMem} {a : ℕ} {l : List UInt8} (hl : l ≠ [])
    (h : readList mem a l.length = l) :
    readList (store mem (a + (l.length - 1)) 0) a l.length = l.dropLast ++ [0] := by
  have hpos := length_pos_of_ne_nil hl
  have hsplit : l.length = (l.length - 1) + 1 := by omega
  have hinit : readList mem a (l.length - 1) = l.dropLast := by
    have htake := congrArg (take (l.length - 1)) h
    rw [hsplit, readList_append, Nat.add_sub_cancel, take_left' (readList_length _ _ _)] at htake
    rw [htake, dropLast_eq_take]
  rw [hsplit, readList_append]
  congr 1
  · rw [← hinit]
    refine readList_congr fun b hb => store_ne _ _ ?_
    rw [InRange] at hb
    omega
  · exact congrArg (· :: []) (store_self _ _ _)

section

variable (h : Holds p f d) {x : List UInt8} (hx : x ≠ [])
  (hroom : p.start + d.length + x.length ≤ p.size)
include h hx hroom

theorem Holds.copied :
    readList (writeList f.mem (p.buf + (p.start + d.length)) x) (p.buf + p.start) (d ++ x).length =
      d ++ x := by
  have hpos := length_pos_of_ne_nil hx
  have hbytes := h.bytes
  rw [Place.image, if_neg fun hfull => by have := hfull.2.2; omega] at hbytes
  rw [length_append, ← Nat.add_assoc, readList_writeList_behind, hbytes]

theorem Holds.terminated (hgrow : p.len < p.start + d.length + x.length) :
    readList (terminate f (writeList f.mem (p.buf + (p.start + d.length)) x)
        (p.start + d.length + x.length)) (p.buf + p.start) (d ++ x).length = p.image (d ++ x) := by
  have hread := h.copied hx hroom
  have hlength : (d ++ x).length = d.length + x.length := length_append
  have hpos := length_pos_of_ne_nil hx
  rw [terminate, h.buf, h.size, h.nord, Place.image]
  by_cases hsmall : p.start + d.length + x.length < p.size
  · rw [if_pos hsmall, if_neg fun hfull => by have := hfull.2.2; omega]
    refine Eq.trans (readList_congr fun a ha => store_ne _ _ ?_) hread
    rw [InRange] at ha
    omega
  rw [if_neg hsmall]
  by_cases hnord : p.nord = true
  · rw [if_pos ⟨hnord, by omega⟩, if_pos ⟨hnord, by omega, by omega⟩,
      show p.buf + (p.size - 1) = p.buf + p.start + ((d ++ x).length - 1) by omega]
    exact readList_store_last (append_ne_nil_of_right_ne_nil d hx) hread
  · rw [if_neg fun hboth => hnord hboth.1, if_neg fun hfull => hnord hfull.1]
    exact hread

end

theorem Holds.congr (h : Holds p f d) (hapart : Apart f f') : Holds p f' d := by
  obtain ⟨hbuf, hsize, hnord, hpos, hlen, happend, hfits, hbytes, hout⟩ := h
  rw [← hapart.cookie] at hbuf hsize hpos hlen happend
  refine ⟨hbuf, hsize, hapart.nord.trans hnord, hpos, hlen, happend, hfits, ?_, ?_⟩
  · refine Eq.trans (readList_congr fun a ha => hapart.mem a (hout a ?_)) hbytes
    rw [InRange] at ha ⊢
    omega
  · rw [hapart.buf, hapart.buf_size]
    exact hout

/-- The position that is used in a stream for appending, too -/
theorem Holds.offset (h : Holds p f d) :
    (if f.cookie.mode = 97 then f.cookie.len else f.cookie.pos) = p.start + d.length := by
  have hlen := h.len
  split
  · rename_i hmode
    have := h.append hmode
    omega
  · exact h.pos

theorem mcopy_count (h : Holds p f d) (data : List UInt8) :
    (mcopy f data).1 = min data.length (f.cookie.size - f.cookie.pos) := by
  rw [mcopy]
  simp only [h.offset, ← h.pos]
  split_ifs <;> rfl

theorem mcopy_keeps (f : Stream Cookie) (data : List UInt8) : Keeps f (mcopy f data).2 := by
  rw [mcopy]
  generalize (if f.cookie.mode = 97 then f.cookie.len else f.cookie.pos) = pos
  split <;> exact ⟨⟨rfl, rfl, rfl, .inl rfl⟩, rfl, rfl, rfl, rfl⟩

theorem mcopy_holds (h : Holds p f d) (data : List UInt8) :
    Holds p (mcopy f data).2 (d ++ data.take (mcopy f data).1) := by
  have hfits := h.fits
  have hlen := h.len
  rw [mcopy]
  rw [h.offset, h.size, h.buf]
  generalize hk : min data.length (p.size - (p.start + d.length)) = k
  have hlength : (data.take k).length = k := length_take_of_le (by omega)
  have hall : (d ++ data.take k).length = d.length + k := by
    rw [length_append, hlength]
  have hnil : k ≠ 0 → data.take k ≠ [] := by
    intro hpos hnil
    rw [hnil] at hlength
    exact hpos hlength.symm
  split_ifs with hgrow
  · have hbytes := h.terminated (hnil (by omega)) (by omega) (by omega)
    rw [hlength] at hbytes
    dsimp only
    exact ⟨rfl, rfl, h.nord, by rw [hall]; exact Nat.add_assoc _ _ _,
      by dsimp only; omega, h.append, by omega, hbytes, h.apart⟩
  · dsimp only
    refine ⟨rfl, rfl, h.nord, by rw [hall]; exact Nat.add_assoc _ _ _, by dsimp only; omega,
      h.append, by omega, ?_, h.apart⟩
    by_cases hzero : k = 0
    · rw [hzero, take_zero, append_nil]
      exact h.bytes
    · rw [Place.image, if_neg fun hfull => by have := hfull.2; omega]
      exact h.copied (hnil hzero) (by omega)

theorem mcopies (p : Place) : Copies mcopy (Holds p) Cookie.Room := by
  refine ⟨Holds.congr, fun _ => Nat.zero_le _, fun data h => ?_, fun data h => ?_,
    fun data _ => mcopy_keeps _ data, fun data h => mcopy_holds h data⟩
  · rw [mcopy_count h]
    exact Nat.min_le_left _ _
  · rw [Cookie.Room, mcopy_count h]
    omega

def place (f : Stream Cookie) : Place :=
  ⟨f.cookie.buf, f.cookie.size, f.cookie.pos, f.cookie.len, f.nord⟩

theorem fmemopen_holds (h : fmemopen mem internal buf size mode plus = some f) (hbuf : internal ≠ 0)
    (hapart : ∀ a, InRange a buf size → ¬ InRange a internal BUFSIZ) :
    Valid f ∧ f.pending = [] ∧ Holds (place f) f [] := by
  rw [fmemopen] at h
  split at h
  · exact absurd h.symm (Option.some_ne_none f)
  have hlen : strnlen mem buf size ≤ size := by
    rcases string_or_nonzero mem buf size with ⟨l, -, hstring⟩ | hnonzero
    · rw [strnlen_of_string hstring]
      exact Nat.min_le_right _ _
    · exact Nat.le_of_eq (strnlen_of_nonzero hnonzero)
  generalize hl : (if mode = 114 then size else if mode = 97 then strnlen mem buf size else 0) = len
    at h
  have hle : len ≤ size := by
    rw [← hl]
    split_ifs
    · exact Nat.le_refl _
    · exact hlen
    · exact Nat.zero_le _
  have hpos : (if mode = 97 then len else 0) ≤ len := by
    split_ifs
    · exact Nat.le_refl _
    · exact Nat.zero_le _
  cases h
  refine ⟨⟨hbuf, .inl ⟨rfl, rfl, rfl⟩⟩, rfl, rfl, rfl, rfl, rfl, ?_, ?_, ?_, ?_, hapart⟩
  · exact (Nat.max_eq_left hpos).symm
  · exact fun hmode => (if_pos hmode).symm
  · exact Nat.le_trans hpos hle
  · refine (if_neg ?_).symm
    rintro ⟨-, hshort, hend⟩
    change len < size at hshort
    change (if mode = 97 then len else 0) = size at hend
    omega

/-- The block behind `buf` is a list, and `allocs` tells for each call of `realloc` if it succeeds.
`size` is what the user's variable holds. -/
structure MsCookie where
  pos : ℕ
  buf : List UInt8
  len : ℕ
  space : ℕ
  size : ℕ
  allocs : ℕ → Bool
  calls : ℕ

def MsCookie.put (c : MsCookie) (data : List UInt8) : MsCookie :=
  let pos := c.pos + data.length
  { c with
    buf := c.buf.take c.pos ++ data ++ c.buf.drop pos
    pos := pos
    len := if pos ≥ c.len then pos else c.len
    size := pos }

def msCopy : WriteFn MsCookie := fun f data =>
  let c := f.cookie
  if data.length + c.pos ≥ c.space then
    let len2 := 2 * c.space + 1 ||| c.pos + data.length + 1
    if c.allocs c.calls then
      let newbuf := c.buf.take c.space ++ List.replicate (len2 - c.space) 0
      let c := { c with buf := newbuf, space := len2, calls := c.calls + 1 }
      (data.length, { f with cookie := c.put data })
    else (0, { f with cookie := { c with calls := c.calls + 1 } })
  else (data.length, { f with cookie := c.put data })

def ms_write : WriteFn MsCookie := viaBuffer msCopy

/-- The block has room for `h` bytes, or the next call of `realloc` makes it. -/
def MsCookie.Grows (c : MsCookie) (h : ℕ) : Prop :=
  h = 0 ∨ h + c.pos < c.space ∨ c.allocs c.calls = true

def open_memstream (mem : ByteMem) (internal : ℕ) (allocs : ℕ → Bool) : Stream MsCookie where
  nord := true
  nowr := false
  err := false
  buf := internal
  buf_size := BUFSIZ
  wbase := 0
  wpos := 0
  wend := 0
  lbf := EOF
  mem := mem
  cookie := ⟨0, [0], 0, 0, 0, allocs, 0⟩

structure Grown (allocs : ℕ → Bool) (f : Stream MsCookie) (d : List UInt8) : Prop where
  allocs : f.cookie.allocs = allocs
  pos : f.cookie.pos = d.length
  size : f.cookie.size = d.length
  bytes : f.cookie.buf.take d.length = d
  fits : d.length ≤ f.cookie.space

theorem MsCookie.put_bytes {c : MsCookie} (h : c.buf.take c.pos = d) (data : List UInt8) :
    (c.put data).buf.take (d ++ data).length = d ++ data := by
  rw [put]
  rw [h]
  exact take_left

theorem mscopies (allocs : ℕ → Bool) : Copies msCopy (Grown allocs) MsCookie.Grows := by
  refine ⟨?_, fun _ => .inl rfl, ?_, ?_, ?_, ?_⟩
  · intro f f' d h hapart
    obtain ⟨hallocs, hpos, hsize, hbytes, hfits⟩ := h
    rw [← hapart.cookie] at hallocs hpos hsize hbytes hfits
    exact ⟨hallocs, hpos, hsize, hbytes, hfits⟩
  · intro f d data _
    rw [msCopy]
    split_ifs <;> simp
  · intro f d data _
    rw [msCopy, MsCookie.Grows]
    split_ifs with hgrow halloc
    · exact iff_of_true (.inr (.inr halloc)) (Nat.le_refl _)
    · have hno : ¬ data.length + f.cookie.pos < f.cookie.space := by omega
      simp [hno, halloc]
    · exact iff_of_true (.inr (.inl (by omega))) (Nat.le_refl _)
  · intro f d data _
    rw [msCopy]
    split_ifs <;> exact ⟨⟨rfl, rfl, rfl, .inl rfl⟩, rfl, rfl, rfl, rfl⟩
  intro f d data h
  have hpos := h.pos
  have hfits := h.fits
  have hbytes := h.bytes
  have htotal : f.cookie.pos + data.length = (d ++ data).length := by
    rw [length_append, hpos]
  rw [msCopy]
  split_ifs with hgrow halloc
  · rw [take_length]
    have hroom : f.cookie.pos + data.length + 1 ≤
        2 * f.cookie.space + 1 ||| f.cookie.pos + data.length + 1 := Nat.right_le_or
    refine ⟨h.allocs, htotal, htotal, MsCookie.put_bytes ?_ data,
      by dsimp only [MsCookie.put]; omega⟩
    have hle : d.length ≤ (f.cookie.buf.take f.cookie.space).length := by
      have hlength := congrArg length hbytes
      rw [length_take] at hlength ⊢
      omega
    rw [hpos, take_append_of_le_length hle, take_take, Nat.min_eq_left hfits, hbytes]
  · rw [take_zero, append_nil]
    exact ⟨h.allocs, hpos, h.size, hbytes, hfits⟩
  · rw [take_length]
    refine ⟨h.allocs, htotal, htotal, MsCookie.put_bytes (by rw [hpos, hbytes]) data, ?_⟩
    dsimp only [MsCookie.put]
    omega

end MemoryStreams
