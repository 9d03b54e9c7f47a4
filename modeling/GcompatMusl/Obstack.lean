import GcompatMusl.FuelLoop
import GcompatMusl.MaskAlign
import GcompatMusl.WordMemory

/-! # Obstacks

The growing object of an obstack and its chain of chunks. Pointers and sizes are 64-bit words, and
the headers of the chunks lie in memory. -/
namespace Obstack

open FlatMemory WordMemory MaskAlign FuelLoop

/-- `struct obstack`, without the functions and the fields for the macros' temporaries. -/
structure Handle where
  chunk_size : ℕ
  chunk : ℕ
  object_base : ℕ
  next_free : ℕ
  chunk_limit : ℕ
  alignment_mask : ℕ
  maybe_empty_object : Bool

/-- A block of memory that `chunkfun` has returned. -/
structure Chunk where
  addr : ℕ
  size : ℕ
  deriving DecidableEq

def Chunk.limit (c : Chunk) : ℕ := c.addr + c.size

/-- The handle, the memory, and the blocks that were not passed to `freefun`. -/
structure State where
  h : Handle
  mem : Mem UInt8
  live : List Chunk

def ptrAlign (p mask : ℕ) : ℕ := (p + mask) % 2 ^ 64 &&& (2 ^ 64 - 1 - mask)

def contentsOffset : ℕ := 16

def firstObject (mask chunk : ℕ) : ℕ := ptrAlign ((chunk + contentsOffset) % 2 ^ 64) mask

def writePrev (m : Mem UInt8) (chunk prev : ℕ) : Mem UInt8 :=
  storeWord m (chunk + 8) (BitVec.ofNat 64 prev)

def writeHeader (m : Mem UInt8) (chunk limit prev : ℕ) : Mem UInt8 :=
  writePrev (storeWord m chunk (BitVec.ofNat 64 limit)) chunk prev

def limitOf (m : Mem UInt8) (chunk : ℕ) : ℕ := (loadWord m chunk).toNat

def prevOf (m : Mem UInt8) (chunk : ℕ) : ℕ := (loadWord m (chunk + 8)).toNat

def call_freefun (s : State) (chunk : ℕ) : State :=
  { s with live := s.live.filter fun c => c.addr ≠ chunk }

def obstack_begin (size alignment chunk : ℕ) (m : Mem UInt8) : State :=
  let alignment := if alignment = 0 then 16 else alignment
  let size := if size = 0 then 4096 - 32 else size
  let limit := (chunk + size) % 2 ^ 64
  { h :=
      { chunk_size := size
        chunk := chunk
        object_base := firstObject (alignment - 1) chunk
        next_free := firstObject (alignment - 1) chunk
        chunk_limit := limit
        alignment_mask := alignment - 1
        maybe_empty_object := false }
    mem := writeHeader m chunk limit 0
    live := [⟨chunk, size⟩] }

def objectSize (h : Handle) : ℕ := subWord h.next_free h.object_base

section

variable (h : Handle) (length : ℕ)

def sum1 : ℕ := (objectSize h + length) % 2 ^ 64

def sum2 : ℕ := (sum1 h length + h.alignment_mask) % 2 ^ 64

def newSize : ℕ :=
  let size := (sum2 h length + objectSize h / 8 + 100) % 2 ^ 64
  let size := if size < sum2 h length then sum2 h length else size
  if size < h.chunk_size then h.chunk_size else size

end

def moveTo (s : State) (length chunk : ℕ) : State :=
  let h := s.h
  let size := newSize h length
  let limit := (chunk + size) % 2 ^ 64
  let base := firstObject h.alignment_mask chunk
  let alone := !h.maybe_empty_object && h.object_base = firstObject h.alignment_mask h.chunk
  let m := writeHeader s.mem chunk limit h.chunk
  let m := copy m base h.object_base (objectSize h)
  let s' : State :=
    { h :=
        { h with
          chunk := chunk
          chunk_limit := limit
          object_base := base
          next_free := (base + objectSize h) % 2 ^ 64
          maybe_empty_object := false }
      mem := if alone then writePrev m chunk (prevOf m h.chunk) else m
      live := ⟨chunk, size⟩ :: s.live }
  if alone then call_freefun s' h.chunk else s'

section

variable (answer : Option ℕ)

section

variable (length : ℕ) (s : State)

/-- `answer` is what `chunkfun` returns if it is called; the result is `none` where the source
calls `obstack_alloc_failed_handler`. -/
def obstack_newchunk : Option State :=
  if objectSize s.h ≤ sum1 s.h length && sum1 s.h length ≤ sum2 s.h length then
    answer.map (moveTo s length)
  else none

def obstack_room (h : Handle) : ℕ := subWord h.chunk_limit h.next_free

def obstack_make_room : Option State :=
  if obstack_room s.h < length then obstack_newchunk answer length s else some s

def advance : State :=
  { s with h := { s.h with next_free := (s.h.next_free + length) % 2 ^ 64 } }

end

section

variable (data : List UInt8) (s : State)

def append : State :=
  advance data.length { s with mem := writeList s.mem s.h.next_free data }

def obstack_grow : Option State :=
  (obstack_make_room answer data.length s).map (append data)

def obstack_grow0 : Option State :=
  (obstack_make_room answer ((data.length + 1) % 2 ^ 64) s).map fun s => append [0] (append data s)

end

def obstack_1grow (c : UInt8) (s : State) : Option State :=
  (obstack_make_room answer 1 s).map (append [c])

def obstack_blank (length : ℕ) (s : State) : Option State :=
  (obstack_make_room answer length s).map (advance length)

end

/-- The state after `obstack_finish`, whose value is the old `object_base`. -/
def obstack_finish (s : State) : State :=
  let h := s.h
  let aligned := ptrAlign h.next_free h.alignment_mask
  let next :=
    if subWord aligned h.chunk > subWord h.chunk_limit h.chunk then h.chunk_limit else aligned
  { s with
    h := { h with
      maybe_empty_object := h.maybe_empty_object || h.next_free = h.object_base
      next_free := next
      object_base := next } }

def resetTo (s : State) (obj lp : ℕ) : State :=
  { s with
    h := { s.h with
      object_base := obj
      next_free := obj
      chunk_limit := limitOf s.mem lp
      chunk := lp } }

/-- One turn of the loop in `_obstack_free`, at the chunk `x.1`, and what follows the loop. -/
def freeTurn (obj : ℕ) (x : ℕ × State) : Turn (Option State) (ℕ × State) :=
  if x.1 ≠ 0 && (x.1 ≥ obj || limitOf x.2.mem x.1 < obj) then
    let s := call_freefun x.2 x.1
    .again (prevOf x.2.mem x.1, { s with h := { s.h with maybe_empty_object := true } })
  else if x.1 ≠ 0 then .ret (some (resetTo x.2 obj x.1))
  else if obj ≠ 0 then .ret none
  else .ret (some x.2)

/-- The macro, which leaves all but the simplest case to `_obstack_free`. The result is `none` where
the source aborts. -/
def obstack_free (fuel obj : ℕ) (s : State) : Option (Option State) :=
  if obj > s.h.chunk && obj < s.h.chunk_limit then
    some (some { s with h := { s.h with next_free := obj, object_base := obj } })
  else (loop (freeTurn obj) fuel (s.h.chunk, s)).result

def PTRDIFF_MAX : ℕ := 2 ^ 63 - 1

section Arithmetic

theorem ptrAlign_eq (hk : k < 64) :
    ptrAlign p (2 ^ k - 1) = (p + (2 ^ k - 1)) % 2 ^ 64 - (p + (2 ^ k - 1)) % 2 ^ 64 % 2 ^ k := by
  have hpos : 0 < 2 ^ k := Nat.two_pow_pos k
  rw [ptrAlign, show 2 ^ 64 - 1 - (2 ^ k - 1) = 2 ^ 64 - 2 ^ k by omega,
    and_high hk (Nat.mod_lt _ (by omega))]

theorem ptrAlign_bounds (hk : k < 64) (h : p + (2 ^ k - 1) < 2 ^ 64) :
    p ≤ ptrAlign p (2 ^ k - 1) ∧ ptrAlign p (2 ^ k - 1) ≤ p + (2 ^ k - 1) := by
  rw [ptrAlign_eq hk]
  omega

theorem ptrAlign_wrap (hk : k < 64) (hp : p < 2 ^ 64) (h : 2 ^ 64 ≤ p + (2 ^ k - 1)) :
    ptrAlign p (2 ^ k - 1) = 0 := by
  have hlt := two_pow_lt hk
  have hsmall : (p + (2 ^ k - 1)) % 2 ^ 64 < 2 ^ k := by
    omega
  rw [ptrAlign_eq hk, Nat.mod_eq_of_lt hsmall, Nat.sub_self]

theorem firstObject_bounds (chunk : ℕ) (hk : k < 64)
    (h : chunk + contentsOffset + (2 ^ k - 1) < 2 ^ 64) :
    chunk + contentsOffset ≤ firstObject (2 ^ k - 1) chunk ∧
      firstObject (2 ^ k - 1) chunk ≤ chunk + contentsOffset + (2 ^ k - 1) := by
  rw [firstObject, Nat.mod_eq_of_lt (by omega)]
  exact ptrAlign_bounds hk h

theorem finish_bounds (hk : k < 64) (hmask : h.alignment_mask = 2 ^ k - 1) (hpos : 0 < h.chunk)
    (hlo : h.chunk ≤ h.next_free) (hhi : h.next_free ≤ h.chunk_limit)
    (hlimit : h.chunk_limit < 2 ^ 64) (s : State) (hs : s.h = h) :
    h.next_free ≤ (obstack_finish s).h.next_free ∧
      (obstack_finish s).h.next_free ≤ h.chunk_limit := by
  have hsub : subWord h.chunk_limit h.chunk = h.chunk_limit - h.chunk :=
    subWord_of_le hlimit (hlo.trans hhi)
  simp only [obstack_finish, hs, hmask]
  by_cases hwrap : h.next_free + (2 ^ k - 1) < 2 ^ 64
  · obtain ⟨hge, hle⟩ := ptrAlign_bounds hk hwrap
    rw [subWord_of_le (by omega) (by omega)]
    split_ifs with hcut <;> omega
  · have hzero := ptrAlign_wrap hk (by omega) (Nat.le_of_not_lt hwrap)
    have hneg : subWord 0 h.chunk = 2 ^ 64 - h.chunk := by
      rw [subWord]
      omega
    rw [hzero, if_pos (by omega)]
    omega

theorem add_mod_of_le (hy : y < 2 ^ 64) (h : x ≤ (x + y) % 2 ^ 64) : (x + y) % 2 ^ 64 = x + y := by
  by_cases hlt : x + y < 2 ^ 64
  · exact Nat.mod_eq_of_lt hlt
  · omega

theorem sum2_le_newSize (h : Handle) (length : ℕ) : sum2 h length ≤ newSize h length := by
  unfold newSize
  simp only
  split_ifs <;> omega

theorem newSize_ge (hlen : length < 2 ^ 64) (hmask : h.alignment_mask < 2 ^ 64)
    (h1 : objectSize h ≤ sum1 h length) (h2 : sum1 h length ≤ sum2 h length)
    (hsize : newSize h length ≤ PTRDIFF_MAX) :
    objectSize h + length + h.alignment_mask + 100 ≤ newSize h length := by
  have hs1 : sum1 h length = objectSize h + length := add_mod_of_le hlen h1
  have hs2 : sum2 h length = sum1 h length + h.alignment_mask := add_mod_of_le hmask h2
  have hle := (sum2_le_newSize h length).trans hsize
  have hnowrap : (sum2 h length + objectSize h / 8 + 100) % 2 ^ 64 =
      sum2 h length + objectSize h / 8 + 100 := by
    unfold PTRDIFF_MAX at hle
    exact Nat.mod_eq_of_lt (by omega)
  unfold newSize
  simp only [hnowrap]
  split_ifs <;> omega

theorem chunk_size_le_newSize (h : Handle) (length : ℕ) : h.chunk_size ≤ newSize h length := by
  unfold newSize
  simp only
  split_ifs <;> omega

end Arithmetic

end Obstack
