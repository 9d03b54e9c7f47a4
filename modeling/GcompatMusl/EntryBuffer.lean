import GcompatMusl.PasswdFiles

/-! # Copying an entry into the caller's buffer

The readers of `libgcompat/grp.c` and `libgcompat/pwd.c` copy the strings of an entry one after the
other. A pointer is null, an offset into the buffer, or points into one generation of musl's static
storage (`own` tells that of `fgetgrent` from that of `getgrent`). -/
namespace EntryBuffer

open FlatMemory MuslString PasswdFiles List

inductive Ptr where
  | null
  | line (own : Bool) (gen off : ℕ)
  | mem (own : Bool) (gen idx : ℕ)
  | buf (off : ℕ)
  deriving DecidableEq, Repr

def strlcpyLoop (b : Block) : ℕ → ByteMem → ℕ → ℕ → ByteMem × ℕ × ℕ
  | 0, m, d, s => (m, d, s)
  | n + 1, m, d, s =>
    if b.bytes s = 0 then (store m d (b.bytes s), d, s)
    else strlcpyLoop b n (store m d (b.bytes s)) (d + 1) (s + 1)

def strlcpy (m : ByteMem) (d : ℕ) (b : Block) (s n : ℕ) : ByteMem × ℕ :=
  if n = 0 then (m, b.strlen s)
  else
    let (m', d', s') := strlcpyLoop b (n - 1) m d s
    (store m' d' 0, d' - d + b.strlen s')

def stpcpyLoop (b : Block) : ℕ → ByteMem → ℕ → ℕ → ByteMem × ℕ
  | 0, m, d, _ => (m, d)
  | fuel + 1, m, d, s =>
    if b.bytes s = 0 then (store m d (b.bytes s), d)
    else stpcpyLoop b fuel (store m d (b.bytes s)) (d + 1) (s + 1)

def stpcpy (m : ByteMem) (d : ℕ) (b : Block) (s : ℕ) : ByteMem × ℕ :=
  stpcpyLoop b (b.size + 1) m d s

/-- What the copying of the string fields leaves; `ok` is false after the jump to
`err_unlock`. -/
structure Copied where
  bytes : ByteMem
  cursor : ℕ
  ptrs : List Ptr
  ok : Bool

/-- `if (f != NULL) { g->f = cursor; cursor += strlcpy(cursor, f, end - cursor) + 1;
if (cursor > end) goto err_unlock; }` for each string field. -/
def copyFields (line : Block) (len : ℕ) : List (Option ℕ) → ByteMem → ℕ → Copied
  | [], m, cursor => ⟨m, cursor, [], true⟩
  | none :: ps, m, cursor =>
    let c := copyFields line len ps m cursor
    { c with ptrs := .null :: c.ptrs }
  | some s :: ps, m, cursor =>
    let r := strlcpy m cursor line s (len - cursor)
    let next := cursor + r.2 + 1
    if next > len then ⟨r.1, next, [.buf cursor], false⟩
    else
      let c := copyFields line len ps r.1 next
      { c with ptrs := .buf cursor :: c.ptrs }

structure HasString (m : ByteMem) (o : ℕ) (l : List UInt8) : Prop where
  bytes : ∀ i (h : i < l.length), m (o + i) = l[i]
  terminator : m (o + l.length) = 0

variable {o d s k lo hi cursor : ℕ}

theorem HasString.of_agree (h : HasString m o l)
    (ha : ∀ a, o ≤ a → a < o + (l.length + 1) → m' a = m a) : HasString m' o l := by
  refine ⟨fun i hi => ?_, ?_⟩
  · rw [ha _ (by omega) (by omega)]
    exact h.bytes i hi
  · rw [ha _ (by omega) (by omega)]
    exact h.terminator

structure CopyOf (b : Block) (m m' : ByteMem) (d s k : ℕ) : Prop where
  inside : ∀ i < k, m' (d + i) = b.bytes (s + i)
  outside : ∀ a, a < d ∨ d + k ≤ a → m' a = m a

theorem CopyOf.cons (h : CopyOf b (store m d (b.bytes s)) m' (d + 1) (s + 1) k) :
    CopyOf b m m' d s (k + 1) := by
  refine ⟨fun i hi => ?_, fun a ha => ?_⟩
  · cases i with
    | zero =>
      rw [Nat.add_zero, h.outside d (by omega)]
      exact store_self _ _ _
    | succ i =>
      have := h.inside i (by omega)
      rw [show d + (i + 1) = d + 1 + i by omega, show s + (i + 1) = s + 1 + i by omega]
      exact this
  · rw [h.outside a (by omega)]
    exact store_ne _ _ (by omega)

theorem CopyOf.one (b : Block) (m : ByteMem) (d s : ℕ) :
    CopyOf b m (store m d (b.bytes s)) d s 1 := by
  refine ⟨fun i hi => ?_, fun a ha => store_ne _ _ (by omega)⟩
  obtain rfl : i = 0 := by omega
  exact store_self _ _ _

theorem CopyOf.hasString (h : CopyOf b m m' d s (b.strlen s + 1)) :
    HasString m' d (b.string s) := by
  refine ⟨fun i hi => ?_, ?_⟩
  · rw [Block.string_getElem, h.inside i]
    rw [Block.string_length] at hi
    omega
  · rw [Block.string_length, h.inside _ (by omega)]
    exact (b.strlen_spec s).terminator

theorem CopyOf.store_end (h : CopyOf b m m' d s j) (hk : k ≤ j) (hj : j ≤ k + 1)
    (hz : b.bytes (s + k) = 0) : CopyOf b m (store m' (d + k) 0) d s (k + 1) := by
  refine ⟨fun i hi => ?_, fun a ha => ?_⟩
  · rcases Nat.lt_succ_iff_lt_or_eq.mp hi with hi | rfl
    · rw [store_ne _ _ (by omega)]
      exact h.inside i (by omega)
    · rw [store_self, hz]
  · rw [store_ne _ _ (by omega)]
    exact h.outside a (by omega)

theorem strlcpyLoop_spec (b : Block) (m : ByteMem) (hs : StringAt b.bytes s k) :
    ∃ m', strlcpyLoop b n m d s = (m', d + min n k, s + min n k) ∧
      CopyOf b m m' d s (min n (k + 1)) := by
  induction n generalizing m d s k with
  | zero => exact ⟨m, by simp [strlcpyLoop], by simp, fun _ _ => rfl⟩
  | succ n ih =>
    cases k with
    | zero =>
      refine ⟨store m d (b.bytes s), ?_, ?_⟩
      · simp [strlcpyLoop, hs.head_eq]
      · rw [show min (n + 1) (0 + 1) = 1 by omega]
        exact .one b m d s
    | succ k =>
      obtain ⟨m', heq, hcopy⟩ := ih (store m d (b.bytes s)) hs.tail
      refine ⟨m', ?_, ?_⟩
      · rw [strlcpyLoop, if_neg hs.head_ne, heq]
        simp only [Prod.mk.injEq, true_and]
        omega
      · rw [show min (n + 1) (k + 1 + 1) = min n (k + 1) + 1 by omega]
        exact hcopy.cons

theorem strlcpy_snd (m : ByteMem) (d : ℕ) (b : Block) (s n : ℕ) :
    (strlcpy m d b s n).2 = b.strlen s := by
  rw [strlcpy]
  split
  · rfl
  · obtain ⟨m', heq, -⟩ := strlcpyLoop_spec b m (b.strlen_spec s)
    have hrest := (b.strlen_spec s).suffix (Nat.min_le_right (n - 1) (b.strlen s))
    have hlen := (b.strlen_spec _).unique hrest
    rw [heq]
    dsimp only
    omega

theorem strlcpy_fits (m : ByteMem) (d : ℕ) (hn : b.strlen s < n) :
    CopyOf b m (strlcpy m d b s n).1 d s (b.strlen s + 1) := by
  obtain ⟨m', heq, hcopy⟩ := strlcpyLoop_spec b m (b.strlen_spec s)
  rw [show min (n - 1) (b.strlen s) = b.strlen s by omega] at heq
  rw [strlcpy, if_neg (by omega), heq]
  exact hcopy.store_end (by omega) (by omega) (b.strlen_spec s).terminator

theorem stpcpyLoop_spec (b : Block) (m : ByteMem) (hs : StringAt b.bytes s k) (hk : k < fuel) :
    (stpcpyLoop b fuel m d s).2 = d + k ∧ CopyOf b m (stpcpyLoop b fuel m d s).1 d s (k + 1) := by
  induction fuel generalizing m d s k with
  | zero => omega
  | succ fuel ih =>
    rw [stpcpyLoop]
    cases k with
    | zero =>
      rw [if_pos hs.head_eq]
      exact ⟨rfl, .one b m d s⟩
    | succ k =>
      rw [if_neg hs.head_ne]
      obtain ⟨hend, hcopy⟩ := ih (store m d (b.bytes s)) hs.tail (by omega)
      exact ⟨by omega, hcopy.cons⟩

theorem stpcpy_spec (m : ByteMem) (d : ℕ) (b : Block) (s : ℕ) :
    (stpcpy m d b s).2 = d + b.strlen s ∧ CopyOf b m (stpcpy m d b s).1 d s (b.strlen s + 1) :=
  stpcpyLoop_spec b m (b.strlen_spec s) (by have := b.strlen_le_size s; omega)

def need (line : Block) (os : List ℕ) : ℕ := (os.map fun s => line.strlen s + 1).sum

def Placed (line : Block) (m : ByteMem) (lo hi : ℕ) (p : Ptr) (s : ℕ) : Prop :=
  ∃ o, p = .buf o ∧ lo ≤ o ∧ o + (line.strlen s + 1) ≤ hi ∧ HasString m o (line.string s)

theorem Placed.of_agree (h : Placed line m lo hi p s) (ha : ∀ a, a < hi → m' a = m a) :
    Placed line m' lo hi p s := by
  obtain ⟨o, hp, hlo, hhi, hstr⟩ := h
  refine ⟨o, hp, hlo, hhi, hstr.of_agree fun a _ hlt => ha a ?_⟩
  rw [Block.string_length] at hlt
  omega

theorem Placed.mono (h : Placed line m lo hi p s) (hlo : lo' ≤ lo) (hhi : hi ≤ hi') :
    Placed line m lo' hi' p s := by
  obtain ⟨o, hp, h1, h2, hstr⟩ := h
  exact ⟨o, hp, by omega, by omega, hstr⟩

structure FieldsCopied (line : Block) (os : List ℕ) (m : ByteMem) (cursor : ℕ) (c : Copied) :
    Prop where
  cursor_eq : c.cursor = cursor + need line os
  placed : List.Forall₂ (Placed line c.bytes cursor c.cursor) c.ptrs os
  outside : ∀ a, a < cursor ∨ c.cursor ≤ a → c.bytes a = m a

theorem FieldsCopied.getD (h : FieldsCopied line os m cursor c) (i : ℕ) (hi : i < os.length)
    (p : Ptr) : Placed line c.bytes cursor c.cursor (c.ptrs.getD i p) os[i] := by
  have hlen : i < c.ptrs.length := by rwa [h.placed.length_eq]
  rw [getD_eq_getElem?_getD, getElem?_eq_getElem hlen]
  exact h.placed.get hlen hi

theorem copyFields_ok_iff (line : Block) (len : ℕ) (os : List ℕ) (m : ByteMem) (hc : cursor ≤ len) :
    (copyFields line len (os.map some) m cursor).ok = true ↔ cursor + need line os ≤ len := by
  induction os generalizing m cursor with
  | nil => simpa [copyFields, need] using hc
  | cons s os ih =>
    have hneed : need line (s :: os) = line.strlen s + 1 + need line os := rfl
    rw [map_cons, copyFields, strlcpy_snd]
    split
    · simp only [Bool.false_eq_true, false_iff]
      omega
    · rw [ih _ (by omega)]
      omega

theorem copyFields_copied (hfit : cursor + need line os ≤ len) :
    FieldsCopied line os m cursor (copyFields line len (os.map some) m cursor) := by
  induction os generalizing m cursor with
  | nil => exact ⟨rfl, .nil, fun _ _ => rfl⟩
  | cons s os ih =>
    have hneed : need line (s :: os) = line.strlen s + 1 + need line os := rfl
    have hcopy := strlcpy_fits m cursor (b := line) (s := s) (n := len - cursor) (by omega)
    rw [map_cons, copyFields, strlcpy_snd]
    rw [if_neg (by omega)]
    have hrest : FieldsCopied line os (strlcpy m cursor line s (len - cursor)).1
        (cursor + line.strlen s + 1) _ := ih (by omega)
    refine ⟨?_, .cons ?_ ?_, fun a ha => ?_⟩
    · have := hrest.cursor_eq
      dsimp only
      omega
    · -- The later fields are written after this one.
      have hcur := hrest.cursor_eq
      refine ⟨cursor, rfl, le_rfl, by dsimp only; omega, ?_⟩
      refine hcopy.hasString.of_agree fun a _ hlt => hrest.outside a (.inl ?_)
      rw [Block.string_length] at hlt
      omega
    · exact hrest.placed.imp fun _ _ h => h.mono (by omega) le_rfl
    · have hcur := hrest.cursor_eq
      dsimp only at ha
      rw [hrest.outside a (by omega)]
      exact hcopy.outside a (by omega)

/-- The caller's `buf[len]`. A byte offset holds a byte, and a pointer if one was stored
there. -/
structure Buffer where
  base : ℕ
  len : ℕ
  bytes : ByteMem
  cells : Mem Ptr

def emptyBuffer (len : ℕ) : Buffer := ⟨0, len, fun _ => 0, fun _ => .null⟩

def Buffer.string (B : Buffer) (o : ℕ) : Option (List UInt8) :=
  let n := strlenLoop B.bytes (B.len - o) o - o
  if o + n < B.len then some ((List.range n).map fun i => B.bytes (o + i)) else none

def Buffer.read (B : Buffer) : Ptr → Option (List UInt8)
  | .buf o => B.string o
  | _ => none

theorem HasString.stringAt (h : HasString m o l) (hl : ∀ x ∈ l, x ≠ 0) :
    StringAt m o l.length := by
  refine ⟨h.terminator, fun i hi => ?_⟩
  rw [h.bytes i hi]
  exact hl _ (getElem_mem hi)

theorem Buffer.string_of_hasString {B : Buffer} (h : HasString B.bytes o l) (hl : ∀ x ∈ l, x ≠ 0)
    (hin : o + l.length < B.len) : B.string o = some l := by
  have hlen : strlenLoop B.bytes (B.len - o) o - o = l.length := by
    rw [strlenLoop_of_string (h.stringAt hl) (by omega), Nat.add_sub_cancel_left]
  rw [Buffer.string, hlen, if_pos hin, Option.some.injEq]
  refine ext_getElem (by simp) fun i _ hi => ?_
  simpa using h.bytes i hi

theorem Placed.read {B : Buffer} (h : Placed line B.bytes lo hi p s) (hhi : hi ≤ B.len) :
    B.read p = some (line.string s) := by
  obtain ⟨o, rfl, -, ho, hstr⟩ := h
  refine Buffer.string_of_hasString hstr (line.string_ne_zero s) ?_
  rw [Block.string_length]
  omega

end EntryBuffer
