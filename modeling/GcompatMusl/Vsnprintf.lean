import GcompatMusl.StdioStream

/-! # Printing into an array

`vfprintf` and `vsnprintf` around the output of `printf_core`. That output is a list of pieces, each
of which `out` hands to `__fwritex`; their number and lengths are arbitrary. -/
namespace Vsnprintf

open FlatMemory MuslString Stdio List

section Vfprintf

variable {κ : Type}

def out (write : WriteFn κ) (f : Stream κ) (s : List UInt8) : Stream κ :=
  if f.err then f else (fwritex write s f).2

def INTERNAL_SIZE : ℕ := 80

def withInternal (f : Stream κ) (internal_buf : ℕ) : Stream κ :=
  { f with buf := internal_buf, buf_size := INTERNAL_SIZE, wpos := 0, wbase := 0, wend := 0 }

def printPieces (write : WriteFn κ) (pieces : List (List UInt8)) (f : Stream κ) : ℤ × Stream κ :=
  match notReady f with
  | (true, f) => (-1, f)
  | (false, f) => (pieces.flatten.length, pieces.foldl (out write) f)

def restoreBuf (write : WriteFn κ) (saved_buf : ℕ) (r : ℤ × Stream κ) : ℤ × Stream κ :=
  let f := (write r.2 []).2
  (if f.wpos = 0 then -1 else r.1,
    { f with buf := saved_buf, buf_size := 0, wpos := 0, wbase := 0, wend := 0 })

/-- `core` is what `printf_core` does, `none` if its first run fails. -/
def vfprintf (write : WriteFn κ) (internal_buf : ℕ) (core : Option (List (List UInt8)))
    (f : Stream κ) : ℤ × Stream κ :=
  match core with
  | none => (-1, f)
  | some pieces =>
    let g := { f with err := false }
    let r :=
      if f.buf_size = 0 then
        let r := printPieces write pieces (withInternal g internal_buf)
        if f.buf = 0 then r else restoreBuf write f.buf r
      else printPieces write pieces g
    (if r.2.err then -1 else r.1, { r.2 with err := r.2.err || f.err })

end Vfprintf

structure Cookie where
  s : ℕ
  n : ℕ

def sn_write : WriteFn Cookie := fun f data =>
  let k := min f.cookie.n (f.wpos - f.wbase)
  let mem := writeList f.mem f.cookie.s (f.pending.take k)
  let s := f.cookie.s + k
  let n := f.cookie.n - k
  let k := min n data.length
  let mem := writeList mem s (data.take k)
  (data.length, { f with
    mem := store mem (s + k) 0
    cookie := ⟨s + k, n - k⟩
    wpos := f.buf
    wbase := f.buf })

structure Frame where
  buf : ℕ
  dummy : ℕ
  internal_buf : ℕ

/-- The stream that `vsnprintf` sets up, after the store of a terminator -/
def snFile (fr : Frame) (mem : ByteMem) (c : Cookie) : Stream Cookie where
  nord := false
  nowr := false
  err := false
  buf := fr.buf
  buf_size := 0
  wbase := 0
  wpos := 0
  wend := 0
  lbf := -1
  mem := store mem c.s 0
  cookie := c

def vsnprintf (fr : Frame) (mem : ByteMem) (s n : ℕ) (core : Option (List (List UInt8))) :
    ℤ × ByteMem :=
  let c : Cookie := ⟨if n ≠ 0 then s else fr.dummy, if n ≠ 0 then n - 1 else 0⟩
  let r := vfprintf sn_write fr.internal_buf core (snFile fr mem c)
  (r.1, r.2.mem)

/-- The cookie and the memory after the bytes `d` for an array with room for `room` bytes and a
terminator at `base`, in a memory that was `mem` -/
structure Holds (base room internal : ℕ) (mem : ByteMem) (f : Stream Cookie)
    (d : List UInt8) : Prop where
  buf : f.buf = internal
  size : f.buf_size = INTERNAL_SIZE
  s : f.cookie.s = base + min d.length room
  n : f.cookie.n = room - min d.length room
  bytes : readList f.mem base (min d.length room) = d.take room
  terminator : f.mem (base + min d.length room) = 0
  rest : ∀ a, ¬ InRange a base (min d.length room + 1) → ¬ InRange a internal INTERNAL_SIZE →
    f.mem a = mem a
  disjoint : ∀ a, InRange a base (room + 1) → ¬ InRange a internal INTERNAL_SIZE

theorem sn_write_mem (f : Stream Cookie) (data : List UInt8) : (sn_write f data).2.mem = store
      (writeList f.mem f.cookie.s ((f.pending ++ data).take f.cookie.n))
      (f.cookie.s + min f.cookie.n (f.pending ++ data).length) 0 ∧
    (sn_write f data).2.cookie =
      ⟨f.cookie.s + min f.cookie.n (f.pending ++ data).length,
        f.cookie.n - min f.cookie.n (f.pending ++ data).length⟩ := by
  have hlength : f.pending.length = f.wpos - f.wbase := readList_length _ _ _
  have hall : min f.cookie.n (f.wpos - f.wbase) +
      min (f.cookie.n - min f.cookie.n (f.wpos - f.wbase)) data.length =
        min f.cookie.n (f.pending ++ data).length := by
    rw [length_append]
    omega
  have hbytes : (f.pending ++ data).take f.cookie.n =
      f.pending.take (min f.cookie.n (f.wpos - f.wbase)) ++
        data.take (min (f.cookie.n - min f.cookie.n (f.wpos - f.wbase)) data.length) := by
    rw [← take_eq_take_min, take_append, take_eq_take_min, hlength]
    congr 2
    omega
  have hfirst : (f.pending.take (min f.cookie.n (f.wpos - f.wbase))).length =
      min f.cookie.n (f.wpos - f.wbase) := by
    rw [length_take]
    omega
  have hcopy := writeList_append (f.pending.take (min f.cookie.n (f.wpos - f.wbase)))
    (data.take (min (f.cookie.n - min f.cookie.n (f.wpos - f.wbase)) data.length)) f.mem f.cookie.s
  rw [hfirst] at hcopy
  rw [hbytes, ← hcopy, ← hall, ← Nat.add_assoc, ← Nat.sub_sub]
  exact ⟨rfl, rfl⟩

theorem Holds.congr (h : Holds base room internal mem f d) (hapart : Apart f f') :
    Holds base room internal mem f' d := by
  have hout : ∀ a, ¬ InRange a internal INTERNAL_SIZE → f'.mem a = f.mem a := by
    intro a ha
    refine hapart.mem a ?_
    rw [h.buf, h.size]
    exact ha
  have hsame : ∀ a, InRange a base (room + 1) → f'.mem a = f.mem a :=
    fun a ha => hout a (h.disjoint a ha)
  refine ⟨hapart.buf.trans h.buf, hapart.buf_size.trans h.size, ?_, ?_, ?_, ?_, ?_, h.disjoint⟩
  · rw [hapart.cookie]
    exact h.s
  · rw [hapart.cookie]
    exact h.n
  · rw [← h.bytes]
    refine readList_congr fun a ha => hsame a ?_
    rw [InRange] at ha ⊢
    omega
  · rw [hsame _ (by rw [InRange]; omega)]
    exact h.terminator
  · intro a ha hbuf
    rw [hout a hbuf]
    exact h.rest a ha hbuf

theorem sn_write_holds (h : Holds base room internal mem f d) (data : List UInt8) :
    Holds base room internal mem (sn_write f data).2 (d ++ (f.pending ++ data)) := by
  obtain ⟨hmem, hcookie⟩ := sn_write_mem f data
  generalize f.pending ++ data = x at hmem hcookie
  have hlen : (d ++ x).length = d.length + x.length := length_append
  have hstep : min (d ++ x).length room = min d.length room + min f.cookie.n x.length := by
    rw [h.n]
    omega
  have htake : (d ++ x).take room = d.take room ++ x.take f.cookie.n := by
    rw [take_append, h.n]
    congr 2
    omega
  have hnew : (x.take f.cookie.n).length = min f.cookie.n x.length := length_take
  refine ⟨h.buf, h.size, ?_, ?_, ?_, ?_, ?_, h.disjoint⟩
  · rw [hcookie, hstep, h.s, Nat.add_assoc]
  · have hn := h.n
    rw [hcookie]
    change f.cookie.n - min f.cookie.n x.length = _
    omega
  · rw [hstep, readList_append, htake, hmem, h.s, ← h.bytes]
    congr 1
    · refine readList_congr fun a ha => ?_
      rw [InRange] at ha
      rw [store_ne _ _ (by omega), writeList_outside _ _ _ (by rw [InRange]; omega)]
    · have hread := readList_writeList (x.take f.cookie.n) f.mem (base + min d.length room)
      rw [hnew] at hread
      refine Eq.trans (readList_congr fun a ha => ?_) hread
      rw [InRange] at ha
      rw [store_ne _ _ (by omega)]
  · rw [hstep, hmem, h.s, ← Nat.add_assoc, store_self]
  · intro a ha hout
    rw [InRange] at ha
    rw [hmem, h.s, store_ne _ _ (by omega), writeList_outside _ _ _ (by rw [InRange]; omega)]
    refine h.rest a ?_ hout
    rw [InRange]
    omega

/-- Bytes for which there is no room in the array count as taken. -/
theorem contract (base room internal : ℕ) (mem : ByteMem) :
    Contract sn_write (fun _ => Holds base room internal mem) (fun _ _ => True) True := by
  refine ⟨Holds.congr, fun _ => trivial, ?_⟩
  intro _ f d data _ hready h _
  have hlength : (f.pending ++ data).length = f.pending.length + data.length := length_append
  refine ⟨_, ⟨⟨rfl, rfl, rfl, .inl rfl⟩, Nat.le_refl _, ?_, ?_, ?_⟩, ?_, fun _ => rfl⟩
  · change data.length = _
    omega
  · exact .inl ⟨rfl, rfl, rfl, hready.wend⟩
  · rw [take_length]
    exact sn_write_holds h data
  · exact iff_of_true trivial (by omega)

/-- A stream on which nothing has gone wrong, with the output `w` so far -/
structure Sound (base room internal : ℕ) (mem : ByteMem) (f : Stream Cookie)
    (w : List UInt8) : Prop where
  buf : f.buf ≠ 0
  ready : Ready f
  nowr : f.nowr = false
  err : f.err = false
  holds : ∃ d, Holds base room internal mem f d ∧ d ++ f.pending = w

theorem out_sound (h : Sound base room internal mem f w) (s : List UInt8) :
    Sound base room internal mem (out sn_write f s) (w ++ s) := by
  obtain ⟨hbuf, hready, hnowr, herr, d, hd, rfl⟩ := h
  have hcalled := fwritex_called (n := 0) (contract base room internal mem) ⟨hbuf, .inr hready⟩ hd s
  obtain ⟨hready', herr'⟩ := hcalled.ready trivial hnowr
  rw [out, herr]
  cases hcalled.did with
  | whole _ _ haccepts =>
    exact ⟨haccepts.valid.buf, hready', hcalled.same.nowr.trans hnowr, herr'.trans herr,
      haccepts.holds⟩
  | refused _ hrefused =>
    rw [hnowr] at hrefused
    cases hrefused
  | part _ hpart => exact absurd trivial hpart

theorem pieces_sound (pieces : List (List UInt8)) :
    ∀ {f : Stream Cookie} {w : List UInt8}, Sound base room internal mem f w →
      Sound base room internal mem (pieces.foldl (out sn_write) f) (w ++ pieces.flatten) := by
  induction pieces with
  | nil =>
    intro f w h
    rw [flatten_nil, append_nil]
    exact h
  | cons s pieces ih =>
    intro f w h
    rw [flatten_cons, ← append_assoc]
    exact ih (out_sound h s)

structure Frame.Apart (fr : Frame) (s n : ℕ) : Prop where
  buf : fr.buf ≠ 0
  internal_buf : fr.internal_buf ≠ 0
  array : ∀ a, InRange a s n → ¬ InRange a fr.internal_buf INTERNAL_SIZE
  dummy : ¬ InRange fr.dummy fr.internal_buf INTERNAL_SIZE

theorem vfprintf_holds (mem : ByteMem) (hbuf : fr.buf ≠ 0) (hinternal : fr.internal_buf ≠ 0)
    (hdisjoint : ∀ a, InRange a base (room + 1) → ¬ InRange a fr.internal_buf INTERNAL_SIZE)
    (pieces : List (List UInt8)) :
    ∃ g, Holds base room fr.internal_buf mem g pieces.flatten ∧
      (vfprintf sn_write fr.internal_buf (some pieces) (snFile fr mem ⟨base, room⟩)).1 =
        pieces.flatten.length ∧
      (vfprintf sn_write fr.internal_buf (some pieces) (snFile fr mem ⟨base, room⟩)).2.mem =
        g.mem := by
  generalize hg0 : (towrite (withInternal (snFile fr mem ⟨base, room⟩) fr.internal_buf)).2 = g0
  have hstart : notReady (withInternal (snFile fr mem ⟨base, room⟩) fr.internal_buf) =
      (false, g0) := by
    rw [← hg0]
    rfl
  have hsound0 : Sound base room fr.internal_buf mem g0 [] := by
    rw [← hg0]
    refine ⟨hinternal, ⟨rfl, Nat.le_refl _, Nat.le_add_right _ _, rfl⟩, rfl, rfl, [], ?_, ?_⟩
    · refine ⟨rfl, rfl, rfl, rfl, ?_, store_self .., ?_, hdisjoint⟩
      · rw [take_nil, length_nil]
        rfl
      intro a ha _
      refine store_ne _ _ ?_
      rintro rfl
      exact ha ⟨Nat.le_refl _, Nat.lt_succ_self _⟩
    · exact pending_of_eq rfl
  have hsound := pieces_sound pieces hsound0
  generalize hg : pieces.foldl (out sn_write) g0 = g at hsound
  obtain ⟨hgbuf, hready, -, herr, d, hd, hw⟩ := hsound
  have hholds := sn_write_holds hd []
  rw [append_nil, hw] at hholds
  have hwpos : (sn_write g []).2.wpos ≠ 0 := by
    exact hgbuf
  have hrun : printPieces sn_write pieces (withInternal (snFile fr mem ⟨base, room⟩)
      fr.internal_buf) = ((pieces.flatten.length : ℤ), g) := by
    rw [printPieces, hstart]
    dsimp only
    rw [hg]
  have herr' : (restoreBuf sn_write fr.buf ((pieces.flatten.length : ℤ), g)).2.err = false := herr
  have hresult : ∀ r, restoreBuf sn_write fr.buf ((pieces.flatten.length : ℤ), g) = r →
      vfprintf sn_write fr.internal_buf (some pieces) (snFile fr mem ⟨base, room⟩) =
        (if r.2.err then -1 else r.1, { r.2 with err := r.2.err || false }) := by
    rintro _ rfl
    rw [← hrun]
    have hsaved : ∀ r : ℤ × Stream Cookie,
        (if (snFile fr mem ⟨base, room⟩).buf = 0 then r else restoreBuf sn_write fr.buf r) =
          restoreBuf sn_write fr.buf r := fun r => if_neg hbuf
    rw [← hsaved]
    rfl
  refine ⟨(sn_write g []).2, hholds, ?_, ?_⟩
  · rw [hresult _ rfl, herr']
    exact if_neg hwpos
  · rw [hresult _ rfl]
    rfl

/-- Just what fits is stored, with a terminator behind it, and all of the output is counted. -/
theorem vsnprintf_truncates {fr : Frame} (mem : ByteMem) {s n : ℕ} (h : fr.Apart s n)
    (pieces : List (List UInt8)) : ∃ mem', vsnprintf fr mem s n (some pieces) =
        ((pieces.flatten.length : ℤ), mem') ∧
      (∀ a, ¬ InRange a s n → a ≠ fr.dummy → ¬ InRange a fr.internal_buf INTERNAL_SIZE →
        mem' a = mem a) ∧
      (0 < n → readList mem' s (min (n - 1) pieces.flatten.length) = pieces.flatten.take (n - 1) ∧
        mem' (s + min (n - 1) pieces.flatten.length) = 0 ∧
        ∀ a, InRange a s n → s + min (n - 1) pieces.flatten.length < a → mem' a = mem a) := by
  have hdisjoint : ∀ a, InRange a (if n ≠ 0 then s else fr.dummy)
      ((if n ≠ 0 then n - 1 else 0) + 1) →
      ¬ InRange a fr.internal_buf INTERNAL_SIZE := by
    intro a ha
    split at ha
    · refine h.array a ?_
      rw [InRange] at ha ⊢
      omega
    · rw [InRange] at ha
      rw [show a = fr.dummy by omega]
      exact h.dummy
  obtain ⟨g, hholds, hret, hmem⟩ := vfprintf_holds mem h.buf h.internal_buf hdisjoint pieces
  refine ⟨g.mem, ?_, ?_, ?_⟩
  · exact Prod.ext hret hmem
  · intro a ha hdummy hinternal
    refine hholds.rest a ?_ hinternal
    rw [InRange] at ha ⊢
    split <;> omega
  · intro hn
    have hne : n ≠ 0 := by omega
    rw [if_pos hne, if_pos hne] at hholds
    rw [Nat.min_comm]
    refine ⟨hholds.bytes, hholds.terminator, ?_⟩
    intro a ha hlt
    refine hholds.rest a ?_ (h.array a ha)
    rw [InRange]
    omega

/-- Five bytes in two pieces for an array of four -/
theorem vsnprintf_truncates_hello : ∃ mem', vsnprintf ⟨0x2000, 0x2100, 0x3000⟩ (fun _ => 1) 0x1000 4
      (some [[104, 101], [108, 108, 111]]) = (5, mem') ∧
    readList mem' 0x1000 3 = [104, 101, 108] ∧ mem' 0x1003 = 0 := by
  have hapart : Frame.Apart ⟨0x2000, 0x2100, 0x3000⟩ 0x1000 4 := by
    refine ⟨by decide, by decide, fun a ha => ?_, by decide⟩
    rw [InRange] at ha ⊢
    dsimp only
    omega
  obtain ⟨mem', hcall, -, hstored⟩ :=
    vsnprintf_truncates (fun _ => 1) hapart [[104, 101], [108, 108, 111]]
  exact ⟨mem', hcall, (hstored (by decide)).1, (hstored (by decide)).2.1⟩

end Vsnprintf
