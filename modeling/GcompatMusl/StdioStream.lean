import GcompatMusl.MuslString

/-! # Streams for output

The output half of `FILE`. The write function of a stream and its cookie are parameters, as they are
one thing for a descriptor and another for `fmemopen`, `open_memstream` and `vsnprintf`. What a
write function has to keep to is a contract, and the calls on a stream are specified from it. -/
namespace Stdio

open FlatMemory MuslString List

def EOF : ℤ := -1

/-- The fields that output uses, and the memory. The flags are those for `F_NORD`, `F_NOWR` and
`F_ERR`. -/
structure Stream (κ : Type) where
  nord : Bool
  nowr : Bool
  err : Bool
  buf : ℕ
  buf_size : ℕ
  wbase : ℕ
  wpos : ℕ
  wend : ℕ
  lbf : ℤ
  mem : ByteMem
  cookie : κ

abbrev WriteFn (κ : Type) := Stream κ → List UInt8 → ℕ × Stream κ

def Stream.pending (f : Stream κ) : List UInt8 := readList f.mem f.wbase (f.wpos - f.wbase)

/-- `true` stands for a result other than 0. -/
def towrite (f : Stream κ) : Bool × Stream κ :=
  if f.nowr then (true, { f with err := true })
  else (false, { f with wpos := f.buf, wbase := f.buf, wend := f.buf + f.buf_size })

def notReady (f : Stream κ) : Bool × Stream κ := if f.wend = 0 then towrite f else (false, f)

def lineEnd (s : List UInt8) : ℕ → ℕ
  | 0 => 0
  | i + 1 => if s.getD i 0 ≠ 10 then lineEnd s i else i + 1

def putBytes (f : Stream κ) (s : List UInt8) (i : ℕ) : ℕ × Stream κ :=
  let l := s.length - i
  (l + i, { f with mem := writeList f.mem f.wpos (s.drop i), wpos := f.wpos + l })

def putByte (f : Stream κ) (c : UInt8) : Stream κ :=
  { f with mem := store f.mem f.wpos c, wpos := f.wpos + 1 }

/-- The end of `fflush`, for a stream that is not being read from -/
def reset (f : Stream κ) : Stream κ := { f with wpos := 0, wbase := 0, wend := 0 }

section

variable (write : WriteFn κ)

def fwritex (s : List UInt8) (f : Stream κ) : ℕ × Stream κ :=
  match notReady f with
  | (true, f) => (0, f)
  | (false, f) =>
    if s.length > f.wend - f.wpos then write f s
    else
      let i := if f.lbf ≥ 0 then lineEnd s s.length else 0
      if i = 0 then putBytes f s 0
      else
        let (n, f) := write f (s.take i)
        if n < i then (n, f) else putBytes f s i

def fwrite (src : List UInt8) (size nmemb : ℕ) (f : Stream κ) : ℕ × Stream κ :=
  let l := size * nmemb % 2 ^ 64
  let nmemb := if size = 0 then 0 else nmemb
  let (k, f) := fwritex write (src.take l) f
  (if k = l then nmemb else k / size, f)

def overflow (c : UInt8) (f : Stream κ) : ℤ × Stream κ :=
  match notReady f with
  | (true, f) => (EOF, f)
  | (false, f) =>
    if f.wpos ≠ f.wend ∧ (c.toNat : ℤ) ≠ f.lbf then (c.toNat, putByte f c)
    else
      let (n, f) := write f [c]
      (if n ≠ 1 then EOF else c.toNat, f)

def putc (c : UInt8) (f : Stream κ) : ℤ × Stream κ :=
  if (c.toNat : ℤ) ≠ f.lbf ∧ f.wpos ≠ f.wend then (c.toNat, putByte f c) else overflow write c f

def fflush (f : Stream κ) : ℤ × Stream κ :=
  if f.wpos ≠ f.wbase then
    let f := (write f []).2
    if f.wpos = 0 then (EOF, f) else (0, reset f)
  else (0, reset f)

/-- What `fflush(0)` does with each stream -/
def flushAll (f : Stream κ) : ℤ × Stream κ := if f.wpos ≠ f.wbase then fflush write f else (0, f)

end

structure Ready (f : Stream κ) : Prop where
  wbase : f.wbase = f.buf
  low : f.buf ≤ f.wpos
  high : f.wpos ≤ f.wend
  wend : f.wend = f.buf + f.buf_size

structure Closed (f : Stream κ) : Prop where
  wbase : f.wbase = 0
  wpos : f.wpos = 0
  wend : f.wend = 0

structure Valid (f : Stream κ) : Prop where
  buf : f.buf ≠ 0
  shape : Closed f ∨ Ready f

/-- Nothing but the buffer and the pointers into it may have changed. -/
structure Apart (f f' : Stream κ) : Prop where
  nord : f'.nord = f.nord
  nowr : f'.nowr = f.nowr
  buf : f'.buf = f.buf
  buf_size : f'.buf_size = f.buf_size
  lbf : f'.lbf = f.lbf
  cookie : f'.cookie = f.cookie
  mem : ∀ a, ¬ InRange a f.buf f.buf_size → f'.mem a = f.mem a

/-- What every write function leaves as it is; it may turn line buffering off. -/
structure Same (f f' : Stream κ) : Prop where
  nowr : f'.nowr = f.nowr
  buf : f'.buf = f.buf
  buf_size : f'.buf_size = f.buf_size
  lbf : f'.lbf = f.lbf ∨ f'.lbf = EOF

structure Emptied (f f' : Stream κ) : Prop where
  err : f'.err = f.err
  wbase : f'.wbase = f.buf
  wpos : f'.wpos = f.buf
  wend : f'.wend = f.buf + f.buf_size

/-- A write function takes the first `m` of the bytes in the buffer and the new ones, counts the new
ones among these and empties the buffer, or closes it if not all were taken. `Holds n f d`: the
bytes `d` have been taken so far, in writes of which `n` came out short. -/
structure Took (Holds : ℕ → Stream κ → List UInt8 → Prop) (n : ℕ) (f : Stream κ)
    (d data : List UInt8) (r : ℕ × Stream κ) (m : ℕ) : Prop where
  same : Same f r.2
  le : m ≤ (f.pending ++ data).length
  ret : r.1 = m - f.pending.length
  shape : Emptied f r.2 ∨ Closed r.2 ∧ m < (f.pending ++ data).length
  holds : Holds (if m < (f.pending ++ data).length then n + 1 else n) r.2
    (d ++ (f.pending ++ data).take m)

/-- `Takes c h`: with the cookie `c`, the `h` bytes from the buffer are taken. -/
structure Contract (write : WriteFn κ) (Holds : ℕ → Stream κ → List UInt8 → Prop)
    (Takes : κ → ℕ → Prop) (complete : Prop) : Prop where
  stable : ∀ {n f f' d}, Holds n f d → Apart f f' → Holds n f' d
  nothing : ∀ c, Takes c 0
  takes : ∀ {n f d} data, f.buf ≠ 0 → Ready f → Holds n f d → f.pending ++ data ≠ [] →
    ∃ m, Took Holds n f d data (write f data) m ∧
      (Takes f.cookie f.pending.length ↔ f.pending.length ≤ m) ∧
      (complete → m = (f.pending ++ data).length)

variable {write : WriteFn κ} {Holds : ℕ → Stream κ → List UInt8 → Prop} {Takes : κ → ℕ → Prop}
  {complete : Prop} {f f' : Stream κ} {n : ℕ} {d s : List UInt8}

theorem pending_of_eq (h : f.wpos = f.wbase) : f.pending = [] := by
  rw [Stream.pending, h, Nat.sub_self]
  rfl

theorem Closed.empty (h : Closed f) : f.wpos = f.wbase := h.wpos.trans h.wbase.symm

theorem Closed.pending (h : Closed f) : f.pending = [] := pending_of_eq h.empty

theorem reset_apart (f : Stream κ) : Apart f (reset f) :=
  ⟨rfl, rfl, rfl, rfl, rfl, rfl, fun _ _ => rfl⟩

theorem fflush_empty (write : WriteFn κ) (h : f.wpos = f.wbase) : fflush write f = (0, reset f) :=
  if_neg (not_not.mpr h)

theorem Ready.wend_ne (h : Ready f) (hbuf : f.buf ≠ 0) : f.wend ≠ 0 := by
  rw [h.wend]
  omega

theorem Ready.pending_length (h : Ready f) : f.pending.length = f.wpos - f.buf := by
  rw [Stream.pending, readList_length, h.wbase]

theorem Same.refl (f : Stream κ) : Same f f := ⟨rfl, rfl, rfl, .inl rfl⟩

theorem Same.trans (h : Same f f') (h' : Same f' f'') : Same f f'' := by
  refine ⟨h'.nowr.trans h.nowr, h'.buf.trans h.buf, h'.buf_size.trans h.buf_size, ?_⟩
  rcases h'.lbf with hlbf | hlbf
  · rw [hlbf]
    exact h.lbf
  · exact .inr hlbf

theorem Emptied.pending (h : Emptied f f') : f'.pending = [] :=
  pending_of_eq (h.wpos.trans h.wbase.symm)

theorem Took.pending (h : Took Holds n f d data r m) : r.2.pending = [] := by
  rcases h.shape with hempty | ⟨hclosed, -⟩
  · exact hempty.pending
  · exact hclosed.pending

theorem Took.ready (h : Took Holds n f d data r m) (hempty : Emptied f r.2) : Ready r.2 := by
  refine ⟨hempty.wbase.trans h.same.buf.symm, ?_, ?_, ?_⟩
  · rw [hempty.wpos, h.same.buf]
  · rw [hempty.wpos, hempty.wend]
    exact Nat.le_add_right _ _
  · rw [hempty.wend, h.same.buf, h.same.buf_size]

theorem Took.valid (h : Took Holds n f d data r m) (hbuf : f.buf ≠ 0) : Valid r.2 := by
  refine ⟨by rw [h.same.buf]; exact hbuf, ?_⟩
  rcases h.shape with hempty | ⟨hclosed, -⟩
  · exact .inr (h.ready hempty)
  · exact .inl hclosed

theorem Took.emptied (h : Took Holds n f d data r m) (hm : m = (f.pending ++ data).length) :
    Emptied f r.2 := by
  rcases h.shape with hempty | ⟨-, hshort⟩
  · exact hempty
  · omega

/-- After a call the bytes taken by the write function and those in the buffer are the ones before
and `bytes`. -/
structure Accepts (Holds : ℕ → Stream κ → List UInt8 → Prop) (n : ℕ) (f : Stream κ)
    (d bytes : List UInt8) (f' : Stream κ) : Prop where
  valid : Valid f'
  holds : ∃ d', Holds n f' d' ∧ d' ++ f'.pending = d ++ f.pending ++ bytes

/-- A write has come out short, after `m` of the bytes in the buffer and those of the call. -/
structure Fails (Holds : ℕ → Stream κ → List UInt8 → Prop) (n : ℕ) (f : Stream κ)
    (d s : List UInt8) (m k : ℕ) (f' : Stream κ) : Prop where
  valid : Valid f'
  short : m < (f.pending ++ s).length
  count : k = m - f.pending.length
  pending : f'.pending = []
  holds : Holds (n + 1) f' (d ++ (f.pending ++ s).take m)

/-- What a call with the bytes `s` can have done that counts `k` of them. If it hands on the buffer,
then `kept` says that the write function takes what is in there. -/
inductive Did (Holds : ℕ → Stream κ → List UInt8 → Prop) (complete kept : Prop) (n : ℕ)
    (f : Stream κ) (d s : List UInt8) (k : ℕ) (f' : Stream κ) : Prop where
  | whole : kept → k = s.length → Accepts Holds n f d s f' → Did Holds complete kept n f d s k f'
  | refused : kept → f.nowr = true → k = 0 → Accepts Holds n f d [] f' →
      Did Holds complete kept n f d s k f'
  | part (m : ℕ) : ¬ complete → (kept ↔ f.pending.length ≤ m) → Fails Holds n f d s m k f' →
      Did Holds complete kept n f d s k f'

structure Called (Holds : ℕ → Stream κ → List UInt8 → Prop) (complete kept : Prop) (n : ℕ)
    (f : Stream κ) (d s : List UInt8) (r : ℕ × Stream κ) : Prop where
  same : Same f r.2
  ready : complete → f.nowr = false → Ready r.2 ∧ r.2.err = f.err
  did : Did Holds complete kept n f d s r.1 r.2

/-- A flush returns 0 or `EOF` and leaves nothing in the buffer. -/
structure Flushed (Holds : ℕ → Stream κ → List UInt8 → Prop) (complete kept : Prop) (n : ℕ)
    (f : Stream κ) (d : List UInt8) (r : ℤ × Stream κ) : Prop where
  ret : r.1 = 0 ∨ r.1 = EOF
  closed : Closed r.2
  same : Same f r.2
  did : Did Holds complete kept n f d [] 0 r.2

theorem Took.accepts (h : Took Holds n f d s r m) (hbuf : f.buf ≠ 0)
    (hm : m = (f.pending ++ s).length) : Accepts Holds n f d s r.2 := by
  have hholds := h.holds
  rw [if_neg (by omega), hm, take_length] at hholds
  refine ⟨h.valid hbuf, _, hholds, ?_⟩
  rw [h.pending, append_nil, append_assoc]

theorem Took.fails (h : Took Holds n f d s r m) (hbuf : f.buf ≠ 0)
    (hm : m < (f.pending ++ s).length) : Fails Holds n f d s m r.1 r.2 := by
  have hholds := h.holds
  rw [if_pos hm] at hholds
  exact ⟨h.valid hbuf, hm, h.ret, h.pending, hholds⟩

theorem Accepts.trans (h : Accepts Holds n f d s f')
    (h' : ∀ d', Holds n f' d' → Accepts Holds n f' d' t f'') :
    Accepts Holds n f d (s ++ t) f'' := by
  obtain ⟨-, d', hd', horder⟩ := h
  obtain ⟨hvalid, d'', hd'', horder'⟩ := h' d' hd'
  refine ⟨hvalid, d'', hd'', ?_⟩
  rw [horder', horder, append_assoc]

theorem pending_write (h : Ready f) (s : List UInt8) :
    Stream.pending { f with mem := writeList f.mem f.wpos s, wpos := f.wpos + s.length } =
      f.pending ++ s :=
  readList_writeList_end f.mem (h.wbase ▸ h.low) s

theorem lineEnd_le (s : List UInt8) (i : ℕ) : lineEnd s i ≤ i := by
  induction i with
  | zero => exact Nat.le_refl 0
  | succ i ih =>
    rw [lineEnd]
    split_ifs
    · exact Nat.le_succ_of_le ih
    · exact Nat.le_refl _

theorem lineEnd_eq_zero_iff (s : List UInt8) : lineEnd s s.length = 0 ↔ 10 ∉ s := by
  have hupto : ∀ i, lineEnd s i = 0 ↔ ∀ j < i, s.getD j 0 ≠ 10 := by
    intro i
    induction i with
    | zero => simp [lineEnd]
    | succ i ih =>
      rw [lineEnd, Nat.forall_lt_succ_right]
      split_ifs with hbyte
      · rw [ih]
        exact (and_iff_left hbyte).symm
      · exact iff_of_false not_false fun h => hbyte h.2
  have hget : ∀ j (hj : j < s.length), s.getD j 0 = s[j] := by
    intro j hj
    rw [getD_eq_getElem?_getD, getElem?_eq_getElem hj, Option.getD_some]
  rw [hupto]
  constructor
  · intro h hmem
    obtain ⟨j, hj, hbyte⟩ := mem_iff_getElem.mp hmem
    exact h j hj ((hget j hj).trans hbyte)
  · intro h j hj hbyte
    rw [hget j hj] at hbyte
    exact h (hbyte ▸ getElem_mem hj)

/-- What is known of a stream on which writing has been made ready -/
structure Prepared (Holds : ℕ → Stream κ → List UInt8 → Prop) (n : ℕ) (f : Stream κ)
    (d : List UInt8) (g : Stream κ) : Prop where
  ready : Ready g
  buf : g.buf ≠ 0
  holds : Holds n g d
  pending : g.pending = f.pending
  same : Same f g
  err : g.err = f.err
  lbf : g.lbf = f.lbf
  cookie : g.cookie = f.cookie

theorem Did.congr (hg : Prepared Holds n f d g) (h : Did Holds complete kept n g d s k f') :
    Did Holds complete kept n f d s k f' := by
  cases h with
  | whole hkept hk haccepts =>
    obtain ⟨hvalid, d', hd', horder⟩ := haccepts
    rw [hg.pending] at horder
    exact .whole hkept hk ⟨hvalid, d', hd', horder⟩
  | refused hkept hnowr hk haccepts =>
    obtain ⟨hvalid, d', hd', horder⟩ := haccepts
    rw [hg.pending] at horder
    exact .refused hkept (hg.same.nowr ▸ hnowr) hk ⟨hvalid, d', hd', horder⟩
  | part m hpart hkept hfails =>
    obtain ⟨hvalid, hshort, hk, hempty, hholds⟩ := hfails
    rw [hg.pending] at hshort hk hholds hkept
    exact .part m hpart hkept ⟨hvalid, hshort, hk, hempty, hholds⟩

theorem Called.congr (hg : Prepared Holds n f d g) (h : Called Holds complete kept n g d s r) :
    Called Holds complete kept n f d s r := by
  refine ⟨hg.same.trans h.same, fun hc hnowr => ?_, h.did.congr hg⟩
  obtain ⟨hready, herr⟩ := h.ready hc (hg.same.nowr.trans hnowr)
  exact ⟨hready, herr.trans hg.err⟩

theorem Did.kept_congr (hkept : kept ↔ kept') (h : Did Holds complete kept n f d s k f') :
    Did Holds complete kept' n f d s k f' := by
  cases h with
  | whole hk hcount haccepts => exact .whole (hkept.mp hk) hcount haccepts
  | refused hk hnowr hcount haccepts => exact .refused (hkept.mp hk) hnowr hcount haccepts
  | part m hpart hk hfails => exact .part m hpart (hkept.symm.trans hk) hfails

theorem Called.kept_congr (hkept : kept ↔ kept') (h : Called Holds complete kept n f d s r) :
    Called Holds complete kept' n f d s r :=
  ⟨h.same, h.ready, h.did.kept_congr hkept⟩

theorem called_refused (hnowr : f.nowr = true) (hsame : Same f f') (hkept : kept)
    (h : Accepts Holds n f d [] f') : Called Holds complete kept n f d s (0, f') := by
  refine ⟨hsame, fun _ hwritable => ?_, .refused hkept hnowr rfl h⟩
  rw [hnowr] at hwritable
  cases hwritable

/-- `fwritex` hands on the buffer when the new bytes do not fit behind the old, or for a line. -/
def HandsOn (f : Stream κ) (s : List UInt8) : Prop :=
  f.buf_size < f.pending.length + s.length ∨ 0 ≤ f.lbf ∧ 10 ∈ s

def HandsOnByte (f : Stream κ) (c : UInt8) : Prop :=
  f.pending.length = f.buf_size ∨ (c.toNat : ℤ) = f.lbf

section

variable (hc : Contract write Holds Takes complete)
include hc

theorem notReady_spec (h : Valid f) (hd : Holds n f d) :
    (∃ f', notReady f = (true, f') ∧ Closed f ∧ f.nowr = true ∧ Same f f' ∧
      Accepts Holds n f d [] f') ∨
    ∃ g, notReady f = (false, g) ∧ Prepared Holds n f d g := by
  rw [notReady]
  rcases h.shape with hclosed | hready
  · rw [if_pos hclosed.wend, towrite]
    split_ifs with hnowr
    · refine .inl ⟨_, rfl, hclosed, hnowr, ⟨rfl, rfl, rfl, .inl rfl⟩,
        ⟨h.buf, .inl ⟨hclosed.wbase, hclosed.wpos, hclosed.wend⟩⟩, d, ?_, ?_⟩
      · exact hc.stable hd ⟨rfl, rfl, rfl, rfl, rfl, rfl, fun _ _ => rfl⟩
      · exact (append_nil _).symm
    · refine .inr ⟨_, rfl, ⟨rfl, Nat.le_refl _, Nat.le_add_right _ _, rfl⟩, h.buf, ?_, ?_,
        ⟨rfl, rfl, rfl, .inl rfl⟩, rfl, rfl, rfl⟩
      · exact hc.stable hd ⟨rfl, rfl, rfl, rfl, rfl, rfl, fun _ _ => rfl⟩
      · rw [hclosed.pending]
        exact pending_of_eq rfl
  · rw [if_neg (hready.wend_ne h.buf)]
    exact .inr ⟨f, rfl, hready, h.buf, hd, rfl, .refl f, rfl, rfl, rfl⟩

theorem putBytes_accepts (h : Ready f) (hbuf : f.buf ≠ 0) (hd : Holds n f d)
    (hroom : s.length - i ≤ f.wend - f.wpos) (hi : i ≤ s.length) :
    (putBytes f s i).1 = s.length ∧ Ready (putBytes f s i).2 ∧
      Accepts Holds n f d (s.drop i) (putBytes f s i).2 := by
  have hhigh := h.high
  have hlow := h.low
  have hend := h.wend
  have hpending := pending_write h (s.drop i)
  rw [length_drop] at hpending
  have hready : Ready (putBytes f s i).2 := by
    refine ⟨h.wbase, Nat.le_add_right_of_le hlow, ?_, h.wend⟩
    change f.wpos + (s.length - i) ≤ f.wend
    omega
  refine ⟨Nat.sub_add_cancel hi, hready, ⟨hbuf, .inr hready⟩, d, ?_, ?_⟩
  · refine hc.stable hd ⟨rfl, rfl, rfl, rfl, rfl, rfl, fun a ha => writeList_outside _ _ _ ?_⟩
    rw [InRange] at ha ⊢
    rw [length_drop]
    omega
  · rw [append_assoc]
    exact congrArg (d ++ ·) hpending

theorem write_called (h : Ready f) (hbuf : f.buf ≠ 0) (hd : Holds n f d)
    (hne : f.pending ++ s ≠ []) :
    Called Holds complete (Takes f.cookie f.pending.length) n f d s (write f s) := by
  obtain ⟨m, htook, hkept, hall⟩ := hc.takes s hbuf h hd hne
  have hlength : (f.pending ++ s).length = f.pending.length + s.length := length_append
  refine ⟨htook.same, fun hcomplete _ => ?_, ?_⟩
  · have hempty := htook.emptied (hall hcomplete)
    exact ⟨htook.ready hempty, hempty.err⟩
  rcases Nat.lt_or_ge m (f.pending ++ s).length with hshort | hfull
  · refine .part m (fun hcomplete => ?_) hkept (htook.fails hbuf hshort)
    exact Nat.ne_of_lt hshort (hall hcomplete)
  · have hm := Nat.le_antisymm htook.le hfull
    refine .whole (hkept.mpr (by omega)) ?_ (htook.accepts hbuf hm)
    rw [htook.ret]
    omega

/-- The lines of `s` are written at once, and the rest goes to the buffer. -/
theorem lines_called (h : Ready f) (hbuf : f.buf ≠ 0) (hd : Holds n f d) (hi : i ≤ s.length)
    (hpos : i ≠ 0) (hroom : s.length ≤ f.wend - f.wpos) :
    Called Holds complete (Takes f.cookie f.pending.length) n f d s
      (if (write f (s.take i)).1 < i then write f (s.take i)
        else putBytes (write f (s.take i)).2 s i) := by
  have hlength : (s.take i).length = i := length_take_of_le hi
  have hne : f.pending ++ s.take i ≠ [] := by
    intro hnil
    rw [(append_eq_nil_iff.mp hnil).2] at hlength
    exact hpos hlength.symm
  obtain ⟨m, htook, hkept, hall⟩ := hc.takes (s.take i) hbuf h hd hne
  have hret := htook.ret
  have hle := htook.le
  have htotal : (f.pending ++ s.take i).length = f.pending.length + i := by
    rw [length_append, hlength]
  rcases Nat.lt_or_ge m (f.pending ++ s.take i).length with hshort | hfull
  · rw [if_pos (by omega)]
    have hfails := htook.fails hbuf hshort
    have hnot : ¬ complete := fun hcomplete => Nat.ne_of_lt hshort (hall hcomplete)
    refine ⟨htook.same, fun hcomplete => absurd hcomplete hnot, .part m hnot hkept
      ⟨hfails.valid, ?_, hfails.count, hfails.pending, ?_⟩⟩
    · rw [length_append]
      omega
    · have hsame : (f.pending ++ s.take i).take m = (f.pending ++ s).take m := by
        rw [take_append, take_append, take_take, Nat.min_eq_left (by omega)]
      rw [← hsame]
      exact hfails.holds
  · have hm := Nat.le_antisymm hle hfull
    have hempty := htook.emptied hm
    have hlow := h.low
    have hend := h.wend
    have hfit : s.length - i ≤ (write f (s.take i)).2.wend - (write f (s.take i)).2.wpos := by
      rw [hempty.wend, hempty.wpos]
      omega
    rw [if_neg (by omega)]
    have hlines := htook.accepts hbuf hm
    have hready := htook.ready hempty
    obtain ⟨d', hd', -⟩ := hlines.holds
    obtain ⟨hcount, hready', -⟩ := putBytes_accepts hc hready hlines.valid.buf hd' hfit hi
    have hboth := hlines.trans fun d'' hd'' =>
      (putBytes_accepts hc hready hlines.valid.buf hd'' hfit hi).2.2
    rw [take_append_drop] at hboth
    exact ⟨⟨htook.same.nowr, htook.same.buf, htook.same.buf_size, htook.same.lbf⟩,
      fun _ _ => ⟨hready', hempty.err⟩, .whole (hkept.mpr (by omega)) hcount hboth⟩

theorem fwritex_called (h : Valid f) (hd : Holds n f d) (s : List UInt8) :
    Called Holds complete (HandsOn f s → Takes f.cookie f.pending.length) n f d s
      (fwritex write s f) := by
  rw [fwritex]
  rcases notReady_spec hc h hd with ⟨f', heq, hclosed, hnowr, hsame, haccepts⟩ | ⟨g, heq, hg⟩
  · rw [heq]
    refine called_refused hnowr hsame (fun _ => ?_) haccepts
    rw [hclosed.pending]
    exact hc.nothing _
  rw [heq]
  refine Called.congr hg ?_
  rw [HandsOn, ← hg.pending, ← hg.same.buf_size, ← hg.lbf, ← hg.cookie]
  have hlength := hg.ready.pending_length
  have hlow := hg.ready.low
  have hhigh := hg.ready.high
  have hend := hg.ready.wend
  dsimp only
  by_cases hlarge : s.length > g.wend - g.wpos
  · have hhands : g.buf_size < g.pending.length + s.length := by omega
    rw [if_pos hlarge]
    refine (write_called hc hg.ready hg.buf hg.holds ?_).kept_congr
      ⟨fun htakes _ => htakes, fun htakes => htakes (.inl hhands)⟩
    intro hnil
    rw [(append_eq_nil_iff.mp hnil).2, length_nil] at hlarge
    exact Nat.not_lt_zero _ hlarge
  · rw [if_neg hlarge]
    have hline : (if g.lbf ≥ 0 then lineEnd s s.length else 0) = 0 ↔ ¬ (0 ≤ g.lbf ∧ 10 ∈ s) := by
      split_ifs with hlbf
      · rw [lineEnd_eq_zero_iff, not_and]
        exact ⟨fun hnot _ => hnot, fun hnot => hnot hlbf⟩
      · exact iff_of_true rfl fun hboth => hlbf hboth.1
    have hle : (if g.lbf ≥ 0 then lineEnd s s.length else 0) ≤ s.length := by
      split_ifs
      · exact lineEnd_le s _
      · exact Nat.zero_le _
    generalize (if g.lbf ≥ 0 then lineEnd s s.length else 0) = i at hline hle
    by_cases hzero : i = 0
    · obtain ⟨hret, hready, haccepts⟩ := putBytes_accepts (s := s) hc hg.ready hg.buf hg.holds
        (by omega) (Nat.zero_le _)
      rw [if_pos hzero]
      refine ⟨⟨rfl, rfl, rfl, .inl rfl⟩, fun _ _ => ⟨hready, rfl⟩, .whole ?_ hret haccepts⟩
      rintro (hhands | hhands)
      · omega
      · exact absurd hhands (hline.mp hzero)
    · rw [if_neg hzero]
      exact (lines_called hc hg.ready hg.buf hg.holds hle hzero (by omega)).kept_congr
        ⟨fun htakes _ => htakes, fun htakes => htakes (.inr (not_not.mp (mt hline.mpr hzero)))⟩

end

/-- The bytes that a call of `putc` counts -/
def putCount (ret : ℤ) : ℕ := if ret = EOF then 0 else 1

section

variable (hc : Contract write Holds Takes complete)
include hc

theorem putByte_called (h : Ready f) (hbuf : f.buf ≠ 0) (hd : Holds n f d) (hroom : f.wpos ≠ f.wend)
    (hkept : kept) (c : UInt8) :
    Called Holds complete kept n f d [c] (putCount c.toNat, putByte f c) := by
  have hhigh := h.high
  obtain ⟨-, hready, haccepts⟩ := putBytes_accepts (s := [c]) hc h hbuf hd
    (by rw [length_singleton]; omega) (Nat.zero_le _)
  exact ⟨⟨rfl, rfl, rfl, .inl rfl⟩, fun _ _ => ⟨hready, rfl⟩, .whole hkept rfl haccepts⟩

theorem overflow_called (h : Valid f) (hd : Holds n f d) (c : UInt8) :
    Called Holds complete (HandsOnByte f c → Takes f.cookie f.pending.length) n f d [c]
      (putCount (overflow write c f).1, (overflow write c f).2) := by
  rw [overflow]
  rcases notReady_spec hc h hd with ⟨f', heq, hclosed, hnowr, hsame, haccepts⟩ | ⟨g, heq, hg⟩
  · rw [heq]
    refine called_refused hnowr hsame (fun _ => ?_) haccepts
    rw [hclosed.pending]
    exact hc.nothing _
  rw [heq]
  refine Called.congr hg ?_
  rw [HandsOnByte, ← hg.pending, ← hg.same.buf_size, ← hg.lbf, ← hg.cookie]
  have hlength := hg.ready.pending_length
  have hlow := hg.ready.low
  have hend := hg.ready.wend
  dsimp only
  by_cases hput : g.wpos ≠ g.wend ∧ (c.toNat : ℤ) ≠ g.lbf
  · rw [if_pos hput]
    refine putByte_called hc hg.ready hg.buf hg.holds hput.1 ?_ c
    rintro (hfull | hline)
    · have hroom := hput.1
      omega
    · exact absurd hline hput.2
  · rw [if_neg hput]
    have hhands : g.pending.length = g.buf_size ∨ (c.toNat : ℤ) = g.lbf := by
      rw [not_and_or, not_not, not_not] at hput
      refine hput.imp_left fun hfull => ?_
      omega
    have hne : g.pending ++ [c] ≠ [] := append_ne_nil_of_right_ne_nil _ (cons_ne_nil c [])
    have hle : (write g [c]).1 ≤ 1 := by
      obtain ⟨m, htook, -⟩ := hc.takes [c] hg.buf hg.ready hg.holds hne
      have hle := htook.le
      rw [length_append, length_singleton] at hle
      rw [htook.ret]
      omega
    have hcount : putCount (if (write g [c]).1 ≠ 1 then EOF else c.toNat) = (write g [c]).1 := by
      split
      · rw [putCount, if_pos rfl]
        omega
      · rw [putCount, if_neg (by rw [EOF]; omega)]
        omega
    rw [hcount]
    exact (write_called hc hg.ready hg.buf hg.holds hne).kept_congr
      ⟨fun htakes _ => htakes, fun htakes => htakes hhands⟩

theorem putc_called (h : Valid f) (hd : Holds n f d) (c : UInt8) :
    Called Holds complete (HandsOnByte f c → Takes f.cookie f.pending.length) n f d [c]
      (putCount (putc write c f).1, (putc write c f).2) := by
  rw [putc]
  split_ifs with hput
  · rcases h.shape with hclosed | hready
    · exact absurd (hclosed.wpos.trans hclosed.wend.symm) hput.2
    · have hlength := hready.pending_length
      have hlow := hready.low
      have hend := hready.wend
      refine putByte_called hc hready h.buf hd hput.2 ?_ c
      rintro (hfull | hline)
      · have hroom := hput.2
        omega
      · exact absurd hline hput.1
  · exact overflow_called hc h hd c

theorem reset_accepts (hbuf : f.buf ≠ 0) (hd : Holds n f d) (hempty : f.pending = []) :
    Accepts Holds n f d [] (reset f) := by
  refine ⟨⟨hbuf, .inl ⟨rfl, rfl, rfl⟩⟩, d, hc.stable hd (reset_apart f), ?_⟩
  have hreset : (reset f).pending = [] := pending_of_eq rfl
  rw [hempty, hreset, append_nil, append_nil]

theorem fflush_spec (h : Valid f) (hd : Holds n f d) :
    Flushed Holds complete (Takes f.cookie f.pending.length) n f d (fflush write f) := by
  by_cases hempty : f.wpos = f.wbase
  · rw [fflush_empty write hempty]
    refine ⟨.inl rfl, ⟨rfl, rfl, rfl⟩, ⟨rfl, rfl, rfl, .inl rfl⟩, .whole ?_ rfl
      (reset_accepts hc h.buf hd (pending_of_eq hempty))⟩
    rw [pending_of_eq hempty]
    exact hc.nothing _
  rw [fflush, if_pos hempty]
  rcases h.shape with hclosed | hready
  · exact absurd hclosed.empty hempty
  have hne : f.pending ++ [] ≠ [] := by
    have hlength := hready.pending_length
    have hlow := hready.low
    have hbase := hready.wbase
    rw [append_nil]
    refine ne_nil_of_length_pos ?_
    omega
  obtain ⟨m, htook, hkept, hall⟩ := hc.takes [] h.buf hready hd hne
  have hle := htook.le
  have hlength : (f.pending ++ []).length = f.pending.length := by rw [append_nil]
  rcases htook.shape with hemptied | ⟨hclosed, hshort⟩
  · have hpos : (write f []).2.wpos ≠ 0 := by
      rw [hemptied.wpos]
      exact h.buf
    have hvalid := (htook.valid h.buf).buf
    rw [if_neg hpos]
    refine ⟨.inl rfl, ⟨rfl, rfl, rfl⟩,
      ⟨htook.same.nowr, htook.same.buf, htook.same.buf_size, htook.same.lbf⟩, ?_⟩
    rcases Nat.lt_or_ge m (f.pending ++ []).length with hshort | hfull
    · have hfails := htook.fails h.buf hshort
      obtain ⟨hvalid', d', hd', horder⟩ := reset_accepts hc hvalid hfails.holds hfails.pending
      rw [hfails.pending, append_nil, append_nil, show (reset (write f []).2).pending = [] from
        pending_of_eq rfl, append_nil] at horder
      subst horder
      refine .part m (fun hcomplete => Nat.ne_of_lt hshort (hall hcomplete)) hkept
        ⟨hvalid', hshort, by omega, pending_of_eq rfl, hd'⟩
    · have hm := Nat.le_antisymm hle hfull
      have haccepts := (htook.accepts h.buf hm).trans fun d' hd' =>
        reset_accepts hc hvalid hd' htook.pending
      exact .whole (hkept.mpr (by omega)) rfl haccepts
  · have hfails := htook.fails h.buf hshort
    rw [if_pos hclosed.wpos]
    refine ⟨.inr rfl, hclosed, htook.same, .part m ?_ hkept
      ⟨hfails.valid, hshort, by omega, hfails.pending, hfails.holds⟩⟩
    exact fun hcomplete => Nat.ne_of_lt hshort (hall hcomplete)

theorem flushAll_did (h : Valid f) (hd : Holds n f d) :
    Did Holds complete (Takes f.cookie f.pending.length) n f d [] 0 (flushAll write f).2 := by
  rw [flushAll]
  split_ifs with hsome
  · exact (fflush_spec hc h hd).did
  · refine .whole ?_ rfl ⟨h, d, hd, (append_nil _).symm⟩
    rw [pending_of_eq (not_not.mp hsome)]
    exact hc.nothing _

end

end Stdio
