import GcompatMusl.StdioStream

/-! # Output to a descriptor

The write functions of a stream with a descriptor. The descriptor is a record of the bytes that
`writev` has accepted; what `writev` does in each call is given by the environment. -/
namespace Stdio

open List

inductive WriteOp where
  | __stdio_write
  | __stdout_write
  deriving DecidableEq

/-- `F_SVB`, the write function, and what has come of the calls of `writev` -/
structure Descriptor where
  svb : Bool
  write : WriteOp
  delivered : List UInt8
  calls : ℕ
  failures : ℕ

abbrev FILE := Stream Descriptor

/-- Call `n` of `writev` fails or accepts one byte more than `writev n`, but not more than there
are. `tty` says whether the descriptor is a terminal. -/
structure Environment where
  writev : ℕ → Option ℕ
  tty : Bool

/-- What is left of `iov`; the second part is there as long as `iovcnt` is 2. -/
structure Vec where
  first : List UInt8
  second : Option (List UInt8)

def Vec.bytes (v : Vec) : List UInt8 := v.first ++ v.second.getD []

def Vec.advance (v : Vec) (cnt : ℕ) : Vec :=
  if cnt > v.first.length then ⟨(v.second.getD []).drop (cnt - v.first.length), none⟩
  else ⟨v.first.drop cnt, v.second⟩

theorem Vec.advance_bytes (v : Vec) (cnt : ℕ) : (v.advance cnt).bytes = v.bytes.drop cnt := by
  rw [advance, bytes, bytes, drop_append]
  split_ifs with hcnt
  · rw [drop_eq_nil_of_le (Nat.le_of_lt hcnt)]
    exact append_nil _
  · rw [Nat.sub_eq_zero_of_le (Nat.le_of_not_lt hcnt), drop_zero]

def syscall (f : FILE) (bytes : List UInt8) : FILE :=
  { f with
    cookie := { f.cookie with
      delivered := f.cookie.delivered ++ bytes
      calls := f.cookie.calls + 1 } }

def broken (f : FILE) : FILE :=
  { f with
    wpos := 0
    wbase := 0
    wend := 0
    err := true
    cookie := { f.cookie with failures := f.cookie.failures + 1 } }

def emptied (f : FILE) : FILE :=
  { f with
    wend := f.buf + f.buf_size
    wpos := f.buf
    wbase := f.buf }

/-- The loop of `__stdio_write` for `len` bytes of new data. `rem` is the length of what is left. -/
def writeLoop (env : Environment) (len : ℕ) (iov : Vec) (f : FILE) : ℕ × FILE :=
  match env.writev f.cookie.calls with
  | none =>
    let ret := if iov.second.isSome then 0 else len - iov.first.length
    (ret, broken (syscall f []))
  | some c =>
    let cnt := min (c + 1) iov.bytes.length
    let f := syscall f (iov.bytes.take cnt)
    if cnt = iov.bytes.length then (len, emptied f)
    else writeLoop env len (iov.advance cnt) f
termination_by iov.bytes.length
decreasing_by
  rw [Vec.advance_bytes, length_drop]
  omega

def stdio_write (env : Environment) : WriteFn Descriptor := fun f data =>
  writeLoop env data.length ⟨f.pending, some data⟩ f

/-- `f->write`; the first write to standard output finds out if that is a terminal. -/
def writeFile (env : Environment) : WriteFn Descriptor := fun f data =>
  match f.cookie.write with
  | .__stdio_write => stdio_write env f data
  | .__stdout_write =>
    stdio_write env { f with
      lbf := if ¬ f.cookie.svb ∧ ¬ env.tty then -1 else f.lbf
      cookie := { f.cookie with write := .__stdio_write } } data

/-- The vector after `m` bytes of the old data `p` and the new have been taken -/
def taken (p data : List UInt8) (m : ℕ) : Vec :=
  if m ≤ p.length then ⟨p.drop m, some data⟩ else ⟨data.drop (m - p.length), none⟩

theorem taken_bytes (p data : List UInt8) (m : ℕ) :
    (taken p data m).bytes = (p ++ data).drop m := by
  rw [taken]
  split_ifs with hm
  · exact (drop_append_of_le_length hm).symm
  · rw [drop_append, drop_eq_nil_of_le (Nat.le_of_not_le hm)]
    exact append_nil _

theorem taken_advance (h : m + cnt ≤ (p ++ data).length) :
    (taken p data m).advance cnt = taken p data (m + cnt) := by
  rw [length_append] at h
  by_cases hm : m ≤ p.length
  · rw [taken, if_pos hm, Vec.advance, length_drop]
    split_ifs with hcnt
    · rw [taken, if_neg (by omega)]
      change Vec.mk (data.drop _) none = _
      rw [show cnt - (p.length - m) = m + cnt - p.length by omega]
    · rw [taken, if_pos (by omega), drop_drop]
  · rw [taken, if_neg hm, Vec.advance, length_drop, if_neg (by omega), taken,
      if_neg (by omega), drop_drop]
    rw [show m - p.length + cnt = m + cnt - p.length by omega]

theorem taken_ret (h : m < (p ++ data).length) :
    (if (taken p data m).second.isSome then 0 else data.length - (taken p data m).first.length) =
      m - p.length := by
  rw [length_append] at h
  rw [taken]
  by_cases hm : m ≤ p.length
  · rw [if_pos hm]
    exact (Nat.sub_eq_zero_of_le hm).symm
  · rw [if_neg hm]
    simp only [Option.isSome_none, Bool.false_eq_true, if_false, length_drop]
    omega

/-- From call `c` on, `writev` accepts `h` bytes before it fails. -/
inductive Accepted (writev : ℕ → Option ℕ) : ℕ → ℕ → Prop where
  | done {c : ℕ} : Accepted writev c 0
  | more {c k h : ℕ} : writev c = some k → Accepted writev (c + 1) (h - (k + 1)) →
      Accepted writev c h

theorem accepted_none (h : writev c = none) : Accepted writev c l ↔ l = 0 := by
  constructor
  · intro haccepted
    cases haccepted with
    | done => rfl
    | more hsome _ => cases h.symm.trans hsome
  · rintro rfl
    exact .done

theorem accepted_some (h : writev c = some k) :
    Accepted writev c l ↔ Accepted writev (c + 1) (l - (k + 1)) := by
  constructor
  · intro haccepted
    cases haccepted with
    | done =>
      rw [Nat.zero_sub]
      exact .done
    | more hsome hrest =>
      cases h.symm.trans hsome
      exact hrest
  · exact .more h

/-- `writev` has taken the first `j` of `bytes`. -/
structure Wrote (f : FILE) (bytes : List UInt8) (j : ℕ) (f' : FILE) : Prop where
  le : j ≤ bytes.length
  same : Same f f'
  shape : Emptied f f' ∨ Closed f' ∧ j < bytes.length
  delivered : f'.cookie.delivered = f.cookie.delivered ++ bytes.take j
  failures : f'.cookie.failures =
    if j < bytes.length then f.cookie.failures + 1 else f.cookie.failures

theorem Wrote.after (hk : k ≤ bytes.length)
    (h : Wrote (syscall f (bytes.take k)) (bytes.drop k) j f') : Wrote f bytes (k + j) f' := by
  obtain ⟨hle, ⟨hnowr, hbuf, hsize, hlbf⟩, hshape, hdelivered, hfailures⟩ := h
  rw [length_drop] at hle hshape hfailures
  have hshort : j < bytes.length - k ↔ k + j < bytes.length := by omega
  refine ⟨by omega, ⟨hnowr, hbuf, hsize, hlbf⟩, ?_, ?_, ?_⟩
  · rcases hshape with ⟨herr, hbase, hpos, hend⟩ | ⟨hclosed, hlt⟩
    · exact .inl ⟨herr, hbase, hpos, hend⟩
    · exact .inr ⟨hclosed, hshort.mp hlt⟩
  · rw [hdelivered, syscall, append_assoc, take_add]
  · rw [hfailures]
    exact if_congr hshort rfl rfl

theorem writeLoop_spec (env : Environment) (p data : List UInt8) (m : ℕ) (f : FILE)
    (hm : m < (p ++ data).length) :
    ∃ j, (writeLoop env data.length (taken p data m) f).1 = m + j - p.length ∧
      Wrote f ((p ++ data).drop m) j (writeLoop env data.length (taken p data m) f).2 ∧
      (Accepted env.writev f.cookie.calls (p.length - m) ↔ p.length ≤ m + j) := by
  have hlength : (p ++ data).length = p.length + data.length := length_append
  -- each call that does not fail accepts at least one byte
  induction hrest : (p ++ data).length - m using Nat.strong_induction_on generalizing m f with
  | _ rest ih =>
    have hbytes : (taken p data m).bytes.length = rest := by
      rw [taken_bytes, length_drop, hrest]
    rw [writeLoop]
    cases hreply : env.writev f.cookie.calls with
    | none =>
      refine ⟨0, taken_ret hm, ⟨Nat.zero_le _, ⟨rfl, rfl, rfl, .inl rfl⟩,
        .inr ⟨⟨rfl, rfl, rfl⟩, ?_⟩, rfl, ?_⟩, ?_⟩
      · rw [length_drop]
        omega
      · exact (if_pos (by rw [length_drop]; omega)).symm
      · rw [accepted_none hreply]
        omega
    | some c =>
      dsimp only
      rw [hbytes]
      by_cases hall : min (c + 1) rest = rest
      · rw [if_pos hall]
        refine ⟨rest, by omega, ⟨?_, ⟨rfl, rfl, rfl, .inl rfl⟩, .inl ⟨rfl, rfl, rfl, rfl⟩, ?_, ?_⟩,
          ?_⟩
        · rw [length_drop]
          omega
        · rw [hall, taken_bytes]
          rfl
        · exact (if_neg (by rw [length_drop]; omega)).symm
        · rw [accepted_some hreply, show p.length - m - (c + 1) = 0 by omega]
          exact iff_of_true .done (by omega)
      · have hmin : min (c + 1) rest = c + 1 := by omega
        rw [if_neg hall, hmin, taken_advance (by omega), taken_bytes]
        obtain ⟨j, hret, hwrote, haccepted⟩ := ih (rest - (c + 1)) (by omega) (m + (c + 1))
          (syscall f (((p ++ data).drop m).take (c + 1))) (by omega) (by omega)
        rw [← drop_drop] at hwrote
        refine ⟨c + 1 + j, by rw [hret, Nat.add_assoc], Wrote.after ?_ hwrote, ?_⟩
        · rw [length_drop]
          omega
        · rw [accepted_some hreply, Nat.sub_sub, ← Nat.add_assoc m (c + 1) j]
          exact haccepted

/-- The bytes that the descriptor has, and the failed calls of `writev` -/
def Delivered (n : ℕ) (f : FILE) (d : List UInt8) : Prop :=
  f.cookie.delivered = d ∧ f.cookie.failures = n

theorem writeFile_spec (env : Environment) (f : FILE) (data : List UInt8)
    (h : f.pending ++ data ≠ []) :
    ∃ m, (writeFile env f data).1 = m - f.pending.length ∧
      Wrote f (f.pending ++ data) m (writeFile env f data).2 ∧
      (Accepted env.writev f.cookie.calls f.pending.length ↔ f.pending.length ≤ m) := by
  have hstart : taken f.pending data 0 = ⟨f.pending, some data⟩ := rfl
  have hloop : ∀ g : FILE, g.pending = f.pending →
      ∃ m, (stdio_write env g data).1 = m - f.pending.length ∧
        Wrote g (f.pending ++ data) m (stdio_write env g data).2 ∧
        (Accepted env.writev g.cookie.calls f.pending.length ↔ f.pending.length ≤ m) := by
    intro g hg
    obtain ⟨m, hspec⟩ := writeLoop_spec env f.pending data 0 g (length_pos_of_ne_nil h)
    rw [hstart, Nat.zero_add, drop_zero, Nat.sub_zero] at hspec
    rw [stdio_write, hg]
    exact ⟨m, hspec⟩
  rw [writeFile]
  cases f.cookie.write with
  | __stdio_write => exact hloop f rfl
  | __stdout_write =>
    -- only the mode and the function change, which the results do not speak of
    generalize hg : { f with
      lbf := if ¬ f.cookie.svb ∧ ¬ env.tty then -1 else f.lbf
      cookie := { f.cookie with write := .__stdio_write } } = g
    have hsame : Same f g := by
      subst hg
      refine ⟨rfl, rfl, rfl, ?_⟩
      dsimp only
      split_ifs
      · exact .inr rfl
      · exact .inl rfl
    obtain ⟨m, hret, hwrote, haccepted⟩ := hloop g (by rw [← hg]; rfl)
    obtain ⟨hle, hrest, hshape, hdelivered, hfailures⟩ := hwrote
    subst hg
    refine ⟨m, hret, ⟨hle, hsame.trans hrest, ?_, hdelivered, hfailures⟩, haccepted⟩
    exact hshape.imp_left fun h => ⟨h.err, h.wbase, h.wpos, h.wend⟩

theorem descriptor_contract (env : Environment) :
    Contract (writeFile env) Delivered (fun c h => Accepted env.writev c.calls h) False := by
  refine ⟨?_, fun _ => .done, ?_⟩
  · rintro n f f' d ⟨hdelivered, hfailures⟩ hapart
    rw [← hapart.cookie] at hdelivered hfailures
    exact ⟨hdelivered, hfailures⟩
  · rintro n f d data - - ⟨rfl, rfl⟩ hne
    obtain ⟨m, hret, hwrote, haccepted⟩ := writeFile_spec env f data hne
    exact ⟨m, ⟨hwrote.same, hwrote.le, hret, hwrote.shape, hwrote.delivered, hwrote.failures⟩,
      haccepted, False.elim⟩

end Stdio
