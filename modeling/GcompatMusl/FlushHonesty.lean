import GcompatMusl.MemoryStreams
import GcompatMusl.StdioRuns

/-! # What a flush that succeeds says

Calls that write, on a stream for a descriptor, for a buffer of the user or for a growing block, and
a flush at their end. -/
namespace FlushHonesty

open FlatMemory MuslString MemoryStreams Stdio List

inductive Op where
  | fwritex (s : List UInt8)
  | putc (c : UInt8)
  | fflush

def Op.bytes : Op → List UInt8
  | .fwritex s => s
  | .putc c => [c]
  | .fflush => []

/-- The number of bytes that the calls are given -/
def requested (ops : List Op) : ℕ := (ops.flatMap Op.bytes).length

section

variable {κ : Type} (write : WriteFn κ)

/-- The bytes that a call counts, and the stream after it -/
def call (f : Stream κ) : Op → ℕ × Stream κ
  | .fwritex s => fwritex write s f
  | .putc c =>
    let r := putc write c f
    (putCount r.1, r.2)
  | .fflush => (0, (fflush write f).2)

def run : List Op → Stream κ → List UInt8 × Stream κ
  | [], f => ([], f)
  | op :: ops, f =>
    let r := call write f op
    let rest := run ops r.2
    (op.bytes.take r.1 ++ rest.1, rest.2)

/-- A flush after the calls returns `EOF`, or 0 with the counted bytes at the destination. -/
def Honest (dest : Stream κ → List UInt8 → Prop) (ops : List Op) (f : Stream κ) : Prop :=
  let r := fflush write (run write ops f).2
  r.1 = 0 ∧ dest r.2 (run write ops f).1 ∨ r.1 = EOF

end

variable {κ : Type} {write : WriteFn κ} {Holds : ℕ → Stream κ → List UInt8 → Prop}
  {Takes : κ → ℕ → Prop} {dest : Stream κ → List UInt8 → Prop} {f f' : Stream κ}

theorem requested_cons (op : Op) (ops : List Op) :
    requested (op :: ops) = op.bytes.length + requested ops := by
  rw [requested, flatMap_cons, length_append, requested]

theorem run_append (ops ops' : List Op) : ∀ f : Stream κ, run write (ops ++ ops') f =
    ((run write ops f).1 ++ (run write ops' (run write ops f).2).1,
      (run write ops' (run write ops f).2).2) := by
  induction ops with
  | nil => intro f; rfl
  | cons op ops ih =>
    intro f
    rw [cons_append, run, ih, run, append_assoc]

/-- The bytes taken so far and those in the buffer are `v`. -/
def Carries (Holds : ℕ → Stream κ → List UInt8 → Prop) (f : Stream κ) (v : List UInt8) : Prop :=
  Valid f ∧ ∃ n d, Holds n f d ∧ d ++ f.pending = v

theorem did_carries (h : Did Holds False kept n f d s k f') (hkept : kept) :
    Carries Holds f' (d ++ f.pending ++ s.take k) := by
  cases h with
  | whole _ hk haccepts =>
    obtain ⟨hvalid, d', hd', horder⟩ := haccepts
    rw [hk, take_length]
    exact ⟨hvalid, n, d', hd', horder⟩
  | refused _ _ hk haccepts =>
    obtain ⟨hvalid, d', hd', horder⟩ := haccepts
    rw [hk, take_zero]
    exact ⟨hvalid, n, d', hd', horder⟩
  | part m _ hm hfails =>
    refine ⟨hfails.valid, n + 1, _, hfails.holds, ?_⟩
    rw [hfails.pending, append_nil, hfails.count, take_append, take_of_length_le (hm.mp hkept),
      append_assoc]

section

variable (hc : Contract write Holds Takes False)
include hc

theorem call_carries (h : Carries Holds f v) (htakes : Takes f.cookie f.pending.length) (op : Op) :
    Carries Holds (call write f op).2 (v ++ op.bytes.take (call write f op).1) ∧
      Same f (call write f op).2 := by
  obtain ⟨hvalid, n, d, hd, rfl⟩ := h
  cases op with
  | fwritex s =>
    have hcalled := fwritex_called hc hvalid hd s
    exact ⟨did_carries hcalled.did fun _ => htakes, hcalled.same⟩
  | putc c =>
    have hcalled := putc_called hc hvalid hd c
    exact ⟨did_carries hcalled.did fun _ => htakes, hcalled.same⟩
  | fflush =>
    have hflushed := fflush_spec hc hvalid hd
    exact ⟨did_carries hflushed.did htakes, hflushed.same⟩

section

variable (htakes : ∀ g v, Carries Holds g v → Same f g → v.length ≤ N →
  Takes g.cookie g.pending.length)
include htakes

theorem run_carries (ops : List Op) : ∀ {g v}, Carries Holds g v → Same f g →
    v.length + requested ops ≤ N → Carries Holds (run write ops g).2 (v ++ (run write ops g).1) ∧
      Same f (run write ops g).2 ∧ (v ++ (run write ops g).1).length ≤ N := by
  induction ops with
  | nil =>
    intro g v hg hsame hN
    rw [run, append_nil]
    exact ⟨hg, hsame, hN⟩
  | cons op ops ih =>
    intro g v hg hsame hN
    rw [requested_cons] at hN
    obtain ⟨hcarries, hsame'⟩ := call_carries hc hg (htakes g v hg hsame (by omega)) op
    rw [run, ← append_assoc]
    refine ih hcarries (hsame.trans hsame') ?_
    rw [length_append, length_take]
    omega

theorem honest_of_takes (hdest : ∀ {n g d}, Holds n g d → d.length ≤ N → dest g d)
    (hf : Carries Holds f []) (ops : List Op) (hops : requested ops ≤ N) :
    Honest write dest ops f := by
  obtain ⟨hcarries, hsame, hN⟩ := run_carries hc htakes ops hf (.refl f)
    (by rw [length_nil]; omega)
  rw [nil_append] at hcarries hN
  have hall := htakes _ _ hcarries hsame hN
  obtain ⟨hvalid, n, d, hd, hv⟩ := hcarries
  have hflushed := fflush_spec hc hvalid hd
  obtain ⟨-, n', d', hd', hv'⟩ := did_carries hflushed.did hall
  rw [hflushed.closed.pending, append_nil, take_nil, append_nil, hv] at hv'
  rw [hv'] at hd'
  rcases hflushed.ret with hzero | heof
  · exact .inl ⟨hzero, hdest hd' hN⟩
  · exact .inr heof

end

end

/-- The stream after a byte has been put into its empty buffer -/
def held (f : Stream κ) (a : UInt8) : Stream κ :=
  putByte { f with wpos := f.buf, wbase := f.buf, wend := f.buf + f.buf_size } a

/-- A writable stream with a buffer that is empty and takes the byte `a` -/
structure Idle (Holds : ℕ → Stream κ → List UInt8 → Prop) (a : UInt8) (f : Stream κ)
    (d : List UInt8) : Prop where
  buf : f.buf ≠ 0
  closed : Closed f
  nowr : f.nowr = false
  size : 0 < f.buf_size
  lbf : (a.toNat : ℤ) ≠ f.lbf
  holds : ∃ n, Holds n f d

theorem Idle.of_same (h : Idle Holds a f d) (hsame : Same f f') (hclosed : Closed f')
    (hholds : Holds n f' d') : Idle Holds a f' d' := by
  refine ⟨by rw [hsame.buf]; exact h.buf, hclosed, hsame.nowr.trans h.nowr,
    by rw [hsame.buf_size]; exact h.size, ?_, n, hholds⟩
  rcases hsame.lbf with hlbf | hlbf
  · rw [hlbf]
    exact h.lbf
  · rw [hlbf, EOF]
    omega

/-- Calls that put the byte `a` and flush, `j` times -/
def rounds (a : UInt8) : ℕ → List Op
  | 0 => []
  | j + 1 => rounds a j ++ [.putc a, .fflush]

theorem requested_rounds (a : UInt8) (j : ℕ) : requested (rounds a j) = j := by
  induction j with
  | zero => rfl
  | succ j ih =>
    rw [requested] at ih
    rw [requested, rounds, flatMap_append, length_append, ih]
    rfl

theorem putc_held (h : Idle Holds a f d) : putc write a f = ((a.toNat : ℤ), held f a) := by
  have hsize := h.size
  rw [putc, if_neg fun hroom => hroom.2 (h.closed.wpos.trans h.closed.wend.symm), overflow,
    notReady, if_pos h.closed.wend, towrite, if_neg (by rw [h.nowr]; decide)]
  refine if_pos ⟨?_, h.lbf⟩
  dsimp only
  omega

theorem held_pending (f : Stream κ) (a : UInt8) : (held f a).pending = [a] := by
  have hone : f.buf + 1 - f.buf = 1 := Nat.add_sub_cancel_left _ _
  rw [Stream.pending]
  change readList (store f.mem f.buf a) f.buf (f.buf + 1 - f.buf) = [a]
  rw [hone]
  exact congrArg (· :: []) (store_self _ _ _)

/-- One round: the byte is counted, whatever becomes of it. -/
theorem round_eq (h : Idle Holds a f d) :
    run write [.putc a, .fflush] f = ([a], (fflush write (held f a)).2) := by
  have hcount : putCount (a.toNat : ℤ) = 1 := if_neg (by rw [EOF]; omega)
  rw [run, call, putc_held h, run, call, run]
  dsimp only
  rw [hcount]
  rfl

theorem round_cookie (write : WriteFn κ) (f : Stream κ) (a : UInt8) :
    (fflush write (held f a)).2.cookie = (write (held f a) []).2.cookie := by
  have hsome : (held f a).wpos ≠ (held f a).wbase := Nat.succ_ne_self _
  rw [fflush, if_pos hsome]
  dsimp only
  split_ifs <;> rfl

section

variable (hc : Contract write Holds Takes False)
include hc

theorem round_idle (h : Idle Holds a f d) : ∃ d', Idle Holds a (fflush write (held f a)).2 d' ∧
    (Takes f.cookie 1 → d' = d ++ [a]) ∧ (¬ Takes f.cookie 1 → d' = d) := by
  have hsize := h.size
  obtain ⟨n, hd⟩ := h.holds
  have hheld : Holds n (held f a) d := by
    refine hc.stable hd ⟨rfl, rfl, rfl, rfl, rfl, rfl, fun b hb => store_ne _ _ ?_⟩
    rw [InRange] at hb
    dsimp only
    omega
  have hready : Ready (held f a) := by
    refine ⟨rfl, Nat.le_add_right _ _, ?_, rfl⟩
    change f.buf + 1 ≤ f.buf + f.buf_size
    omega
  have hflushed := fflush_spec hc (f := held f a) ⟨h.buf, .inr hready⟩ hheld
  have hsame : Same f (fflush write (held f a)).2 :=
    ⟨hflushed.same.nowr, hflushed.same.buf, hflushed.same.buf_size, hflushed.same.lbf⟩
  have hkept : Takes f.cookie 1 ↔ Takes (held f a).cookie (held f a).pending.length := by
    rw [held_pending]
    rfl
  by_cases htakes : Takes f.cookie 1
  · obtain ⟨-, n', d', hd', hv⟩ := did_carries hflushed.did (hkept.mp htakes)
    rw [hflushed.closed.pending, held_pending, append_nil, take_nil, append_nil] at hv
    rw [hv] at hd'
    exact ⟨_, h.of_same hsame hflushed.closed hd', fun _ => rfl, fun hnot => absurd htakes hnot⟩
  · refine ⟨d, ?_, fun htakes' => absurd htakes' htakes, fun _ => rfl⟩
    cases hflushed.did with
    | whole hk => exact absurd (hkept.mpr hk) htakes
    | refused hk => exact absurd (hkept.mpr hk) htakes
    | part m _ hm hfails =>
      -- the write has taken none of the one byte
      have hzero : m = 0 := by
        have hshort := hfails.short
        rw [append_nil, held_pending, length_singleton] at hshort
        omega
      have hholds := hfails.holds
      rw [hzero, take_zero, append_nil] at hholds
      exact h.of_same hsame hflushed.closed hholds

section

variable (hlost : ∀ n n' f g d, Holds n f d → ¬ Takes f.cookie 1 → Holds n' g d →
  ¬ dest g (d ++ [a]))
include hlost

/-- If a round keeps its word then its byte has been taken. -/
theorem round_next (hrun : run write (rounds a j) f = (replicate j a, g))
    (hidle : Idle Holds a g (replicate j a)) (hhonest : Honest write dest (rounds a (j + 1)) f) :
    Takes g.cookie 1 ∧ ∃ g', run write (rounds a (j + 1)) f = (replicate (j + 1) a, g') ∧
      Idle Holds a g' (replicate (j + 1) a) ∧ g'.cookie = (write (held g a) []).2.cookie := by
  obtain ⟨d, hidle', htaken, hrefused⟩ := round_idle hc hidle
  obtain ⟨n, hd⟩ := hidle.holds
  obtain ⟨n', hd'⟩ := hidle'.holds
  have hrun' : run write (rounds a (j + 1)) f =
      (replicate (j + 1) a, (fflush write (held g a)).2) := by
    rw [rounds, run_append, hrun, round_eq hidle, replicate_succ']
  have htakes : Takes g.cookie 1 := by
    by_contra htakes
    rw [hrefused htakes] at hd'
    -- the flush of the empty buffer returns 0, although the last byte is gone
    rw [Honest, hrun', fflush_empty write hidle'.closed.empty, replicate_succ'] at hhonest
    rcases hhonest with ⟨-, hdest⟩ | heof
    · exact hlost _ _ _ _ _ hd htakes (hc.stable hd' (reset_apart _)) hdest
    · cases heof
  rw [htaken htakes, ← replicate_succ'] at hidle'
  exact ⟨htakes, _, hrun', hidle', round_cookie write g a⟩

theorem rounds_idle (h : Idle Holds a f []) (j : ℕ)
    (hhonest : ∀ i ≤ j, Honest write dest (rounds a i) f) :
    ∃ g, run write (rounds a j) f = (replicate j a, g) ∧ Idle Holds a g (replicate j a) := by
  induction j with
  | zero => exact ⟨f, rfl, h⟩
  | succ j ih =>
    obtain ⟨g, hrun, hidle⟩ := ih fun i hi => hhonest i (by omega)
    obtain ⟨-, g', hrun', hidle', -⟩ :=
      round_next hc hlost hrun hidle (hhonest _ (Nat.le_refl _))
    exact ⟨g', hrun', hidle'⟩

end

end

/-- On a stream that is not open for writing nothing is counted and nothing changes. -/
theorem run_refused (hc : Contract write Holds Takes False) (ops : List Op) :
    ∀ {f}, f.nowr = true → Closed f → Holds n f d →
      (run write ops f).1 = [] ∧ Closed (run write ops f).2 ∧ Holds n (run write ops f).2 d := by
  induction ops with
  | nil => exact fun _ hclosed hd => ⟨rfl, hclosed, hd⟩
  | cons op ops ih =>
    intro f hnowr hclosed hd
    have hready : notReady f = (true, { f with err := true }) := by
      rw [notReady, if_pos hclosed.wend, towrite, if_pos hnowr]
    have hcall : ∃ g, call write f op = (0, g) ∧ g.nowr = true ∧ Closed g ∧ Apart f g := by
      cases op with
      | fwritex s =>
        refine ⟨{ f with err := true }, ?_, hnowr, ⟨hclosed.wbase, hclosed.wpos, hclosed.wend⟩,
          rfl, rfl, rfl, rfl, rfl, rfl, fun _ _ => rfl⟩
        rw [call, fwritex, hready]
      | putc c =>
        refine ⟨{ f with err := true }, ?_, hnowr, ⟨hclosed.wbase, hclosed.wpos, hclosed.wend⟩,
          rfl, rfl, rfl, rfl, rfl, rfl, fun _ _ => rfl⟩
        rw [call, putc, if_neg fun hroom => hroom.2 (hclosed.wpos.trans hclosed.wend.symm),
          overflow, hready]
        rfl
      | fflush =>
        refine ⟨reset f, ?_, hnowr, ⟨rfl, rfl, rfl⟩, reset_apart f⟩
        rw [call, fflush_empty write hclosed.empty]
    obtain ⟨g, hg, hnowr', hclosed', hapart⟩ := hcall
    rw [run, hg]
    exact ih hnowr' hclosed' (hc.stable hd hapart)

theorem honest_refused (hc : Contract write Holds Takes False) (hnowr : f.nowr = true)
    (hclosed : Closed f) (hd : Holds n f []) (hdest : ∀ {g}, Holds n g [] → dest g [])
    (ops : List Op) : Honest write dest ops f := by
  obtain ⟨hbytes, hclosed', hd'⟩ := run_refused hc ops hnowr hclosed hd
  left
  rw [hbytes, fflush_empty write hclosed'.empty]
  exact ⟨rfl, hdest (hc.stable hd' (reset_apart _))⟩

/-- The bytes that the descriptor has got -/
def delivers (f : FILE) (w : List UInt8) : Prop := f.cookie.delivered = w

theorem stdio_write_calls (env : Environment) (f : FILE) (h : f.pending.length = 1) :
    (stdio_write env f []).2.cookie.calls = f.cookie.calls + 1 := by
  have hone : (Vec.mk f.pending (some [])).bytes.length = 1 := by
    rw [Vec.bytes, Option.getD_some, append_nil, h]
  rw [stdio_write, writeLoop]
  cases env.writev f.cookie.calls with
  | none => rfl
  | some c =>
    dsimp only
    rw [hone, if_pos (by omega)]
    rfl

theorem writeFile_calls (env : Environment) (f : FILE) (h : f.pending.length = 1) :
    (writeFile env f []).2.cookie.calls = f.cookie.calls + 1 := by
  rw [writeFile]
  cases f.cookie.write with
  | __stdio_write => exact stdio_write_calls env f h
  | __stdout_write => exact stdio_write_calls env _ h

theorem accepted_of_all (h : ∀ i, writev i ≠ none) (c l : ℕ) : Accepted writev c l := by
  induction l using Nat.strong_induction_on generalizing c with
  | _ l ih =>
    obtain ⟨k, hk⟩ := Option.ne_none_iff_exists'.mp (h c)
    rcases Nat.eq_zero_or_pos l with rfl | hpos
    · exact .done
    · exact .more hk (ih _ (by omega) _)

theorem delivered_lost (hg : Delivered n g d) : ¬ delivers g (d ++ [a]) := by
  intro hall
  exact absurd (hg.1.symm.trans hall) (by simp)

/-- Round `j` reaches call `j` of `writev`. -/
theorem descriptor_rounds (env : Environment) {f : FILE} (hf : Idle Delivered a f [])
    (hcalls : f.cookie.calls = 0) (hhonest : ∀ ops, Honest (writeFile env) delivers ops f) (j : ℕ) :
    ∃ g, run (writeFile env) (rounds a j) f = (replicate j a, g) ∧
      Idle Delivered a g (replicate j a) ∧ g.cookie.calls = j ∧ Accepted env.writev j 1 := by
  have hnext : ∀ {j g}, run (writeFile env) (rounds a j) f = (replicate j a, g) →
      Idle Delivered a g (replicate j a) → _ := fun hrun hg =>
    round_next (descriptor_contract env) (fun _ _ _ _ _ _ _ hg => delivered_lost hg) hrun hg
      (hhonest _)
  induction j with
  | zero =>
    have htaken := (hnext (j := 0) rfl hf).1
    rw [hcalls] at htaken
    exact ⟨f, rfl, hf, hcalls, htaken⟩
  | succ j ih =>
    obtain ⟨g, hrun, hg, hcount, -⟩ := ih
    obtain ⟨-, g', hrun', hg', hcookie⟩ := hnext hrun hg
    have hcount' : g'.cookie.calls = j + 1 := by
      rw [hcookie, writeFile_calls env _ (by rw [held_pending]; rfl)]
      exact congrArg (· + 1) hcount
    have htaken := (hnext hrun' hg').1
    rw [hcount'] at htaken
    exact ⟨g', hrun', hg', hcount', htaken⟩

/-- A stream for a descriptor keeps its word in all runs just when no `writev` fails, if there is a
buffer at all. -/
theorem descriptor_honest_iff (env : Environment) {f : FILE} (h : Fresh f)
    (hcalls : f.cookie.calls = 0) : (∀ ops, Honest (writeFile env) delivers ops f) ↔
      f.nowr = true ∨ f.buf_size = 0 ∨ ∀ i, env.writev i ≠ none := by
  have hc := descriptor_contract env
  have hd : Delivered 0 f [] := ⟨h.delivered, h.failures⟩
  constructor
  · intro hhonest
    by_contra hnot
    rw [not_or, not_or, Bool.not_eq_true] at hnot
    obtain ⟨hnowr, hsize, hfail⟩ := hnot
    refine hfail fun i hi => ?_
    obtain ⟨a, ha⟩ : ∃ a : UInt8, (a.toNat : ℤ) ≠ f.lbf := by
      by_cases hlbf : f.lbf = 97
      · exact ⟨98, by rw [hlbf]; decide⟩
      · exact ⟨97, fun heq => hlbf heq.symm⟩
    have hidle : Idle Delivered a f [] :=
      ⟨h.buf, h.closed, hnowr, Nat.pos_of_ne_zero hsize, ha, 0, hd⟩
    obtain ⟨-, -, -, -, htaken⟩ := descriptor_rounds env hidle hcalls hhonest i
    exact Nat.one_ne_zero ((accepted_none hi).mp htaken)
  · rintro (hnowr | hsafe) ops
    · exact honest_refused hc hnowr h.closed hd (fun hg => hg.1) ops
    refine honest_of_takes (N := requested ops) hc (fun g v hg hsame _ => ?_)
      (fun hg _ => hg.1) ⟨⟨h.buf, .inl h.closed⟩, 0, [], hd, h.closed.pending⟩ ops (Nat.le_refl _)
    rcases hsafe with hsize | hall
    · have hempty : g.pending = [] := by
        rcases hg.1.shape with hclosed | hready
        · exact hclosed.pending
        · have hhigh := hready.high
          have hend := hready.wend
          have hsame' := hsame.buf_size
          refine eq_nil_of_length_eq_zero ?_
          rw [hready.pending_length]
          omega
      rw [hempty]
      exact .done
    · exact accepted_of_all hall _ _

/-- The bytes in the user's buffer, from the place on at which the stream began -/
def inBuffer (buf start size : ℕ) (f : Stream Cookie) (w : List UInt8) : Prop :=
  start + w.length ≤ size ∧ readList f.mem (buf + start) w.length = w

/-- The bytes that the user finds in the block, whose length they are told -/
def inBlock (f : Stream MsCookie) (w : List UInt8) : Prop := f.cookie.buf.take f.cookie.size = w

section

variable {f : Stream MsCookie}

theorem ms_write_held {c : MsCookie}
    (hcopy : ∀ g : Stream MsCookie, g.cookie = f.cookie →
      msCopy g [a] = (1, { g with cookie := c }))
    (hroom : c.pos < c.space) : (ms_write (held f a) []).2.cookie = c.put [] := by
  have hone : (held f a).wpos - (held f a).wbase = 1 := Nat.add_sub_cancel_left _ _
  have hlast : ¬ ([] : List UInt8).length + c.pos ≥ c.space := by
    rw [length_nil]
    omega
  rw [ms_write, viaBuffer, hone, held_pending, if_pos Nat.one_ne_zero,
    hcopy { held f a with wpos := (held f a).wbase } rfl]
  dsimp only
  rw [if_neg (Nat.lt_irrefl 1), msCopy, if_neg hlast]

theorem ms_write_room (h : 1 + f.cookie.pos < f.cookie.space) :
    (ms_write (held f a) []).2.cookie = (f.cookie.put [a]).put [] := by
  refine ms_write_held (fun g hg => ?_) (by dsimp only [MsCookie.put, length_singleton]; omega)
  rw [msCopy, hg]
  exact if_neg (Nat.not_le.mpr h)

theorem ms_write_grown (h : f.cookie.space ≤ 1 + f.cookie.pos)
    (halloc : f.cookie.allocs f.cookie.calls = true) :
    (ms_write (held f a) []).2.cookie.calls = f.cookie.calls + 1 := by
  generalize hlen : 2 * f.cookie.space + 1 ||| f.cookie.pos + [a].length + 1 = len2
  have hroom : f.cookie.pos + 1 < len2 := by
    rw [← hlen]
    exact Nat.right_le_or
  have hcopy : ∀ g : Stream MsCookie, g.cookie = f.cookie → msCopy g [a] = (1, { g with
      cookie := { f.cookie with
        buf := f.cookie.buf.take f.cookie.space ++ replicate (len2 - f.cookie.space) 0
        space := len2
        calls := f.cookie.calls + 1 }.put [a] }) := by
    intro g hg
    have hlong : [a].length + f.cookie.pos ≥ f.cookie.space := h
    rw [msCopy, hg]
    dsimp only
    rw [if_pos hlong, if_pos halloc, hlen]
    rfl
  rw [ms_write_held hcopy hroom]
  rfl

end

section

variable {allocs : ℕ → Bool} {f : Stream MsCookie} (hhonest : ∀ ops, Honest ms_write inBlock ops f)
include hhonest

/-- After `j` rounds the next one calls `realloc`, for the time `i`. -/
def Due (allocs : ℕ → Bool) (f : Stream MsCookie) (i : ℕ) : Prop :=
  ∃ j g, run ms_write (rounds 97 j) f = (replicate j 97, g) ∧
    Idle (fun _ => Grown allocs) 97 g (replicate j 97) ∧ g.cookie.calls = i ∧
    g.cookie.space ≤ 1 + g.cookie.pos

theorem block_round (hrun : run ms_write (rounds 97 j) f = (replicate j 97, g))
    (hg : Idle (fun _ => Grown allocs) 97 g (replicate j 97)) :
    g.cookie.Grows 1 ∧ ∃ g', run ms_write (rounds 97 (j + 1)) f = (replicate (j + 1) 97, g') ∧
      Idle (fun _ => Grown allocs) 97 g' (replicate (j + 1) 97) ∧
      g'.cookie = (ms_write (held g 97) []).2.cookie := by
  have hc : Contract ms_write (fun _ => Grown allocs) MsCookie.Grows False :=
    (mscopies allocs).contract
  have hlost : ∀ (n n' : ℕ) (f g : Stream MsCookie) (d : List UInt8), Grown allocs f d →
      ¬ f.cookie.Grows 1 → Grown allocs g d → ¬ inBlock g (d ++ [97]) := by
    intro _ _ _ g d _ _ hg hall
    rw [inBlock, hg.size, hg.bytes] at hall
    exact absurd hall (by simp)
  exact round_next hc hlost hrun hg (hhonest _)

theorem due_of_room (k : ℕ) : ∀ {j g}, run ms_write (rounds 97 j) f = (replicate j 97, g) →
    Idle (fun _ => Grown allocs) 97 g (replicate j 97) → g.cookie.space ≤ 1 + g.cookie.pos + k →
      Due allocs f g.cookie.calls := by
  induction k with
  | zero => exact fun hrun hg hfull => ⟨_, _, hrun, hg, rfl, hfull⟩
  | succ k ih =>
    intro j g hrun hg hk
    by_cases hfull : g.cookie.space ≤ 1 + g.cookie.pos
    · exact ⟨j, g, hrun, hg, rfl, hfull⟩
    obtain ⟨-, g', hrun', hg', hcookie⟩ := block_round hhonest hrun hg
    rw [ms_write_room (by omega)] at hcookie
    have hdue := ih hrun' hg'
    rw [hcookie] at hdue
    refine hdue ?_
    dsimp only [MsCookie.put, length_singleton, length_nil]
    omega

theorem due_each (hf : Idle (fun _ => Grown allocs) 97 f []) (hcalls : f.cookie.calls = 0) (i : ℕ) :
    Due allocs f i := by
  induction i with
  | zero =>
    have hdue := due_of_room (j := 0) hhonest f.cookie.space rfl hf (Nat.le_add_left _ _)
    rwa [hcalls] at hdue
  | succ i ih =>
    obtain ⟨j, g, hrun, hg, rfl, hfull⟩ := ih
    obtain ⟨hgrows, g', hrun', hg', hcookie⟩ := block_round hhonest hrun hg
    have halloc : g.cookie.allocs g.cookie.calls = true := by
      rcases hgrows with hzero | hroom | halloc
      · cases hzero
      · omega
      · exact halloc
    have hdue := due_of_room hhonest g'.cookie.space hrun' hg' (Nat.le_add_left _ _)
    rwa [hcookie, ms_write_grown hfull halloc] at hdue

theorem allocs_of_honest (hf : Idle (fun _ => Grown allocs) 97 f []) (hcalls : f.cookie.calls = 0)
    (i : ℕ) : allocs i = true := by
  obtain ⟨j, g, hrun, hg, rfl, hfull⟩ := due_each hhonest hf hcalls i
  obtain ⟨n, hgrown⟩ := hg.holds
  rcases (block_round hhonest hrun hg).1 with hzero | hroom | halloc
  · cases hzero
  · omega
  · rwa [hgrown.allocs] at halloc

end

/-- A stream for a block keeps its word in all runs just when no `realloc` fails. -/
theorem block_honest_iff (mem : ByteMem) (hbuf : internal ≠ 0) (allocs : ℕ → Bool) :
    (∀ ops, Honest ms_write inBlock ops (open_memstream mem internal allocs)) ↔
      ∀ i, allocs i = true := by
  have hd : Grown allocs (open_memstream mem internal allocs) [] :=
    ⟨rfl, rfl, rfl, rfl, Nat.le_refl 0⟩
  have hclosed : Closed (open_memstream mem internal allocs) := ⟨rfl, rfl, rfl⟩
  constructor
  · intro hhonest
    have hsize : 0 < BUFSIZ := by decide
    have hlbf : ((97 : UInt8).toNat : ℤ) ≠ EOF := by decide
    exact allocs_of_honest hhonest ⟨hbuf, hclosed, rfl, hsize, hlbf, 0, hd⟩ rfl
  · intro hall ops
    refine honest_of_takes (N := requested ops) (mscopies allocs).contract
      (fun g v hg hsame _ => ?_) (fun hg _ => ?_)
      ⟨⟨hbuf, .inl hclosed⟩, 0, [], hd, hclosed.pending⟩ ops (Nat.le_refl _)
    · obtain ⟨-, n, d, hd, -⟩ := hg
      refine .inr (.inr ?_)
      rw [hd.allocs]
      exact hall _
    · rw [inBlock, hg.size, hg.bytes]

section

variable {p : Place} {f : Stream Cookie} (hf : Idle (fun _ => MemoryStreams.Holds p) 97 f [])
  (hhonest : ∀ i ≤ N, Honest mwrite (inBuffer p.buf p.start p.size) (rounds 97 i) f)
include hf hhonest

theorem buffer_rounds (hj : j ≤ N) : ∃ g, run mwrite (rounds 97 j) f = (replicate j 97, g) ∧
    Idle (fun _ => MemoryStreams.Holds p) 97 g (replicate j 97) ∧ p.start + j ≤ p.size := by
  have hlost : ∀ (n n' : ℕ) (f g : Stream Cookie) (d : List UInt8), Holds p f d →
      ¬ f.cookie.Room 1 → Holds p g d → ¬ inBuffer p.buf p.start p.size g (d ++ [97]) := by
    intro _ _ f g d hf hroom _ hall
    rw [Cookie.Room, hf.size, hf.pos] at hroom
    have hfits := hall.1
    rw [length_append, length_singleton] at hfits
    omega
  obtain ⟨g, hrun, hg⟩ := rounds_idle (mcopies p).contract hlost hf j
    fun i hi => hhonest i (Nat.le_trans hi hj)
  obtain ⟨-, hd⟩ := hg.holds
  have hfits := hd.fits
  rw [length_replicate] at hfits
  exact ⟨g, hrun, hg, hfits⟩

/-- The terminator does not take the place of the last byte. -/
theorem spared_of_honest (hN : N ≠ 0) : ¬ p.full N := by
  intro hfull
  obtain ⟨g, hrun, hg, -⟩ := buffer_rounds hf hhonest (Nat.le_refl N)
  have hhere := hhonest N (Nat.le_refl N)
  obtain ⟨-, hd⟩ := hg.holds
  have hbytes := hd.bytes
  rw [← length_replicate (n := N) (a := (97 : UInt8))] at hfull
  rw [Place.image, if_pos hfull] at hbytes
  rw [Honest, hrun, fflush_empty mwrite hg.closed.empty] at hhere
  rcases hhere with ⟨-, -, hstored⟩ | heof
  · have hsame := congrArg getLast? (hbytes.symm.trans hstored)
    rw [getLast?_append] at hsame
    simp [getLast?_replicate, hN] at hsame
  · cases heof

end

/-- The place in the user's buffer at which writing begins -/
def start (mem : ByteMem) (buf size : ℕ) (mode : UInt8) : ℕ :=
  if mode = 97 then strnlen mem buf size else 0

/-- There is room for `n` bytes and a terminator, which a stream that is also for reading can go
without. -/
def Fits (start size : ℕ) (plus : Bool) (n : ℕ) : Prop :=
  n = 0 ∨ start + n < size ∨ plus = true ∧ start + n = size

section

variable {f : Stream Cookie} (h : fmemopen mem internal buf size mode plus = some f)
include h

theorem fmemopen_stream : f.buf = internal ∧ f.buf_size = BUFSIZ ∧ f.lbf = EOF ∧
    (f.nowr = true ↔ mode = 114 ∧ plus = false) := by
  rw [fmemopen] at h
  split at h
  · exact absurd h.symm (Option.some_ne_none f)
  cases h
  refine ⟨rfl, rfl, rfl, ?_⟩
  rw [decide_eq_true_iff, Bool.not_eq_true, and_comm]

theorem fmemopen_place : place f = ⟨buf, size, start mem buf size mode,
    if mode = 114 then size else start mem buf size mode, ¬ plus ∧ mode ≠ 114⟩ := by
  rw [fmemopen] at h
  split at h
  · exact absurd h.symm (Option.some_ne_none f)
  cases h
  have hlen : (if mode = 97 then if mode = 114 then size else if mode = 97 then strnlen mem buf size
      else 0 else 0) = start mem buf size mode := by
    rw [start]
    split_ifs with happend hread
    · rw [happend] at hread
      cases hread
    · rfl
    · rfl
  rw [place, hlen]
  rfl

theorem fmemopen_closed : Closed f := by
  rw [fmemopen] at h
  split at h
  · exact absurd h.symm (Option.some_ne_none f)
  cases h
  exact ⟨rfl, rfl, rfl⟩

variable (hbuf : internal ≠ 0) (hapart : ∀ a, InRange a buf size → ¬ InRange a internal BUFSIZ)
include hbuf hapart

theorem fits_of_honest (hnowr : f.nowr = false) (hhonest : ∀ ops, requested ops ≤ N →
      Honest mwrite (inBuffer buf (start mem buf size mode) size) ops f) :
    Fits (start mem buf size mode) size plus N := by
  obtain ⟨-, hsize, hlbf, hread⟩ := fmemopen_stream h
  obtain ⟨hvalid, -, hholds⟩ := fmemopen_holds h hbuf hapart
  have hidle : Idle (fun _ => Holds (place f)) 97 f [] := by
    refine ⟨hvalid.buf, fmemopen_closed h, hnowr, ?_, ?_, 0, hholds⟩
    · rw [hsize]
      decide
    · rw [hlbf]
      decide
  have hplace := fmemopen_place h
  generalize place f = p at hidle hplace
  have hbefore : ∀ i ≤ N, Honest mwrite (inBuffer p.buf p.start p.size) (rounds 97 i) f := by
    intro i hi
    rw [hplace]
    exact hhonest _ (by rw [requested_rounds]; exact hi)
  obtain ⟨-, -, -, hroom⟩ := buffer_rounds hidle hbefore (Nat.le_refl N)
  by_contra hnot
  rw [Fits, not_or, not_or] at hnot
  obtain ⟨hzero, hlarge, hexact⟩ := hnot
  refine spared_of_honest hidle hbefore hzero ?_
  rw [hplace] at hroom ⊢
  have hend : start mem buf size mode + N = size := by
    dsimp only at hroom
    omega
  have hplus : plus = false := by
    rw [← Bool.not_eq_true]
    exact fun hplus => hexact ⟨hplus, hend⟩
  have hmode : mode ≠ 114 := by
    intro hmode
    rw [hread.mpr ⟨hmode, hplus⟩] at hnowr
    cases hnowr
  refine ⟨decide_eq_true ⟨by rw [hplus]; decide, hmode⟩, ?_, hend⟩
  dsimp only
  rw [if_neg hmode]
  omega

theorem honest_of_fits (hN : Fits (start mem buf size mode) size plus N) (ops : List Op)
    (hops : requested ops ≤ N) :
    Honest mwrite (inBuffer buf (start mem buf size mode) size) ops f := by
  obtain ⟨hvalid, hpending, hholds⟩ := fmemopen_holds h hbuf hapart
  have hc : Contract mwrite (fun _ => Holds (place f)) Cookie.Room False :=
    (mcopies (place f)).contract
  have hcarries : Carries (fun _ => Holds (place f)) f [] := ⟨hvalid, 0, [], hholds, hpending⟩
  have hplace := fmemopen_place h
  generalize place f = p at hc hcarries hplace
  have hpsize := congrArg Place.size hplace
  have hpstart := congrArg Place.start hplace
  dsimp only at hpsize hpstart
  rw [Fits] at hN
  refine honest_of_takes hc (fun g v hg _ hv => ?_) (fun {n g d} hd hlen => ?_) hcarries ops hops
  · obtain ⟨-, n, d, hd, rfl⟩ := hg
    have hfits := hd.fits
    rw [length_append] at hv
    rw [Cookie.Room, hd.size, hd.pos]
    omega
  · have hfits := hd.fits
    have hbytes := hd.bytes
    have hspared : ¬ p.full d.length := by
      rintro ⟨hnord, hshort, hend⟩
      rw [hplace] at hnord hshort
      dsimp only at hnord hshort
      rcases hN with hzero | hroom | ⟨hplus, -⟩
      · split_ifs at hshort <;> omega
      · omega
      · exact (of_decide_eq_true hnord).1 hplus
    rw [Place.image, if_neg hspared, hpstart, congrArg Place.buf hplace] at hbytes
    exact ⟨by omega, hbytes⟩

end

end FlushHonesty
