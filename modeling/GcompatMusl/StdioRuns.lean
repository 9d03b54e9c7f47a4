import GcompatMusl.StdioOutput

/-! # Output in order

As long as no `writev` fails, the descriptor and the buffer together have what the calls have
accepted, in order. -/
namespace Stdio

open List

variable {f f' : FILE} {kept : Prop} {s : List UInt8} {k : ℕ}

/-- What a call has done to a stream with a descriptor, whose bytes are at hand -/
abbrev DidWrite (kept : Prop) (f : FILE) (s : List UInt8) (k : ℕ) (f' : FILE) : Prop :=
  Did Delivered False kept f.cookie.failures f f.cookie.delivered s k f'

abbrev InOrder (f : FILE) (bytes : List UInt8) (f' : FILE) : Prop :=
  Accepts Delivered f.cookie.failures f f.cookie.delivered bytes f'

/-- A `writev` has failed after `k` of the bytes `s` of the call were delivered. Nothing is left in
the buffer. -/
def FailsAfter (f : FILE) (s : List UInt8) (k : ℕ) (f' : FILE) : Prop :=
  ∃ m, Fails Delivered f.cookie.failures f f.cookie.delivered s m k f'

theorem Did.inOrder (h : DidWrite kept f s k f') :
    InOrder f (s.take k) f' ∨ FailsAfter f s k f' := by
  cases h with
  | whole _ hk haccepts =>
    rw [hk, take_length]
    exact .inl haccepts
  | refused _ _ hk haccepts =>
    rw [hk, take_zero]
    exact .inl haccepts
  | part m _ _ hfails => exact .inr ⟨m, hfails⟩

theorem Accepts.failures (h : InOrder f bytes f') : f'.cookie.failures = f.cookie.failures := by
  obtain ⟨-, d, hd, -⟩ := h
  exact hd.2

theorem Accepts.order (h : InOrder f bytes f') : f'.cookie.delivered ++ f'.pending =
    f.cookie.delivered ++ f.pending ++ bytes := by
  obtain ⟨-, d, ⟨rfl, -⟩, horder⟩ := h
  exact horder

structure Block where
  src : List UInt8
  size : ℕ
  nmemb : ℕ
  length : src.length = size * nmemb
  fits : size * nmemb < 2 ^ 64

inductive Op where
  | fwrite (block : Block)
  | putc (c : UInt8)
  | fflush
  | flushAll

section

variable (env : Environment)

def call (f : FILE) : Op → ℤ × FILE
  | .fwrite b =>
    let (k, f) := fwrite (writeFile env) b.src b.size b.nmemb f
    (k, f)
  | .putc c => putc (writeFile env) c f
  | .fflush => fflush (writeFile env) f
  | .flushAll => flushAll (writeFile env) f

def accepted (ret : ℤ) : Op → List UInt8
  | .fwrite b => b.src.take (ret.toNat * b.size)
  | .putc c => if ret = EOF then [] else [c]
  | .fflush | .flushAll => []

def run : List Op → FILE → List UInt8 × FILE
  | [], f => ([], f)
  | op :: ops, f =>
    let (ret, f) := call env f op
    let (bytes, f) := run ops f
    (accepted ret op ++ bytes, f)

theorem fwrite_spec (h : Valid f) (b : Block) :
    ∃ k f', fwrite (writeFile env) b.src b.size b.nmemb f = (k, f') ∧
      (InOrder f (b.src.take (k * b.size)) f' ∨
        ∃ n, FailsAfter f b.src n f' ∧ (b.size = 1 → k = n)) := by
  have hlength := b.length
  have hall : b.src.take (b.size * b.nmemb) = b.src := take_of_length_le (by omega)
  have hcalled := fwritex_called (descriptor_contract env) h ⟨rfl, rfl⟩ b.src
  rw [fwrite, Nat.mod_eq_of_lt b.fits, hall]
  generalize fwritex (writeFile env) b.src f = r at hcalled
  refine ⟨_, _, rfl, ?_⟩
  cases hcalled.did with
  | whole _ hk haccepts =>
    left
    have hcount : (if b.size = 0 then 0 else b.nmemb) * b.size = b.size * b.nmemb := by
      split_ifs with hsize
      · rw [hsize, Nat.zero_mul, Nat.zero_mul]
      · exact Nat.mul_comm _ _
    rwa [if_pos (hk.trans hlength), hcount, hall]
  | refused _ _ hk haccepts =>
    left
    have hnone : b.src.take ((if r.1 = b.size * b.nmemb then if b.size = 0 then 0 else b.nmemb
        else r.1 / b.size) * b.size) = [] := by
      rw [hk]
      by_cases hzero : 0 = b.size * b.nmemb
      · rw [eq_nil_of_length_eq_zero (hlength.trans hzero.symm), take_nil]
      · rw [if_neg hzero, Nat.zero_div, Nat.zero_mul, take_zero]
    rwa [hnone]
  | part m _ _ hfails =>
    refine .inr ⟨r.1, ⟨m, hfails⟩, fun hsize => ?_⟩
    rw [hsize, Nat.one_mul, Nat.div_one, if_neg Nat.one_ne_zero]
    split_ifs with hn
    · exact hn.symm
    · rfl

theorem call_spec (h : Valid f) (op : Op) :
    ∃ ret f', call env f op = (ret, f') ∧ Valid f' ∧
      f.cookie.failures ≤ f'.cookie.failures ∧
      (f'.cookie.failures = f.cookie.failures → InOrder f (accepted ret op) f') := by
  have hc := descriptor_contract env
  have hd : Delivered f.cookie.failures f f.cookie.delivered := ⟨rfl, rfl⟩
  have hspec : ∀ {s k f' bytes}, InOrder f bytes f' ∨ FailsAfter f s k f' → Valid f' ∧
      f.cookie.failures ≤ f'.cookie.failures ∧
      (f'.cookie.failures = f.cookie.failures → InOrder f bytes f') := by
    rintro s k f' bytes (horder | ⟨m, hfails⟩)
    · exact ⟨horder.valid, Nat.le_of_eq horder.failures.symm, fun _ => horder⟩
    · have hcount := hfails.holds.2
      exact ⟨hfails.valid, by omega, fun heq => by omega⟩
  cases op with
  | fwrite b =>
    obtain ⟨k, f', heq, hwrite⟩ := fwrite_spec env h b
    refine ⟨k, f', by rw [call, heq], ?_⟩
    rcases hwrite with horder | ⟨n, hfails, -⟩
    · exact hspec (s := b.src) (k := k) (.inl horder)
    · exact hspec (.inr hfails)
  | putc c =>
    refine ⟨_, _, rfl, ?_⟩
    have hdid := (putc_called hc h hd c).did.inOrder
    have hbytes : [c].take (putCount (putc (writeFile env) c f).1) =
        accepted (putc (writeFile env) c f).1 (.putc c) := by
      rw [putCount, accepted]
      split_ifs <;> rfl
    rw [hbytes] at hdid
    exact hspec hdid
  | fflush => exact ⟨_, _, rfl, hspec (fflush_spec hc h hd).did.inOrder⟩
  | flushAll => exact ⟨_, _, rfl, hspec (flushAll_did hc h hd).inOrder⟩

theorem run_spec (ops : List Op) : ∀ {f}, Valid f →
    ∃ bytes f', run env ops f = (bytes, f') ∧ Valid f' ∧
      f.cookie.failures ≤ f'.cookie.failures ∧
      (f'.cookie.failures = f.cookie.failures →
        f'.cookie.delivered ++ f'.pending = f.cookie.delivered ++ f.pending ++ bytes) := by
  induction ops with
  | nil =>
    intro f h
    exact ⟨[], f, rfl, h, Nat.le_refl _, fun _ => (append_nil _).symm⟩
  | cons op ops ih =>
    intro f h
    obtain ⟨ret, f1, hcall, hvalid, hle, horder⟩ := call_spec env h op
    obtain ⟨bytes, f', hrun, hvalid', hle', horder'⟩ := ih hvalid
    refine ⟨accepted ret op ++ bytes, f', ?_, hvalid', by omega, fun heq => ?_⟩
    · simp only [run, hcall, hrun]
    · rw [horder' (by omega), (horder (by omega)).order, append_assoc]

end

structure Fresh (f : FILE) : Prop where
  buf : f.buf ≠ 0
  closed : Closed f
  delivered : f.cookie.delivered = []
  failures : f.cookie.failures = 0

/-- Unless a write has failed, what has been delivered and what is in the buffer are the bytes that
the calls have accepted; and if one fails in `fwrite` with items of one byte, the call counts the
bytes that have been delivered. -/
theorem output_in_order (env : Environment) (h : Fresh f) (ops : List Op) :
    ∃ bytes f', run env ops f = (bytes, f') ∧
      (f'.cookie.failures = 0 → f'.cookie.delivered ++ f'.pending = bytes) ∧
      ∀ b : Block, b.size = 1 →
        ∃ k f'', fwrite (writeFile env) b.src b.size b.nmemb f' = (k, f'') ∧
          (f''.cookie.failures ≠ f'.cookie.failures → FailsAfter f' b.src k f'') := by
  obtain ⟨bytes, f', hrun, hvalid, -, horder⟩ := run_spec env ops ⟨h.buf, .inl h.closed⟩
  refine ⟨bytes, f', hrun, fun hnone => ?_, fun b hsize => ?_⟩
  · have hbytes := horder (by rw [hnone, h.failures])
    rwa [h.delivered, h.closed.pending] at hbytes
  · obtain ⟨k, f'', heq, hspec⟩ := fwrite_spec env hvalid b
    refine ⟨k, f'', heq, fun hne => ?_⟩
    rcases hspec with horder | ⟨n, hfails, hk⟩
    · exact absurd horder.failures hne
    · rwa [hk hsize]

def terminal : FILE where
  nord := false
  nowr := false
  err := false
  buf := 0x1000
  buf_size := 4
  wbase := 0
  wpos := 0
  wend := 0
  lbf := 10
  mem := fun _ => 0
  cookie := ⟨false, .__stdio_write, [], 0, 0⟩

/-- A write of two bytes that takes one at a time -/
theorem output_in_order_slow :
    ∃ bytes f', run ⟨fun _ => some 0, true⟩ [.putc 97, .putc 10] terminal = (bytes, f') ∧
      (f'.cookie.failures = 0 → f'.cookie.delivered ++ f'.pending = bytes) := by
  have hfresh : Fresh terminal := ⟨by decide, ⟨rfl, rfl, rfl⟩, rfl, rfl⟩
  obtain ⟨bytes, f', hrun, horder, -⟩ :=
    output_in_order ⟨fun _ => some 0, true⟩ hfresh [.putc 97, .putc 10]
  exact ⟨bytes, f', hrun, horder⟩

end Stdio
