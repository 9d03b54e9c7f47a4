import GcompatMusl.MultibyteCount
import GcompatMusl.Utf8

/-! # The state words of the decoders

A character that has been begun is kept in one word: the upper six bits bound the next byte, the
bits below tell whether more bytes follow, and the rest is the value so far. `mbrtowc` carries the
word from call to call. -/
namespace Multibyte

open Utf8 BitVec List

def octets (l : List UInt8) : List ℕ := l.map UInt8.toNat

structure MbrResult where
  ret : ℕ
  wc : Option Wide
  st : Wide
  errno : Option ℕ

def ilseq : MbrResult := ⟨SIZE_MAX, none, 0, some EILSEQ⟩

def incomplete (c : Wide) : MbrResult := ⟨SIZE_MAX - 1, none, c, none⟩

def mbrLoop (N : ℕ) (c : Wide) : List UInt8 → MbrResult
  | [] => incomplete c
  | b :: s =>
    if !(push c b).getLsbD 31 then ⟨N - s.length, some (push c b), 0, none⟩
    else if s = [] then incomplete (push c b)
    else if !continuation (s.headD 0) then ilseq
    else mbrLoop N (push c b) s

def mbrResume (N : ℕ) (c : Wide) (s : List UInt8) : MbrResult :=
  if s = [] then incomplete c
  else if oob c (s.headD 0) then ilseq
  else mbrLoop N c s

/-- `mbrtowc` on the bytes that it may read. A null pointer is `none`. -/
def mbrtowc (utf8 : Bool) (src : Option (List UInt8)) (st : Wide) : MbrResult :=
  match src with
  | none => if st ≠ 0 then ilseq else ⟨0, none, st, none⟩
  | some [] => incomplete st
  | some (b :: s) =>
    if st = 0 then
      if b < 0x80 then ⟨if b = 0 then 0 else 1, some (widen b), st, none⟩
      else if !utf8 then ⟨1, some (codeunit b), st, none⟩
      else if widen b - SA > SB - SA then ilseq
      else mbrResume (s.length + 1) (bittab (b.toNat - 0xc2)) s
    else mbrResume (s.length + 1) st (b :: s)

/-- What a caller gets out of a chunk of bytes: characters, and the state after the chunk or the
error number. A null character takes one byte. -/
def feed (st : Wide) (chunk : List UInt8) : List Wide × Except (Option ℕ) Wide :=
  if chunk = [] then ([], .ok st)
  else
    let r := mbrtowc true (some chunk) st
    if r.ret = SIZE_MAX then ([], .error r.errno)
    else if r.ret = SIZE_MAX - 1 then ([], .ok r.st)
    else
      let rest := feed r.st (chunk.drop (max r.ret 1))
      (r.wc.toList ++ rest.1, rest.2)
termination_by chunk.length
decreasing_by
  have := length_pos_iff.mpr ‹chunk ≠ []›
  rw [length_drop]
  omega

def feedAll : Wide → List (List UInt8) → List Wide × Except (Option ℕ) Wide
  | st, [] => ([], .ok st)
  | st, chunk :: chunks =>
    match feed st chunk with
    | (ws, .error e) => (ws, .error e)
    | (ws, .ok st') => (ws ++ (feedAll st' chunks).1, (feedAll st' chunks).2)

def field (lo hi : ℕ) : ℕ := if lo = 0x80 then 64 - (hi - 0x40) / 8 else 64 - lo / 8

def control : ℕ → ℕ
  | 3 => 0x030c0000
  | 2 => 0x03000000
  | _ => 0

def ranges : List (ℕ × ℕ) := [(0x80, 0xc0), (0xa0, 0xc0), (0x80, 0xa0), (0x90, 0xc0), (0x80, 0x90)]

structure Word (c : Wide) (p : Pending) : Prop where
  toNat_eq : c.toNat = field p.lo p.hi * 2 ^ 26 + control p.owed + p.value
  range : (p.lo, p.hi) ∈ ranges
  owed : p.owed = 1 ∨ p.owed = 2 ∨ p.owed = 3
  small : p.value * 64 ^ p.owed < 2 ^ 21

instance (c : Wide) (p : Pending) : Decidable (Word c p) :=
  decidable_of_iff (c.toNat = field p.lo p.hi * 2 ^ 26 + control p.owed + p.value ∧
      (p.lo, p.hi) ∈ ranges ∧ (p.owed = 1 ∨ p.owed = 2 ∨ p.owed = 3) ∧
      p.value * 64 ^ p.owed < 2 ^ 21)
    ⟨fun h => ⟨h.1, h.2.1, h.2.2.1, h.2.2.2⟩, fun h => ⟨h.1, h.2, h.3, h.4⟩⟩

def Carries (c : Wide) : Option Pending → Prop
  | none => c = 0
  | some p => Word c p

def pendingOf : Outcome → Option Pending
  | .more p => some p
  | _ => none

theorem bittab_word : ∀ i ≤ 50, ∃ p ∈ pendingOf (first (i + 0xc2)), Word (bittab i) p := by
  decide +kernel

variable {c st : Wide} {b : UInt8}

theorem sshiftRight_field (h : c.toNat / 2 ^ 26 = t) (ht : 32 ≤ t) :
    c.sshiftRight 26 = BitVec.ofNat 32 (2 ^ 32 - 64 + t) := by
  have hmsb : c.msb = true := by
    rw [BitVec.msb_eq_decide, decide_eq_true_eq]
    omega
  rw [sshiftRight_eq_of_msb_true hmsb, ← toNat_inj]
  simp only [toNat_not, toNat_ushiftRight, toNat_ofNat]
  omega

def outside (offset : Wide) (x : BitVec 8) : Bool :=
  ((((x.setWidth 32 >>> 3) - 0x10#32) ||| ((x.setWidth 32 >>> 3) + offset)) &&& ~~~7#32) != 0

theorem outside_iff : ∀ r ∈ ranges, ∀ x : BitVec 8,
    outside (BitVec.ofNat 32 (2 ^ 32 - 64 + field r.1 r.2)) x = true ↔
      ¬ (r.1 ≤ x.toNat ∧ x.toNat < r.2) := by
  decide +kernel

theorem field_range : ∀ r ∈ ranges, 32 ≤ field r.1 r.2 ∧ field r.1 r.2 < 64 := by decide

theorem Word.bound (h : Word c p) : control p.owed + p.value < 2 ^ 26 := by
  obtain ⟨owed, lo, hi, value⟩ := p
  have hsmall := h.small
  rcases h.owed with rfl | rfl | rfl <;> simp only [control] at hsmall ⊢ <;> omega

theorem Word.oob_iff (h : Word c p) (b : UInt8) :
    oob c b = true ↔ ¬ (p.lo ≤ b.toNat ∧ b.toNat < p.hi) := by
  have hbound := h.bound
  have htop : c.toNat / 2 ^ 26 = field p.lo p.hi := by
    rw [h.toNat_eq]
    omega
  have hoffset := sshiftRight_field htop (field_range _ h.range).1
  have hout := outside_iff _ h.range b.toBitVec
  rw [← hoffset] at hout
  exact hout

theorem push_toNat (c : Wide) (hlo : 0x80 ≤ b.toNat) (hhi : b.toNat < 0xc0) :
    (push c b).toNat = c.toNat * 64 % 2 ^ 32 + (b.toNat - 0x80) := by
  have hsub : (widen b - 0x80).toNat = b.toNat - 0x80 := by
    rw [toNat_sub, widen_toNat]
    simp
    omega
  have hshift : (c <<< 6).toNat = (c.toNat * 64 % 2 ^ 32 / 64) <<< 6 := by
    rw [toNat_shiftLeft, Nat.shiftLeft_eq]
    omega
  rw [push, toNat_or, hsub, hshift, ← Nat.shiftLeft_add_eq_or_of_lt (by omega)]
  omega

theorem getLsbD_top (c : Wide) : c.getLsbD 31 = true ↔ 2 ^ 31 ≤ c.toNat := by
  have hmsb := BitVec.msb_eq_decide c
  rw [msb_eq_getLsbD_last] at hmsb
  simp only [hmsb, decide_eq_true_eq]

def Consumed (c : Wide) (b : UInt8) : Outcome → Prop
  | .bad => oob c b = true
  | .done v => oob c b = false ∧ (push c b).getLsbD 31 = false ∧ (push c b).toNat = v
  | .more q => oob c b = false ∧ (push c b).getLsbD 31 = true ∧ Word (push c b) q ∧
      q.lo = 0x80 ∧ q.hi = 0xc0

theorem tail_range : ∀ r ∈ ranges, 0x80 ≤ r.1 ∧ r.2 ≤ 0xc0 := by decide

theorem Word.push_toNat (h : Word c p) (hin : p.lo ≤ b.toNat ∧ b.toNat < p.hi) :
    (push c b).toNat = (if p.owed = 1 then 0 else 48 * 2 ^ 26) + control (p.owed - 1) +
      (p.value * 64 + (b.toNat - 0x80)) := by
  obtain ⟨hlo, hhi⟩ := tail_range _ h.range
  have hsmall := h.small
  rw [Multibyte.push_toNat c (by omega) (by omega), h.toNat_eq]
  rcases h.owed with howed | howed | howed
  all_goals
    rw [howed] at hsmall ⊢
    simp only [control, Nat.reduceSub, Nat.reduceEqDiff, if_true, if_false]
    omega

theorem Word.not_oob (h : Word c p) (hin : p.lo ≤ b.toNat ∧ b.toNat < p.hi) : oob c b = false := by
  rw [← Bool.not_eq_true]
  exact fun hbad => (h.oob_iff b).mp hbad hin

theorem Word.consumed (h : Word c p) (b : UInt8) : Consumed c b (next p b.toNat) := by
  have hsmall := h.small
  rw [Utf8.next]
  split_ifs with hin hlast
  · have hpush := h.push_toNat hin
    rw [hlast] at hpush hsmall
    simp only [control, if_true, Nat.reduceSub, Nat.zero_add] at hpush
    refine ⟨h.not_oob hin, ?_, hpush⟩
    rw [← Bool.not_eq_true, getLsbD_top]
    obtain ⟨hlo, hhi⟩ := tail_range _ h.range
    omega
  · have hpush := h.push_toNat hin
    obtain ⟨hlo, hhi⟩ := tail_range _ h.range
    have hfield : field 0x80 0xc0 = 48 := rfl
    rw [if_neg hlast, ← hfield] at hpush
    have howed : p.owed - 1 = 1 ∨ p.owed - 1 = 2 := by
      rcases h.owed with howed | howed | howed <;> omega
    refine ⟨h.not_oob hin, ?_, ⟨hpush, by simp [ranges], ?_, ?_⟩, rfl, rfl⟩
    · rw [getLsbD_top, hpush]
      omega
    · dsimp only
      omega
    · have hbits : p.value * 64 + (b.toNat - 0x80) < (p.value + 1) * 64 := by omega
      have htwo : p.owed = p.owed - 1 + 1 := by omega
      rw [htwo] at hsmall
      dsimp only
      rcases howed with howed | howed
      all_goals
        rw [howed] at hsmall ⊢
        refine (Nat.mul_lt_mul_of_pos_right hbits (by decide)).trans_le ?_
        omega
  · exact (h.oob_iff b).mpr hin

theorem next_owed {p : Pending} {b : ℕ} (h : next p b = .more q) : q.owed = p.owed - 1 := by
  rw [Utf8.next] at h
  split_ifs at h
  cases h
  rfl

/-- What a call returns, when `k` bytes of its source come before `l` and the machine stands at `o`
before `l`. -/
def Reads (k : ℕ) (o : Option Pending) (l : List UInt8) (r : MbrResult) : Prop :=
  (r = ilseq ∧ run o (octets l) = ([], none)) ∨
  (∃ c o', r = incomplete c ∧ Carries c o' ∧ run o (octets l) = ([], some o')) ∨
  ∃ w front rest, l = front ++ rest ∧ 0 < front.length ∧ k + front.length ≤ 4 ∧
    r.ret ≤ 4 ∧ max r.ret 1 = k + front.length ∧ r.wc = some w ∧ r.st = 0 ∧
    run o (octets l) = (w.toNat :: (run none (octets rest)).1, (run none (octets rest)).2)

theorem Reads.cons (hread : read o b.toNat = .more q) (h : Reads (k + 1) (some q) l r) :
    Reads k o (b :: l) r := by
  have hrun : run o (octets (b :: l)) = run (some q) (octets l) := run_more hread _
  rw [Reads, hrun]
  rcases h with h | h | ⟨w, front, rest, rfl, hpos, hfour, hret, hmax, hwc, hst, hrest⟩
  · exact .inl h
  · exact .inr (.inl h)
  · refine .inr (.inr ⟨w, b :: front, rest, rfl, by simp, ?_, hret, ?_, hwc, hst, hrest⟩)
    all_goals
      rw [length_cons]
      omega

theorem mbrLoop_reads (h : Word c p) (hhead : ∀ b ∈ l.head?, oob c b = false)
    (hk : k + p.owed ≤ 4) :
    Reads k (some p) l (mbrLoop (k + l.length) c l) := by
  induction l generalizing c p k with
  | nil => exact .inr (.inl ⟨c, some p, rfl, h, rfl⟩)
  | cons b s ih =>
    have hconsumed := h.consumed b
    have hin := hhead b rfl
    have howed := h.owed
    rw [mbrLoop]
    cases hnext : next p b.toNat with
    | bad =>
      rw [hnext] at hconsumed
      have hbad : oob c b = true := hconsumed
      rw [hin] at hbad
      cases hbad
    | done v =>
      rw [hnext] at hconsumed
      obtain ⟨-, hbit, hvalue⟩ := hconsumed
      rw [if_pos (by rw [hbit]; rfl)]
      have hret : k + (b :: s).length - s.length = k + 1 := by
        rw [length_cons]
        omega
      refine .inr (.inr ⟨push c b, [b], s, rfl, by simp, ?_, ?_, ?_, rfl, rfl, ?_⟩)
      · rw [length_singleton]
        omega
      · dsimp only
        omega
      · rw [hret]
        simp
      · rw [hvalue]
        exact run_done (o := some p) hnext _
    | more q =>
      rw [hnext] at hconsumed
      obtain ⟨-, hbit, hword, hlo, hhi⟩ := hconsumed
      rw [if_neg (by rw [hbit]; decide)]
      refine Reads.cons hnext ?_
      have hlen : k + (b :: s).length = k + 1 + s.length := by
        rw [length_cons]
        omega
      have hq := next_owed hnext
      cases s with
      | nil => exact .inr (.inl ⟨push c b, some q, rfl, hword, rfl⟩)
      | cons b' s =>
        rw [if_neg (by simp), headD_cons]
        have hoob := hword.oob_iff b'
        rw [hlo, hhi, ← continuation_iff] at hoob
        cases hcont : continuation b' with
        | false =>
          refine .inl ⟨rfl, run_bad ?_ _⟩
          have htail : ¬ (q.lo ≤ b'.toNat ∧ b'.toNat < q.hi) := by
            rw [hlo, hhi, ← continuation_iff, hcont]
            simp
          exact if_neg htail
        | true =>
          rw [hlen]
          refine ih hword ?_ (by omega)
          intro x hx
          cases hx
          rw [hcont] at hoob
          simpa using hoob

theorem mbrResume_reads (l : List UInt8) (h : Word c p) (hk : k + p.owed ≤ 4) :
    Reads k (some p) l (mbrResume (k + l.length) c l) := by
  rw [mbrResume]
  cases l with
  | nil => exact .inr (.inl ⟨c, some p, rfl, h, rfl⟩)
  | cons b s =>
    rw [headD_cons]
    cases hoob : oob c b with
    | true =>
      refine .inl ⟨rfl, run_bad ?_ _⟩
      exact if_neg ((h.oob_iff b).mp hoob)
    | false =>
      refine mbrLoop_reads h ?_ hk
      intro x hx
      cases hx
      exact hoob

theorem lead_iff (b : UInt8) : widen b - SA > SB - SA ↔ b.toNat < 0xc2 ∨ 0xf4 < b.toNat := by
  have hb := b.toNat_lt
  simp only [SA, SB, lt_def, toNat_sub, widen_toNat]
  simp
  omega

theorem first_lead (h : ¬ (widen b - SA > SB - SA)) :
    ∃ p, first b.toNat = .more p ∧ Word (bittab (b.toNat - 0xc2)) p := by
  obtain ⟨p, hp, hword⟩ := bittab_word _ (lead_index h)
  rw [lead_iff] at h
  rw [Nat.sub_add_cancel (by omega)] at hp
  refine ⟨p, ?_, hword⟩
  cases hfirst : first b.toNat with
  | more q =>
    rw [hfirst] at hp
    cases hp
    rfl
  | done v =>
    rw [hfirst] at hp
    cases hp
  | bad =>
    rw [hfirst] at hp
    cases hp

theorem first_bad (hbig : ¬ b.toNat < 0x80) (h : widen b - SA > SB - SA) :
    first b.toNat = .bad := by
  rw [lead_iff] at h
  rw [first]
  split_ifs <;> first | rfl | omega

theorem Word.ne_zero (h : Word c p) : c ≠ 0 := by
  rintro rfl
  have hvalue := h.toNat_eq
  have hfield := (field_range _ h.range).1
  have hzero : (0 : Wide).toNat = 0 := rfl
  dsimp only at hfield
  omega

theorem mbrtowc_reads (l : List UInt8) (h : Carries st o) :
    Reads 0 o l (mbrtowc true (some l) st) := by
  cases l with
  | nil => exact .inr (.inl ⟨st, o, rfl, h, rfl⟩)
  | cons b s =>
    rw [mbrtowc]
    cases o with
    | some p =>
      have howed := Word.owed h
      rw [if_neg (Word.ne_zero h), ← Nat.zero_add (length _)]
      exact mbrResume_reads (b :: s) h (by omega)
    | none =>
      obtain rfl : st = 0 := h
      rw [if_pos rfl]
      by_cases hascii : b < 0x80
      · have hlt : b.toNat < 0x80 := UInt8.lt_iff_toNat_lt.mp hascii
        rw [if_pos hascii]
        refine .inr (.inr ⟨widen b, [b], s, rfl, by simp, by simp, ?_, ?_, rfl, rfl, ?_⟩)
        · dsimp only
          split_ifs <;> omega
        · split_ifs <;> rfl
        · exact run_done (o := none) (if_pos hlt) _
      · have hbig : ¬ b.toNat < 0x80 := fun hlt => hascii (UInt8.lt_iff_toNat_lt.mpr hlt)
        rw [if_neg hascii]
        by_cases hlead : widen b - SA > SB - SA
        · rw [if_pos hlead]
          exact .inl ⟨rfl, run_bad (o := none) (first_bad hbig hlead) _⟩
        · obtain ⟨p, hfirst, hword⟩ := first_lead hlead
          have howed := hword.owed
          rw [if_neg hlead, Nat.add_comm]
          exact Reads.cons hfirst (mbrResume_reads s hword (by omega))

def Agrees (x : List Wide × Except (Option ℕ) Wide) (y : List ℕ × Option (Option Pending)) :
    Prop :=
  y.1 = x.1.map BitVec.toNat ∧
    ((x.2 = .error (some EILSEQ) ∧ y.2 = none) ∨ ∃ c o, x.2 = .ok c ∧ y.2 = some o ∧ Carries c o)

theorem feed_run (chunk : List UInt8) (h : Carries st o) :
    Agrees (feed st chunk) (run o (octets chunk)) := by
  induction hn : chunk.length using Nat.strong_induction_on generalizing st o chunk with
  | _ n ih =>
    rw [feed]
    split_ifs with hnil
    · rw [hnil]
      exact ⟨rfl, .inr ⟨st, o, rfl, rfl, h⟩⟩
    dsimp only
    rcases mbrtowc_reads chunk h with ⟨hbad, hrun⟩ | ⟨c, o', hopen, hcarries, hrun⟩ |
      ⟨w, front, rest, hsplit, hpos, hfour, hret, hmax, hwc, hst, hrun⟩
    · rw [hbad, hrun]
      exact ⟨rfl, .inl ⟨rfl, rfl⟩⟩
    · have hret : (incomplete c).ret = SIZE_MAX - 1 := rfl
      rw [hopen, hrun, hret, if_pos rfl]
      exact ⟨rfl, .inr ⟨c, o', rfl, rfl, hcarries⟩⟩
    · have hlarge : 4 < SIZE_MAX - 1 := by decide
      rw [if_neg (by omega), if_neg (by omega), hwc, hst, hmax, hrun, hsplit, Nat.zero_add,
        drop_left]
      have hzero : Carries 0 none := rfl
      obtain ⟨hchars, hstate⟩ := ih rest.length (by rw [← hn, hsplit, length_append]; omega)
        rest hzero rfl
      exact ⟨by rw [hchars]; rfl, hstate⟩

theorem feedAll_run (chunks : List (List UInt8)) (h : Carries st o) :
    Agrees (feedAll st chunks) (run o (octets chunks.flatten)) := by
  induction chunks generalizing st o with
  | nil => exact ⟨rfl, .inr ⟨st, o, rfl, rfl, h⟩⟩
  | cons chunk chunks ih =>
    have hflat : octets (chunk :: chunks).flatten = octets chunk ++ octets chunks.flatten := by
      simp [octets]
    obtain ⟨hchars, hstate⟩ := feed_run chunk h
    rw [hflat, run_append, feedAll]
    generalize feed st chunk = x at hchars hstate
    obtain ⟨ws, e⟩ := x
    rcases hstate with ⟨hbad, hrun⟩ | ⟨c, o', hgood, hrun, hcarries⟩
    · subst hbad
      rw [hrun]
      exact ⟨hchars, .inl ⟨rfl, rfl⟩⟩
    · subst hgood
      obtain ⟨hchars', hstate'⟩ := ih hcarries
      rw [hrun]
      refine ⟨?_, hstate'⟩
      change _ ++ _ = _
      rw [hchars, hchars', map_append]

end Multibyte
