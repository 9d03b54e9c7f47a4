import GcompatMusl.IconvCalls

/-! # `iconv` on divided input

`iconv` is called again and again: with the next piece behind what is left when a call has used up
its input or ended within a character, and with a new buffer when the last one was full. -/
namespace Iconv

open FlatMemory FuelLoop MuslString Multibyte ResumableConversion List Option

variable {beyond : ℕ → BitVec 16}

structure Buffer where
  addr : ℕ
  size : ℕ
  fits : addr + size < 2 ^ 64

/-- `pending` is what is left of the input so far, `pieces` the input to come and `calls` the
number of the next buffer. -/
structure Session where
  state : ℕ
  mem : ByteMem
  pending : List UInt8
  pieces : List (List UInt8)
  written : List UInt8
  calls : ℕ

structure Outcome where
  written : List UInt8
  rest : List UInt8
  state : ℕ

def produced (b : Buffer) (r : Result) : List UInt8 :=
  readList r.cursor.mem b.addr (r.cursor.out - b.addr)

def Session.take (s : Session) (b : Buffer) (r : Result) : Session :=
  { s with
    state := r.cursor.state
    mem := r.cursor.mem
    pending := r.cursor.inp
    written := s.written ++ produced b r
    calls := s.calls + 1 }

def Session.outcome (s : Session) : Outcome := ⟨s.written, s.pending ++ s.pieces.flatten, s.state⟩

def Session.proceed (s : Session) (errno : Option ℕ) : Turn Outcome Session :=
  if errno = some E2BIG then .again s
  else if errno = some EILSEQ then .ret s.outcome
  else match s.pieces with
  | [] => .ret s.outcome
  | piece :: pieces => .again { s with pending := s.pending ++ piece, pieces := pieces }

def sessionTurn (beyond : ℕ → BitVec 16) (cd : Descriptor) (buffers : ℕ → Buffer) (s : Session) :
    Turn Outcome Session :=
  let b := buffers s.calls
  match iconv beyond { cd with state := s.state } s.pending s.mem b.addr b.size with
  | none => .again s
  | some r => (s.take b r).proceed r.errno

def begin (cd : Descriptor) (mem : ByteMem) (pieces : List (List UInt8)) : Session :=
  ⟨cd.state, mem, [], pieces, [], 0⟩

def converterOf (beyond : ℕ → BitVec 16) (cd : Descriptor) : Decoder ℕ UInt8 UInt8 :=
  converter beyond (pairBytes beyond cd.totype) cd.totype cd.type

def HandsOn (beyond : ℕ → BitVec 16) (cd : Descriptor) (xs : List UInt8) (c : Wide) : Prop :=
  Meets beyond (pairBytes beyond cd.totype) cd.totype cd.type cd.state xs c

theorem Converted.produced {cd : Descriptor} {inp us : List UInt8} {mem : ByteMem} {b : Buffer}
    {r : Result} (h : Converted D (enter cd inp mem b.addr b.size) us r) : produced b r = us := by
  have hout : r.cursor.out = b.addr + us.length := h.out
  have hmem : r.cursor.mem = writeList mem b.addr us := h.mem
  rw [Iconv.produced, hout, Nat.add_sub_cancel_left, hmem, readList_writeList]

structure Session.Follows (D : Decoder ℕ UInt8 UInt8) (first : ℕ) (input : List UInt8)
    (s : Session) : Prop where
  path : ∃ seen, Path D first seen s.written s.state s.pending ∧ input = seen ++ s.pieces.flatten

theorem Session.Follows.whole {input : List UInt8} {s : Session} (h : s.Follows D first input) :
    Path D first input s.written s.state (s.pending ++ s.pieces.flatten) := by
  obtain ⟨seen, hpath, rfl⟩ := h.path
  exact hpath.append _

section Run

variable {s : Session} {r : Result}

theorem Session.Follows.call (h : s.Follows (converterOf beyond cd) cd.state input)
    (hconv : Converted (converterOf beyond cd) (enter { cd with state := s.state } s.pending s.mem
      b.addr b.size) us r) : (s.take b r).Follows (converterOf beyond cd) cd.state input := by
  obtain ⟨seen, hpath, hinput⟩ := h.path
  refine ⟨seen, ?_, hinput⟩
  have hwritten : (s.take b r).written = s.written ++ us := by
    rw [Session.take, hconv.produced]
  rw [hwritten]
  exact hpath.trans hconv.path

abbrev Descriptor.Encodes (beyond : ℕ → BitVec 16) (cd : Descriptor) : ℕ → List UInt8 → Prop :=
  Encodable beyond (pairBytes beyond cd.totype) cd.totype cd.type

theorem Session.Follows.encodable (h : s.Follows (converterOf beyond cd) cd.state input)
    (henc : cd.Encodes beyond cd.state input) :
    cd.Encodes beyond s.state s.pending := by
  rintro c ⟨us, t, ys, l, hpath, hdecode⟩
  refine henc c ⟨s.written ++ us, t, ys ++ s.pieces.flatten, l, h.whole.trans (hpath.append _), ?_⟩
  have hne : decode beyond (current cd.type t) t ys ≠ .starved := by
    rw [hdecode]
    exact nofun
  rw [decode_stable _ _ ys hne, hdecode]

theorem next_nil (state : ℕ) : (converterOf beyond cd).next state [] = .starved := rfl

theorem final_of_starved {state : ℕ} {xs : List UInt8} (h : D.next state xs = .starved) :
    Final D state xs := by
  intro l out t heq
  cases h.symm.trans heq

theorem Stopped.bad_of_ilseq (h : Stopped D r) (herr : r.errno = some EILSEQ) :
    D.next r.cursor.state r.cursor.inp = .bad := by
  cases h with
  | bad _ hnext => exact hnext
  | done hnone => cases hnone.symm.trans herr
  | starved hinval => cases hinval.symm.trans herr
  | full hbig => cases hbig.symm.trans herr

theorem Stopped.starved_of (h : Stopped D r) (hnil : ∀ state, D.next state [] = .starved)
    (hfull : r.errno ≠ some E2BIG) (hilseq : r.errno ≠ some EILSEQ) :
    D.next r.cursor.state r.cursor.inp = .starved := by
  cases h with
  | bad herr => exact absurd herr hilseq
  | done _ hinp =>
    rw [hinp]
    exact hnil _
  | starved _ hnext => exact hnext
  | full herr => exact absurd herr hfull

def Ended (D : Decoder ℕ UInt8 UInt8) (first : ℕ) (input : List UInt8) (o : Outcome) : Prop :=
  Path D first input o.written o.state o.rest ∧ Final D o.state o.rest

theorem Session.Follows.proceed (h : s.Follows (converterOf beyond cd) cd.state input)
    (hr : Stopped (converterOf beyond cd) r) (hstate : s.state = r.cursor.state)
    (hpending : s.pending = r.cursor.inp) :
    FuelLoop.Outcome (fun t => t.Follows (converterOf beyond cd) cd.state input)
      (Ended (converterOf beyond cd) cd.state input) (s.proceed r.errno) := by
  have hbad : r.errno = some EILSEQ → (converterOf beyond cd).next s.state s.pending = .bad := by
    intro herr
    rw [hstate, hpending]
    exact hr.bad_of_ilseq herr
  have hrest : r.errno ≠ some E2BIG → r.errno ≠ some EILSEQ →
      (converterOf beyond cd).next s.state s.pending = .starved := by
    intro hfull hilseq
    rw [hstate, hpending]
    exact hr.starved_of next_nil hfull hilseq
  rw [Session.proceed]
  by_cases hfull : r.errno = some E2BIG
  · rw [if_pos hfull]
    exact h
  rw [if_neg hfull]
  split_ifs with hilseq
  · exact ⟨h.whole, Final.append (hbad hilseq) _⟩
  have hwhole := h.whole
  obtain ⟨seen, hpath, hinput⟩ := h.path
  cases hpieces : s.pieces with
  | nil =>
    have houtcome : s.outcome = ⟨s.written, s.pending, s.state⟩ := by
      rw [Session.outcome, hpieces, flatten_nil, append_nil]
    rw [hpieces, flatten_nil, append_nil] at hwhole
    rw [houtcome]
    exact ⟨hwhole, final_of_starved (hrest hfull hilseq)⟩
  | cons piece pieces =>
    refine ⟨seen ++ piece, hpath.append piece, ?_⟩
    rw [hinput, hpieces, flatten_cons, append_assoc]

theorem sessionTurn_follows (buffers : ℕ → Buffer)
    (henc : cd.Encodes beyond cd.state input)
    (h : s.Follows (converterOf beyond cd) cd.state input) :
    FuelLoop.Outcome (fun t => t.Follows (converterOf beyond cd) cd.state input)
      (Ended (converterOf beyond cd) cd.state input) (sessionTurn beyond cd buffers s) := by
  obtain ⟨r, us, hcall, hconv⟩ := iconv_converted { cd with state := s.state } s.pending s.mem
    (buffers s.calls).fits (h.encodable henc)
  rw [sessionTurn, hcall]
  exact (h.call hconv).proceed hconv.stopped rfl rfl

theorem begin_follows (beyond : ℕ → BitVec 16) (cd : Descriptor) (mem : ByteMem)
    (pieces : List (List UInt8)) :
    (begin cd mem pieces).Follows (converterOf beyond cd) cd.state pieces.flatten :=
  ⟨[], .nil _ _, rfl⟩

theorem session_ended
    (henc : cd.Encodes beyond cd.state pieces.flatten)
    (h : Returns (sessionTurn beyond cd buffers) (begin cd mem pieces) o) :
    Ended (converterOf beyond cd) cd.state pieces.flatten o := by
  obtain ⟨fuel, hfuel⟩ := h
  have hrule := loop_rule (sessionTurn beyond cd buffers) _ _
    (fun s hs => sessionTurn_follows buffers henc hs) fuel _ (begin_follows beyond cd mem pieces)
  rw [hfuel] at hrule
  exact hrule

end Run

section Room

variable {cd : Descriptor} {us : List UInt8}

theorem path_length (hstar : cd.totype.Starred) (h : Path (converterOf beyond cd) state xs us t ys)
    (henc : cd.Encodes beyond state xs) :
    us.length + 8 * ys.length ≤ 8 * xs.length := by
  induction h with
  | nil => simp
  | @cons s xs l out t us u ys hnext _ ih =>
    have hlength := (next_length rfl hstar henc hnext).2
    have hbound := (converterOf beyond cd).bound hnext
    have hrest := ih fun c hc => henc c (hc.step hnext)
    rw [length_drop] at hrest
    rw [length_append]
    omega

theorem encodable_of_path (h : Path (converterOf beyond cd) state xs us t ys)
    (henc : cd.Encodes beyond state xs) :
    cd.Encodes beyond t ys := by
  rintro c ⟨vs, t', zs, l, hpath, hdecode⟩
  exact henc c ⟨us ++ vs, t', zs, l, h.trans hpath, hdecode⟩

section

variable {s : Cursor} {r : Result} (h : Converted (converterOf beyond cd) s us r)
  (hstar : cd.totype.Starred)
  (henc : cd.Encodes beyond s.state s.inp)
include h hstar henc

theorem Converted.full (herr : r.errno = some E2BIG) :
    s.outb < us.length + 8 ∧ 0 < r.cursor.inp.length := by
  cases h.stopped with
  | done hnone => cases hnone.symm.trans herr
  | starved hinval => cases hinval.symm.trans herr
  | bad hilseq => cases hilseq.symm.trans herr
  | full _ hnext hlt =>
    have hlength := (next_length rfl hstar (encodable_of_path h.path henc) hnext).1
    have houtb := h.outb
    refine ⟨by omega, length_pos_iff.2 fun hnil => ?_⟩
    rw [hnil] at hnext
    cases hnext

theorem Converted.not_full (hsize : 8 * s.inp.length ≤ s.outb) : r.errno ≠ some E2BIG := by
  intro herr
  obtain ⟨hroom, hinp⟩ := h.full hstar henc herr
  have hlength := path_length hstar h.path henc
  omega

theorem Converted.progress (hsize : 8 ≤ s.outb) (herr : r.errno = some E2BIG) :
    r.cursor.inp.length < s.inp.length := by
  obtain ⟨hroom, -⟩ := h.full hstar henc herr
  have hlength := path_length hstar h.path henc
  omega

end

/-- How many buffers come before one with room for a character -/
noncomputable def wait {buffers : ℕ → Buffer} (h : ∀ k, ∃ n, 8 ≤ (buffers (k + n)).size) (k : ℕ) :
    ℕ := by
  classical exact Nat.find (h k)

theorem wait_succ {buffers : ℕ → Buffer} (h : ∀ k, ∃ n, 8 ≤ (buffers (k + n)).size)
    (hk : (buffers k).size < 8) : wait h (k + 1) < wait h k := by
  classical
  have hspec : 8 ≤ (buffers (k + wait h k)).size := Nat.find_spec (h k)
  have hpos : wait h k ≠ 0 := by
    intro hzero
    rw [hzero, Nat.add_zero] at hspec
    omega
  have hnext : 8 ≤ (buffers (k + 1 + (wait h k - 1))).size := by
    rw [show k + 1 + (wait h k - 1) = k + wait h k by omega]
    exact hspec
  have hle : wait h (k + 1) ≤ wait h k - 1 := Nat.find_min' (h (k + 1)) hnext
  omega

end Room

/-- The pieces to come, the input that is left and the buffers before one with room -/
noncomputable def Session.rank {buffers : ℕ → Buffer}
    (h : ∀ k, ∃ n, 8 ≤ (buffers (k + n)).size) (s : Session) : ℕ × ℕ × ℕ :=
  (s.pieces.length, s.pending.length, wait h s.calls)

def Before (x y : ℕ × ℕ × ℕ) : Prop := Prod.Lex (· < ·) (Prod.Lex (· < ·) (· < ·)) x y

theorem before_wellFounded : WellFounded Before :=
  WellFounded.prod_lex Nat.lt_wfRel.wf (WellFounded.prod_lex Nat.lt_wfRel.wf Nat.lt_wfRel.wf)

theorem sessionTurn_ranked (hstar : cd.totype.Starred)
    (hroom : ∀ k, ∃ n, 8 ≤ (buffers (k + n)).size)
    (henc : cd.Encodes beyond cd.state input)
    (h : s.Follows (converterOf beyond cd) cd.state input) :
    (∃ o, sessionTurn beyond cd buffers s = .ret o) ∨
      ∃ s', sessionTurn beyond cd buffers s = .again s' ∧
        s'.Follows (converterOf beyond cd) cd.state input ∧
        Before (s'.rank hroom) (s.rank hroom) := by
  have hfollows := sessionTurn_follows buffers henc h
  obtain ⟨r, us, hcall, hconv⟩ := iconv_converted { cd with state := s.state } s.pending s.mem
    (buffers s.calls).fits (h.encodable henc)
  rw [sessionTurn, hcall] at hfollows ⊢
  have hpending : r.cursor.inp.length ≤ s.pending.length := by
    have hlength : us.length + 8 * r.cursor.inp.length ≤ 8 * s.pending.length :=
      path_length hstar hconv.path (h.encodable henc)
    omega
  dsimp only at hfollows ⊢
  rw [Session.proceed] at hfollows ⊢
  by_cases hfull : r.errno = some E2BIG
  · rw [if_pos hfull] at hfollows ⊢
    refine .inr ⟨_, rfl, hfollows, .right _ ?_⟩
    by_cases hsize : 8 ≤ (buffers s.calls).size
    · exact .left _ _ (hconv.progress hstar (h.encodable henc) hsize hfull)
    · rcases Nat.lt_or_eq_of_le hpending with hlt | heq
      · exact .left _ _ hlt
      · have hwait := wait_succ hroom (Nat.lt_of_not_le hsize)
        rw [← heq]
        exact .right _ hwait
  rw [if_neg hfull] at hfollows ⊢
  split_ifs at hfollows ⊢ with hilseq
  · exact .inl ⟨_, rfl⟩
  cases hpieces : s.pieces with
  | nil =>
    have htake : (s.take (buffers s.calls) r).pieces = [] := hpieces
    rw [htake]
    exact .inl ⟨_, rfl⟩
  | cons piece rest =>
    have htake : (s.take (buffers s.calls) r).pieces = piece :: rest := hpieces
    rw [htake] at hfollows ⊢
    refine .inr ⟨_, rfl, hfollows, .left _ _ ?_⟩
    rw [hpieces]
    exact Nat.lt_succ_self _

theorem session_returns (hstar : cd.totype.Starred)
    (hroom : ∀ k, ∃ n, 8 ≤ (buffers (k + n)).size) (mem : ByteMem)
    (henc : cd.Encodes beyond cd.state pieces.flatten) :
    ∃ o, Returns (sessionTurn beyond cd buffers) (begin cd mem pieces) o := by
  obtain ⟨o, ho, -⟩ := returns_of_wellFounded
    (InvImage.wf (Session.rank hroom) before_wellFounded) _ (fun _ => True)
    (fun s hs => (sessionTurn_ranked hstar hroom henc hs).imp_left
      (Exists.imp fun o ho => ⟨ho, trivial⟩)) _
    (begin_follows beyond cd mem pieces)
  exact ⟨o, ho⟩

theorem find_charmap_mem (h : find_charmap name = some t) :
    ∃ m ∈ charmaps, m.charset = t := by
  obtain ⟨m, hm, rfl⟩ := map_eq_some_iff.1 h
  exact ⟨m, mem_of_find?_eq_some hm, rfl⟩

theorem iconv_open_spec (h : iconv_open tocode fromcode malloc = some cd) :
    cd.totype.Starred ∧ cd.state = 0 := by
  obtain ⟨t, ht, h⟩ := bind_eq_some_iff.1 h
  obtain ⟨f, -, h⟩ := bind_eq_some_iff.1 h
  obtain ⟨m, hm, rfl⟩ := find_charmap_mem ht
  split_ifs at h
  cases h
  exact ⟨starred_charmaps m hm, rfl⟩

/-- However the input is divided and whatever the buffers, a session ends with the output, the rest
and the state of one call with the whole input and a large enough buffer; and with room for a
character from time to time it does end. -/
theorem iconv_interruptible (beyond : ℕ → BitVec 16) {tocode fromcode : List UInt8} {malloc : Bool}
    {cd : Descriptor} (hopen : iconv_open tocode fromcode malloc = some cd)
    (pieces : List (List UInt8)) (buffers : ℕ → Buffer) (whole : Buffer) (mem mem' : ByteMem)
    (hwhole : 8 * pieces.flatten.length ≤ whole.size)
    (hscalar : ∀ c, HandsOn beyond cd pieces.flatten c → Utf8.Scalar c.toNat) :
    ∃ r, iconv beyond cd pieces.flatten mem' whole.addr whole.size = some r ∧
      r.errno ≠ some E2BIG ∧
      (∀ o, Returns (sessionTurn beyond cd buffers) (begin cd mem pieces) o →
        o = ⟨produced whole r, r.cursor.inp, r.cursor.state⟩) ∧
      ((∀ k, ∃ n, 8 ≤ (buffers (k + n)).size) →
        ∃ o, Returns (sessionTurn beyond cd buffers) (begin cd mem pieces) o) := by
  have hstar := (iconv_open_spec hopen).1
  have henc := encodable_of_scalar hstar hscalar
  obtain ⟨r, us, hcall, hconv⟩ := iconv_converted cd pieces.flatten mem' whole.fits henc
  have hfull : r.errno ≠ some E2BIG := hconv.not_full hstar henc hwhole
  refine ⟨r, hcall, hfull, fun o ho => ?_, fun hroom => session_returns hstar hroom mem henc⟩
  have hfinal : Final (converterOf beyond cd) r.cursor.state r.cursor.inp := by
    by_cases hilseq : r.errno = some EILSEQ
    · have hbad := Final.append (hconv.stopped.bad_of_ilseq hilseq) []
      rwa [append_nil] at hbad
    · exact final_of_starved (hconv.stopped.starved_of next_nil hfull hilseq)
  obtain ⟨hpath, hend⟩ := session_ended henc ho
  obtain ⟨hwritten, hstate, hrest⟩ := hpath.unique hend hconv.path hfinal
  rw [hconv.produced, ← hwritten, ← hstate, ← hrest]

def small : Buffer := ⟨0x1000, 1, by omega⟩

def large : Buffer := ⟨0x2000, 16, by omega⟩

/-- A character in two pieces, with a buffer of one byte in between -/
theorem iconv_interruptible_halves :
    ∃ r, iconv (fun _ => 0) ⟨.UTF_16LE, .UTF_8, 0⟩ [0xc3, 0xa9] (fun _ => 0) 0x2000 16 = some r ∧
      ∃ o, Returns (sessionTurn (fun _ => 0) ⟨.UTF_16LE, .UTF_8, 0⟩
          fun k => if k % 2 = 0 then large else small)
        (begin ⟨.UTF_16LE, .UTF_8, 0⟩ (fun _ => 0) [[0xc3], [0xa9]]) o ∧
        o = ⟨produced large r, r.cursor.inp, r.cursor.state⟩ := by
  have hopen : iconv_open (octetsOf "utf-16le") (octetsOf "UTF-8") true =
      some ⟨.UTF_16LE, .UTF_8, 0⟩ := by decide +kernel
  obtain ⟨r, hcall, -, hsame, hends⟩ := iconv_interruptible (fun _ => 0) hopen [[0xc3], [0xa9]]
    (fun k => if k % 2 = 0 then large else small) large (fun _ => 0) (fun _ => 0) (by decide)
    (fun c hc => hc.scalar_of_utf8)
  obtain ⟨o, ho⟩ := hends fun k => by
    rcases Nat.mod_two_eq_zero_or_one k with hk | hk
    · exact ⟨0, by simp [hk, large]⟩
    · exact ⟨1, by simp [show (k + 1) % 2 = 0 by omega, large]⟩
  exact ⟨r, hcall, o, ho, hsame o ho⟩

end Iconv
