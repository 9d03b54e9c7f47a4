import GcompatMusl.IconvDecoding
import GcompatMusl.ResumableConversion

/-! # Calls of `iconv`

A call that meets scalar values only is a conversion that stops at the end of its input, within a
character, at a wrong one or at one that the output has no room for. -/
namespace Iconv

open FlatMemory FuelLoop MuslString Multibyte ResumableConversion

variable {beyond : ℕ → BitVec 16}

/-- An encoder that gives up for want of room, or stores up to eight bytes and moves on by as
many -/
def Roomy (e : ℕ → Encoded) : Prop :=
  ∃ bytes x, bytes.length ≤ 8 ∧
    ∀ outb, e outb = if outb < bytes.length then .toobig else .wrote bytes bytes.length x

variable {bytes xs : List UInt8} {c : Wide} {s s' : Cursor} {D : Decoder ℕ UInt8 UInt8}

theorem Roomy.put (h : bytes.length ≤ 8) (x : ℕ) : Roomy (put bytes x) :=
  ⟨bytes, x, h, fun _ => rfl⟩

theorem Roomy.ite [Decidable p] (h : Roomy e) (h' : Roomy e') :
    Roomy fun outb => if p then e outb else e' outb := by
  split_ifs with hp
  · exact h
  · exact h'

def Charset.page : Charset → ℕ × ℕ
  | .codepage quads bytes => (quads, bytes)
  | type => (type.code, 0)

def Charset.Starred (type : Charset) : Prop := (pageFind type.page.1 type.page.2 42).isSome = true

instance (type : Charset) : Decidable type.Starred := inferInstanceAs (Decidable (_ = true))

theorem starred_charmaps : ∀ m ∈ charmaps, m.charset.Starred := by decide +kernel

theorem toCodepage_roomy {quads bytes : ℕ} (h : (pageFind quads bytes 42).isSome = true) (c : Wide)
    (x : ℕ) : Roomy (toCodepage quads bytes c x) := by
  obtain ⟨star, hstar⟩ := Option.isSome_iff_exists.1 h
  cases hfind : pageFind quads bytes c with
  | some b =>
    refine ⟨[UInt8.ofNat b], x, by simp, fun outb => ?_⟩
    rw [toCodepage, hfind]
    rfl
  | none =>
    refine ⟨[UInt8.ofNat star], x + 1, by simp, fun outb => ?_⟩
    rw [toCodepage, hfind, hstar]
    rfl

theorem toUtf8_roomy (hc : Utf8.Scalar c.toNat) : Roomy (toUtf8 c) := by
  obtain ⟨l, hl, -⟩ := wcrtomb_scalar hc
  rw [BitVec.ofNat_toNat, BitVec.setWidth_eq] at hl
  have hlength := wcrtomb_length hl
  refine ⟨l.val, 0, by omega, fun outb => ?_⟩
  rw [toUtf8, hl]
  rfl

section

variable (c : Wide)

theorem put_16_length (e : ℕ) : (put_16 c e).length = 2 := by
  unfold put_16
  split_ifs <;> rfl

theorem toUtf16_roomy (ucs2 : Bool) (e : ℕ) (c : Wide) : Roomy (toUtf16 ucs2 e c) := by
  refine .ite (.put ?_ 0) (.put ?_ 0)
  · rw [put_16_length]
    omega
  · rw [List.length_append, put_16_length, put_16_length]
    omega

theorem revout_roomy (x : ℕ) : Roomy (revout c x) := .put (by simp) x

theorem toJis_roomy {totype : Charset} (h : (pageFind totype.code 0 42).isSome = true) (j : ℕ)
    {bytes : ℕ → List UInt8} (hbytes : ∀ j, (bytes j).length ≤ 8) :
    Roomy (toJis totype j bytes) :=
  .ite (toCodepage_roomy h _ _) (.put (hbytes j) 0)

theorem toShiftJis_roomy (h : (pageFind Charset.SHIFT_JIS.code 0 42).isSome = true) :
    Roomy (toShiftJis beyond c) := by
  have hbytes : ∀ j, (sjisBytes j).length ≤ 8 := fun j => by simp [sjisBytes]
  refine .ite (revout_roomy _ _) (.ite (revout_roomy _ _) (.ite (revout_roomy _ _) (.ite ?_ ?_)))
  · exact revout_roomy _ _
  · exact toJis_roomy h _ hbytes

theorem toEucJp_roomy (h : (pageFind Charset.EUC_JP.code 0 42).isSome = true) :
    Roomy (toEucJp beyond c) := by
  have hbytes : ∀ j, (eucBytes j).length ≤ 8 := fun j => by simp [eucBytes]
  refine .ite (revout_roomy _ _) (.ite ?_ ?_) <;> exact toJis_roomy h _ hbytes

theorem toIso2022Jp_roomy (h : (pageFind Charset.ISO2022_JP.code 0 42).isSome = true) :
    Roomy (toIso2022Jp beyond c) := by
  have hbytes : ∀ j, (escapedJis j).length ≤ 8 := fun j => by simp [escapedJis]
  have hescaped : ∀ set b, (escaped set b).length ≤ 8 := fun set b => by simp [escaped]
  refine .ite (revout_roomy _ _) (.ite ?_ (.ite ?_ (.ite ?_ ?_)))
  · exact .put (hescaped _ _) 0
  · exact .put (hescaped _ _) 0
  · exact .put (hescaped _ _) 0
  · exact toJis_roomy h _ hbytes

end

theorem encode_roomy (h : totype.Starred)
    (hc : totype = .UTF_8 → Utf8.Scalar c.toNat) : Roomy (encode beyond totype c) := by
  cases totype with
  | WCHAR_T | UTF_32 | UTF_32BE | UTF_32LE => exact .put (by simp [put_32]) 0
  | UTF_8 => exact toUtf8_roomy (hc rfl)
  | US_ASCII => exact .ite (toCodepage_roomy h _ _) (toCodepage_roomy h _ _)
  | SHIFT_JIS => exact toShiftJis_roomy c h
  | EUC_JP => exact toEucJp_roomy c h
  | ISO2022_JP => exact toIso2022Jp_roomy c h
  | UCS2 | UCS2BE | UCS2LE | UTF_16 | UTF_16BE | UTF_16LE => exact toUtf16_roomy _ _ _
  | codepage => exact toCodepage_roomy h _ _
  | GB18030 | GBK | GB2312 | BIG5 | EUC_KR => exact toCodepage_roomy h _ _

/-- The bytes for a character when there is room -/
def emitted (beyond : ℕ → BitVec 16) (totype : Charset) (c : Wide) : List UInt8 :=
  match encode beyond totype c 8 with
  | .wrote bytes _ _ => bytes
  | _ => []

theorem Roomy.emitted (h : Roomy (encode beyond totype c)) :
    (emitted beyond totype c).length ≤ 8 ∧ ∃ x, ∀ outb, encode beyond totype c outb =
      if outb < (emitted beyond totype c).length then .toobig
      else .wrote (emitted beyond totype c) (emitted beyond totype c).length x := by
  obtain ⟨bytes, x, hlength, hencode⟩ := h
  have heq : Iconv.emitted beyond totype c = bytes := by
    rw [Iconv.emitted, hencode 8, if_neg (by omega)]
  rw [heq]
  exact ⟨hlength, x, hencode⟩

variable {pair : ℕ → List UInt8 × ℕ} {totype type : Charset}

section

variable (beyond : ℕ → BitVec 16) (pair : ℕ → List UInt8 × ℕ)

def item (totype : Charset) (state : ℕ) :
    Decoded → Item ℕ UInt8
  | .char l c => .emit l (emitted beyond totype c) state
  | .shift l _ state => .emit l [] state
  | .pair l k => .emit l (pair k).1 state
  | .ilseq => .bad
  | .starved => .starved

def converter (totype type : Charset) :
    Decoder ℕ UInt8 UInt8 where
  next state xs := item beyond pair totype state (decode beyond (current type state) state xs)
  stable {state xs} h ys := by
    rw [decode_stable _ _ xs _ ys]
    intro hstarved
    rw [hstarved] at h
    exact h rfl
  bound {state xs l out t} h := by
    have htakes := decode_takes beyond (current type state) state xs
    generalize decode beyond (current type state) state xs = x at h htakes
    cases x with
    | char l' c | pair l' k =>
      cases h
      exact htakes.2
    | shift l' type' state' =>
      cases h
      exact htakes.bound
    | ilseq | starved => cases h

/-- The character `c` is decoded somewhere in the input `xs`. -/
def Meets (totype type : Charset) (state : ℕ) (xs : List UInt8) (c : Wide) : Prop :=
  ∃ us t ys l, Path (converter beyond pair totype type) state xs us t ys ∧
    decode beyond (current type t) t ys = .char l c

end

theorem Meets.step
    (h : (converter beyond pair totype type).next state xs = .emit l out t)
    (hc : Meets beyond pair totype type t (xs.drop l) c) :
    Meets beyond pair totype type state xs c := by
  obtain ⟨us, t', ys, l', hpath, hdecode⟩ := hc
  exact ⟨out ++ us, t', ys, l', .cons h hpath, hdecode⟩

/-- A turn has taken `l` bytes of the input and stored `bytes`. -/
structure After (s : Cursor) (l : ℕ) (bytes : List UInt8) (next : ℕ) (s' : Cursor) : Prop where
  state : s'.state = next
  inp : s'.inp = s.inp.drop l
  mem : s'.mem = writeList s.mem s.out bytes
  out : s'.out = s.out + bytes.length
  outb : s'.outb + bytes.length = s.outb

theorem after_stored (hfit : s.out + s.outb < 2 ^ 64) (hroom : out.length ≤ s.outb) :
    After s l out s.state (s.stored l out out.length x) := by
  refine ⟨rfl, rfl, rfl, ?_, ?_⟩
  · exact Nat.mod_eq_of_lt (by omega)
  · change (s.outb + 2 ^ 64 - out.length) % 2 ^ 64 + out.length = s.outb
    omega

def At (type : Charset) (s : Cursor) : Prop := s.type = current type s.state

theorem At.next (h : At type s) : (converter beyond pair totype type).next s.state s.inp =
      item beyond pair totype s.state (decode beyond s.type s.state s.inp) := by
  rw [At] at h
  simp only [converter, ← h]

theorem At.shift (h : At type s) (hs : Shifts s.type n l type' state') :
    type' = current type state' := by
  rw [At, current] at h
  by_cases hfound : type.detects = true ∧ s.state ≠ 0
  · have hno := hs.stateful
    rw [h, if_pos hfound, ofState_stateless] at hno
    exact absurd hno Bool.false_ne_true
  · rw [if_neg hfound] at h
    rw [hs.type_eq, h]

/-- A bound for the turns that are left: one that finds out the byte order takes no input. -/
def turns (s : Cursor) : ℕ := 2 * s.inp.length + s.type.detects.toNat

theorem ofState_detects (state : ℕ) : (Charset.ofState state).detects = false := by
  unfold Charset.ofState
  split_ifs <;> rfl

theorem After.turns_lt {l state : ℕ} (h : After s l bytes state s') (htype : s'.type = s.type)
    (hpos : 1 ≤ l) (hle : l ≤ s.inp.length) : turns s' < turns s := by
  rw [turns, turns, h.inp, htype, List.length_drop]
  omega

theorem Shifts.turns_lt (hs : Shifts s.type s.inp.length l s'.type s'.state)
    (hinp : s'.inp = s.inp.drop l) : turns s' < turns s := by
  have hbound := hs.bound
  have hlength : s'.inp.length = s.inp.length - l := by rw [hinp, List.length_drop]
  have hone : s'.type.detects.toNat ≤ 1 := Bool.toNat_le _
  rw [turns, turns]
  rcases hs.found with hpos | hfound
  · omega
  · have htype : s'.type.detects = false := by
      rw [hs.type_eq, current, if_pos hfound, ofState_detects]
    rw [htype, hfound.1]
    simp only [Bool.toNat_false, Bool.toNat_true]
    omega

theorem turn_item (hinp : s.inp ≠ []) (hfit : s.out + s.outb < 2 ^ 64)
    (hroomy : ∀ l c, decode beyond s.type s.state s.inp = .char l c →
      Roomy (encode beyond totype c))
    {l state : ℕ} {out : List UInt8}
    (h : item beyond pair totype s.state (decode beyond s.type s.state s.inp) = .emit l out state) :
    (s.outb < out.length ∧ turn beyond pair totype s = s.fail E2BIG) ∨
      ∃ s', turn beyond pair totype s = .again s' ∧ After s l out state s' ∧
        turns s' < turns s ∧ ((s'.type = s.type ∧ s'.state = s.state) ∨
          Shifts s.type s.inp.length l s'.type s'.state) := by
  have htakes := decode_takes beyond s.type s.state s.inp
  rw [turn, if_neg hinp]
  generalize decode beyond s.type s.state s.inp = x at h hroomy htakes
  cases x with
  | ilseq | starved => cases h
  | shift l' type' state' =>
    cases h
    refine .inr ⟨_, rfl, ⟨rfl, rfl, rfl, rfl, rfl⟩, ?_, .inr htakes⟩
    exact Shifts.turns_lt htakes rfl
  | pair l' k =>
    cases h
    by_cases hroom : (pair k).1.length > s.outb
    · exact .inl ⟨hroom, if_pos hroom⟩
    · have hafter := after_stored (l := l) (x := (pair k).2) hfit (Nat.le_of_not_lt hroom)
      exact .inr ⟨_, if_neg hroom, hafter, hafter.turns_lt rfl htakes.1 htakes.2, .inl ⟨rfl, rfl⟩⟩
  | char l' c =>
    cases h
    obtain ⟨-, x, hencode⟩ := (hroomy _ c rfl).emitted
    dsimp only
    rw [hencode]
    split_ifs with hroom
    · exact .inl ⟨hroom, rfl⟩
    · have hafter := after_stored (l := l) (x := x) hfit (Nat.le_of_not_lt hroom)
      exact .inr ⟨_, rfl, hafter, hafter.turns_lt rfl htakes.1 htakes.2, .inl ⟨rfl, rfl⟩⟩

theorem turn_emit (hinp : s.inp ≠ []) (hat : At type s) (hfit : s.out + s.outb < 2 ^ 64)
    (hroomy : ∀ l c, decode beyond s.type s.state s.inp = .char l c →
      Roomy (encode beyond totype c))
    (h : (converter beyond pair totype type).next s.state s.inp = .emit l out state) :
    (s.outb < out.length ∧ turn beyond pair totype s = s.fail E2BIG) ∨
      ∃ s', turn beyond pair totype s = .again s' ∧ After s l out state s' ∧ At type s' ∧
        turns s' < turns s := by
  rw [hat.next] at h
  rcases turn_item hinp hfit hroomy h with hfull | ⟨s', hturn, hafter, hlt, hsame | hshift⟩
  · exact .inl hfull
  · refine .inr ⟨s', hturn, hafter, ?_, hlt⟩
    rw [At, hsame.1, hsame.2]
    exact hat
  · exact .inr ⟨s', hturn, hafter, hat.shift hshift, hlt⟩

theorem turn_starved (hinp : s.inp ≠ []) (hat : At type s)
    (h : (converter beyond pair totype type).next s.state s.inp = .starved) :
    turn beyond pair totype s = s.fail EINVAL := by
  rw [hat.next] at h
  rw [turn, if_neg hinp]
  generalize decode beyond s.type s.state s.inp = x at h
  cases x with
  | starved => rfl
  | _ => cases h

theorem turn_bad (hinp : s.inp ≠ []) (hat : At type s)
    (h : (converter beyond pair totype type).next s.state s.inp = .bad) :
    turn beyond pair totype s = s.fail EILSEQ := by
  rw [hat.next] at h
  rw [turn, if_neg hinp]
  generalize decode beyond s.type s.state s.inp = x at h
  cases x with
  | ilseq => rfl
  | _ => cases h

/-- Where a call ends, as the converter over the bytes would end -/
inductive Stopped (D : Decoder ℕ UInt8 UInt8) (r : Result) : Prop where
  | done : r.errno = none → r.cursor.inp = [] → Stopped D r
  | starved : r.errno = some EINVAL → D.next r.cursor.state r.cursor.inp = .starved → Stopped D r
  | bad : r.errno = some EILSEQ → D.next r.cursor.state r.cursor.inp = .bad → Stopped D r
  | full {l out state} : r.errno = some E2BIG →
      D.next r.cursor.state r.cursor.inp = .emit l out state → r.cursor.outb < out.length →
      Stopped D r

structure Converted (D : Decoder ℕ UInt8 UInt8) (s : Cursor) (us : List UInt8) (r : Result) :
    Prop where
  path : Path D s.state s.inp us r.cursor.state r.cursor.inp
  mem : r.cursor.mem = writeList s.mem s.out us
  out : r.cursor.out = s.out + us.length
  outb : r.cursor.outb + us.length = s.outb
  stopped : Stopped D r

theorem Converted.step {l state : ℕ} {out us : List UInt8} {r : Result}
    (hnext : D.next s.state s.inp = .emit l out state) (h : After s l out state s')
    (hr : Converted D s' us r) : Converted D s (out ++ us) r := by
  obtain ⟨hpath, hmem, hout, houtb, hstopped⟩ := hr
  rw [h.state, h.inp] at hpath
  have hb := h.outb
  refine ⟨.cons hnext hpath, ?_, ?_, ?_, hstopped⟩
  · rw [hmem, h.mem, h.out, writeList_append]
  · rw [hout, h.out, List.length_append, Nat.add_assoc]
  · rw [List.length_append]
    omega

/-- Whatever character the conversion meets from here on, its encoder gets on. -/
def Encodable (beyond : ℕ → BitVec 16) (pair : ℕ → List UInt8 × ℕ) (totype type : Charset)
    (state : ℕ) (xs : List UInt8) : Prop :=
  ∀ c, Meets beyond pair totype type state xs c → Roomy (encode beyond totype c)

theorem loop_converted : ∀ (fuel : ℕ) (s : Cursor), turns s < fuel → At type s →
    s.out + s.outb < 2 ^ 64 → Encodable beyond pair totype type s.state s.inp →
    ∃ r us, loop (turn beyond pair totype) fuel s = .ret r ∧
      Converted (converter beyond pair totype type) s us r := by
  intro fuel
  induction fuel with
  | zero => exact fun s hlt => absurd hlt (Nat.not_lt_zero _)
  | succ fuel ih =>
    intro s hlt hat hfit hroomy
    by_cases hinp : s.inp = []
    · have hturn : turn beyond pair totype s = .ret ⟨s.x, none, s⟩ := if_pos hinp
      exact ⟨_, [], loop_ret hturn fuel, .nil _ _, rfl, rfl, rfl, .done rfl hinp⟩
    cases hnext : (converter beyond pair totype type).next s.state s.inp with
    | starved =>
      refine ⟨_, [], loop_ret (turn_starved hinp hat hnext) fuel, .nil _ _, rfl, rfl, rfl, ?_⟩
      exact .starved rfl hnext
    | bad =>
      refine ⟨_, [], loop_ret (turn_bad hinp hat hnext) fuel, .nil _ _, rfl, rfl, rfl, ?_⟩
      exact .bad rfl hnext
    | emit l out state =>
      have hhere : ∀ l c, decode beyond s.type s.state s.inp = .char l c →
          Roomy (encode beyond totype c) := by
        intro l c hc
        refine hroomy c ⟨[], s.state, s.inp, l, .nil _ _, ?_⟩
        rw [← hc, show s.type = current type s.state from hat]
      rcases turn_emit hinp hat hfit hhere hnext with
        ⟨hfull, hturn⟩ | ⟨s', hturn, hafter, hat', hlt'⟩
      · refine ⟨_, [], loop_ret hturn fuel, .nil _ _, rfl, rfl, rfl, ?_⟩
        exact .full rfl hnext hfull
      · have hout := hafter.out
        have houtb := hafter.outb
        obtain ⟨r, us, hloop, hconv⟩ := ih s' (by omega) hat' (by omega) fun c hc => by
          rw [hafter.state, hafter.inp] at hc
          exact hroomy c (hc.step hnext)
        exact ⟨r, out ++ us, by rw [loop_again hturn, hloop], hconv.step hnext hafter⟩

theorem Meets.scalar_of_utf8 (h : Meets beyond pair totype .UTF_8 state xs c) :
    Utf8.Scalar c.toNat := by
  obtain ⟨us, t, ys, l, -, hdecode⟩ := h
  cases ys with
  | nil => cases hdecode
  | cons b ys =>
    rcases fromUtf8_cases b ys with h | h | ⟨l', c', h, -, -, hscalar⟩
    · cases h.symm.trans hdecode
    · cases h.symm.trans hdecode
    · cases h.symm.trans hdecode
      exact hscalar

theorem encodable_of_scalar (hstar : totype.Starred)
    (h : ∀ c, Meets beyond pair totype type state xs c → Utf8.Scalar c.toNat) :
    Encodable beyond pair totype type state xs :=
  fun c hc => encode_roomy hstar fun _ => h c hc

theorem pairBytes_length (hstar : totype.Starred) (k : ℕ) :
    (pairBytes beyond totype k).1.length ≤ 8 := by
  have htext : (pairText k).length ≤ 4 := by
    rw [pairText, List.length_take]
    exact Nat.min_le_left _ _
  obtain ⟨r, us, hloop, hconv⟩ := @loop_converted beyond (fun _ => ([], 0)) totype .UTF_8
    10 ⟨.UTF_8, 0, pairText k, fun _ => 0, 0, 8, 0⟩
    (by simp only [turns, Charset.detects, Bool.toNat_false]; omega) rfl
    (show 0 + 8 < 2 ^ 64 by decide)
    (encodable_of_scalar hstar fun c hc => hc.scalar_of_utf8)
  have hout := hconv.out
  have houtb := hconv.outb
  dsimp only at hout houtb
  rw [pairBytes, hloop]
  simp only [Turn.result, readList_length]
  omega

theorem decode_resume (htype : type.detects = true) (hstate : state ≠ 0) (hxs : xs ≠ []) :
    decode beyond type state xs = resumeOrder state := by
  obtain ⟨b, xs, rfl⟩ := List.exists_cons_of_ne_nil hxs
  cases type with
  | UTF_16 | UCS2 | UTF_32 => exact if_pos hstate
  | _ => cases htype

theorem iconv_converted (cd : Descriptor) (inp : List UInt8) (mem : ByteMem)
    (hfit : out + outb < 2 ^ 64)
    (henc : Encodable beyond (pairBytes beyond cd.totype) cd.totype cd.type cd.state inp) :
    ∃ r us, iconv beyond cd inp mem out outb = some r ∧
      Converted (converter beyond (pairBytes beyond cd.totype) cd.totype cd.type)
        (enter cd inp mem out outb) us r := by
  have hone : cd.type.detects.toNat ≤ 1 := Bool.toNat_le _
  by_cases hfound : cd.type.detects = true ∧ cd.state ≠ 0
  swap
  · obtain ⟨r, us, hloop, hconv⟩ := @loop_converted beyond (pairBytes beyond cd.totype) cd.totype
      cd.type (2 * inp.length + 2)
      (enter cd inp mem out outb) (by simp only [turns, enter]; omega) (if_neg hfound).symm
      hfit henc
    exact ⟨r, us, by rw [iconv, iconvTurn, hloop]; rfl, hconv⟩
  by_cases hinp : inp = []
  · have hturn : turn beyond (pairBytes beyond cd.totype) cd.totype (enter cd inp mem out outb) =
        .ret ⟨0, none, enter cd inp mem out outb⟩ := if_pos hinp
    refine ⟨⟨0, none, enter cd inp mem out outb⟩, [], ?_, .nil _ _, rfl, rfl, rfl, .done rfl hinp⟩
    rw [iconv, iconvTurn, loop_ret hturn]
    rfl
  -- the first turn goes over to the byte order
  · let s := enter cd inp mem out outb
    let s' := { s with type := Charset.ofState cd.state }
    have hturn : turn beyond (pairBytes beyond cd.totype) cd.totype s = .again s' := by
      have hdecode : decode beyond s.type s.state s.inp = resumeOrder cd.state :=
        decode_resume hfound.1 hfound.2 hinp
      rw [turn, if_neg (show s.inp ≠ [] from hinp), hdecode]
      rfl
    obtain ⟨r, us, hloop, hconv⟩ := @loop_converted beyond (pairBytes beyond cd.totype) cd.totype
      cd.type (2 * inp.length + 1) s'
      (by simp only [turns, s', s, enter, ofState_detects, Bool.toNat_false]; omega)
      (if_pos hfound).symm hfit henc
    refine ⟨r, us, ?_, hconv.path, hconv.mem, hconv.out, hconv.outb, hconv.stopped⟩
    rw [iconv, iconvTurn, loop_again hturn, hloop]
    rfl

theorem next_length (hD : D = converter beyond (pairBytes beyond totype) totype type)
    (hstar : totype.Starred)
    (henc : Encodable beyond (pairBytes beyond totype) totype type state xs)
    (h : D.next state xs = .emit l out next) : out.length ≤ 8 ∧ out.length ≤ 8 * l := by
  subst hD
  have htakes := decode_takes beyond (current type state) state xs
  have hhere : ∀ l c, decode beyond (current type state) state xs = .char l c →
      Roomy (encode beyond totype c) :=
    fun l c hc => henc c ⟨[], state, xs, l, .nil _ _, hc⟩
  simp only [converter] at h
  generalize decode beyond (current type state) state xs = x at h htakes hhere
  cases x with
  | ilseq | starved => cases h
  | shift =>
    cases h
    exact ⟨Nat.zero_le _, Nat.zero_le _⟩
  | pair l k =>
    cases h
    have hlength := @pairBytes_length beyond _ hstar k
    have hpos := htakes.1
    exact ⟨hlength, by omega⟩
  | char l c =>
    cases h
    have hlength := (hhere _ c rfl).emitted.1
    have hpos := htakes.1
    exact ⟨hlength, by omega⟩

end Iconv
