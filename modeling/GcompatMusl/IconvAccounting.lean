import GcompatMusl.IconvPieces
import GcompatMusl.IconvScalars

/-! # What a call of `iconv` accounts for

The encoder of UTF-8 adds what `wctomb` returns to the output pointer. For a code point that is not
a scalar value this is `-1`, so the pointer moves back and the room grows. -/
namespace Iconv

open FlatMemory FuelLoop Multibyte ResumableConversion MuslString

variable {totype : Charset} {s s' t : Cursor}

def Passes (beyond : ℕ → BitVec 16) (totype : Charset) (s t : Cursor) : Prop :=
  ∃ n, loop (iconvTurn beyond totype) n s = .again t

theorem Passes.refl (s : Cursor) : Passes beyond totype s s := ⟨0, rfl⟩

theorem Passes.step (h : iconvTurn beyond totype s = .again s') (hs : Passes beyond totype s' t) :
    Passes beyond totype s t := by
  obtain ⟨n, hn⟩ := hs
  exact ⟨n + 1, by rw [loop_again h, hn]⟩

/-- What is decoded takes `l` bytes of the input. -/
def Whole (l : ℕ) : Decoded → Prop
  | .char l' _ | .pair l' _ | .shift l' _ _ => l' = l
  | .ilseq | .starved => False

def Accepts (beyond : ℕ → BitVec 16) (s s' : Cursor) : Prop :=
  ∃ l bytes, Whole l (decode beyond s.type s.state s.inp) ∧ After s l bytes s'.state s'

/-- Every code point that is handed on is a scalar value; every turn takes one character and moves
on by the bytes that it stores, all in the caller's buffer; and the call has written as many bytes
as the output has moved on. -/
structure Accounts (beyond : ℕ → BitVec 16) (cd : Descriptor) (inp : List UInt8) (mem : ByteMem)
    (out outb : ℕ) : Prop where
  scalar : ∀ t l c, Passes beyond cd.totype (enter cd inp mem out outb) t →
    decode beyond t.type t.state t.inp = .char l c → Utf8.Scalar c.toNat
  forward : ∀ t t', Passes beyond cd.totype (enter cd inp mem out outb) t →
    iconvTurn beyond cd.totype t = .again t' → Accepts beyond t t'
  outside : ∀ t a, Passes beyond cd.totype (enter cd inp mem out outb) t →
    ¬ InRange a out outb → t.mem a = mem a
  returns : ∃ r us, iconv beyond cd inp mem out outb = some r ∧
    r.cursor.out = out + us.length ∧ r.cursor.outb + us.length = outb ∧
    r.cursor.mem = writeList mem out us

theorem turn_accepts (hstar : totype.Starred) (hfit : s.out + s.outb < 2 ^ 64)
    (h : ¬ Strays beyond s.type s.inp) :
    (∃ r, iconvTurn beyond totype s = .ret r ∧ r.cursor = s) ∨
      ∃ s', iconvTurn beyond totype s = .again s' ∧ Accepts beyond s s' ∧ turns s' < turns s := by
  rw [iconvTurn]
  by_cases hinp : s.inp = []
  · exact .inl ⟨_, if_pos hinp, rfl⟩
  have hscalars := decode_scalars s.state h
  have hroomy : ∀ l c, decode beyond s.type s.state s.inp = .char l c →
      Roomy (encode beyond totype c) := by
    intro l c hc
    rw [hc] at hscalars
    exact encode_roomy hstar fun _ => hscalars
  have hitem := @turn_item beyond s (pairBytes beyond totype) totype hinp hfit hroomy
  have hwhole : ∀ l out state, item beyond (pairBytes beyond totype) totype s.state
      (decode beyond s.type s.state s.inp) = .emit l out state →
      Whole l (decode beyond s.type s.state s.inp) := by
    intro l out state h
    generalize decode beyond s.type s.state s.inp = x at h
    cases x with
    | ilseq | starved => cases h
    | char | shift | pair =>
      cases h
      rfl
  cases hnext : item beyond (pairBytes beyond totype) totype s.state
      (decode beyond s.type s.state s.inp) with
  | emit l out state =>
    rcases hitem hnext with ⟨-, hturn⟩ | ⟨s', hturn, hafter, hlt, -⟩
    · exact .inl ⟨_, hturn, rfl⟩
    · rw [← hafter.state] at hafter
      exact .inr ⟨s', hturn, ⟨l, out, hwhole _ _ _ hnext, hafter⟩, hlt⟩
  | starved | bad =>
    left
    rw [turn, if_neg hinp]
    generalize decode beyond s.type s.state s.inp = x at hnext
    cases x with
    | ilseq | starved => exact ⟨_, rfl, rfl⟩
    | char | shift | pair => cases hnext

structure Kept (s t : Cursor) : Prop where
  sum : t.out + t.outb = s.out + s.outb
  out : s.out ≤ t.out
  mem : ∀ a, ¬ InRange a s.out s.outb → t.mem a = s.mem a

theorem Kept.refl (s : Cursor) : Kept s s := ⟨rfl, le_rfl, fun _ _ => rfl⟩

theorem Accepts.kept (h : Accepts beyond s s') : Kept s s' := by
  obtain ⟨l, bytes, -, hafter⟩ := h
  have hout := hafter.out
  have houtb := hafter.outb
  refine ⟨by omega, by omega, fun a ha => ?_⟩
  rw [hafter.mem]
  refine writeList_outside _ _ _ ?_
  rw [InRange] at ha ⊢
  omega

theorem Kept.trans (h : Kept s s') (h' : Kept s' t) : Kept s t := by
  obtain ⟨hsum, hout, hmem⟩ := h
  obtain ⟨hsum', hout', hmem'⟩ := h'
  refine ⟨by omega, by omega, fun a ha => ?_⟩
  rw [hmem' a, hmem a ha]
  rw [InRange] at ha ⊢
  omega

theorem Passes.kept (hstar : totype.Starred) (hpasses : Passes beyond totype s t)
    (hfit : s.out + s.outb < 2 ^ 64)
    (h : ∀ t, Passes beyond totype s t → ¬ Strays beyond t.type t.inp) : Kept s t := by
  obtain ⟨n, hn⟩ := hpasses
  induction n generalizing s with
  | zero =>
    cases hn
    exact .refl _
  | succ n ih =>
    rcases turn_accepts hstar hfit (h s (.refl s)) with ⟨r, hturn, -⟩ | ⟨s', hturn, haccepts, -⟩
    · rw [loop_ret hturn] at hn
      cases hn
    · rw [loop_again hturn] at hn
      have hkept := haccepts.kept
      have hrest := ih (by rw [hkept.sum]; exact hfit) (fun t ht => h t (ht.step hturn)) hn
      exact hkept.trans hrest

theorem loop_accounts (hstar : totype.Starred) : ∀ (fuel : ℕ) (s : Cursor), turns s < fuel →
    s.out + s.outb < 2 ^ 64 → (∀ t, Passes beyond totype s t → ¬ Strays beyond t.type t.inp) →
    ∃ r us, loop (iconvTurn beyond totype) fuel s = .ret r ∧
      r.cursor.out = s.out + us.length ∧ r.cursor.outb + us.length = s.outb ∧
      r.cursor.mem = writeList s.mem s.out us := by
  intro fuel
  induction fuel with
  | zero => exact fun s hlt => absurd hlt (Nat.not_lt_zero _)
  | succ fuel ih =>
    intro s hlt hfit h
    rcases turn_accepts hstar hfit (h s (.refl s)) with ⟨r, hturn, hr⟩ | ⟨s', hturn, haccepts, hlt'⟩
    · refine ⟨r, [], loop_ret hturn fuel, ?_⟩
      rw [hr]
      exact ⟨rfl, rfl, rfl⟩
    · have hkept := haccepts.kept
      obtain ⟨l, bytes, -, hafter⟩ := haccepts
      obtain ⟨r, us, hloop, hout, houtb, hmem⟩ := ih s' (by omega) (by rw [hkept.sum]; exact hfit)
        fun t ht => h t (ht.step hturn)
      have hout' := hafter.out
      have houtb' := hafter.outb
      refine ⟨r, bytes ++ us, by rw [loop_again hturn, hloop], ?_, ?_, ?_⟩
      · rw [hout, hout', List.length_append, Nat.add_assoc]
      · rw [List.length_append]
        omega
      · rw [hmem, hafter.mem, hout', writeList_append]

/-- A call accounts for its input and output just when it meets no stray character. -/
theorem iconv_accounts_iff (beyond : ℕ → BitVec 16) {tocode fromcode : List UInt8} {malloc : Bool}
    {cd : Descriptor} (hopen : iconv_open tocode fromcode malloc = some cd) (state : ℕ)
    (inp : List UInt8) (mem : ByteMem) {out outb : ℕ} (hfit : out + outb < 2 ^ 64) :
    Accounts beyond { cd with state := state } inp mem out outb ↔
      ∀ t, Passes beyond cd.totype (enter { cd with state := state } inp mem out outb) t →
        ¬ Strays beyond t.type t.inp := by
  have hstar := (iconv_open_spec hopen).1
  constructor
  · intro h t ht hstrays
    obtain ⟨l, c, hdecode, hstray⟩ := decode_strays t.state hstrays
    exact hstray (h.scalar t l c ht hdecode)
  · intro h
    refine ⟨fun t l c ht hdecode => ?_, fun t t' ht hturn => ?_, fun t a ht ha => ?_, ?_⟩
    · have hscalars := decode_scalars t.state (h t ht)
      rw [hdecode] at hscalars
      exact hscalars
    · have hkept := ht.kept hstar hfit h
      have hfit' : t.out + t.outb < 2 ^ 64 := by
        rw [hkept.sum]
        exact hfit
      rcases turn_accepts hstar hfit' (h t ht) with ⟨r, hret, -⟩ | ⟨t'', hagain, haccepts, -⟩
      · cases hret.symm.trans hturn
      · cases hagain.symm.trans hturn
        exact haccepts
    · exact (ht.kept hstar hfit h).mem a ha
    · have hturns : turns (enter { cd with state := state } inp mem out outb) <
          2 * inp.length + 2 := by
        have hone : cd.type.detects.toNat ≤ 1 := Bool.toNat_le _
        change 2 * inp.length + cd.type.detects.toNat < _
        omega
      obtain ⟨r, us, hloop, htotals⟩ := loop_accounts hstar _ _ hturns hfit h
      exact ⟨r, us, by rw [iconv, hloop]; rfl, htotals⟩

/-- What every change of the state keeps of the charset holds at every place of a call. -/
theorem Passes.type_rule {P : Charset → Prop}
    (hP : ∀ {type n l type' state'}, P type → Shifts type n l type' state' → P type')
    (h : Passes beyond totype s t) (hs : P s.type) : P t.type := by
  obtain ⟨n, hn⟩ := h
  have hrule := loop_rule (iconvTurn beyond totype) (fun s => P s.type) (fun _ => True)
    (fun s hs => ?_) n s hs
  · rw [hn] at hrule
    exact hrule
  · have htakes := decode_takes beyond s.type s.state s.inp
    rw [iconvTurn, turn]
    split_ifs
    · trivial
    cases hdecode : decode beyond s.type s.state s.inp with
    | ilseq | starved => trivial
    | shift l type state =>
      rw [hdecode] at htakes
      exact hP hs htakes
    | pair l k =>
      dsimp only
      split_ifs
      · trivial
      · exact hs
    | char l c =>
      dsimp only
      split
      · trivial
      · exact hs
      · exact hs

theorem Passes.type_eq (h : Passes beyond totype s t) (hs : s.type.stateful = false) :
    t.type = s.type := by
  refine h.type_rule (P := (· = s.type)) (fun htype hshifts => ?_) rfl
  rw [htype] at hshifts
  exact absurd hshifts.stateful (by simp [hs])

theorem iconv_accounts_accent :
    Accounts (fun _ => 0) ⟨.UTF_16LE, .UTF_8, 0⟩ [0xc3, 0xa9] (fun _ => 0) 0x2000 16 := by
  have hopen : iconv_open (octetsOf "utf-16le") (octetsOf "UTF-8") true =
      some ⟨.UTF_16LE, .UTF_8, 0⟩ := by decide +kernel
  refine (iconv_accounts_iff _ hopen 0 _ _ (by decide)).2 fun t ht => ?_
  rw [ht.type_eq rfl]
  exact id

theorem toUtf8_stray (h : ¬ Utf8.Scalar c.toNat) (hroom : 4 ≤ outb) :
    toUtf8 c outb = .wrote [] SIZE_MAX 0 := by
  rw [Utf8.Scalar] at h
  have hnone : wcrtomb true c = none := by
    rw [wcrtomb, if_neg (by bv_omega), if_neg (by decide), if_neg (by bv_omega),
      if_neg (by bv_omega),
      if_neg (by bv_omega)]
  rw [toUtf8, hnone]
  exact if_neg (by omega)

/-- The two bytes `0xc8 0x41` of `EUC_KR` give the surrogate `0xd83a`. The output pointer goes back
by one and the room grows by one. -/
theorem iconv_moves_back :
    iconv_open (octetsOf "utf8") (octetsOf "euckr") true = some ⟨.UTF_8, .EUC_KR, 0⟩ ∧
      iconv (fun _ => 0) ⟨.UTF_8, .EUC_KR, 0⟩ [0xc8, 0x41] (fun _ => 0) 0x2000 16 =
        some ⟨0, none, ⟨.EUC_KR, 0, [], fun _ => 0, 0x1fff, 17, 0⟩⟩ := by
  refine ⟨by decide +kernel, ?_⟩
  have hstrays : Strays (fun _ => 0) .EUC_KR [0xc8, 0x41] := by
    rw [Strays]
    decide
  obtain ⟨c, hdecode, hstray⟩ := strays_eucKr hstrays
  let s := enter ⟨.UTF_8, .EUC_KR, 0⟩ [0xc8, 0x41] (fun _ => 0) 0x2000 16
  have hturn : iconvTurn (fun _ => 0) .UTF_8 s = .again (s.stored 2 [] SIZE_MAX 0) := by
    have hchar : decode (fun _ => 0) s.type s.state s.inp = .char 2 c := hdecode
    have hencode : encode (fun _ => 0) .UTF_8 c s.outb = .wrote [] SIZE_MAX 0 :=
      toUtf8_stray hstray (by decide)
    rw [iconvTurn, turn, if_neg (by decide), hchar]
    dsimp only
    rw [hencode]
  rw [iconv]
  change (loop (iconvTurn (fun _ => 0) .UTF_8) (5 + 1) s).result = _
  have hend : iconvTurn (fun _ => 0) .UTF_8 (s.stored 2 [] SIZE_MAX 0) =
      .ret ⟨0, none, s.stored 2 [] SIZE_MAX 0⟩ := by
    rw [iconvTurn, turn, if_pos (show (s.stored 2 [] SIZE_MAX 0).inp = [] from rfl)]
    rfl
  have hout : (0x2000 + SIZE_MAX) % 2 ^ 64 = 0x1fff := by decide
  have houtb : (16 + 2 ^ 64 - SIZE_MAX) % 2 ^ 64 = 17 := by decide
  rw [loop_again hturn, loop_ret hend, ← hout, ← houtb]
  rfl

end Iconv
