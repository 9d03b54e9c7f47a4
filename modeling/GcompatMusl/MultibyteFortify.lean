import GcompatMusl.MultibyteCount

/-! # Fortified multibyte conversions

`__mbstowcs_chk`, `__mbsrtowcs_chk` and `__wcsrtombs_chk` of `libgcompat/custom.c`. They
convert with the capacity of the destination as the limit and compare the result with the
requested length afterwards. A null pointer is `none`. -/
namespace MultibyteFortify

open LimitedConversion MuslString Multibyte List

def abortAbove {ρ : Type} (ret : ρ → ℕ) (len : ℕ) (r : ρ) : Except String ρ :=
  if ret r > len then .error "abort" else .ok r

def mbsrtowcsChk (utf8 : Bool) (mem : ByteMem) (dst src : Option ℕ) (len : ℕ)
    (ps : Option Wide) (dstlen : ℕ) : Except String MbResult :=
  match dst, src with
  | some _, some s => abortAbove MbResult.ret len (mbsrtowcs utf8 mem s dstlen ps)
  | _, _ => .ok ⟨SIZE_MAX, [], src, ps, none⟩

def mbstowcsChk (utf8 : Bool) (mem : ByteMem) (dst src : Option ℕ) (len dstlen : ℕ) :
    Except String (ℕ × List Wide) :=
  match dst, src with
  | some _, some s => abortAbove Prod.fst len (mbstowcs utf8 mem s dstlen)
  | _, _ => .ok (SIZE_MAX, [])

def wcsrtombsChk (utf8 : Bool) (mem : ℕ → Wide) (dst src : Option ℕ) (len dstlen : ℕ) :
    Except String WcResult :=
  match dst, src with
  | some _, some ws => abortAbove WcResult.ret len (wcsrtombs utf8 mem ws dstlen)
  | _, _ => .ok ⟨SIZE_MAX, [], src, none⟩

variable {c : Wide}

theorem abortAbove_eq_ok {ρ : Type} {ret : ρ → ℕ} {r r' : ρ} :
    abortAbove ret len r = .ok r' ↔ ret r ≤ len ∧ r = r' := by
  unfold abortAbove
  split
  · simp
    omega
  · simp
    omega

/-- The source ends before `len` characters, or the capacity is `len` and the first `len`
characters are well formed, or `len` cannot be exceeded. -/
def MbLegal (utf8 : Bool) (mem : ByteMem) (s : ℕ) (ps : Option Wide) (len dstlen : ℕ) : Prop :=
  let c := ps.getD 0
  (∃ us, Ends (reader utf8 c mem) ⟨c, s⟩ us ∧ us.length < len) ∨ len = SIZE_MAX ∨
    (len = dstlen ∧ ∃ us t, Chain (reader utf8 c mem) ⟨c, s⟩ us t ∧ us.length = limitOf c len)

theorem full_length (h : (convert (reader utf8 c mem) n src).stop = .full t) :
    (convert (reader utf8 c mem) n src).written.length = n := by
  have hex := convert_explained (reader utf8 c mem) n src
  have hleft := convert_left (reader utf8 c mem) n src
  rw [h] at hex
  rcases hex.2 with hlen | ⟨out, u, hemit, hlt⟩
  · exact hlen
  · have := reader_emit hemit
    omega

theorem pending_not_finish (hc : c ≠ 0) (s : ℕ) : reader utf8 c mem ⟨c, s⟩ ≠ .finish := by
  have hnext : reader utf8 c mem ⟨c, s⟩ = resume mem c s := by
    simp only [reader, if_pos (Or.inl hc : c ≠ 0 ∨ utf8 = true), nextChar, if_pos hc]
  rw [hnext]
  rcases resume_cases mem hc s with h | ⟨w, a, h⟩ <;> rw [h] <;> simp

theorem ends_pending (hc : c ≠ 0) (h : Ends (reader utf8 c mem) ⟨c, s⟩ us) : 0 < us.length := by
  obtain ⟨t, hchain, ht⟩ := h
  cases hchain with
  | nil => exact absurd ht (pending_not_finish hc s)
  | @cons _ out _ vs _ hs hrest =>
    have := length_pos_iff.mpr out.property
    rw [length_append]
    omega

theorem mbFinish_finished (hlimit : limit = n ∨ n = 0 ∧ limit = 2 ^ 64) (hn : n ≤ SIZE_MAX)
    (hlt : us.length < limit) :
    mbFinish n st ⟨us, limit - us.length, .finished⟩ = ⟨us.length, us ++ [0], none, st, none⟩ := by
  have hret : (n + 2 ^ 64 - (limit - us.length)) % 2 ^ 64 = us.length := by
    unfold SIZE_MAX at hn
    omega
  simp only [mbFinish, hret]

theorem limitOf_cases (c : Wide) (n : ℕ) :
    limitOf c n = n ∨ n = 0 ∧ limitOf c n = 2 ^ 64 ∧ c ≠ 0 := by
  by_cases h : c ≠ 0 ∧ n = 0
  · exact .inr ⟨h.2, if_pos h, h.1⟩
  · exact .inl (if_neg h)

theorem mbsrtowcs_cases (utf8 : Bool) (mem : ByteMem) (s : ℕ) (ps : Option Wide)
    (hn : n ≤ SIZE_MAX) :
    let r := mbsrtowcs utf8 mem s n ps
    let c := ps.getD 0
    (∃ t, r = ⟨n, r.written, some t, stateAfter ps, none⟩ ∧
      r.written.length = limitOf c n ∧
      ∃ u, Chain (reader utf8 c mem) ⟨c, s⟩ r.written u) ∨
    (∃ us, r = ⟨us.length, us ++ [0], none, stateAfter ps, none⟩ ∧
      us.length < limitOf c n ∧ Ends (reader utf8 c mem) ⟨c, s⟩ us) ∨
    r.ret = SIZE_MAX := by
  intro r c
  have hr : r = _ := mbsrtowcs_eq utf8 mem s hn ps
  have hex := convert_explained (reader utf8 c mem) (limitOf c n) ⟨c, s⟩
  cases hstop : (convert (reader utf8 c mem) (limitOf c n) ⟨c, s⟩).stop with
  | full t =>
    have hlen := full_length hstop
    rw [hstop] at hex
    have hfin : r = ⟨n, (convert (reader utf8 c mem) (limitOf c n) ⟨c, s⟩).written,
        some t.addr, stateAfter ps, none⟩ := by
      rw [hr, mbFinish, hstop]
    exact .inl ⟨t.addr, by rw [hfin], by rw [hfin]; exact hlen, t, by rw [hfin]; exact hex.1⟩
  | finished =>
    rw [hstop] at hex
    obtain ⟨hlt, hends⟩ := hex
    generalize (convert (reader utf8 c mem) (limitOf c n) ⟨c, s⟩).written = us at hlt hends
    refine .inr (.inl ⟨us, ?_, hlt, hends⟩)
    rw [hr, convert_ends hends hlt]
    refine mbFinish_finished ?_ hn hlt
    rcases limitOf_cases c n with h | h
    · exact .inl h
    · exact .inr ⟨h.1, h.2.1⟩
  | malformed t =>
    refine .inr (.inr ?_)
    rw [hr, mbFinish, hstop]

theorem mbLegal_of_same (hle : len ≤ dstlen) (hmax : dstlen ≤ SIZE_MAX)
    (hret : (mbsrtowcs utf8 mem s dstlen ps).ret ≤ len)
    (hsame : (mbsrtowcs utf8 mem s dstlen ps).ret = (mbsrtowcs utf8 mem s len ps).ret)
    (hwritten : (mbsrtowcs utf8 mem s dstlen ps).written = (mbsrtowcs utf8 mem s len ps).written) :
    MbLegal utf8 mem s ps len dstlen := by
  have hlen := hle.trans hmax
  rcases mbsrtowcs_cases utf8 mem s ps hmax with
    ⟨t, hr, hfull, u, hchain⟩ | ⟨us, hr, hlt, hends⟩ | hbad
  · -- A full destination means that `dstlen` characters were stored and allowed.
    rw [hr] at hret
    obtain rfl : dstlen = len := by
      dsimp only at hret
      omega
    exact .inr (.inr ⟨rfl, _, u, hchain, hfull⟩)
  · rw [hr] at hret hsame hwritten
    dsimp only at hret hsame
    rcases mbsrtowcs_cases utf8 mem s ps hlen with
      ⟨t, hl, hfull, -⟩ | ⟨vs, hl, hlt', hends'⟩ | hbad
    · rw [← hwritten, length_append, length_singleton] at hfull
      rw [hl] at hsame
      dsimp only at hsame
      rcases limitOf_cases (ps.getD 0) len with h | h <;> omega
    · rw [hl] at hwritten
      obtain rfl : us = vs := by simpa using hwritten
      rcases limitOf_cases (ps.getD 0) len with h | ⟨h0, -, hc⟩
      · exact .inl ⟨us, hends', by omega⟩
      · have := ends_pending hc hends
        omega
    · exact .inr (.inl (by omega))
  · exact .inr (.inl (by omega))

theorem mbsrtowcs_ret_le (utf8 : Bool) (mem : ByteMem) (s : ℕ) (ps : Option Wide)
    (hn : n ≤ SIZE_MAX) : (mbsrtowcs utf8 mem s n ps).ret ≤ SIZE_MAX := by
  rw [mbsrtowcs_eq utf8 mem s hn ps]
  unfold mbFinish
  split
  · exact hn
  · exact Nat.le_pred_of_lt (Nat.mod_lt _ (by decide))
  · exact le_rfl

theorem same_of_mbLegal (hle : len ≤ dstlen) (hmax : dstlen ≤ SIZE_MAX)
    (h : MbLegal utf8 mem s ps len dstlen) :
    (mbsrtowcs utf8 mem s dstlen ps).ret ≤ len ∧
      mbsrtowcs utf8 mem s dstlen ps = mbsrtowcs utf8 mem s len ps := by
  have hlen := hle.trans hmax
  rcases h with ⟨us, hends, hlt⟩ | hbig | ⟨rfl, us, t, hchain, hfull⟩
  · have hl : limitOf (ps.getD 0) len = len := limitOf_of_ne _ (by omega)
    have hd : limitOf (ps.getD 0) dstlen = dstlen := limitOf_of_ne _ (by omega)
    rw [mbsrtowcs_eq utf8 mem s hmax, mbsrtowcs_eq utf8 mem s hlen, hl, hd,
      convert_ends hends hlt, convert_ends hends (hlt.trans_le hle),
      mbFinish_finished (.inl rfl) hmax (hlt.trans_le hle),
      mbFinish_finished (.inl rfl) hlen hlt]
    exact ⟨hlt.le, rfl⟩
  · obtain rfl : dstlen = len := by omega
    have := mbsrtowcs_ret_le utf8 mem s ps hlen
    exact ⟨by omega, rfl⟩
  · refine ⟨?_, rfl⟩
    rw [mbsrtowcs_eq utf8 mem s hmax, convert_full hchain (.inl hfull) hfull.le le_rfl]
    exact le_rfl

theorem mbsrtowcsChk_iff (dst s : ℕ) (ps : Option Wide) (hle : len ≤ dstlen)
    (hmax : dstlen ≤ SIZE_MAX) :
    mbsrtowcsChk utf8 mem (some dst) (some s) len ps dstlen =
      .ok (mbsrtowcs utf8 mem s len ps) ↔ MbLegal utf8 mem s ps len dstlen := by
  rw [mbsrtowcsChk, abortAbove_eq_ok]
  constructor
  · rintro ⟨hret, hsame⟩
    exact mbLegal_of_same hle hmax hret (congrArg _ hsame) (congrArg _ hsame)
  · exact same_of_mbLegal hle hmax

theorem mbstowcsChk_iff (dst s : ℕ) (hle : len ≤ dstlen) (hmax : dstlen ≤ SIZE_MAX) :
    mbstowcsChk utf8 mem (some dst) (some s) len dstlen = .ok (mbstowcs utf8 mem s len) ↔
      MbLegal utf8 mem s none len dstlen := by
  rw [mbstowcsChk, abortAbove_eq_ok]
  constructor
  · rintro ⟨hret, hsame⟩
    obtain ⟨h1, h2⟩ := Prod.mk.inj hsame
    exact mbLegal_of_same hle hmax hret h1 h2
  · intro h
    obtain ⟨hret, hsame⟩ := same_of_mbLegal hle hmax h
    exact ⟨hret, by simp only [mbstowcs, hsame]⟩

/-- The source ends before `len` bytes, or the characters that fit `len` leave no room for another
in `dstlen`, or `len` cannot be exceeded. -/
def WcLegal (utf8 : Bool) (wmem : ℕ → Wide) (ws len dstlen : ℕ) : Prop :=
  (∃ us, Ends (nextWide utf8 wmem) ws us ∧ us.length < len) ∨ len = SIZE_MAX ∨
    ∃ us t, Chain (nextWide utf8 wmem) ws us t ∧ us.length ≤ len ∧
      Fills (nextWide utf8 wmem) dstlen us t

theorem wcsrtombs_cases (utf8 : Bool) (wmem : ℕ → Wide) (ws n : ℕ) :
    let r := wcsrtombs utf8 wmem ws n
    (∃ us t, r = ⟨us.length, us, some t, none⟩ ∧ us.length ≤ n ∧
      Chain (nextWide utf8 wmem) ws us t ∧ Fills (nextWide utf8 wmem) n us t) ∨
    (∃ us, r = ⟨us.length, us ++ [0], none, none⟩ ∧ us.length < n ∧
      Ends (nextWide utf8 wmem) ws us) ∨
    (r.ret = SIZE_MAX ∧ r.errno = some EILSEQ) := by
  intro r
  have hr : r = wcsrtombs utf8 wmem ws n := rfl
  unfold wcsrtombs at hr
  rw [wcsLoop_eq] at hr
  have hleft := convert_left (nextWide utf8 wmem) n ws
  have hex := convert_explained (nextWide utf8 wmem) n ws
  have hlen : n - (convert (nextWide utf8 wmem) n ws).left =
      (convert (nextWide utf8 wmem) n ws).written.length := by omega
  dsimp only at hr
  rw [hlen] at hr
  cases hstop : (convert (nextWide utf8 wmem) n ws).stop with
  | full t =>
    rw [hstop] at hr hex
    exact .inl ⟨_, t, hr, by omega, hex⟩
  | finished =>
    rw [hstop] at hr hex
    exact .inr (.inl ⟨_, hr, hex⟩)
  | malformed t =>
    rw [hstop] at hr
    exact .inr (.inr (by rw [hr]; exact ⟨rfl, rfl⟩))

theorem wcsrtombs_full
    (h : Chain (nextWide utf8 wmem) ws us t) (hfill : Fills (nextWide utf8 wmem) dst us t)
    (hn : us.length ≤ n) (hle : n ≤ dst) :
    wcsrtombs utf8 wmem ws n = ⟨us.length, us, some t, none⟩ := by
  rw [wcsrtombs, wcsLoop_eq, convert_full h hfill hn hle]
  rw [Nat.sub_sub_self hn]

theorem wcsrtombs_ends
    (h : Ends (nextWide utf8 wmem) ws us) (hn : us.length < n) :
    wcsrtombs utf8 wmem ws n = ⟨us.length, us ++ [0], none, none⟩ := by
  rw [wcsrtombs, wcsLoop_eq, convert_ends h hn]
  rw [Nat.sub_sub_self hn.le]

theorem wcsrtombsChk_iff (wmem : ℕ → Wide) (dst ws : ℕ) (hle : len ≤ dstlen)
    (hmax : dstlen ≤ SIZE_MAX) :
    wcsrtombsChk utf8 wmem (some dst) (some ws) len dstlen = .ok (wcsrtombs utf8 wmem ws len) ↔
      WcLegal utf8 wmem ws len dstlen := by
  rw [wcsrtombsChk, abortAbove_eq_ok]
  constructor
  · rintro ⟨hret, hsame⟩
    rcases wcsrtombs_cases utf8 wmem ws dstlen with
      ⟨us, t, hr, -, hchain, hfill⟩ | ⟨us, hr, -, hends⟩ | ⟨hbad, -⟩
    · rw [hr] at hret
      exact .inr (.inr ⟨us, t, hchain, hret, hfill⟩)
    · rw [hr] at hsame
      rcases wcsrtombs_cases utf8 wmem ws len with
        ⟨vs, t, hl, -⟩ | ⟨vs, hl, hlt, hends'⟩ | ⟨-, herr⟩
      · rw [hl] at hsame
        simp at hsame
      · exact .inl ⟨vs, hends', hlt⟩
      · rw [← hsame] at herr
        simp at herr
    · exact .inr (.inl (by omega))
  · rintro (⟨us, hends, hlt⟩ | hbig | ⟨us, t, hchain, hlen, hfill⟩)
    · rw [wcsrtombs_ends hends hlt, wcsrtombs_ends hends (hlt.trans_le hle)]
      exact ⟨hlt.le, rfl⟩
    · obtain rfl : dstlen = len := by omega
      refine ⟨?_, rfl⟩
      rcases wcsrtombs_cases utf8 wmem ws dstlen with
        ⟨us, t, hr, hlen, -⟩ | ⟨us, hr, hlt, -⟩ | ⟨hbad, -⟩
      · rw [hr]
        exact hlen
      · rw [hr]
        exact hlt.le
      · omega
    · rw [wcsrtombs_full hchain hfill hlen hle, wcsrtombs_full hchain hfill (hlen.trans hle) le_rfl]
      exact ⟨hlen, rfl⟩

def NeverCounted {ω σ : Type} (next : σ → Next ω σ) (s : σ) : Prop :=
  ∀ us, Ends next s us → us.length % 2 ^ 64 = SIZE_MAX

theorem mbNull_iff (s : ℕ) (ps : Option Wide) (hlen : len ≤ SIZE_MAX) :
    (∀ r, CountsMb utf8 mem s len ps r → r.ret = SIZE_MAX) ↔
      NeverCounted (reader utf8 (ps.getD 0) mem) ⟨ps.getD 0, s⟩ := by
  constructor
  · intro h us hends
    exact h _ (countsMb_of_ends hlen hends)
  · intro h r hr
    rcases countsMb_sound hlen hr with rfl | ⟨us, hends, rfl⟩
    · rfl
    · exact h us hends

theorem wcNull_iff (wmem : ℕ → Wide) (ws : ℕ) : (∀ r, CountsWc utf8 wmem ws r → r.ret = SIZE_MAX) ↔
      NeverCounted (nextWide utf8 wmem) ws := by
  constructor
  · intro h us hends
    exact h _ (countsWc_of_ends hends)
  · intro h r hr
    rcases countsWc_sound hr with rfl | ⟨us, hends, rfl⟩
    · rfl
    · exact h us hends

/-- With a null destination the wrapper returns the error value and touches nothing; it
agrees with a counting call when both look the same from outside. -/
def NullAgrees {ρ τ : Type} (chk : Except String ρ) (seen : ρ → τ) (counts : Count → Prop)
    (expected : ℕ → τ) : Prop := ∀ r, counts r → chk.map seen = .ok (expected r.ret)

theorem multibyte_checks_transparent_iff (utf8 : Bool) (mem : ByteMem) (wmem : ℕ → Wide)
    (dst s ws : ℕ) (ps : Option Wide) (len dstlen : ℕ) (hle : len ≤ dstlen)
    (hmax : dstlen ≤ SIZE_MAX) :
    ((mbstowcsChk utf8 mem (some dst) (some s) len dstlen = .ok (mbstowcs utf8 mem s len) ↔
        MbLegal utf8 mem s none len dstlen) ∧
      (mbsrtowcsChk utf8 mem (some dst) (some s) len ps dstlen =
          .ok (mbsrtowcs utf8 mem s len ps) ↔ MbLegal utf8 mem s ps len dstlen) ∧
      (wcsrtombsChk utf8 wmem (some dst) (some ws) len dstlen =
          .ok (wcsrtombs utf8 wmem ws len) ↔ WcLegal utf8 wmem ws len dstlen)) ∧
    ((NullAgrees (mbstowcsChk utf8 mem none (some s) len dstlen) id
          (CountsMb utf8 mem s len none) (fun r => (r, [])) ↔
        NeverCounted (reader utf8 0 mem) ⟨0, s⟩) ∧
      (NullAgrees (mbsrtowcsChk utf8 mem none (some s) len ps dstlen)
          (fun x => (x.ret, x.written, x.src, x.st)) (CountsMb utf8 mem s len ps)
          (fun r => (r, [], some s, ps)) ↔
        NeverCounted (reader utf8 (ps.getD 0) mem) ⟨ps.getD 0, s⟩) ∧
      (NullAgrees (wcsrtombsChk utf8 wmem none (some ws) len dstlen)
          (fun x => (x.ret, x.written, x.ws)) (CountsWc utf8 wmem ws)
          (fun r => (r, [], some ws)) ↔
        NeverCounted (nextWide utf8 wmem) ws)) := by
  have hlen := hle.trans hmax
  refine ⟨⟨mbstowcsChk_iff dst s hle hmax, mbsrtowcsChk_iff dst s ps hle hmax,
    wcsrtombsChk_iff wmem dst ws hle hmax⟩, ?_, ?_, ?_⟩
  · refine Iff.trans ?_ (mbNull_iff s none hlen)
    simp [NullAgrees, mbstowcsChk, eq_comm]
  · refine Iff.trans ?_ (mbNull_iff s ps hlen)
    simp [NullAgrees, mbsrtowcsChk, Except.map, eq_comm]
  · refine Iff.trans ?_ (wcNull_iff wmem ws)
    simp [NullAgrees, wcsrtombsChk, Except.map, eq_comm]

def ab : ByteMem := fun a => if a = 17 then 97 else if a = 18 then 98 else 0

theorem ab_ends : Ends (nextChar ab) ⟨0, 17⟩ [97, 98] :=
  ⟨⟨0, 19⟩, .cons (nextChar_ascii rfl) (.cons (nextChar_ascii rfl) (.nil _)), rfl⟩

theorem multibyte_checks_transparent_iff_ab :
    mbstowcsChk true ab (some 32) (some 17) 3 4 = .ok (mbstowcs true ab 17 3) ∧
      mbsrtowcsChk true ab (some 32) (some 17) 3 none 4 = .ok (mbsrtowcs true ab 17 3 none) ∧
      wcsrtombsChk true (fun a => widen (ab a)) (some 32) (some 17) 3 4 =
        .ok (wcsrtombs true (fun a => widen (ab a)) 17 3) := by
  have h := (multibyte_checks_transparent_iff true ab (fun a => widen (ab a)) 32 17 17 none 3 4
    (by decide) (by decide)).1
  have h17 : nextWide true (fun a => widen (ab a)) 17 = .emit (bytes 97 []) 18 := rfl
  have h18 : nextWide true (fun a => widen (ab a)) 18 = .emit (bytes 98 []) 19 := rfl
  have hwide : Ends (nextWide true fun a => widen (ab a)) 17 [97, 98] :=
    ⟨19, .cons h17 (.cons h18 (.nil _)), rfl⟩
  have hlegal : MbLegal true ab 17 none 3 4 := .inl ⟨_, ab_ends, by decide⟩
  exact ⟨h.1.mpr hlegal, h.2.1.mpr hlegal, h.2.2.mpr (.inl ⟨_, hwide, by decide⟩)⟩

def bad : ByteMem := fun a => if a = 17 then 0xff else 0

/-- `ab` cut at one character aborts in a destination of four, and so does a malformed
source whatever its length. -/
theorem mbstowcsChk_cut_and_malformed_abort :
    mbstowcs true ab 17 1 = (1, [97]) ∧
    mbstowcsChk true ab (some 32) (some 17) 1 4 = .error "abort" ∧
    mbstowcs true bad 17 4 = (SIZE_MAX, []) ∧
    mbstowcsChk true bad (some 32) (some 17) 4 4 = .error "abort" := by
  have h17 : nextChar ab ⟨0, 17⟩ = .emit (unit 97) ⟨0, 18⟩ := nextChar_ascii rfl
  have hone : Chain (nextChar ab) ⟨0, 17⟩ [97] ⟨0, 18⟩ := .cons h17 (.nil _)
  have hbad : nextChar bad ⟨0, 17⟩ = .malformed ⟨0, 17⟩ := rfl
  have hread : ∀ m : ByteMem, ∀ n, mbsrtowcs true m 17 n none =
      mbFinish n none (convert (nextChar m) n ⟨0, 17⟩) := by
    intro m n
    rw [← mbLoop_eq]
    rfl
  refine ⟨?_, ?_, ?_, ?_⟩
  · have hfull := convert_full (n := 1) hone (.inl rfl) le_rfl le_rfl
    rw [mbstowcs, hread, hfull]
    rfl
  · rw [mbstowcsChk, mbstowcs, hread, convert_ends ab_ends (by decide)]
    rfl
  · rw [mbstowcs, hread, convert_malformed (by decide) hbad]
    rfl
  · rw [mbstowcsChk, mbstowcs, hread, convert_malformed (by decide) hbad]
    rfl

/-- At most `n` wide characters are stored, and the result counts them without the terminator. -/
def Respects (n : ℕ) (r : MbResult) : Prop :=
  r.written.length ≤ n ∧
    (r.ret ≠ SIZE_MAX → r.ret = r.written.length - if r.src = none then 1 else 0)

theorem mbFinish_respects (hex : Explains turn n s o o.stop) (hleft : o.written.length + o.left = n)
    (hfull : ∀ t, o.stop = .full t → o.written.length = n) (hn : n ≤ SIZE_MAX) :
    Respects n (mbFinish n st o) := by
  cases hstop : o.stop with
  | full t => simp [Respects, mbFinish, hstop, hfull t hstop]
  | finished =>
    rw [hstop] at hex
    have hlt := hex.1
    unfold SIZE_MAX at hn
    simp only [Respects, mbFinish, hstop, length_append, length_singleton, if_true]
    exact ⟨hlt, fun _ => by omega⟩
  | malformed t => exact ⟨by simp only [mbFinish, hstop]; omega, by simp [mbFinish, hstop]⟩

/-- The character begun in an earlier call is stored before the limit is looked at. -/
theorem pending_exceeds (hc : c ≠ 0) (h : resume mem c s = .emit out t) :
    ¬ Respects 0 (mbsrtowcs utf8 mem s 0 (some c)) := by
  have hpos := length_pos_iff.mpr out.property
  simp only [mbsrtowcs, Option.getD_some, if_pos hc, h, mbFinish, Out.prepend]
  rintro ⟨hle, -⟩
  split at hle <;> simp only [length_append] at hle <;> omega

theorem mbsrtowcs_respects_iff (utf8 : Bool) (mem : ByteMem) (s : ℕ) (ps : Option Wide)
    (hn : n ≤ SIZE_MAX) : Respects n (mbsrtowcs utf8 mem s n ps) ↔
      ¬ (n = 0 ∧ ps.getD 0 ≠ 0 ∧ ∃ out t, resume mem (ps.getD 0) s = .emit out t) := by
  constructor
  · rintro h ⟨rfl, hc, out, t, hemit⟩
    cases ps with
    | none => exact hc rfl
    | some c => exact pending_exceeds hc hemit h
  · intro h
    rcases limitOf_cases (ps.getD 0) n with hlimit | ⟨rfl, -, hc⟩
    · rw [mbsrtowcs_eq utf8 mem s hn, hlimit]
      exact mbFinish_respects (convert_explained ..) (convert_left ..) (fun t => full_length) hn
    · rcases resume_cases mem hc s with hbad | hemit
      · rw [mbsrtowcs, if_pos hc, hbad]
        exact ⟨le_rfl, fun hret => absurd rfl hret⟩
      · obtain ⟨w, a, hemit⟩ := hemit
        exact absurd ⟨rfl, hc, _, _, hemit⟩ h

/-- The second byte of `é` with `ab` behind it, after `mbrtowc` has read the first one -/
theorem mbsrtowcs_respects_pending :
    Respects 2 (mbsrtowcs true (fun a => if a = 16 then 0xa9 else ab a) 16 2 (some (bittab 1))) :=
  (mbsrtowcs_respects_iff _ _ _ _ (by decide)).mpr fun h => absurd h.1 (by decide)

/-- `mbrtowc` has read the first byte of `é`, and the second is converted with the limit 0. -/
theorem pending_stored_at_limit_zero :
    ¬ Respects 0 (mbsrtowcs true (fun _ => 0xa9) 0 0 (some (bittab 1))) :=
  pending_exceeds (by decide) rfl

end MultibyteFortify
