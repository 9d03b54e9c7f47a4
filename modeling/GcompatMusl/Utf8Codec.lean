import GcompatMusl.Utf8Decoding

/-! # The codec of the UTF-8 locale

`mbrtowc` in any number of calls and `mbsrtowcs` with or without a destination decode the same
strings to the same characters, and `wcrtomb` encodes them. -/
namespace Multibyte

open LimitedConversion MuslString Utf8 List
open BitVec (toNat ofNat toNat_ofNat lt_def)

def window (mem : ByteMem) (a k : ℕ) : List ℕ := (List.range k).map fun i => (mem (a + i)).toNat

variable {mem : ByteMem}

section

variable (mem : ByteMem)

theorem window_succ (a k : ℕ) : window mem a (k + 1) = (mem a).toNat :: window mem (a + 1) k := by
  simp [window, range_succ_eq_map, Nat.add_assoc, Nat.add_comm 1]

theorem window_add (a j k : ℕ) : window mem a (j + k) = window mem a j ++ window mem (a + j) k := by
  simp [window, range_add, Nat.add_assoc]

@[simp] theorem length_window (a k : ℕ) : (window mem a k).length = k := by
  simp [window]

theorem window_overlap (a j k : ℕ) :
    ∃ more rest, window mem a j ++ more = window mem a k ++ rest := by
  refine ⟨window mem (a + j) k, window mem (a + k) j, ?_⟩
  rw [← window_add, ← window_add, Nat.add_comm]

/-- What a decoder makes of the bytes at `a`: a character that takes `k` of them, or the first `k`
of them are wrong. -/
def Decodes (o : Option Pending) (a back : ℕ) (x : Next Wide Source) : Prop :=
  (∃ k w, Leads o (window mem a k) (toNat w) ∧ x = .emit (unit w) ⟨0, a + k⟩) ∨
    ∃ k, run o (window mem a k) = ([], none) ∧ x = .malformed ⟨0, back⟩

end

theorem Decodes.more (hread : read o (mem a).toNat = .more q)
    (h : Decodes mem (some q) (a + 1) back x) : Decodes mem o a back x := by
  rcases h with ⟨k, w, hleads, rfl⟩ | ⟨k, hrun, rfl⟩
  · refine .inl ⟨k + 1, w, ?_, by rw [Nat.add_assoc, Nat.add_comm 1]⟩
    rw [window_succ, leads_cons]
    exact .inr ⟨q, hread, hleads⟩
  · refine .inr ⟨k + 1, ?_, rfl⟩
    rw [window_succ, run_more hread, hrun]

theorem Decodes.done (hread : read o (mem a).toNat = .done w.toNat) :
    Decodes mem o a back (.emit (unit w) ⟨0, a + 1⟩) := by
  refine .inl ⟨1, w, ?_, rfl⟩
  rw [window_succ, leads_cons]
  exact .inl ⟨_, hread, rfl, rfl⟩

theorem Decodes.bad (hread : read o (mem a).toNat = .bad) :
    Decodes mem o a back (.malformed ⟨0, back⟩) := by
  refine .inr ⟨1, ?_, rfl⟩
  rw [window_succ, run_bad hread]

theorem Word.continuation_iff (h : Word c q) (hlo : q.lo = 0x80) (hhi : q.hi = 0xc0) (b : UInt8) :
    continuation b = !oob c b := by
  have hoob := h.oob_iff b
  rw [hlo, hhi, ← Multibyte.continuation_iff] at hoob
  cases hc : continuation b <;> cases ho : oob c b <;> simp [hc, ho] at hoob ⊢

/-- One byte behind the first: `x` is what comes of the rest if there are more. -/
theorem Word.decodes (h : Word c p) (s back : ℕ) (x : Next Wide Source)
    (hmore : ∀ q, next p (mem s).toNat = .more q → Word (push c (mem s)) q → q.lo = 0x80 →
      q.hi = 0xc0 → Decodes mem (some q) (s + 1) back x) :
    Decodes mem (some p) s back (if oob c (mem s) then leave mem c back
      else if (push c (mem s)).getLsbD 31 then x
      else .emit (unit (push c (mem s))) ⟨0, s + 1⟩) := by
  have hconsumed := h.consumed (mem s)
  cases hnext : next p (mem s).toNat with
  | bad =>
    rw [hnext] at hconsumed
    have hoob : oob c (mem s) = true := hconsumed
    rw [if_pos hoob, leave_bad h.ne_zero]
    exact .bad hnext
  | done v =>
    rw [hnext] at hconsumed
    obtain ⟨hoob, hbit, rfl⟩ := hconsumed
    simp only [hoob, hbit, Bool.false_eq_true, if_false]
    exact .done hnext
  | more q =>
    rw [hnext] at hconsumed
    obtain ⟨hoob, hbit, hword, hlo, hhi⟩ := hconsumed
    simp only [hoob, hbit, Bool.false_eq_true, if_false, if_true]
    exact .more hnext (hmore q hnext hword hlo hhi)

theorem resume_decodes (h : Word c p) (s : ℕ) :
    Decodes mem (some p) s (s - 1) (resume mem c s) := by
  refine h.decodes s _ _ fun q hq hword hlo hhi => ?_
  rw [hword.continuation_iff hlo hhi, Bool.not_not]
  refine hword.decodes (s + 1) _ _ fun r hr hword' hlo' hhi' => ?_
  rw [hword'.continuation_iff hlo' hhi', Bool.not_not]
  have hlast : Decodes mem _ _ _ _ := hword'.decodes (s + 2) (s - 1)
    (.emit (unit (push (push (push c (mem s)) (mem (s + 1))) (mem (s + 2)))) ⟨0, s + 3⟩)
    fun t ht hword'' _ _ => by
      -- no character has five bytes
      have howed := h.owed
      have hq := next_owed hq
      have hr := next_owed hr
      have ht := next_owed ht
      have hpos := hword''.owed
      omega
  rwa [ite_self] at hlast

theorem nextChar_decodes (mem : ByteMem) (a : ℕ) : (mem a = 0 ∧ nextChar mem ⟨0, a⟩ = .finish) ∨
      mem a ≠ 0 ∧ Decodes mem none a a (nextChar mem ⟨0, a⟩) := by
  by_cases hzero : mem a = 0
  · refine .inl ⟨hzero, ?_⟩
    have hascii : ascii (0 : UInt8) = false := by decide
    have hlead : widen (0 : UInt8) - SA > SB - SA := by decide
    simp [nextChar, leave, hzero, hascii, hlead]
  · refine .inr ⟨hzero, ?_⟩
    by_cases hascii : ascii (mem a) = true
    · rw [nextChar_ascii hascii]
      refine .done ?_
      rw [widen_toNat]
      exact if_pos ((ascii_iff _).mp hascii).2
    · by_cases hlead : widen (mem a) - SA > SB - SA
      · have hbig : ¬ (mem a).toNat < 0x80 := by
          intro hlt
          refine hascii ((ascii_iff _).mpr ⟨?_, hlt⟩)
          by_contra hnot
          exact hzero (UInt8.toNat_inj.mp (by simp; omega))
        have hnext : nextChar mem ⟨0, a⟩ = .malformed ⟨0, a⟩ := by
          simp [nextChar, hascii, hlead, leave, hzero]
        rw [hnext]
        exact .bad (first_bad hbig hlead)
      · obtain ⟨p, hfirst, hword⟩ := first_lead hlead
        have hnext : nextChar mem ⟨0, a⟩ = resume mem (bittab ((mem a).toNat - 0xc2)) (a + 1) := by
          simp [nextChar, hascii, hlead]
        rw [hnext]
        exact Decodes.more hfirst (resume_decodes hword (a + 1))

theorem nextChar_encode (hv : Scalar v) (hne : v ≠ 0)
    (hmem : window mem a (encode v).length = encode v) :
    nextChar mem ⟨0, a⟩ = .emit (unit (ofNat 32 v)) ⟨0, a + (encode v).length⟩ := by
  rcases nextChar_decodes mem a with ⟨hzero, -⟩ | ⟨-, ⟨k, w, hleads, hnext⟩ | ⟨k, hrun, -⟩⟩
  · have hleads := leads_encode hv
    obtain ⟨n, hn⟩ : ∃ n, (encode v).length = n + 1 :=
      Nat.exists_eq_succ_of_ne_zero (length_pos_iff.mpr (encode_ne_nil v)).ne'
    rw [← hmem, hn, window_succ, hzero, leads_cons] at hleads
    rcases hleads with ⟨x, hx, -, rfl⟩ | ⟨p, hp, -⟩
    · cases hx
      exact absurd rfl hne
    · cases hp
  · obtain ⟨hw, hwindow⟩ := (leads_start _ _).mp hleads
    obtain ⟨more, rest, hoverlap⟩ := window_overlap mem a k (encode v).length
    rw [hmem, ← hwindow] at hoverlap
    obtain ⟨rfl, -⟩ := encode_append hw hv hoverlap
    have hk : (encode w.toNat).length = k := by rw [hwindow, length_window]
    rw [hnext, hk, BitVec.ofNat_toNat, BitVec.setWidth_eq]
  · obtain ⟨more, rest, hoverlap⟩ := window_overlap mem a k (encode v).length
    rw [hmem] at hoverlap
    exact absurd hoverlap (offends_of_run hrun v more rest hv)

theorem nextChar_offends (hne : mem a ≠ 0) (hoff : Offends (window mem a n)) :
    nextChar mem ⟨0, a⟩ = .malformed ⟨0, a⟩ := by
  rcases nextChar_decodes mem a with ⟨hzero, -⟩ | ⟨-, ⟨k, w, hleads, -⟩ | ⟨k, -, hnext⟩⟩
  · exact absurd hzero hne
  · obtain ⟨hw, hwindow⟩ := (leads_start _ _).mp hleads
    obtain ⟨more, rest, hoverlap⟩ := window_overlap mem a n k
    rw [← hwindow] at hoverlap
    exact absurd hoverlap (hoff _ more rest hw)
  · exact hnext

theorem chain_encode {vs : List ℕ} (hvs : ∀ v ∈ vs, Scalar v) (hne : 0 ∉ vs)
    (hmem : window mem a (vs.flatMap encode).length = vs.flatMap encode) :
    Chain (nextChar mem) ⟨0, a⟩ (vs.map (ofNat 32)) ⟨0, a + (vs.flatMap encode).length⟩ := by
  induction vs generalizing a with
  | nil => exact .nil _
  | cons v vs ih =>
    rw [flatMap_cons, length_append, window_add] at hmem
    obtain ⟨hfirst, hrest⟩ := append_inj hmem (by simp)
    rw [mem_cons, not_or] at hne
    have hnext := nextChar_encode (hvs v (by simp)) (fun h => hne.1 h.symm) hfirst
    rw [flatMap_cons, length_append, ← Nat.add_assoc]
    exact .cons hnext (ih (fun x hx => hvs x (mem_cons_of_mem _ hx)) hne.2 hrest)

structure Stored (mem : ByteMem) (a : ℕ) (l : List UInt8) : Prop where
  bytes : window mem a (l.length + 1) = octets l ++ [0]
  no_null : 0 ∉ l

/-- What `mbsrtowcs` finds in a string: the characters `vs`, and behind them the terminating null
character or a character that is not valid. -/
structure Found (l : List UInt8) (vs rest : List ℕ) : Prop where
  splits : Splits (octets l) vs rest
  ending : rest = [] ∨ Offends (rest ++ [0])

theorem not_mem_octets (h : 0 ∉ l) : 0 ∉ octets l := by
  intro hmem
  obtain ⟨b, hb, hzero⟩ := mem_map.mp hmem
  obtain rfl : b = 0 := UInt8.toNat_inj.mp hzero
  exact h hb

theorem Found.not_mem (h : Found l vs rest) (h0 : 0 ∉ l) : 0 ∉ vs := by
  intro hmem
  refine not_mem_octets h0 ?_
  rw [h.splits.2]
  exact mem_append_left _ (mem_flatMap.mpr ⟨0, hmem, by decide⟩)

theorem exists_found (l : List UInt8) : ∃ vs rest, Found l vs rest := by
  obtain ⟨rest, hsplits, hverdict⟩ := run_splits (l := octets l) stands_start
  refine ⟨_, rest, hsplits, ?_⟩
  cases hk : verdict (run none (octets l)).2 with
  | complete =>
    rw [hk] at hverdict
    exact .inl hverdict
  | unfinished =>
    rw [hk] at hverdict
    exact .inr (Unfinished.offends hverdict (by decide))
  | offends =>
    rw [hk] at hverdict
    refine .inr ?_
    intro v more rest' hv
    rw [append_assoc]
    exact hverdict v _ rest' hv

theorem stored_window (h : Stored mem a l) (hsplit : octets l ++ [0] = vs ++ rest)
    (hn : vs.length = n) (hk : rest.length = k) :
    window mem a n = vs ∧ window mem (a + n) k = rest := by
  have hbytes := h.bytes
  have hlen : l.length + 1 = n + k := by
    have := congrArg length hsplit
    simp only [octets, length_append, length_map, length_singleton] at this
    omega
  rw [hlen, window_add, hsplit] at hbytes
  exact append_inj hbytes (by rw [length_window, hn])

def ending (a : ℕ) (vs rest : List ℕ) : Next Wide Source :=
  if rest = [] then .finish else .malformed ⟨0, a + (vs.flatMap encode).length⟩

theorem chain_stored (us ws : List ℕ) (h : Stored mem a l) (hfound : Found l (us ++ ws) rest) :
    Chain (nextChar mem) ⟨0, a⟩ (us.map (ofNat 32)) ⟨0, a + (us.flatMap encode).length⟩ := by
  have hsplit : octets l ++ [0] = us.flatMap encode ++ (ws.flatMap encode ++ rest ++ [0]) := by
    rw [hfound.splits.2, flatMap_append]
    simp only [append_assoc]
  refine chain_encode ?_ ?_ (stored_window h hsplit rfl rfl).1
  · intro v hv
    exact hfound.splits.1 v (mem_append_left ws hv)
  · intro hzero
    exact hfound.not_mem h.no_null (mem_append_left ws hzero)

theorem ending_eq (h : Stored mem a l) (hfound : Found l vs rest) :
    nextChar mem ⟨0, a + (vs.flatMap encode).length⟩ = ending a vs rest := by
  have hsplit : octets l ++ [0] = vs.flatMap encode ++ (rest ++ [0]) := by
    rw [hfound.splits.2, append_assoc]
  have hwindow := (stored_window h hsplit rfl rfl).2
  rw [length_append, length_singleton, window_succ] at hwindow
  rw [ending]
  cases rest with
  | nil =>
    have hzero : mem (a + (vs.flatMap encode).length) = 0 := UInt8.toNat_inj.mp (cons.inj hwindow).1
    rcases nextChar_decodes mem (a + (vs.flatMap encode).length) with ⟨-, hnext⟩ | ⟨hne, -⟩
    · rw [hnext, if_pos rfl]
    · exact absurd hzero hne
  | cons b rest =>
    have hb : (mem (a + (vs.flatMap encode).length)).toNat = b := (cons.inj hwindow).1
    rw [if_neg (by simp)]
    refine nextChar_offends ?_ ?_ (n := (b :: rest).length + 1)
    · intro hzero
      rw [hzero] at hb
      refine not_mem_octets h.no_null ?_
      rw [hfound.splits.2, ← hb]
      simp
    · rw [window_succ, hwindow]
      exact hfound.ending.resolve_left (by simp)

theorem halts_stored (h : Stored mem a l) (hfound : Found l vs rest) :
    Halts (nextChar mem) ⟨0, a⟩ (vs.map (ofNat 32)) (ending a vs rest) := by
  refine ⟨?_, _, chain_stored vs [] h (by rwa [append_nil]), ending_eq h hfound⟩
  intro out u
  rw [ending]
  split_ifs <;> intro heq <;> cases heq

def storing (a wn : ℕ) (st : Option Wide) (vs rest : List ℕ) : MbResult :=
  if wn ≤ vs.length then
    ⟨wn, (vs.take wn).map (ofNat 32), some (a + ((vs.take wn).flatMap encode).length), st,
      none⟩
  else if rest = [] then ⟨vs.length, vs.map (ofNat 32) ++ [0], none, st, none⟩
  else
    ⟨SIZE_MAX, vs.map (ofNat 32), some (a + (vs.flatMap encode).length), st, some EILSEQ⟩

theorem mbsrtowcs_stored (h : Stored mem a l) (hfound : Found l vs rest) (hwn : wn ≤ SIZE_MAX)
    (hst : st.getD 0 = 0) : mbsrtowcs true mem a wn st = storing a wn st vs rest := by
  have hreader : reader true 0 mem = nextChar mem := if_pos (.inr rfl)
  rw [mbsrtowcs_eq true mem a hwn, stateAfter, hst, limitOf_zero_pending, hreader, if_neg (by simp),
    storing]
  by_cases hle : wn ≤ vs.length
  · have hchain := chain_stored (vs.take wn) (vs.drop wn) h (by rwa [take_append_drop])
    have hlen : ((vs.take wn).map (ofNat 32)).length = wn := by simp [hle]
    rw [if_pos hle, convert_full hchain (.inl hlen) hlen.le le_rfl]
    rfl
  · have hchain := chain_stored vs [] h (by rwa [append_nil])
    have hlen : (vs.map (ofNat 32)).length = vs.length := by simp
    have hstop := ending_eq h hfound
    rw [if_neg hle, convert_chain hchain (by omega), hlen]
    rw [ending] at hstop
    split_ifs at hstop ⊢ with hrest
    · rw [convert_finish (by omega) hstop]
      simp only [mbFinish, Out.prepend, append_nil, MbResult.mk.injEq, and_true]
      unfold SIZE_MAX at hwn
      omega
    · rw [convert_malformed (by omega) hstop]
      simp [mbFinish, Out.prepend]

theorem countsMb_stored (h : Stored mem a l) (hfound : Found l vs rest) (hwn : wn ≤ SIZE_MAX)
    (hst : st.getD 0 = 0) (r : Count) :
    CountsMb true mem a wn st r ↔ r = if rest = [] then .of vs.length else .failed := by
  have hwn' : wn < 2 ^ 64 := Nat.lt_of_le_pred (by decide) hwn
  have hreturns := countTurn_returns hwn' 0 a hwn' false (halts_stored h hfound)
  have hvalue : countStop wn wn (vs.map (ofNat 32)).length (ending a vs rest) =
      if rest = [] then .of vs.length else .failed := by
    rw [ending]
    split_ifs
    · rw [countStop, length_map]
      exact Count.of_congr (by omega)
    · rfl
  rw [CountsMb, hst, if_pos (.inr rfl), ← hvalue]
  constructor
  · rintro ⟨fuel, hfuel⟩
    exact hreturns.unique (by rw [hfuel]; rfl)
  · rintro rfl
    exact hreturns

theorem narrow_toNat (w : Wide) : (narrow w).toNat = w.toNat % 256 := by
  simp [narrow]

theorem lead_toNat : ∀ r ∈ [(0xc0, 32), (0xe0, 16), (0xf0, 8), (0x80, 64)], ∀ x < r.2,
    r.1 ||| x = r.1 + x := by
  decide

theorem tail_toNat (w : Wide) : (narrow (0x80#32 ||| (w &&& 0x3f#32))).toNat =
    0x80 + w.toNat % 64 := by
  have hand : w.toNat &&& 63 = w.toNat % 64 := Nat.and_two_pow_sub_one_eq_mod w.toNat 6
  have hlt : w.toNat % 64 < 64 := Nat.mod_lt _ (by decide)
  have hor := lead_toNat (0x80, 64) (by simp) _ hlt
  rw [narrow_toNat, BitVec.toNat_or, BitVec.toNat_and]
  simp only [toNat_ofNat, Nat.reducePow, Nat.reduceMod]
  rw [hand]
  dsimp only at hor
  omega

theorem first_toNat (lead bound : ℕ) (hlead : (lead, bound) ∈ [(0xc0, 32), (0xe0, 16), (0xf0, 8)])
    (hw : w.toNat < bound) : (narrow (ofNat 32 lead ||| w)).toNat =
    lead + w.toNat := by
  have hor := lead_toNat (lead, bound) (by simp at hlead ⊢; omega) _ hw
  have hbound : lead + bound ≤ 256 := by
    simp at hlead
    omega
  rw [narrow_toNat, BitVec.toNat_or, toNat_ofNat]
  rw [Nat.mod_eq_of_lt (by omega : lead < 2 ^ 32), hor]
  omega

theorem wcrtomb_scalar (hv : Scalar v) :
    ∃ bs, wcrtomb true (ofNat 32 v) = some bs ∧ octets bs.val = encode v := by
  rw [Scalar] at hv
  have hval : (ofNat 32 v).toNat = v := by
    rw [toNat_ofNat]
    omega
  generalize ofNat 32 v = w at hval
  subst hval
  have hshift : ∀ n, (w >>> n).toNat = w.toNat / 2 ^ n := by
    intro n
    rw [BitVec.toNat_ushiftRight, Nat.shiftRight_eq_div_pow]
  rw [wcrtomb, encode]
  by_cases h1 : w.toNat < 0x80
  · rw [if_pos (BitVec.lt_def.mpr h1), if_pos h1]
    refine ⟨_, rfl, ?_⟩
    simp only [bytes, octets, map_cons, map_nil, narrow_toNat]
    congr 1
    omega
  rw [if_neg (fun h => h1 (BitVec.lt_def.mp h)), if_neg h1, if_neg (by decide : ¬ (!true) = true)]
  by_cases h2 : w.toNat < 0x800
  · rw [if_pos (BitVec.lt_def.mpr h2), if_pos h2]
    refine ⟨_, rfl, ?_⟩
    have hfirst := first_toNat (w := w >>> 6) 0xc0 32 (by simp) (by rw [hshift]; omega)
    simp only [bytes, octets, map_cons, map_nil, tail_toNat, hfirst, hshift, Nat.reducePow]
  rw [if_neg (fun h => h2 (BitVec.lt_def.mp h)), if_neg h2]
  have hthree : (w < 0xd800 ∨ w - 0xe000 < 0x2000) ↔ w.toNat < 0x10000 := by
    simp only [lt_def, BitVec.toNat_sub]
    simp
    omega
  by_cases h3 : w.toNat < 0x10000
  · rw [if_pos (hthree.mpr h3), if_pos h3]
    refine ⟨_, rfl, ?_⟩
    have hfirst := first_toNat (w := w >>> 12) 0xe0 16 (by simp) (by rw [hshift]; omega)
    simp only [bytes, octets, map_cons, map_nil, tail_toNat, hfirst, hshift, Nat.reducePow]
  · have hfour : w - 0x10000 < 0x100000 := by
      simp only [lt_def, BitVec.toNat_sub]
      simp
      omega
    rw [if_neg (fun h => h3 (hthree.mp h)), if_pos hfour, if_neg h3]
    refine ⟨_, rfl, ?_⟩
    have hfirst := first_toNat (w := w >>> 18) 0xf0 8 (by simp) (by rw [hshift]; omega)
    simp only [bytes, octets, map_cons, map_nil, tail_toNat, hfirst, hshift, Nat.reducePow]

/-- How the calls of `mbrtowc` end for a string with this verdict. -/
def Reports (e : Except (Option ℕ) Wide) : Verdict → Prop
  | .complete => e = .ok 0
  | .unfinished => ∃ c, c ≠ 0 ∧ e = .ok c
  | .offends => e = .error (some EILSEQ)

theorem reports_iff (h : Agrees x y) (k : Verdict) : Reports x.2 k ↔ verdict y.2 = k := by
  rcases h.2 with ⟨hx, hy⟩ | ⟨c, o, hx, hy, hcarries⟩
  · rw [hx, hy]
    cases k <;> simp [Reports, verdict]
  · rw [hx, hy]
    cases o with
    | none =>
      obtain rfl : c = 0 := hcarries
      cases k <;> simp [Reports, verdict]
    | some p =>
      have hne : c ≠ 0#32 := Word.ne_zero hcarries
      cases k <;> simp [Reports, verdict, hne]

theorem feedAll_iff (chunks : List (List UInt8)) (vs : List ℕ) (k : Verdict) :
    (feedAll 0 chunks).1.map toNat = vs ∧ Reports (feedAll 0 chunks).2 k ↔
      ∃ rest, Splits (octets chunks.flatten) vs rest ∧ k.Of rest := by
  have hzero : Carries 0 none := rfl
  have hagrees := feedAll_run chunks hzero
  rw [← run_iff, reports_iff hagrees, hagrees.1]

/-- The decoders find the same characters and the same first invalid one, and the encoding of a
value is the only string that decodes to it. -/
theorem utf8_codec_correct :
    (∀ chunks vs k, (feedAll 0 chunks).1.map toNat = vs ∧ Reports (feedAll 0 chunks).2 k ↔
      ∃ rest, Splits (octets chunks.flatten) vs rest ∧ k.Of rest) ∧
    (∀ l, ∃ vs rest, Found l vs rest ∧ ∀ mem a, Stored mem a l → ∀ wn ≤ SIZE_MAX,
      mbsrtowcs true mem a wn none = storing a wn none vs rest ∧
      ∀ r, CountsMb true mem a wn none r ↔ r = if rest = [] then .of vs.length else .failed) ∧
    ∀ v, Scalar v → ∃ bs, wcrtomb true (ofNat 32 v) = some bs ∧ octets bs.val = encode v ∧
      ∀ l, feedAll 0 [l] = ([ofNat 32 v], .ok 0) ↔ l = bs.val := by
  refine ⟨feedAll_iff, ?_, ?_⟩
  · intro l
    obtain ⟨vs, rest, hfound⟩ := exists_found l
    refine ⟨vs, rest, hfound, ?_⟩
    intro mem a hstored wn hwn
    exact ⟨mbsrtowcs_stored hstored hfound hwn rfl, countsMb_stored hstored hfound hwn rfl⟩
  · intro v hv
    obtain ⟨bs, hwcrtomb, hbs⟩ := wcrtomb_scalar hv
    refine ⟨bs, hwcrtomb, hbs, ?_⟩
    intro l
    have hval : (ofNat 32 v).toNat = v := by
      rw [Scalar] at hv
      rw [toNat_ofNat]
      omega
    have hiff := feedAll_iff [l] [v] .complete
    have hflat : [l].flatten = l := by simp
    rw [hflat] at hiff
    constructor
    · intro hfeed
      rw [hfeed] at hiff
      obtain ⟨rest, ⟨-, hsplits⟩, rfl⟩ := hiff.mp ⟨by simp [hval], rfl⟩
      refine map_injective_iff.mpr (fun _ _ => UInt8.toNat_inj.mp) (?_ : octets _ = octets _)
      rw [hsplits, hbs]
      simp
    · rintro rfl
      obtain ⟨hchars, hstate⟩ := hiff.mpr ⟨[], ⟨by simpa using hv, by simp [hbs]⟩, rfl⟩
      refine Prod.ext ?_ hstate
      refine map_injective_iff.mpr (fun _ _ => BitVec.toNat_inj.mp) ?_
      rw [hchars]
      simp [hval]

end Multibyte
