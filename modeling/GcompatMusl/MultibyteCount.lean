import GcompatMusl.Multibyte

/-! # Counting without a destination

Both converters only count when their destination is null, in loops of their own that run through
the same characters as the storing ones. -/
namespace Multibyte

open FuelLoop LimitedConversion MuslString List

variable {k wn0 a wn ws : ℕ}

theorem Count.of_congr (h : m % 2 ^ 64 = n % 2 ^ 64) : Count.of m = Count.of n := by
  rw [Count.of, Count.of, h]

theorem lower_add {x : ℕ} (hx : x < 2 ^ 64) (hk : k ≤ 2 ^ 64) (L : ℕ) :
    lower x k < 2 ^ 64 ∧ (lower x k + (L + k)) % 2 ^ 64 = (x + L) % 2 ^ 64 := by
  unfold lower
  omega

/-- A count is right: it has failed, or it is the length of what the source ends after. -/
def CountOk {ω σ : Type} (next : σ → Next ω σ) (s : σ) (r : Count) : Prop :=
  r = .failed ∨ ∃ us, Ends next s us ∧ r = .of us.length

/-- The characters from `start` to the current place, counted down from `wn0` -/
def Counted (mem : ByteMem) (wn0 : ℕ) (start : Source) (s : CountState) : Prop :=
  s.wn < 2 ^ 64 ∧ ∃ us, Chain (nextChar mem) start us ⟨s.pending, s.addr⟩ ∧
    (s.wn + us.length) % 2 ^ 64 = wn0

theorem countChar_outcome (hs : wn < 2 ^ 64) (hchain : Chain (nextChar mem) start us ⟨p, a⟩)
    (hus : (wn + us.length) % 2 ^ 64 = wn0) (hc : c ≠ 0)
    (hnext : nextChar mem ⟨p, a⟩ = resume mem c b) :
    Outcome (Counted mem wn0 start) (CountOk (nextChar mem) start)
      (countChar mem wn0 c b wn) := by
  unfold countChar
  rcases skipChar_eq mem hc b with ⟨hbad, hskip⟩ | ⟨w, a', hemit, hskip⟩
  · rw [hskip]
    left
    rw [countLeave, if_neg fun hz => hc hz.1]
  · rw [hskip]
    have hl := lower_add hs (k := 1) (by decide) us.length
    refine ⟨hl.1, us ++ [w], hchain.snoc (hnext.trans hemit), ?_⟩
    rw [length_append, length_singleton, hl.2, hus]

theorem countTurn_outcome {s : CountState} (h : Counted mem wn0 start s) :
    Outcome (Counted mem wn0 start) (CountOk (nextChar mem) start) (countTurn mem wn0 s) := by
  obtain ⟨p, a, wn, words⟩ := s
  obtain ⟨hwn, us, hchain, hus⟩ := h
  dsimp only at hwn hus
  unfold countTurn
  dsimp only
  split
  · next hp => exact countChar_outcome hwn hchain hus hp (by simp only [nextChar, if_pos hp])
  next hp =>
  obtain rfl : p = 0 := not_not.mp hp
  split
  · next hword =>
    obtain ⟨h0, h1, h2, h3⟩ := asciiWord_bytes hword.2
    have hl := lower_add hwn (k := 4) (by decide) us.length
    refine ⟨hl.1, _, (((hchain.snoc (nextChar_ascii h0)).snoc (nextChar_ascii h1)).snoc
      (nextChar_ascii h2)).snoc (nextChar_ascii h3), ?_⟩
    simp only [unit, length_append, length_singleton]
    rw [hl.2, hus]
  split
  · exact ⟨hwn, us, hchain, hus⟩
  split
  · next hascii =>
    have hl := lower_add hwn (k := 1) (by decide) us.length
    refine ⟨hl.1, _, hchain.snoc (nextChar_ascii hascii), ?_⟩
    simp only [unit, length_append, length_singleton]
    rw [hl.2, hus]
  next hascii =>
  split
  · next hlead =>
    have hnext : nextChar mem ⟨0, a⟩ = leave mem 0 a := by simp [nextChar, hascii, hlead]
    unfold countLeave
    split
    · next hz =>
      refine .inr ⟨us, ⟨_, hchain, ?_⟩, ?_⟩
      · rw [hnext, leave, if_pos hz]
      · exact Count.of_congr (by omega)
    · exact .inl rfl
  · next hlead =>
    refine countChar_outcome hwn hchain hus (bittab_ne_zero _ (lead_index hlead)) ?_
    simp [nextChar, hascii, hlead]

/-- What the count comes to from `wn` of `wn0` on, when `L` more characters lead to the end of the
source or to a malformed character -/
def countStop (wn0 wn L : ℕ) : Next Wide Source → Count
  | .finish => .of (wn0 + 2 ^ 64 - wn + L)
  | _ => .failed

theorem countStop_lower (h0 : wn0 < 2 ^ 64) (hwn : wn < 2 ^ 64) (hk : k ≤ 2 ^ 64) (L : ℕ)
    (x : Next Wide Source) : countStop wn0 (lower wn k) L x = countStop wn0 wn (k + L) x := by
  cases x with
  | finish =>
    unfold lower
    exact Count.of_congr (by omega)
  | emit => rfl
  | malformed => rfl

theorem countChar_halts {src : Source} (hhalts : Halts (nextChar mem) src us x) (hc : c ≠ 0)
    (hnext : nextChar mem src = resume mem c b) (wn : ℕ) :
    (countChar mem wn0 c b wn = .ret (countStop wn0 wn us.length x)) ∨
    ∃ a vs, countChar mem wn0 c b wn = .again ⟨0, a, lower wn 1, false⟩ ∧
      Halts (nextChar mem) ⟨0, a⟩ vs x ∧ us.length = 1 + vs.length := by
  rcases skipChar_eq mem hc b with ⟨hbad, hskip⟩ | ⟨w, a, hemit, hskip⟩
  · rw [hbad] at hnext
    obtain ⟨-, rfl⟩ := hhalts.of_stop (by rw [hnext]; intro out u heq; cases heq)
    left
    rw [countChar, hskip, hnext]
    exact congrArg _ (if_neg fun hz => hc hz.1)
  · obtain ⟨vs, rfl, hvs⟩ := hhalts.of_emit (hnext.trans hemit)
    exact .inr ⟨a, vs, by rw [countChar, hskip], hvs, by simp [unit]; omega⟩

theorem halts_ascii (hhalts : Halts (nextChar mem) ⟨0, a⟩ us x) (h : ascii (mem a)) :
    ∃ vs, Halts (nextChar mem) ⟨0, a + 1⟩ vs x ∧ us.length = 1 + vs.length := by
  obtain ⟨vs, rfl, hvs⟩ := hhalts.of_emit (nextChar_ascii h)
  exact ⟨vs, hvs, by simp [unit]; omega⟩

/-- The loop comes to the end of the source, or to its first malformed character. -/
theorem countTurn_returns (h0 : wn0 < 2 ^ 64) (p : Wide) (a : ℕ) (hwn : wn < 2 ^ 64) (words : Bool)
    (hhalts : Halts (nextChar mem) ⟨p, a⟩ us x) :
    Returns (countTurn mem wn0) ⟨p, a, wn, words⟩ (countStop wn0 wn us.length x) := by
  -- Entering the loop over words uses up no character, so it counts in the measure.
  induction hm : 2 * us.length + (if words then 0 else 1) using Nat.strong_induction_on
    generalizing p a wn words us with
  | _ m ih =>
    have hgo : ∀ k b words' vs, countTurn mem wn0 ⟨p, a, wn, words⟩ =
        .again ⟨0, b, lower wn k, words'⟩ → 0 < k → k ≤ 4 → Halts (nextChar mem) ⟨0, b⟩ vs x →
        us.length = k + vs.length →
        Returns (countTurn mem wn0) ⟨p, a, wn, words⟩ (countStop wn0 wn us.length x) := by
      intro k b words' vs hturn hk0 hk hvs hlen
      refine .again hturn ?_
      rw [hlen, ← countStop_lower h0 hwn (by omega)]
      refine ih (2 * vs.length + if words' then 0 else 1) ?_ 0 b
        (lower_add hwn (by omega) 0).1 words' hvs rfl
      subst hm
      split <;> split <;> omega
    have hchar : ∀ c b, c ≠ 0 → nextChar mem ⟨p, a⟩ = resume mem c b →
        countTurn mem wn0 ⟨p, a, wn, words⟩ = countChar mem wn0 c b wn →
        Returns (countTurn mem wn0) ⟨p, a, wn, words⟩ (countStop wn0 wn us.length x) := by
      intro c b hc hnext hturn
      rcases countChar_halts hhalts hc hnext wn with hret | ⟨a', vs, hagain, hvs, hlen⟩
      · exact .ret (hturn.trans hret)
      · exact hgo 1 a' false vs (hturn.trans hagain) (by omega) (by omega) hvs hlen
    by_cases hp : p ≠ 0
    · exact hchar p a hp (by simp only [nextChar, if_pos hp]) (by simp only [countTurn, if_pos hp])
    obtain rfl : p = 0 := not_not.mp hp
    by_cases hword : words = true ∧ asciiWord mem a = true
    · obtain ⟨b0, b1, b2, b3⟩ := asciiWord_bytes hword.2
      obtain ⟨v1, hv1, hl1⟩ := halts_ascii hhalts b0
      obtain ⟨v2, hv2, hl2⟩ := halts_ascii hv1 b1
      obtain ⟨v3, hv3, hl3⟩ := halts_ascii hv2 b2
      obtain ⟨v4, hv4, hl4⟩ := halts_ascii hv3 b3
      exact hgo 4 (a + 4) true v4 (by simp [countTurn, hword]) (by omega) (by omega) hv4 (by omega)
    by_cases henter : ¬words = true ∧ ascii (mem a) = true ∧ a % 4 = 0
    · have hturn : countTurn mem wn0 ⟨0, a, wn, words⟩ = .again ⟨0, a, wn, true⟩ := by
        simp [countTurn, henter]
      refine .again hturn ?_
      refine ih (2 * us.length) ?_ 0 a hwn true hhalts (by simp)
      simp [henter.1] at hm
      omega
    have hslow : countTurn mem wn0 ⟨0, a, wn, words⟩ =
        if ascii (mem a) then .again ⟨0, a + 1, lower wn 1, false⟩
        else if widen (mem a) - SA > SB - SA then .ret (countLeave mem wn0 0 a wn)
        else countChar mem wn0 (bittab ((mem a).toNat - 0xc2)) (a + 1) wn := by
      unfold countTurn
      rw [if_neg hp, if_neg hword, if_neg henter]
    by_cases hascii : ascii (mem a) = true
    · obtain ⟨vs, hvs, hlen⟩ := halts_ascii hhalts hascii
      exact hgo 1 (a + 1) false vs (hslow.trans (if_pos hascii)) (by omega) (by omega) hvs hlen
    rw [if_neg hascii] at hslow
    by_cases hlead : widen (mem a) - SA > SB - SA
    · have hnext : nextChar mem ⟨0, a⟩ = leave mem 0 a := by simp [nextChar, hascii, hlead]
      refine .ret (hslow.trans ?_)
      rw [if_pos hlead, countLeave]
      split_ifs with hz
      · rw [leave, if_pos hz] at hnext
        obtain ⟨rfl, rfl⟩ := hhalts.of_stop (by rw [hnext]; intro out u heq; cases heq)
        rw [hnext, countStop, length_nil, Nat.add_zero]
      · rw [leave, if_neg hz] at hnext
        obtain ⟨-, rfl⟩ := hhalts.of_stop (by rw [hnext]; intro out u heq; cases heq)
        rw [hnext]
        rfl
    · refine hchar _ (a + 1) (bittab_ne_zero _ (lead_index hlead)) ?_ (hslow.trans (if_neg hlead))
      simp [nextChar, hascii, hlead]

theorem nextUnit_finish (h : mem a = 0) : nextUnit mem ⟨0, a⟩ = .finish := by
  simp [nextUnit, h]

theorem nextUnit_emit (h : mem a ≠ 0) :
    nextUnit mem ⟨0, a⟩ = .emit (unit (codeunit (mem a))) ⟨0, a + 1⟩ := by
  simp [nextUnit, h]

def CountedUnits (mem : ByteMem) (s a : ℕ) : Prop :=
  ∃ us, Chain (nextUnit mem) ⟨0, s⟩ us ⟨0, a⟩ ∧ a = s + us.length

theorem strlenTurn_outcome (h : CountedUnits mem s a) :
    Outcome (CountedUnits mem s) (CountOk (nextUnit mem) ⟨0, s⟩) (strlenTurn mem s a) := by
  obtain ⟨us, hchain, rfl⟩ := h
  unfold strlenTurn
  split
  · next hz =>
    refine .inr ⟨us, ⟨_, hchain, nextUnit_finish hz⟩, ?_⟩
    rw [Nat.add_sub_cancel_left]
  · next hz => exact ⟨_, hchain.snoc (nextUnit_emit hz), by simp [unit]; omega⟩

theorem strlenTurn_returns (h : Ends (nextUnit mem) ⟨0, a⟩ us) (hs : s ≤ a) :
    Returns (strlenTurn mem s) a (.of (a - s + us.length)) := by
  induction us generalizing a with
  | nil =>
    have hz : mem a = 0 := by
      by_contra hne
      obtain ⟨vs, hvs, -⟩ := h.of_emit (nextUnit_emit hne)
      simp [unit] at hvs
    exact .ret (by simp [strlenTurn, hz])
  | cons u us ih =>
    have hne : mem a ≠ 0 := by
      intro hz
      have := h.of_finish (nextUnit_finish hz)
      simp at this
    obtain ⟨vs, hvs, hends⟩ := h.of_emit (nextUnit_emit hne)
    obtain rfl : us = vs := by simpa [unit] using (cons.inj hvs).2
    have hturn : strlenTurn mem s a = .again (a + 1) := by simp [strlenTurn, hne]
    refine .again hturn ?_
    have hlen : a - s + (u :: us).length = a + 1 - s + us.length := by
      simp only [length_cons]
      omega
    rw [hlen]
    exact ih hends (by omega)

theorem countsMb_sound (hwn : wn ≤ SIZE_MAX) (h : CountsMb utf8 mem src wn st r) :
    CountOk (reader utf8 (st.getD 0) mem) ⟨st.getD 0, src⟩ r := by
  unfold CountsMb at h
  unfold reader
  split at h
  · next hmode =>
    rw [if_pos hmode]
    obtain ⟨fuel, hfuel⟩ := h
    have hwn' : wn < 2 ^ 64 := Nat.lt_of_le_pred (by decide) hwn
    have hout := loop_rule (countTurn mem wn) (Counted mem wn ⟨st.getD 0, src⟩)
      (CountOk (nextChar mem) ⟨st.getD 0, src⟩) (fun s hs => countTurn_outcome hs) fuel
      ⟨st.getD 0, src, wn, false⟩ ⟨hwn', [], .nil _, Nat.mod_eq_of_lt hwn'⟩
    rw [hfuel] at hout
    exact hout
  · next hmode =>
    rw [if_neg hmode]
    obtain ⟨fuel, hfuel⟩ := h
    have hzero : st.getD 0 = 0 := by
      by_contra hne
      exact hmode (.inl hne)
    rw [hzero]
    have hout := loop_rule (strlenTurn mem src) (CountedUnits mem src)
      (CountOk (nextUnit mem) ⟨0, src⟩) (fun a ha => strlenTurn_outcome ha) fuel src
      ⟨[], .nil _, rfl⟩
    rw [hfuel] at hout
    exact hout

theorem countsMb_of_ends (hwn : wn ≤ SIZE_MAX)
    (h : Ends (reader utf8 (st.getD 0) mem) ⟨st.getD 0, src⟩ us) :
    CountsMb utf8 mem src wn st (.of us.length) := by
  unfold reader at h
  unfold CountsMb
  split at h
  · next hmode =>
    rw [if_pos hmode]
    have hwn' : wn < 2 ^ 64 := Nat.lt_of_le_pred (by decide) hwn
    have hr := countTurn_returns hwn' _ _ hwn' false h.halts
    rw [countStop, Count.of_congr (n := us.length) (by omega)] at hr
    exact hr
  · next hmode =>
    rw [if_neg hmode]
    have hzero : st.getD 0 = 0 := by
      by_contra hne
      exact hmode (.inl hne)
    rw [hzero] at h
    have hr := strlenTurn_returns h (le_refl src)
    rwa [Nat.sub_self, Nat.zero_add] at hr

/-- The two range checks of the storing loop, as one for zero and one for what is not ASCII -/
theorem nextWide_eq (utf8 : Bool) (mem : ℕ → Wide) (ws : ℕ) :
    nextWide utf8 mem ws =
      if mem ws = 0 then .finish
      else if mem ws ≥ 0x80 then
        match wcrtomb utf8 (mem ws) with
        | none => .malformed ws
        | some l => .emit l (ws + 1)
      else .emit (bytes (narrow (mem ws)) []) (ws + 1) := by
  have hrange : mem ws - 1 ≥ 0x7f ↔ mem ws = 0 ∨ mem ws ≥ 0x80 := by
    rw [← BitVec.toNat_inj]
    simp only [ge_iff_le, BitVec.le_def]
    simp
    omega
  unfold nextWide
  simp only [hrange]
  by_cases hz : mem ws = 0
  · rw [if_pos (.inl hz), if_pos hz, if_pos hz]
  · by_cases hwide : mem ws ≥ 0x80
    · rw [if_pos (.inr hwide), if_neg hz, if_neg hz]
      refine Eq.trans ?_ (if_pos hwide).symm
      cases wcrtomb utf8 (mem ws) <;> rfl
    · rw [if_neg (not_or.mpr ⟨hz, hwide⟩), if_neg hz, if_neg hwide]

def CountedWide (utf8 : Bool) (mem : ℕ → Wide) (ws : ℕ) (s : ℕ × ℕ) : Prop :=
  ∃ us, Chain (nextWide utf8 mem) ws us s.1 ∧ s.2 = us.length % 2 ^ 64

theorem wcsCountTurn_outcome {s : ℕ × ℕ} (h : CountedWide utf8 mem ws s) :
    Outcome (CountedWide utf8 mem ws) (CountOk (nextWide utf8 mem) ws)
      (wcsCountTurn utf8 mem s) := by
  obtain ⟨us, hchain, hlen⟩ := h
  have hnext := nextWide_eq utf8 mem s.1
  unfold wcsCountTurn
  by_cases hz : mem s.1 = 0
  · rw [if_pos hz] at hnext ⊢
    refine .inr ⟨us, ⟨_, hchain, hnext⟩, Count.of_congr ?_⟩
    rw [hlen, Nat.mod_mod]
  rw [if_neg hz] at hnext ⊢
  split_ifs at hnext ⊢ with hwide
  · cases hw : wcrtomb utf8 (mem s.1) with
    | none => exact .inl rfl
    | some l =>
      rw [hw] at hnext
      refine ⟨_, hchain.snoc hnext, ?_⟩
      rw [length_append, hlen, Nat.mod_add_mod]
  · refine ⟨_, hchain.snoc hnext, ?_⟩
    rw [length_append, hlen, Nat.mod_add_mod]
    rfl

theorem wcsCountTurn_returns {us : List UInt8} (h : Ends (nextWide utf8 mem) ws us) (n : ℕ) :
    Returns (wcsCountTurn utf8 mem) (ws, n) (.of (n + us.length)) := by
  obtain ⟨t, hchain, ht⟩ := h
  induction hchain generalizing n with
  | nil s =>
    have hz : mem s = 0 := by
      by_contra hne
      rw [nextWide_eq, if_neg hne] at ht
      split at ht
      · split at ht <;> cases ht
      · cases ht
    refine .ret ?_
    rw [wcsCountTurn, if_pos hz, length_nil, Nat.add_zero]
  | cons hs hrest ih =>
    rename_i s out t' vs u
    have hturn : wcsCountTurn utf8 mem (s, n) =
        .again (t', (n + out.val.length) % 2 ^ 64) := by
      rw [nextWide_eq] at hs
      unfold wcsCountTurn
      split at hs
      · cases hs
      next hz =>
      rw [if_neg hz]
      split at hs
      · next hwide =>
        rw [if_pos hwide]
        cases hl : wcrtomb utf8 (mem s) with
        | none =>
          rw [hl] at hs
          cases hs
        | some l =>
          rw [hl] at hs
          cases hs
          rfl
      · next hwide =>
        rw [if_neg hwide]
        cases hs
        rfl
    refine .again hturn ?_
    rw [← Count.of_congr (m := (n + out.val.length) % 2 ^ 64 + vs.length)]
    · exact ih _ ht
    · rw [Nat.mod_add_mod, length_append, Nat.add_assoc]

theorem countsWc_sound (h : CountsWc utf8 mem ws r) :
    CountOk (nextWide utf8 mem) ws r := by
  obtain ⟨fuel, hfuel⟩ := h
  have hout := loop_rule (wcsCountTurn utf8 mem) (CountedWide utf8 mem ws)
    (CountOk (nextWide utf8 mem) ws) (fun s hs => wcsCountTurn_outcome hs) fuel (ws, 0)
    ⟨[], .nil _, rfl⟩
  rw [hfuel] at hout
  exact hout

theorem countsWc_of_ends {us : List UInt8} (h : Ends (nextWide utf8 mem) ws us) :
    CountsWc utf8 mem ws (.of us.length) := by
  have hr := wcsCountTurn_returns h 0
  rwa [Nat.zero_add] at hr

end Multibyte
