import GcompatMusl.Futex

/-! # The internal lock

`__lock` and `__unlock` on one word, with locking enabled. The word has the number of threads that
are counted as being inside, and the sign bit while the lock is held. -/
namespace Lock

open Interleaving Futex Finset

def INT_MIN : ℤ := -2 ^ 31

def wrap (x : ℤ) : ℤ := (x + 2 ^ 31) % 2 ^ 32 - 2 ^ 31

/-- A phase names the next access of a thread. -/
inductive Phase where
  | outside
  | fast
  | spin (left : ℕ) (current : ℤ)
  | add
  | futex (current : ℤ)
  | asleep (current : ℤ)
  | cas (current : ℤ)
  | held
  | check
  | sub
  | wake

/-- `current -= INT_MIN + 1` -/
def without (current : ℤ) : ℤ := wrap (current - (INT_MIN + 1))

def guess (current : ℤ) : ℤ := if current < 0 then without current else current

def next (current : ℤ) : Phase := if current < 0 then .futex current else .cas current

inductive Turn : ℤ → Phase → ℤ → Phase → Prop where
  | lock : Turn w .outside w .fast
  | fast : w = 0 → Turn w .fast (INT_MIN + 1) .held
  | fastFailed : w ≠ 0 → Turn w .fast w (.spin 10 (guess w))
  | spin : w = cur → Turn w (.spin (i + 1) cur) (wrap (INT_MIN + (cur + 1))) .held
  | spinFailed : w ≠ cur → Turn w (.spin (i + 1) cur) w (.spin i (guess w))
  | spinEnd : Turn w (.spin 0 cur) w .add
  | add : Turn w .add (wrap (w + 1)) (next (wrap (w + 1)))
  | sleep : w = cur → Turn w (.futex cur) w (.asleep cur)
  | refused : Turn w (.futex cur) w (.cas (without cur))
  | spurious : Turn w (.asleep cur) w (.cas (without cur))
  | cas : w = cur → Turn w (.cas cur) (wrap (INT_MIN + cur)) .held
  | casFailed : w ≠ cur → Turn w (.cas cur) w (next w)
  | unlock : Turn w .held w .check
  | locked : w < 0 → Turn w .check w .sub
  | unlocked : 0 ≤ w → Turn w .check w .outside
  | sub : Turn w .sub (wrap (w - (INT_MIN + 1))) (if w = INT_MIN + 1 then .outside else .wake)

def Phase.Asleep : Phase → Prop
  | .asleep _ => True
  | _ => False

def rouse : Phase → Phase
  | .asleep cur => .cas (without cur)
  | p => p

def waking : Phase → Option (Option ℕ × Phase)
  | .wake => some (some 1, .outside)
  | _ => none

def machine : Machine ℤ Phase := ⟨Turn, Phase.Asleep, rouse, waking⟩

/-- Between the return of `__lock` and the access of `__unlock` that gives the lock back -/
def Phase.holding : Phase → Bool
  | .held | .check | .sub => true
  | _ => false

/-- In the main loop and not asleep -/
def Phase.retrying : Phase → Bool
  | .futex _ | .cas _ => true
  | _ => false

def Phase.counted : Phase → Bool
  | .asleep _ => true
  | p => p.holding || p.retrying

def Initial {T : Type*} (x : ℤ × (T → Phase)) : Prop := x = (0, fun _ => .outside)

/-- What a thread keeps of the word is the value of a free lock, or of one that is held. -/
def Phase.Sane : Phase → Prop
  | .spin _ cur | .cas cur => 0 ≤ cur
  | .futex cur | .asleep cur => INT_MIN < cur ∧ cur < 0
  | _ => True

def Fits (w : ℤ) (count holders : ℕ) : Prop :=
  w = count + (if holders = 0 then 0 else INT_MIN) ∧ holders ≤ 1 ∧ holders ≤ count ∧ count < 2 ^ 31

theorem Fits.guess (h : Fits w c k) : 0 ≤ guess w ∧ (next w).Sane := by
  obtain ⟨hw, hk, hkc, hc⟩ := h
  rw [Lock.guess, next, without, wrap]
  rw [INT_MIN] at hw ⊢
  split_ifs at hw ⊢ <;> simp only [Phase.Sane, INT_MIN] <;> omega

theorem Fits.free (h : Fits w c k) (hpos : 0 ≤ w) : w = c ∧ k = 0 := by
  obtain ⟨hw, hk, hkc, hc⟩ := h
  rw [INT_MIN] at hw
  split_ifs at hw <;> omega

theorem Sane.without (h : (Phase.futex cur).Sane) : (Phase.cas (without cur)).Sane := by
  simp only [Phase.Sane, INT_MIN, Lock.without, wrap] at h ⊢
  omega

theorem next_counts (w : ℤ) : (next w).counted = true ∧ (next w).holding = false ∧
    (next w).retrying = true := by
  rw [next]
  split_ifs <;> exact ⟨rfl, rfl, rfl⟩

/-- One turn, with the numbers of threads counted and holding before and after it -/
theorem Fits.turn (h : Fits w c k) (hp : p.Sane)
    (hc : c' + p.counted.toNat = c + p'.counted.toNat)
    (hk : k' + p.holding.toNat = k + p'.holding.toNat) (hkc : k' ≤ c') (hlt : c' < 2 ^ 31)
    (hturn : Turn w p w' p') : Fits w' c' k' ∧ p'.Sane := by
  have hfits := h
  obtain ⟨hw, hone, hle, hsmall⟩ := h
  have hsame : c' = c → k' = k → Fits w c' k' := fun hc hk => by rwa [hc, hk]
  cases hturn with
  | fastFailed | spinFailed => exact ⟨hsame hc hk, hfits.guess.1⟩
  | casFailed =>
    obtain ⟨hcount, hhold, -⟩ := next_counts w
    rw [hcount] at hc
    rw [hhold] at hk
    exact ⟨hsame (Nat.add_right_cancel hc) hk, hfits.guess.2⟩
  | refused | spurious => exact ⟨hsame (Nat.add_right_cancel hc) hk, Sane.without hp⟩
  | sleep => exact ⟨hsame (Nat.add_right_cancel hc) hk, hp⟩
  | unlock | locked => exact ⟨hsame (Nat.add_right_cancel hc) (Nat.add_right_cancel hk), trivial⟩
  | lock | spinEnd => exact ⟨hsame hc hk, trivial⟩
  | add =>
    obtain ⟨hcount, hhold, -⟩ := next_counts (wrap (w + 1))
    rw [hcount] at hc
    rw [hhold] at hk
    change c' = c + 1 at hc
    change k' = k at hk
    have hfits' : Fits (wrap (w + 1)) c' k' := by
      refine ⟨?_, hk ▸ hone, hkc, hlt⟩
      rw [wrap, hw, INT_MIN]
      split_ifs <;> omega
    exact ⟨hfits', hfits'.guess.2⟩
  | unlocked hpos =>
    -- the holder finds the word negative
    change k' + 1 = k at hk
    rw [INT_MIN] at hw
    split_ifs at hw <;> omega
  | sub =>
    have hp' : (if w = INT_MIN + 1 then Phase.outside else .wake).counted = false ∧
        (if w = INT_MIN + 1 then Phase.outside else .wake).holding = false ∧
        (if w = INT_MIN + 1 then Phase.outside else .wake).Sane := by
      split_ifs <;> exact ⟨rfl, rfl, trivial⟩
    rw [hp'.1] at hc
    rw [hp'.2.1] at hk
    change c' + 1 = c at hc
    change k' + 1 = k at hk
    refine ⟨⟨?_, by omega, hkc, hlt⟩, hp'.2.2⟩
    rw [wrap, hw, INT_MIN, if_pos (show k' = 0 by omega)]
    omega
  | fast heq =>
    obtain ⟨hfree, rfl⟩ := hfits.free (Int.le_of_eq heq.symm)
    change c' = c + 1 at hc
    refine ⟨⟨?_, Nat.le_of_eq hk, hkc, hlt⟩, trivial⟩
    rw [show k' = 1 from hk]
    omega
  | spin heq | cas heq =>
    subst heq
    obtain ⟨hfree, rfl⟩ := hfits.free hp
    simp only [Phase.counted, Phase.holding, Phase.retrying, Bool.or_true,
      Bool.or_false, Bool.toNat_true, Bool.toNat_false] at hc
    refine ⟨⟨?_, Nat.le_of_eq hk, hkc, hlt⟩, trivial⟩
    rw [show k' = 1 from hk, wrap, INT_MIN]
    omega

variable {T : Type*} [DecidableEq T] {x : ℤ × (T → Phase)}

theorem lawful : machine.Lawful := by
  refine ⟨fun h => ?_, fun {p n q} h => ?_, fun {p} h => ?_⟩
  · cases h <;> rfl
  · cases p with
    | wake =>
      cases h
      exact ⟨id, id⟩
    | _ => cases h
  · cases p with
    | asleep => exact id
    | _ => exact h.elim

abbrev counted [Fintype T] (own : T → Phase) : ℕ := tally (fun p => p.counted = true) own

abbrev holders [Fintype T] (own : T → Phase) : ℕ := tally (fun p => p.holding = true) own

theorem rouse_counts (h : p.Asleep) : (rouse p).counted = p.counted ∧
    (rouse p).holding = p.holding ∧ (p.Sane → (rouse p).Sane) := by
  cases p with
  | asleep cur => exact ⟨rfl, rfl, Sane.without⟩
  | _ => exact h.elim

variable [Fintype T]

omit [DecidableEq T] in
theorem holders_le_counted (own : T → Phase) : holders own ≤ counted own := by
  refine card_le_card fun t ht => ?_
  rw [mem_filter] at ht ⊢
  refine ⟨ht.1, ?_⟩
  cases hp : own t <;> rw [hp] at ht <;> first | rfl | exact absurd ht.2 Bool.false_ne_true

theorem fits (hcard : Fintype.card T < 2 ^ 31) (h : Reachable Initial (Step machine) x) :
    Fits x.1 (counted x.2) (holders x.2) ∧ ∀ t, (x.2 t).Sane := by
  have hsmall : ∀ own : T → Phase, counted own < 2 ^ 31 := fun own =>
    lt_of_le_of_lt (card_le_univ _) hcard
  induction h with
  | start h =>
    cases h
    refine ⟨?_, fun _ => trivial⟩
    simp [Fits, tally, Phase.counted, Phase.holding, Phase.retrying]
  | @next x y hx hs ih =>
    obtain ⟨hword, hsane⟩ := ih
    obtain ⟨t, p, hm, hcase⟩ := hs.moved
    have hc := hm.tally_add Phase.counted fun p hp => (rouse_counts hp).1
    have hk := hm.tally_add Phase.holding fun p hp => (rouse_counts hp).2.1
    have hown : Fits y.1 (counted y.2) (holders y.2) ∧ p.Sane := by
      rcases hcase with hturn | ⟨heq, n, hwake⟩
      · exact hword.turn (hsane t) hc hk (holders_le_counted _) (hsmall _) hturn
      · generalize x.2 t = q at hwake hc hk
        cases q with
        | wake =>
          cases hwake
          rw [heq, counted, holders, Nat.add_right_cancel hc, Nat.add_right_cancel hk]
          exact ⟨hword, trivial⟩
        | _ => cases hwake
    refine ⟨hown.1, fun j => ?_⟩
    by_cases hj : j = t
    · rw [hj, hm.own]
      exact hown.2
    · rcases hm.other j hj with heq | ⟨hasleep, heq⟩
      · rw [heq]
        exact hsane j
      · rw [heq]
        exact (rouse_counts hasleep).2.2 (hsane j)

theorem covered (hcard : Fintype.card T < 2 ^ 31) (h : Reachable Initial (Step machine) x) :
    (∃ t, (x.2 t).Asleep) →
      x.1 < 0 ∨ (∃ t, (waking (x.2 t)).isSome) ∨ ∃ t, (x.2 t).retrying = true := by
  refine Reachable.covered (· < 0) (fun p => p.retrying = true) lawful ?_ ?_ ?_ ?_ ?_ h
  · rintro _ rfl
    exact fun _ => id
  · intro x t s' p' hx hturn hp
    have hsane := (fits hcard hx).2 t
    generalize x.2 t = p at hturn hsane
    cases hturn with
    | sleep heq => exact heq ▸ hsane.2
    | add | casFailed =>
      revert hp
      rw [next]
      split_ifs <;> exact False.elim
    | sub =>
      revert hp
      split_ifs <;> exact False.elim
    | _ => exact hp.elim
  · intro x t s' p' hx hturn hp
    obtain ⟨⟨hw, -, -, hsmall⟩, hsane⟩ := fits hcard hx
    have hsane := hsane t
    generalize x.1 = w at hturn hw
    generalize x.2 t = p at hturn hsane hp
    cases hturn with
    | sleep heq => exact .inr (heq ▸ hsane.2)
    | refused => exact .inl rfl
    | casFailed => exact .inl (next_counts _).2.2
    | cas heq =>
      refine .inr ?_
      subst heq
      change 0 ≤ w at hsane
      rw [wrap, INT_MIN]
      rw [INT_MIN] at hw
      split_ifs at hw <;> omega
    | _ => cases hp
  · intro x t n q _ hp
    generalize x.2 t = p at hp
    cases p with
    | wake =>
      cases hp
      refine .inr ⟨by decide, fun p hp => ?_⟩
      cases p with
      | asleep => rfl
      | _ => exact hp.elim
    | _ => cases hp
  · intro x t s' p' hx hturn hneg
    obtain ⟨hfits, hsane⟩ := fits hcard hx
    have hsane := hsane t
    -- the last one to leave is the only thread that is counted
    have hlast : (x.2 t).counted = true → counted x.2 = 1 → (x.2 t).holding = true →
        ∀ j, ¬ (x.2 j).Asleep := by
      intro ht hone hhold j hj
      have hjt : j = t := by
        refine card_le_one.mp (Nat.le_of_eq hone) j ?_ t ?_
        · refine mem_filter.mpr ⟨mem_univ j, ?_⟩
          cases hp : x.2 j <;> rw [hp] at hj <;> first | rfl | exact hj.elim
        · exact mem_filter.mpr ⟨mem_univ t, ht⟩
      subst hjt
      cases hp : x.2 j <;> rw [hp] at hj hhold <;> first | exact hj.elim | cases hhold
    have hnot : (x.2 t).counted = false → counted x.2 < Fintype.card T := fun ht =>
      card_lt_univ_of_notMem fun hmem => Bool.false_ne_true (ht.symm.trans (mem_filter.mp hmem).2)
    generalize x.1 = w at hturn hneg hfits
    generalize x.2 t = p at hturn hsane hlast hnot
    cases hturn with
    | sub =>
      split_ifs with heq
      · refine .inr (.inr (hlast rfl ?_ rfl))
        obtain ⟨hw, -, -, hsmall⟩ := hfits
        split_ifs at hw <;> omega
      · exact .inr (.inl rfl)
    | add =>
      refine .inl ?_
      have hlt := hnot rfl
      obtain ⟨hw, -⟩ := hfits
      rw [INT_MIN] at hw
      rw [wrap]
      split_ifs at hw <;> omega
    | fast heq => exact absurd hneg (by omega)
    | spin heq | cas heq =>
      subst heq
      exact absurd hsane (not_le_of_gt hneg)
    | _ => exact .inl hneg

/-- One thread holds the lock, the word is the number of counted threads with the sign bit for a
held lock, and no sleeper is left with a free lock. -/
theorem lock_excludes (hcard : Fintype.card T < 2 ^ 31) (h : Reachable Initial (Step machine) x) :
    (∀ t u, (x.2 t).holding = true → (x.2 u).holding = true → t = u) ∧
    (x.1 = counted x.2 + if ∃ t, (x.2 t).holding = true then INT_MIN else 0) ∧
    ¬ (0 ≤ x.1 ∧ (∃ t, (x.2 t).Asleep) ∧ (∀ t, waking (x.2 t) = none) ∧
      ∀ t, (x.2 t).retrying = false) := by
  obtain ⟨⟨hw, hone, -⟩, -⟩ := fits hcard h
  refine ⟨fun t u ht hu => ?_, ?_, ?_⟩
  · exact card_le_one.mp hone t (mem_filter.mpr ⟨mem_univ t, ht⟩) u
      (mem_filter.mpr ⟨mem_univ u, hu⟩)
  · have hnone : holders x.2 = 0 ↔ ¬ ∃ t, (x.2 t).holding = true := by
      simp [tally]
    simp only [hw, hnone, ite_not]
  · rintro ⟨hfree, hasleep, hwake, hretry⟩
    rcases covered hcard h hasleep with hneg | ⟨t, ht⟩ | ⟨t, ht⟩
    · omega
    · rw [hwake t] at ht
      cases ht
    · rw [hretry t] at ht
      cases ht

theorem lock_excludes_held : ∃ x : ℤ × (Bool → Phase), x.2 true = .held ∧
    (∀ u, (x.2 u).holding = true → true = u) ∧ x.1 = counted x.2 + INT_MIN := by
  have hcall : Reachable Initial (Step machine) (0, fun _ : Bool => Phase.outside) := .start rfl
  have hfast := hcall.next (.turn true .lock)
  obtain ⟨hone, hword, -⟩ := lock_excludes (by decide) (hfast.next (.turn true (.fast rfl)))
  refine ⟨_, rfl, fun u => hone true u rfl, ?_⟩
  rwa [if_pos ⟨true, rfl⟩] at hword

end Lock
