import GcompatMusl.Interleaving

/-! # Threads that sleep on one word

Threads with a shared state, some of which sleep until another one wakes them. Two rules for what
can be reached: a token that one thread at a time has, and that no sleeper is left behind. -/
namespace Futex

open Interleaving Function Finset

/-- `turn` is an atomic step, going to sleep and waking up for no reason included. With
`waking p = some (n, q)` a thread wakes `n` sleepers, or all, and goes on with `q`. -/
structure Machine (σ φ : Type*) where
  turn : σ → φ → σ → φ → Prop
  asleep : φ → Prop
  rouse : φ → φ
  waking : φ → Option (Option ℕ × φ)

variable {T : Type*} [DecidableEq T] (M : Machine σ φ)

inductive Step : σ × (T → φ) → σ × (T → φ) → Prop where
  | turn {s s' p own} (t : T) : M.turn s (own t) s' p → Step (s, own) (s', Function.update own t p)
  | wake {s n p own} (t : T) (R : Finset T) :
      M.waking (own t) = some (n, p) → (∀ j ∈ R, M.asleep (own j)) →
      (n = some R.card ∨ (∀ j, M.asleep (own j) → j ∈ R) ∧ ∀ k ∈ n, R.card ≤ k) →
      Step (s, own) (s, Function.update (fun j => if j ∈ R then M.rouse (own j) else own j) t p)

structure Machine.Lawful : Prop where
  turn : ∀ {s p s' p'}, M.turn s p s' p' → M.waking p = none
  waking : ∀ {p n q}, M.waking p = some (n, q) → ¬ M.asleep p ∧ ¬ M.asleep q
  rouse : ∀ {p}, M.asleep p → ¬ M.asleep (M.rouse p)

variable {M} {x : σ × (T → φ)}

/-- The thread `t` goes on with `p`, and of the others only sleepers change. -/
structure Moved (M : Machine σ φ) (x y : σ × (T → φ)) (t : T) (p : φ) : Prop where
  own : y.2 t = p
  other : ∀ j ≠ t, y.2 j = x.2 j ∨ M.asleep (x.2 j) ∧ y.2 j = M.rouse (x.2 j)

theorem Step.moved (h : Step M x y) : ∃ t p, Moved M x y t p ∧
    (M.turn x.1 (x.2 t) y.1 p ∨ y.1 = x.1 ∧ ∃ n, M.waking (x.2 t) = some (n, p)) := by
  cases h with
  | turn t hturn =>
    refine ⟨t, _, ⟨update_self t _ _, fun j hj => .inl (update_of_ne hj ..)⟩, .inl hturn⟩
  | @wake s n p own t R hwaking hR _ =>
    refine ⟨t, p, ⟨by dsimp only; rw [update_self], fun j hj => ?_⟩, .inr ⟨rfl, n, hwaking⟩⟩
    dsimp only
    rw [update_of_ne hj]
    by_cases hjR : j ∈ R
    · exact .inr ⟨hR j hjR, if_pos hjR⟩
    · exact .inl (if_neg hjR)

omit [DecidableEq T] in
theorem Moved.iff {t : T} {p : φ} (h : Moved M x y t p) {P : φ → Prop}
    (hP : ∀ p, M.asleep p → (P (M.rouse p) ↔ P p)) (j : T) (hj : j ≠ t) :
    P (y.2 j) ↔ P (x.2 j) := by
  rcases h.other j hj with heq | ⟨hasleep, heq⟩
  · rw [heq]
  · rw [heq]
    exact hP _ hasleep

theorem Moved.sum_add [Fintype T] (h : Moved M x y t p) (f : φ → ℕ)
    (hf : ∀ p, M.asleep p → f (M.rouse p) = f p) :
    ∑ j, f (y.2 j) + f (x.2 t) = ∑ j, f (x.2 j) + f p := by
  have hrest : ∑ j ∈ univ.erase t, f (y.2 j) = ∑ j ∈ univ.erase t, f (x.2 j) := by
    refine sum_congr rfl fun j hj => ?_
    rcases h.other j (ne_of_mem_erase hj) with heq | ⟨hasleep, heq⟩
    · rw [heq]
    · rw [heq, hf _ hasleep]
  rw [← sum_erase_add _ _ (mem_univ t), ← sum_erase_add _ (fun j => f (x.2 j))
    (mem_univ t), hrest, h.own, Nat.add_right_comm]

/-- The sum over the threads, when a wake adds one for each thread that it rouses. -/
theorem wake_sum [Fintype T] {own : T → φ} {R : Finset T} (ht : t ∉ R) (p : φ) (f : φ → ℕ)
    (hf : ∀ j ∈ R, f (M.rouse (own j)) = f (own j) + 1) :
    ∑ j, f (update (fun j => if j ∈ R then M.rouse (own j) else own j) t p j) + f (own t) =
      ∑ j, f (own j) + R.card + f p := by
  have hterm : ∀ j, f (if j ∈ R then M.rouse (own j) else own j) =
      f (own j) + if j ∈ R then 1 else 0 := by
    intro j
    by_cases hR : j ∈ R
    · rw [if_pos hR, if_pos hR, hf j hR]
    · rw [if_neg hR, if_neg hR, Nat.add_zero]
  have hsum := sum_update f (fun j => if j ∈ R then M.rouse (own j) else own j) t p
  simp only [hterm, if_neg ht, sum_add_distrib, ← card_filter, filter_mem_eq_inter,
    univ_inter] at hsum
  exact hsum

theorem Moved.tally_add [Fintype T] (h : Moved M x y t p) (f : φ → Bool)
    (hf : ∀ p, M.asleep p → f (M.rouse p) = f p) :
    tally (fun p => f p = true) y.2 + (f (x.2 t)).toNat =
      tally (fun p => f p = true) x.2 + (f p).toNat := by
  have hite : ∀ b : Bool, (if b = true then 1 else 0) = b.toNat := by decide
  simp only [tally, card_filter, hite]
  exact h.sum_add (fun p => (f p).toNat) fun p hp => by rw [hf p hp]

structure Token (taken : σ → Prop) (has : φ → Prop) (x : σ × (T → φ)) : Prop where
  taken : taken x.1 ↔ ∃ t, has (x.2 t)
  unique : ∀ t u, has (x.2 t) → has (x.2 u) → t = u

theorem Reachable.token (hinit : ∀ x, init x → ¬ taken x.1 ∧ ∀ t, ¬ has (x.2 t))
    (hrouse : ∀ p, M.asleep p → (has (M.rouse p) ↔ has p))
    (hwaking : ∀ p n q, M.waking p = some (n, q) → (has p ↔ has q))
    (hturn : ∀ x t s' p', Reachable init (Step M) x → M.turn x.1 (x.2 t) s' p' →
      ((taken s' ↔ taken x.1) ∧ (has p' ↔ has (x.2 t))) ∨ (¬ taken x.1 ∧ taken s' ∧ has p') ∨
        (has (x.2 t) ∧ ¬ taken s' ∧ ¬ has p'))
    (h : Reachable init (Step M) x) : Token taken has x := by
  induction h with
  | start h => exact ⟨iff_of_false (hinit _ h).1 fun ⟨t, ht⟩ => (hinit _ h).2 t ht,
      fun t _ ht => absurd ht ((hinit _ h).2 t)⟩
  | @next x y hx hs ih =>
    obtain ⟨t, p, hm, hcase⟩ := hs.moved
    have hother := hm.iff hrouse
    -- either nothing changes for anyone, or the token is taken or given back by `t`
    have hkeep : (taken y.1 ↔ taken x.1) → (has p ↔ has (x.2 t)) → Token taken has y := by
      intro htaken hhas
      have hall : ∀ j, has (y.2 j) ↔ has (x.2 j) := by
        intro j
        by_cases hj : j = t
        · rw [hj, hm.own, hhas]
        · exact hother j hj
      exact ⟨by simp only [htaken, ih.taken, hall], fun t u ht hu =>
        ih.unique t u ((hall t).mp ht) ((hall u).mp hu)⟩
    rcases hcase with hturn' | ⟨heq, n, hwake⟩
    · rcases hturn x t y.1 p hx hturn' with ⟨htaken, hhas⟩ | ⟨hfree, htaken, hhas⟩ |
        ⟨hhas, hfree, hnot⟩
      · exact hkeep htaken hhas
      · have hnone : ∀ j ≠ t, ¬ has (y.2 j) := fun j hj hj' =>
          hfree (ih.taken.mpr ⟨j, (hother j hj).mp hj'⟩)
        have heq : ∀ j, has (y.2 j) → j = t := fun j hj' => by_contra fun hj => hnone j hj hj'
        exact ⟨iff_of_true htaken ⟨t, by rw [hm.own]; exact hhas⟩, fun u v hu hv =>
          (heq u hu).trans (heq v hv).symm⟩
      · have hnone : ∀ j, ¬ has (y.2 j) := by
          intro j hj'
          by_cases hj : j = t
          · rw [hj, hm.own] at hj'
            exact hnot hj'
          · exact hj (ih.unique j t ((hother j hj).mp hj') hhas)
        exact ⟨iff_of_false hfree fun ⟨j, hj⟩ => hnone j hj, fun u _ hu => absurd hu (hnone u)⟩
    · exact hkeep (by rw [heq]) (hwaking _ _ _ hwake).symm

/-- Threads sleep only while the word is `closed`; when it is opened a wake is due, unless nobody
sleeps, and a thread that is woken alone tries again. -/
theorem Reachable.covered (closed : σ → Prop) (retry : φ → Prop) (hM : M.Lawful)
    (hinit : ∀ x, init x → ∀ j, ¬ M.asleep (x.2 j))
    (hsleep : ∀ x t s' p', Reachable init (Step M) x → M.turn x.1 (x.2 t) s' p' → M.asleep p' →
      closed s')
    (hretry : ∀ x t s' p', Reachable init (Step M) x → M.turn x.1 (x.2 t) s' p' → retry (x.2 t) →
      retry p' ∨ closed s')
    (hwoken : ∀ x t n q, Reachable init (Step M) x → M.waking (x.2 t) = some (n, q) →
      n = none ∨ n ≠ some 0 ∧ ∀ p, M.asleep p → retry (M.rouse p))
    (hopen : ∀ x t s' p', Reachable init (Step M) x → M.turn x.1 (x.2 t) s' p' → closed x.1 →
      closed s' ∨ (M.waking p').isSome ∨ ∀ j, ¬ M.asleep (x.2 j))
    (h : Reachable init (Step M) x) : (∃ j, M.asleep (x.2 j)) →
      closed x.1 ∨ (∃ t, (M.waking (x.2 t)).isSome) ∨ ∃ t, retry (x.2 t) := by
  induction h with
  | start h => exact fun ⟨j, hj⟩ => absurd hj (hinit _ h j)
  | next hx hs ih =>
    rintro ⟨j, hj⟩
    cases hs with
    | @turn s s' p own t hturn =>
      dsimp only at hj ⊢
      by_cases hjt : j = t
      · subst hjt
        rw [update_self] at hj
        exact .inl (hsleep _ j s' p hx hturn hj)
      rw [update_of_ne hjt] at hj
      rcases ih ⟨j, hj⟩ with hclosed | ⟨u, hu⟩ | ⟨u, hu⟩
      · rcases hopen _ t s' p hx hturn hclosed with hclosed' | hwake | hnone
        · exact .inl hclosed'
        · exact .inr (.inl ⟨t, by rw [update_self]; exact hwake⟩)
        · exact absurd hj (hnone j)
      · have hne : u ≠ t := by
          rintro rfl
          rw [hM.turn hturn] at hu
          exact Bool.false_ne_true hu
        exact .inr (.inl ⟨u, by rw [update_of_ne hne]; exact hu⟩)
      · by_cases hut : u = t
        · subst hut
          rcases hretry _ u s' p hx hturn hu with hretry' | hclosed
          · exact .inr (.inr ⟨u, by rw [update_self]; exact hretry'⟩)
          · exact .inl hclosed
        · exact .inr (.inr ⟨u, by rw [update_of_ne hut]; exact hu⟩)
    | @wake s n p own t R hwaking hR hall =>
      dsimp only at hj ⊢
      have hne : ∀ k, M.asleep (own k) → k ≠ t := by
        rintro k hk rfl
        exact (hM.waking hwaking).1 hk
      have hjt : j ≠ t := by
        rintro rfl
        rw [update_self] at hj
        exact (hM.waking hwaking).2 hj
      rw [update_of_ne hjt] at hj
      have hjR : j ∉ R := by
        intro hjR
        rw [if_pos hjR] at hj
        exact hM.rouse (hR j hjR) hj
      rw [if_neg hjR] at hj
      -- a sleeper is left, so the number was limited and someone else was woken
      have hn : n = some R.card := hall.resolve_right fun hall => hjR (hall.1 j hj)
      obtain hnone | ⟨hzero, hrouse⟩ := hwoken _ t n p hx hwaking
      · rw [hnone] at hn
        cases hn
      obtain ⟨k, hk⟩ : R.Nonempty := by
        rw [← card_ne_zero]
        exact fun hcard => hzero (by rw [hn, hcard])
      refine .inr (.inr ⟨k, ?_⟩)
      rw [update_of_ne (hne k (hR k hk)), if_pos hk]
      exact hrouse _ (hR k hk)

end Futex
