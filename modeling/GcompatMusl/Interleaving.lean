import Mathlib.Data.Fintype.Card
import Mathlib.Algebra.BigOperators.Group.Finset.Piecewise

/-! # Interleaved threads

The states a step relation reaches from its initial states, the invariant rule for them, and
the number of threads in a given kind of phase. -/
namespace Interleaving

open Function Finset

section Reachability

variable {σ : Type*}

inductive Reachable (init : σ → Prop) (step : σ → σ → Prop) : σ → Prop where
  | start {s} : init s → Reachable init step s
  | next {s t} : Reachable init step s → step s t → Reachable init step t

theorem Reachable.invariant {I : σ → Prop} (hinit : ∀ s, init s → I s)
    (hstep : ∀ s t, I s → step s t → I t) {s : σ} (h : Reachable init step s) : I s := by
  induction h with
  | start h => exact hinit _ h
  | next _ hs ih => exact hstep _ _ ih hs

end Reachability

section Threads

variable {T σ φ : Type*} [DecidableEq T]

inductive Moves (turn : T → σ → φ → σ → φ → Prop) : σ × (T → φ) → σ × (T → φ) → Prop where
  | turn {t s s' own p} : turn t s (own t) s' p → Moves turn (s, own) (s', Function.update own t p)

theorem Reachable.turn {turn : T → σ → φ → σ → φ → Prop} {init : σ × (T → φ) → Prop}
    (h : Reachable init (Moves turn) (s, own)) (t : T) (hturn : turn t s (own t) s' p) :
    Reachable init (Moves turn) (s', Function.update own t p) :=
  h.next (.turn hturn)

/-- A turn has to keep the shared part, the part of its own thread and, as an interference
from outside, the part of every other thread. -/
theorem Reachable.modular {turn : T → σ → φ → σ → φ → Prop} {init : σ × (T → φ) → Prop}
    {G : σ → Prop} {L : T → σ → φ → Prop}
    (hinit : ∀ s own, init (s, own) → G s ∧ ∀ t, L t s (own t))
    (hown : ∀ t s p s' p', G s → L t s p → turn t s p s' p' → G s' ∧ L t s' p')
    (hother : ∀ t u s p q s' p', u ≠ t → G s → L t s p → L u s q → turn t s p s' p' → L u s' q)
    {x : σ × (T → φ)} (h : Reachable init (Moves turn) x) : G x.1 ∧ ∀ t, L t x.1 (x.2 t) := by
  refine h.invariant (I := fun x => G x.1 ∧ ∀ t, L t x.1 (x.2 t)) (fun s hs => hinit _ _ hs) ?_
  rintro _ _ ⟨hG, hL⟩ (@⟨t, s, s', own, p, hturn⟩)
  obtain ⟨hG', hL'⟩ := hown t s (own t) s' p hG (hL t) hturn
  refine ⟨hG', fun u => ?_⟩
  by_cases hu : u = t
  · subst hu
    simpa using hL'
  · simpa [hu] using hother t u s (own t) (own u) s' p hu hG (hL t) (hL u) hturn

end Threads

section Tally

variable {T φ : Type*} [Fintype T]

/-- The number of threads whose phase satisfies `P`. -/
def tally (P : φ → Prop) [DecidablePred P] (phase : T → φ) : ℕ :=
  (univ.filter fun i => P (phase i)).card

theorem sum_update [DecidableEq T] (f : φ → ℕ) (phase : T → φ) (t : T) (p : φ) :
    ∑ j, f (update phase t p j) + f (phase t) = ∑ j, f (phase j) + f p := by
  have hrest : ∑ j ∈ univ.erase t, f (update phase t p j) = ∑ j ∈ univ.erase t, f (phase j) := by
    refine sum_congr rfl fun j hj => ?_
    rw [update_of_ne (ne_of_mem_erase hj)]
  rw [← sum_erase_add _ _ (mem_univ t), ← sum_erase_add _ (fun j => f (phase j)) (mem_univ t),
    hrest, update_self, Nat.add_right_comm]

end Tally

end Interleaving
