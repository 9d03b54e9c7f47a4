import Mathlib.Data.List.Basic
import Mathlib.Order.Nat

/-! # Conversions that can be resumed

A decoder takes items off the front of its input, and may find that the input ends within an item.
When more input behind does not change what it makes of the input, the items found do not depend on
how the input is divided up. -/
namespace ResumableConversion

inductive Item (σ ω : Type*) where
  | emit (l : ℕ) (out : List ω) (s : σ)
  | starved
  | bad

structure Decoder (σ α ω : Type*) where
  next : σ → List α → Item σ ω
  stable : ∀ {s xs}, next s xs ≠ .starved → ∀ ys, next s (xs ++ ys) = next s xs
  bound : ∀ {s xs l out t}, next s xs = .emit l out t → l ≤ xs.length

variable {σ α ω : Type*} {D : Decoder σ α ω}

/-- From a state and an input the items with the output `us` lead to another state and what is left
of the input. -/
inductive Path (D : Decoder σ α ω) : σ → List α → List ω → σ → List α → Prop where
  | nil (s xs) : Path D s xs [] s xs
  | cons {s xs l out t us u ys} : D.next s xs = .emit l out t → Path D t (xs.drop l) us u ys →
      Path D s xs (out ++ us) u ys

def Final (D : Decoder σ α ω) (s : σ) (xs : List α) : Prop := ∀ l out t, D.next s xs ≠ .emit l out t

theorem Path.trans (h : Path D s xs us t ys) (h' : Path D t ys vs u zs) :
    Path D s xs (us ++ vs) u zs := by
  induction h with
  | nil => exact h'
  | cons hs _ ih =>
    rw [List.append_assoc]
    exact .cons hs (ih h')

theorem next_append (h : D.next s xs = .emit l out t) (ys : List α) :
    D.next s (xs ++ ys) = .emit l out t := by
  have hne : D.next s xs ≠ .starved := by
    rw [h]
    exact nofun
  rw [D.stable hne ys, h]

theorem Path.append (h : Path D s xs us t ys) (zs : List α) :
    Path D s (xs ++ zs) us t (ys ++ zs) := by
  induction h with
  | nil s xs => exact .nil _ _
  | cons hs _ ih =>
    refine .cons (next_append hs zs) ?_
    rw [List.drop_append_of_le_length (D.bound hs)]
    exact ih

theorem Path.unique (h : Path D s xs us t ys) (ht : Final D t ys) (h' : Path D s xs us' t' ys')
    (ht' : Final D t' ys') : us = us' ∧ t = t' ∧ ys = ys' := by
  induction h generalizing us' with
  | nil s xs =>
    cases h' with
    | nil => exact ⟨rfl, rfl, rfl⟩
    | cons hs => exact absurd hs (ht _ _ _)
  | cons hs _ ih =>
    cases h' with
    | nil => exact absurd hs (ht' _ _ _)
    | cons hs' hrest =>
      rw [hs] at hs'
      cases hs'
      obtain ⟨rfl, rfl, rfl⟩ := ih ht hrest
      exact ⟨rfl, rfl, rfl⟩

theorem Final.append (h : D.next s xs = .bad) (ys : List α) : Final D s (xs ++ ys) := by
  have hne : D.next s xs ≠ .starved := by
    rw [h]
    exact nofun
  intro l out t heq
  rw [D.stable hne ys, h] at heq
  cases heq

end ResumableConversion
