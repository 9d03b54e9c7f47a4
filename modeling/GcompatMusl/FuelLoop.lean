import Mathlib.Tactic.Common

/-! # Loops with a bounded number of turns

A loop body either returns or hands on a new state. -/
namespace FuelLoop

inductive Turn (ρ σ : Type*) where
  | ret (r : ρ)
  | again (s : σ)

variable {ρ σ : Type*}

def loop (turn : σ → Turn ρ σ) : ℕ → σ → Turn ρ σ
  | 0, s => .again s
  | fuel + 1, s =>
    match turn s with
    | .ret r => .ret r
    | .again s' => loop turn fuel s'

theorem loop_ret {s : σ} {r : ρ} (h : turn s = .ret r) (fuel : ℕ) :
    loop turn (fuel + 1) s = .ret r := by
  simp only [loop, h]

theorem loop_again (h : turn s = .again s') (fuel : ℕ) :
    loop turn (fuel + 1) s = loop turn fuel s' := by
  simp only [loop, h]

def Outcome (I : σ → Prop) (Q : ρ → Prop) : Turn ρ σ → Prop
  | .ret r => Q r
  | .again s => I s

theorem loop_counted (turn : σ → Turn ρ σ) (I : ℕ → σ → Prop) (Q : ρ → Prop)
    (hturn : ∀ n s, I n s → Outcome (I (n + 1)) Q (turn s)) :
    ∀ fuel n s, I n s → Outcome (I (n + fuel)) Q (loop turn fuel s) := by
  intro fuel
  induction fuel with
  | zero => intro n s hI; exact hI
  | succ fuel ih =>
    intro n s hI
    have ho := hturn n s hI
    cases ht : turn s with
    | ret r =>
      rw [ht] at ho
      rw [loop_ret ht]
      exact ho
    | again s' =>
      rw [ht] at ho
      rw [loop_again ht, Nat.add_comm fuel, ← Nat.add_assoc]
      exact ih (n + 1) s' ho

/-- What the body keeps from turn to turn, and what it guarantees on return, holds after any
number of turns. -/
theorem loop_rule (turn : σ → Turn ρ σ) (I : σ → Prop) (Q : ρ → Prop)
    (hturn : ∀ s, I s → Outcome I Q (turn s)) :
    ∀ fuel s, I s → Outcome I Q (loop turn fuel s) :=
  fun fuel s => loop_counted turn (fun _ => I) Q (fun _ => hturn) fuel 0 s

/-- The loop returns `r` when it is given enough turns. -/
def Returns (turn : σ → Turn ρ σ) (s : σ) (r : ρ) : Prop := ∃ fuel, loop turn fuel s = .ret r

theorem Returns.ret {s : σ} {r : ρ} (h : turn s = .ret r) : Returns turn s r := ⟨1, loop_ret h 0⟩

theorem Returns.again {s s' : σ} {r : ρ} (h : turn s = .again s') (hr : Returns turn s' r) :
    Returns turn s r := by
  obtain ⟨fuel, hfuel⟩ := hr
  exact ⟨fuel + 1, by rw [loop_again h, hfuel]⟩

def Turn.result : Turn ρ σ → Option ρ
  | .ret r => some r
  | .again _ => none

theorem loop_more : ∀ {s : σ}, loop turn n s = .ret r → ∀ k, loop turn (n + k) s = .ret r := by
  induction n with
  | zero => intro s h k; cases h
  | succ n ih =>
    intro s h k
    rw [Nat.add_right_comm]
    cases ht : turn s with
    | ret r' =>
      rw [loop_ret ht] at h ⊢
      exact h
    | again s' =>
      rw [loop_again ht] at h ⊢
      exact ih h k

theorem Returns.unique (h : Returns turn s r) (h' : (loop turn fuel s).result = some r') :
    r' = r := by
  obtain ⟨n, hn⟩ := h
  cases hl : loop turn fuel s with
  | again t =>
    rw [hl] at h'
    cases h'
  | ret x =>
    rw [hl] at h'
    have hx : x = r' := Option.some.inj h'
    have hfirst := loop_more hl n
    rw [Nat.add_comm, loop_more hn fuel] at hfirst
    cases hfirst
    exact hx.symm

theorem Returns.eventually (h : Returns turn s r) :
    ∃ n, ∀ fuel ≥ n, (loop turn fuel s).result = some r := by
  obtain ⟨n, hn⟩ := h
  refine ⟨n, fun fuel hfuel => ?_⟩
  rw [← Nat.add_sub_cancel' hfuel, loop_more hn]
  rfl

theorem returns_of_wellFounded (hwf : WellFounded r) (I : σ → Prop) (Q : ρ → Prop)
    (hturn : ∀ s, I s → (∃ x, turn s = .ret x ∧ Q x) ∨ ∃ s', turn s = .again s' ∧ I s' ∧ r s' s) :
    ∀ s, I s → ∃ x, Returns turn s x ∧ Q x := by
  intro s
  induction s using hwf.induction with
  | _ s ih =>
    intro hI
    rcases hturn s hI with ⟨x, hx, hQ⟩ | ⟨s', hs', hI', hlt⟩
    · exact ⟨x, .ret hx, hQ⟩
    · obtain ⟨x, hx, hQ⟩ := ih s' hlt hI'
      exact ⟨x, .again hs' hx, hQ⟩

theorem Returns.simulate {ρ' σ' : Type*} {turn' : σ' → Turn ρ' σ'} {R : σ → σ' → Prop}
    {Q : ρ → ρ' → Prop}
    (hret : ∀ s s' r', R s s' → turn' s' = .ret r' → ∃ r, turn s = .ret r ∧ Q r r')
    (hagain : ∀ s s' t', R s s' → turn' s' = .again t' → ∃ t, turn s = .again t ∧ R t t')
    {s : σ} {s' : σ'} {r' : ρ'} (hR : R s s') (h : Returns turn' s' r') :
    ∃ r, Returns turn s r ∧ Q r r' := by
  obtain ⟨fuel, hfuel⟩ := h
  induction fuel generalizing s s' with
  | zero => cases hfuel
  | succ fuel ih =>
    cases ht : turn' s' with
    | ret x =>
      rw [loop_ret ht] at hfuel
      cases hfuel
      obtain ⟨r, hr, hQ⟩ := hret s s' r' hR ht
      exact ⟨r, .ret hr, hQ⟩
    | again t' =>
      rw [loop_again ht] at hfuel
      obtain ⟨t, hs, hRt⟩ := hagain s s' t' hR ht
      obtain ⟨r, hr, hQ⟩ := ih hRt hfuel
      exact ⟨r, .again hs hr, hQ⟩

/-- If `n` turns can be led on and the next one returns, the loop returns. -/
theorem loop_reaches (turn : σ → Turn ρ σ) (I : ℕ → σ → Prop) (Q : ρ → Prop)
    (hagain : ∀ j < n, ∀ s, I j s → ∃ s', turn s = .again s' ∧ I (j + 1) s')
    (hret : ∀ s, I n s → ∃ r, turn s = .ret r ∧ Q r) :
    ∀ s, I 0 s → ∃ r, loop turn (n + 1) s = .ret r ∧ Q r := by
  induction n generalizing I with
  | zero =>
    intro s hI
    obtain ⟨r, hr, hQ⟩ := hret s hI
    exact ⟨r, loop_ret hr 0, hQ⟩
  | succ n ih =>
    intro s hI
    obtain ⟨s', hs, hI'⟩ := hagain 0 (by omega) s hI
    rw [loop_again hs]
    apply ih (fun j => I (j + 1)) _ hret s' hI'
    intro j hj
    exact hagain (j + 1) (by omega)

end FuelLoop
