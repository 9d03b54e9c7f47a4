import Mathlib.Data.List.Basic
import Mathlib.Order.Nat

/-! # Conversions with an output limit

A conversion reads items one after the other. Each is turned into one or more output units,
or ends the source, or is malformed. With a limit on the output it also stops when the limit
is used up or the next item does not fit. -/
namespace LimitedConversion

open List

inductive Next (ω σ : Type*) where
  | emit (out : { l : List ω // l ≠ [] }) (s : σ)
  | finish
  | malformed (s : σ)

inductive Stop (σ : Type*) where
  | full (s : σ)
  | finished
  | malformed (s : σ)

structure Out (ω σ : Type*) where
  written : List ω
  left : ℕ
  stop : Stop σ

variable {ω σ : Type*} {next : σ → Next ω σ}

def Out.prepend (us : List ω) (o : Out ω σ) : Out ω σ := { o with written := us ++ o.written }

def convert (next : σ → Next ω σ) (n : ℕ) (s : σ) : Out ω σ :=
  if n = 0 then ⟨[], n, .full s⟩
  else match next s with
  | .finish => ⟨[], n, .finished⟩
  | .malformed t => ⟨[], n, .malformed t⟩
  | .emit out t =>
    if out.val.length > n then ⟨[], n, .full s⟩
    else (convert next (n - out.val.length) t).prepend out
termination_by n
decreasing_by
  have := List.length_pos_iff.mpr out.property
  omega

inductive Chain (next : σ → Next ω σ) : σ → List ω → σ → Prop where
  | nil (s) : Chain next s [] s
  | cons {s out t us u} : next s = .emit out t → Chain next t us u → Chain next s (out.val ++ us) u

def Ends (next : σ → Next ω σ) (s : σ) (us : List ω) : Prop :=
  ∃ t, Chain next s us t ∧ next t = .finish

/-- Nothing fits into a limit of `n` after the units `us`, which lead to `t`. -/
def Fills (next : σ → Next ω σ) (n : ℕ) (us : List ω) (t : σ) : Prop :=
  us.length = n ∨ ∃ out u, next t = .emit out u ∧ n < us.length + out.val.length

theorem Chain.trans (h : Chain next s us t) (h' : Chain next t vs u) :
    Chain next s (us ++ vs) u := by
  induction h with
  | nil s => exact h'
  | cons hs _ ih =>
    rw [append_assoc]
    exact .cons hs (ih h')

theorem Chain.snoc (h : Chain next s us t) (ht : next t = .emit out u) :
    Chain next s (us ++ out.val) u := by
  have hone : Chain next t (out.val ++ []) u := .cons ht (.nil u)
  rw [append_nil] at hone
  exact h.trans hone

theorem Ends.of_emit (h : Ends next s us) (hs : next s = .emit out t) :
    ∃ vs, us = out.val ++ vs ∧ Ends next t vs := by
  obtain ⟨u, hchain, hu⟩ := h
  cases hchain with
  | nil =>
    rw [hs] at hu
    cases hu
  | cons hs' hrest =>
    rw [hs] at hs'
    cases hs'
    exact ⟨_, rfl, u, hrest, hu⟩

theorem Ends.of_finish (h : Ends next s us) (hs : next s = .finish) : us = [] := by
  obtain ⟨u, hchain, hu⟩ := h
  cases hchain with
  | nil => rfl
  | cons hs' =>
    rw [hs] at hs'
    cases hs'

/-- The item after the units `us` is `x`, which is not turned into output. -/
def Halts (next : σ → Next ω σ) (s : σ) (us : List ω) (x : Next ω σ) : Prop :=
  (∀ out u, x ≠ .emit out u) ∧ ∃ t, Chain next s us t ∧ next t = x

theorem Ends.halts (h : Ends next s us) : Halts next s us .finish := by
  refine ⟨?_, h⟩
  intro out u heq
  cases heq

theorem Halts.of_emit (h : Halts next s us x) (hs : next s = .emit out t) :
    ∃ vs, us = out.val ++ vs ∧ Halts next t vs x := by
  obtain ⟨hx, u, hchain, hu⟩ := h
  cases hchain with
  | nil => exact absurd (hu.symm.trans hs) (hx out t)
  | cons hs' hrest =>
    rw [hs] at hs'
    cases hs'
    exact ⟨_, rfl, hx, u, hrest, hu⟩

theorem Halts.of_stop (h : Halts next s us x) (hs : ∀ out u, next s ≠ .emit out u) :
    us = [] ∧ x = next s := by
  obtain ⟨hx, u, hchain, hu⟩ := h
  cases hchain with
  | nil => exact ⟨rfl, hu.symm⟩
  | cons hs' => exact absurd hs' (hs _ _)

theorem prepend_prepend (us vs : List ω) (o : Out ω σ) :
    (o.prepend vs).prepend us = o.prepend (us ++ vs) := by
  simp [Out.prepend]

theorem convert_zero (s : σ) : convert next 0 s = ⟨[], 0, .full s⟩ := by
  rw [convert, if_pos rfl]

theorem convert_finish (hn : 0 < n) (h : next s = .finish) :
    convert next n s = ⟨[], n, .finished⟩ := by
  rw [convert, if_neg (by omega), h]

theorem convert_malformed (hn : 0 < n) (h : next s = .malformed t) :
    convert next n s = ⟨[], n, .malformed t⟩ := by
  rw [convert, if_neg (by omega), h]

theorem convert_emit (h : next s = .emit out t) (hn : out.val.length ≤ n) :
    convert next n s = (convert next (n - out.val.length) t).prepend out := by
  have := length_pos_iff.mpr out.property
  rw [convert, if_neg (by omega), h]
  exact if_neg (by omega)

theorem convert_fills (h : Fills next n [] s) : convert next n s = ⟨[], n, .full s⟩ := by
  rcases h with h | ⟨out, u, hs, hlt⟩
  · obtain rfl : n = 0 := by simpa using h.symm
    exact convert_zero s
  · have hlt' : out.val.length > n := by simpa using hlt
    rw [convert]
    split
    · rfl
    · rw [hs]
      exact if_pos hlt'

theorem convert_chain (h : Chain next s us t) :
    ∀ {n : ℕ}, us.length ≤ n → convert next n s = (convert next (n - us.length) t).prepend us := by
  induction h with
  | nil s => intro n _; rfl
  | cons hs _ ih =>
    intro n hn
    rw [length_append] at hn
    rw [convert_emit hs (by omega), ih (by omega), prepend_prepend, length_append, Nat.sub_sub]

section

variable (next : σ → Next ω σ) (n : ℕ) (s : σ)

theorem convert_left : (convert next n s).written.length + (convert next n s).left = n := by
  fun_induction convert next n s with
  | case1 | case2 | case3 | case4 => simp
  | case5 n s hn out t _ hle ih =>
    simp only [Out.prepend, length_append]
    omega

def Explains (o : Out ω σ) : Stop σ → Prop
  | .full t => Chain next s o.written t ∧ Fills next n o.written t
  | .finished => o.written.length < n ∧ Ends next s o.written
  | .malformed u => o.written.length < n ∧ ∃ t, Chain next s o.written t ∧ next t = .malformed u

theorem convert_explained : Explains next n s (convert next n s) (convert next n s).stop := by
  fun_induction convert next n s with
  | case1 s => exact ⟨.nil _, .inl rfl⟩
  | case2 n s hn hs => exact ⟨by simp; omega, s, .nil _, hs⟩
  | case3 n s hn t hs => exact ⟨by simp; omega, s, .nil _, hs⟩
  | case4 n s hn out t hs hlt => exact ⟨.nil _, .inr ⟨out, t, hs, by simpa using hlt⟩⟩
  | case5 n s hn out t hs hle ih =>
    generalize convert next (n - out.val.length) t = o at ih
    obtain ⟨written, left, stop⟩ := o
    simp only [Out.prepend]
    cases stop with
    | full u =>
      refine ⟨.cons hs ih.1, ?_⟩
      rcases ih.2 with hfull | ⟨out', u', hu, hlt⟩
      · exact .inl (by simp only [length_append]; dsimp only at hfull; omega)
      · refine .inr ⟨out', u', hu, ?_⟩
        simp only [length_append]
        dsimp only at hlt
        omega
    | finished =>
      obtain ⟨hlt, u, hchain, hu⟩ := ih
      refine ⟨?_, u, .cons hs hchain, hu⟩
      simp only [length_append]
      dsimp only at hlt
      omega
    | malformed u =>
      obtain ⟨hlt, u', hchain, hu⟩ := ih
      refine ⟨?_, u', .cons hs hchain, hu⟩
      simp only [length_append]
      dsimp only at hlt
      omega

end

theorem convert_ends (h : Ends next s us) (hn : us.length < n) :
    convert next n s = ⟨us, n - us.length, .finished⟩ := by
  obtain ⟨t, hchain, ht⟩ := h
  rw [convert_chain hchain hn.le, convert_finish (by omega) ht]
  simp [Out.prepend]

theorem convert_full (h : Chain next s us t) (hfill : Fills next dst us t) (hn : us.length ≤ n)
    (hle : n ≤ dst) : convert next n s = ⟨us, n - us.length, .full t⟩ := by
  have hfill' : Fills next (n - us.length) [] t := by
    rcases hfill with heq | ⟨out, u, ht, hlt⟩
    · exact .inl (by simp only [length_nil]; omega)
    · exact .inr ⟨out, u, ht, by omega⟩
  rw [convert_chain h hn, convert_fills hfill']
  simp [Out.prepend]

end LimitedConversion
