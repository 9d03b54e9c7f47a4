import GcompatMusl.Futex

/-! # pthread_once

Any number of threads call `pthread_once` on one control word. A phase names the next access of a
thread, and `completed` counts the init routines that have come to their end. -/
namespace Once

open Interleaving Futex

inductive Phase where
  | outside
  | test
  | cas
  | init
  | undo
  | finish
  | wakeAll (canceled : Bool)
  | mark
  | wait
  | futex
  | asleep
  | returned
  | gone
  deriving DecidableEq

structure Control where
  word : ℕ
  completed : ℕ

/-- The loop of `__wait` goes on as long as it reads 3; its spinning reads change nothing. -/
inductive Turn : Control → Phase → Control → Phase → Prop where
  | call : Turn s .outside s .test
  | callAgain : Turn s .returned s .test
  | done : s.word = 2 → Turn s .test s .returned
  | full : s.word ≠ 2 → Turn s .test s .cas
  | enter : s.word = 0 → Turn s .cas { s with word := 1 } .init
  | running : s.word = 1 → Turn s .cas s .mark
  | finished : s.word = 2 → Turn s .cas s .returned
  | waiters : s.word = 3 → Turn s .cas s .wait
  | cancel : Turn s .init s .undo
  | complete : Turn s .init { s with completed := s.completed + 1 } .finish
  | undone : Turn s .undo { s with word := 0 } (if s.word = 3 then .wakeAll true else .gone)
  | swapped : Turn s .finish { s with word := 2 } (if s.word = 3 then .wakeAll false else .returned)
  | marked : Turn s .mark { s with word := if s.word = 1 then 3 else s.word } .wait
  | look : s.word = 3 → Turn s .wait s .futex
  | changed : s.word ≠ 3 → Turn s .wait s .cas
  | sleep : s.word = 3 → Turn s .futex s .asleep
  | refused : Turn s .futex s .wait
  | spurious : Turn s .asleep s .wait

def waking : Phase → Option (Option ℕ × Phase)
  | .wakeAll true => some (none, .gone)
  | .wakeAll false => some (none, .returned)
  | _ => none

def machine : Machine Control Phase := ⟨Turn, (· = .asleep), fun _ => .wait, waking⟩

/-- The thread is between its `a_cas` and the swap that follows the init routine. -/
def Inside (p : Phase) : Prop := p = .init ∨ p = .undo ∨ p = .finish

def Initial {T : Type*} (x : Control × (T → Phase)) : Prop := x = (⟨0, 0⟩, fun _ => .outside)

variable {T : Type*} [DecidableEq T] {x : Control × (T → Phase)}

theorem lawful : machine.Lawful := by
  refine ⟨fun h => ?_, fun {p n q} h => ?_, fun _ => nofun⟩
  · cases h <;> rfl
  · cases p <;> first | cases h | (rename_i c; cases c <;> cases h <;> exact ⟨nofun, nofun⟩)

def Busy (s : Control) : Prop := s.word = 1 ∨ s.word = 3

theorem token (h : Reachable Initial (Step machine) x) : Token Busy Inside x := by
  refine Reachable.token ?_ ?_ ?_ ?_ h
  · rintro _ rfl
    simp [Busy, Inside]
  · rintro _ rfl
    simp [machine, Inside]
  · intro p n q hp
    cases p <;> first | cases hp | (rename_i c; cases c <;> cases hp <;> simp [Inside])
  · intro x t s' p' _ hturn
    generalize x.2 t = p at hturn
    cases hturn with
    | enter h => exact .inr (.inl ⟨by simp [Busy, h], .inl rfl, .inl rfl⟩)
    | undone =>
      refine .inr (.inr ⟨.inr (.inl rfl), by simp [Busy], ?_⟩)
      split_ifs <;> simp [Inside]
    | swapped =>
      refine .inr (.inr ⟨.inr (.inr rfl), by simp [Busy], ?_⟩)
      split_ifs <;> simp [Inside]
    | marked => exact .inl ⟨by simp only [Busy]; split_ifs <;> simp_all, by simp [Inside]⟩
    | _ => exact .inl ⟨Iff.rfl, by simp [Inside]⟩

def Before (p : Phase) : Prop := p = .init ∨ p = .undo

def After (p : Phase) : Prop := p = .finish ∨ p = .returned ∨ p = .wakeAll false

structure Total (s : Control) : Prop where
  free : s.word = 0 → s.completed = 0
  done : s.word = 2 → s.completed = 1
  word : s.word ≤ 3

structure Seen (s : Control) (p : Phase) : Prop where
  before : Before p → s.completed = 0
  after : After p → s.completed = 1

theorem Total.turn (h : Total s) (hp : Seen s p)
    (hbusy : Inside p → Busy s) (hturn : Turn s p s' p') :
    Total s' ∧ Seen s' p' ∧ (s'.completed = s.completed ∨ p = .init) := by
  obtain ⟨hbefore, hafter⟩ := hp
  cases hturn with
  | undone =>
    have hzero := hbefore (.inr rfl)
    refine ⟨⟨fun _ => hzero, nofun, Nat.zero_le _⟩, ⟨fun _ => hzero, ?_⟩, .inl rfl⟩
    split_ifs <;> simp [After]
  | swapped =>
    have hone := hafter (.inl rfl)
    refine ⟨⟨nofun, fun _ => hone, Nat.le_succ 2⟩, ⟨?_, fun _ => hone⟩, .inl rfl⟩
    split_ifs <;> simp [Before]
  | complete =>
    have hzero := hbefore (.inl rfl)
    have hword := hbusy (.inl rfl)
    rw [Busy] at hword
    refine ⟨⟨?_, ?_, h.word⟩, ⟨by simp [Before], fun _ => by simp [hzero]⟩, .inr rfl⟩
    · intro h0
      dsimp only at h0
      omega
    · intro _
      simp [hzero]
  | marked =>
    obtain ⟨hfree, hdone, hword⟩ := h
    refine ⟨?_, ⟨by simp [Before], by simp [After]⟩, .inl rfl⟩
    split_ifs with h1
    · exact ⟨nofun, nofun, Nat.le_refl 3⟩
    · exact ⟨hfree, hdone, hword⟩
  | enter h0 => exact ⟨⟨nofun, nofun, by simp⟩, ⟨fun _ => h.free h0, by simp [After]⟩, .inl rfl⟩
  | cancel => exact ⟨h, ⟨fun _ => hbefore (.inl rfl), by simp [After]⟩, .inl rfl⟩
  | done h2 | finished h2 => exact ⟨h, ⟨by simp [Before], fun _ => h.done h2⟩, .inl rfl⟩
  | _ => exact ⟨h, ⟨by simp [Before], by simp [After]⟩, .inl rfl⟩

theorem counted (h : Reachable Initial (Step machine) x) : Total x.1 ∧ ∀ t, Seen x.1 (x.2 t) := by
  induction h with
  | start h =>
    cases h
    exact ⟨⟨fun _ => rfl, nofun, Nat.zero_le _⟩, fun _ => ⟨by simp [Before], by simp [After]⟩⟩
  | @next x y hx hs ih =>
    obtain ⟨htotal, hseen⟩ := ih
    obtain ⟨t, p, hm, hcase⟩ := hs.moved
    have hown : Total y.1 ∧ Seen y.1 p ∧ (y.1.completed = x.1.completed ∨ x.2 t = .init) := by
      rcases hcase with hturn | ⟨heq, n, hwake⟩
      · exact htotal.turn (hseen t) (fun h => (token hx).taken.mpr ⟨t, h⟩) hturn
      · rw [heq]
        refine ⟨htotal, ?_, .inl rfl⟩
        have hafter := (hseen t).after
        generalize x.2 t = q at hwake hafter
        cases q with
        | wakeAll canceled =>
          cases canceled with
          | true => cases hwake; exact ⟨by simp [Before], by simp [After]⟩
          | false => cases hwake; exact ⟨by simp [Before], fun _ => hafter (.inr (.inr rfl))⟩
        | _ => cases hwake
    refine ⟨hown.1, fun j => ?_⟩
    by_cases hj : j = t
    · rw [hj, hm.own]
      exact hown.2.1
    have hbefore := hm.iff (P := Before) (by rintro _ rfl; simp [machine, Before]) j hj
    have hafter := hm.iff (P := After) (by rintro _ rfl; simp [machine, After]) j hj
    rcases hown.2.2 with heq | hinit
    · exact ⟨fun h => heq.trans ((hseen j).before (hbefore.mp h)),
        fun h => heq.trans ((hseen j).after (hafter.mp h))⟩
    · -- no other thread is inside, and none has returned
      refine ⟨fun h => absurd ?_ hj, fun h => ?_⟩
      · exact (token hx).unique j t ((hbefore.mp h).imp_right .inl) (.inl hinit)
      · have hone := (hseen j).after (hafter.mp h)
        rw [(hseen t).before (.inl hinit)] at hone
        cases hone

/-- The word is 3 while a thread sleeps, or all sleepers are about to be woken. -/
theorem covered (h : Reachable Initial (Step machine) x) : (∃ t, x.2 t = .asleep) →
    x.1.word = 3 ∨ ∃ t, (machine.waking (x.2 t)).isSome := by
  intro hasleep
  refine (Reachable.covered (fun s => s.word = 3) (fun _ => False) lawful ?_ ?_
    (fun _ _ _ _ _ _ => False.elim) ?_ ?_ h hasleep).imp_right (Or.resolve_right · (by simp))
  · rintro _ rfl
    exact fun _ => nofun
  · intro x t s' p' _ hturn hp
    generalize x.2 t = p at hturn
    cases hturn with
    | sleep h3 => exact h3
    | undone | swapped =>
      revert hp
      split_ifs <;> exact nofun
    | _ => cases hp
  · intro x t n q _ hp
    generalize x.2 t = p at hp
    cases p <;> first | cases hp | (rename_i c; cases c <;> cases hp <;> exact .inl rfl)
  · intro x t s' p' _ hturn h3
    generalize x.2 t = p at hturn
    cases hturn with
    | undone | swapped =>
      rw [if_pos h3]
      exact .inr (.inl rfl)
    | enter h0 => omega
    | marked =>
      split_ifs
      · exact .inl rfl
      · exact .inl h3
    | _ => exact .inl h3

/-- One init routine runs at a time, one is completed at most, no call returns before, and nobody
sleeps with the word 0 or 2 and no wake due. -/
theorem once_guarded (h : Reachable Initial (Step machine) x) :
    (∀ t u, x.2 t = .init → x.2 u = .init → t = u) ∧ x.1.completed ≤ 1 ∧
    (∀ t, x.2 t = .returned → x.1.completed = 1) ∧
    (x.1.word = 0 ∨ x.1.word = 2 → (∀ t, waking (x.2 t) = none) → ∀ t, x.2 t ≠ .asleep) := by
  have htoken := token h
  obtain ⟨htotal, hseen⟩ := counted h
  refine ⟨fun t u ht hu => htoken.unique t u (.inl ht) (.inl hu), ?_,
    fun t ht => (hseen t).after (.inr (.inl ht)), ?_⟩
  · by_cases hbusy : Busy x.1
    · obtain ⟨t, ht⟩ := htoken.taken.mp hbusy
      have hbefore := (hseen t).before
      have hafter := (hseen t).after
      rcases ht with ht | ht | ht
      · rw [hbefore (.inl ht)]
        exact Nat.zero_le 1
      · rw [hbefore (.inr ht)]
        exact Nat.zero_le 1
      · exact Nat.le_of_eq (hafter (.inl ht))
    · obtain ⟨hfree, hdone, hword⟩ := htotal
      rw [Busy] at hbusy
      omega
  · intro hword hwaking t ht
    rcases covered h ⟨t, ht⟩ with h3 | ⟨u, hu⟩
    · omega
    · change (waking (x.2 u)).isSome = true at hu
      rw [hwaking u] at hu
      cases hu

theorem once_guarded_inside : ∃ x : Control × (Bool → Phase),
    x.1.word = 1 ∧ x.2 true = .init ∧ (∀ u, x.2 u = .init → true = u) ∧ x.1.completed ≤ 1 := by
  have hcall : Reachable Initial (Step machine) (⟨0, 0⟩, fun _ : Bool => Phase.outside) :=
    .start rfl
  have htest := hcall.next (.turn true .call)
  have hfull := htest.next (.turn true (.full (by decide)))
  obtain ⟨hone, hcompleted, -⟩ := once_guarded (hfull.next (.turn true (.enter rfl)))
  exact ⟨_, rfl, rfl, fun u => hone true u rfl, hcompleted⟩

end Once
