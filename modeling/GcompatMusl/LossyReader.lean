import Mathlib.Data.List.Basic
import Mathlib.Order.Nat

/-! # Readers that may lose what they read

A reader hands out the entries of a source one call at a time. A call with too small a buffer has
consumed an entry all the same. -/
namespace LossyReader

open List

inductive Status (ε : Type*) where
  | ok (e : ε)
  | range
  | noent
  deriving DecidableEq

variable {σ κ ε : Type*} {entries : σ → List ε} {fits : κ → ε → Prop}
  {call : σ → κ → Option (Status ε × σ)}

def Status.map {δ : Type*} (f : ε → δ) : Status ε → Status δ
  | .ok e => .ok (f e)
  | .range => .range
  | .noent => .noent

def Status.entry? : Status ε → Option ε
  | .ok e => some e
  | _ => none

def returned (t : List (Status ε)) : List ε := t.filterMap Status.entry?

/-- All entries are returned in order, and the end is reported only after the last one. -/
def Exact (all : List ε) (t : List (Status ε)) : Prop :=
  returned t = all ∧ ∀ pre post, t = pre ++ .noent :: post → returned pre = all

/-- Each entry meets a call with room for it: the calls come in the order of the entries. -/
def Room (fits : κ → ε → Prop) : List ε → List κ → Prop
  | [], _ => True
  | _ :: _, [] => False
  | e :: es, k :: ks => fits k e ∧ Room fits es ks

/-- What the calls with the arguments `ks` report, one after the other -/
def replay (call : σ → κ → Option (Status ε × σ)) (s : σ) : List κ → Option (List (Status ε))
  | [] => some []
  | k :: ks => (call s k).bind fun r => (replay call r.2 ks).map (r.1 :: ·)

/-- What one call does to the entries still to be read; `fits k e`: the arguments `k` have room for
`e`. -/
def Accounts (entries : σ → List ε) (fits : κ → ε → Prop) (s : σ) (k : κ) (s' : σ)
    (st : Status ε) : Prop :=
  (entries s = [] ∧ entries s' = [] ∧ st = .noent) ∨
    ∃ e, entries s = e :: entries s' ∧ (fits k e ∧ st = .ok e ∨ ¬ fits k e ∧ st = .range)

theorem exact_ok {t : List (Status ε)} : Exact (e :: es) (.ok e :: t) ↔ Exact es t := by
  have hreturned : ∀ t, returned (.ok e :: t) = e :: returned t := fun t => rfl
  constructor
  · rintro ⟨hall, hend⟩
    rw [hreturned] at hall
    refine ⟨(cons.inj hall).2, fun pre post ht => ?_⟩
    have := hend (.ok e :: pre) post (congrArg _ ht)
    rw [hreturned] at this
    exact (cons.inj this).2
  · rintro ⟨hall, hend⟩
    refine ⟨by rw [hreturned, hall], fun pre post ht => ?_⟩
    cases pre with
    | nil => cases ht
    | cons st pre =>
      obtain ⟨rfl, hrest⟩ := cons.inj ht
      rw [hreturned, hend pre post hrest]

theorem exact_noent {t : List (Status ε)} : Exact [] (.noent :: t) ↔ Exact [] t := by
  have hreturned : ∀ t : List (Status ε), returned (.noent :: t) = returned t := fun t => rfl
  constructor
  · rintro ⟨hall, hend⟩
    exact ⟨hall, fun pre post ht => hend (.noent :: pre) post (congrArg _ ht)⟩
  · rintro ⟨hall, hend⟩
    refine ⟨hall, fun pre post ht => ?_⟩
    cases pre with
    | nil => rfl
    | cons st pre =>
      obtain ⟨rfl, hrest⟩ := cons.inj ht
      exact hend pre post hrest

section Accounting

variable {quiet : κ → Prop}
  (hacc : ∀ s k st s', quiet k → call s k = some (st, s') → Accounts entries fits s k s' st)
include hacc

theorem returned_length_le (hq : ∀ k ∈ ks, quiet k) (h : replay call s ks = some t) :
    (returned t).length ≤ (entries s).length := by
  induction ks generalizing s t with
  | nil =>
    cases h
    exact Nat.zero_le _
  | cons k ks ih =>
    obtain ⟨⟨st, s'⟩, hcall, hrest⟩ := Option.bind_eq_some_iff.mp h
    obtain ⟨t, ht, rfl⟩ := Option.map_eq_some_iff.mp hrest
    have ih : (returned t).length ≤ (entries s').length :=
      ih (fun k hk => hq k (mem_cons_of_mem _ hk)) ht
    rcases hacc s k st s' (hq k mem_cons_self) hcall with
      ⟨he, he', rfl⟩ | ⟨e, he, ⟨-, rfl⟩ | ⟨-, rfl⟩⟩
    · rw [he'] at ih
      rw [he]
      exact ih
    · rw [he]
      exact Nat.succ_le_succ ih
    · rw [he]
      exact Nat.le_succ_of_le ih

/-- A reader that loses the entries that do not fit returns all of them exactly if each meets a call
with room for it. -/
theorem exact_iff_room (hq : ∀ k ∈ ks, quiet k) (h : replay call s ks = some t) :
    Exact (entries s) t ↔ Room fits (entries s) ks := by
  induction ks generalizing s t with
  | nil =>
    cases h
    cases hs : entries s with
    | nil => simp [Exact, Room, returned]
    | cons e es => simp [Exact, Room, returned]
  | cons k ks ih =>
    obtain ⟨⟨st, s'⟩, hcall, hrest⟩ := Option.bind_eq_some_iff.mp h
    obtain ⟨t, ht, rfl⟩ := Option.map_eq_some_iff.mp hrest
    have hq' : ∀ k ∈ ks, quiet k := fun k hk => hq k (mem_cons_of_mem _ hk)
    have ih : Exact (entries s') t ↔ Room fits (entries s') ks := ih hq' ht
    rcases hacc s k st s' (hq k mem_cons_self) hcall with
      ⟨he, he', rfl⟩ | ⟨e, he, ⟨hfit, rfl⟩ | ⟨hfit, rfl⟩⟩
    · rw [he'] at ih
      rw [he, exact_noent, ih]
      exact Iff.rfl
    · rw [he, exact_ok, ih, Room]
      exact (and_iff_right hfit).symm
    · -- too few entries are left to return all of them
      rw [he]
      refine iff_of_false (fun hexact => ?_) fun hroom => hfit hroom.1
      have hle : (returned t).length ≤ (entries s').length := returned_length_le hacc hq' ht
      have hlen : (returned t).length = (e :: entries s').length := congrArg length hexact.1
      rw [length_cons] at hlen
      omega

end Accounting

end LossyReader
