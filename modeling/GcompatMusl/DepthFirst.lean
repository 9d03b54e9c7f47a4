import GcompatMusl.FuelLoop
import Mathlib.Data.List.Chain
import Mathlib.Data.Prod.Lex
import Mathlib.Data.Finset.Card
import Mathlib.Algebra.BigOperators.Group.List.Basic
import Mathlib.Algebra.GroupWithZero.Nat

/-! # Depth-first post-order

A search with a stack of suspended nodes, a cursor into the successors of each node and a mark on
every node met. Nodes are emitted when their successors are exhausted. -/
namespace DepthFirst

open FuelLoop Relation Function List Option

variable {α : Type*}

/-- The node at hand, the suspended nodes from the top down, the nodes emitted, the marks and the
cursors. -/
structure Search (α : Type*) where
  cur : Option α
  stack : List α
  out : List α
  mark : α → Bool
  next : α → ℕ

def Search.resume (s : Search α) (p : α) (rest : List α) : Search α :=
  { s with cur := some p, stack := rest }

def Search.emit (s : Search α) (p : α) : Search α := { s with cur := none, out := s.out ++ [p] }

def Search.skip [DecidableEq α] (s : Search α) (p : α) : Search α :=
  { s with next := update s.next p (s.next p + 1) }

def Search.descend [DecidableEq α] (s : Search α) (p c : α) : Search α :=
  { s with
    cur := some c
    stack := p :: s.stack
    mark := update s.mark c true
    next := update s.next c 0 }

def turn [DecidableEq α] (succ : α → List α) (s : Search α) : Turn (Search α) (Search α) :=
  match s.cur with
  | none =>
    match s.stack with
    | [] => .ret s
    | p :: rest => .again (s.resume p rest)
  | some p =>
    match (succ p)[s.next p]? with
    | none => .again (s.emit p)
    | some c => .again (if s.mark c then s.skip p else s.descend p c)

def Edge (succ : α → List α) (p c : α) : Prop := c ∈ succ p

def Reach (succ : α → List α) : α → α → Prop := ReflTransGen (Edge succ)

def Search.open (s : Search α) : List α := s.cur.toList ++ s.stack

def Before (out : List α) (c u : α) : Prop := ∃ pre post, out = pre ++ u :: post ∧ c ∈ pre

theorem Before.append (h : Before out c u) (l : List α) :
    Before (out ++ l) c u := by
  obtain ⟨pre, post, rfl, hc⟩ := h
  exact ⟨pre, post ++ l, by simp, hc⟩

structure Inv (succ : α → List α) (root : α) (s : Search α) : Prop where
  nodup : (s.open ++ s.out).Nodup
  marked : ∀ u, s.mark u = true ↔ u ∈ s.open ++ s.out
  reached : ∀ u ∈ s.open ++ s.out, Reach succ root u
  path : s.open.IsChain fun c p => (succ p)[s.next p]? = some c
  passed : ∀ p ∈ s.open, ∀ k < s.next p, ∀ c, (succ p)[k]? = some c → s.mark c = true
  closed : ∀ u ∈ s.out, ∀ c ∈ succ u, s.mark c = true ∧ (Before s.out c u ∨ Reach succ c u)
  bottom : (∃ pre, s.open = pre ++ [root]) ∨ (s.open = [] ∧ ∃ pre, s.out = pre ++ [root])

def start [DecidableEq α] (root : α) (next : α → ℕ) : Search α where
  cur := none
  stack := [root]
  out := []
  mark := update (fun _ => false) root true
  next := update next root 0

theorem inv_start [DecidableEq α] (succ : α → List α) (root : α) (next : α → ℕ) :
    Inv succ root (start root next) where
  nodup := by simp [start, Search.open]
  marked := by
    intro u
    by_cases h : u = root <;> simp [start, Search.open, h]
  reached := by
    intro u hu
    have hu : u = root := by simpa [start, Search.open] using hu
    rw [hu]
    exact .refl
  path := by simp [start, Search.open]
  passed := by simp [start, Search.open]
  closed := by simp [start]
  bottom := Or.inl ⟨[], rfl⟩

section Steps

variable {s : Search α}

theorem open_of_some (hcur : s.cur = some p) : s.open = p :: s.stack := by
  simp [Search.open, hcur]

theorem inv_resume (h : Inv succ root s) (hcur : s.cur = none) (hstack : s.stack = p :: rest) :
    Inv succ root (s.resume p rest) := by
  have hopen : (s.resume p rest).open = s.open := by
    simp [Search.open, Search.resume, hcur, hstack]
  constructor
  · rw [hopen]
    exact h.nodup
  · simp only [hopen]
    exact h.marked
  · simp only [hopen]
    exact h.reached
  · rw [hopen]
    exact h.path
  · simp only [hopen]
    exact h.passed
  · exact h.closed
  · rw [hopen]
    exact h.bottom

theorem reach_of_path {next : α → ℕ} :
    ∀ {l : List α} {p : α}, (p :: l).IsChain (fun c q => (succ q)[next q]? = some c) →
      ∀ q ∈ p :: l, Reach succ q p := by
  intro l
  induction l with
  | nil =>
    intro p _ q hq
    rw [mem_singleton.mp hq]
    exact .refl
  | cons r l ih =>
    intro p hchain q hq
    obtain ⟨hstep, htail⟩ := isChain_cons_cons.mp hchain
    rcases mem_cons.mp hq with rfl | hq
    · exact .refl
    · exact (ih htail q hq).tail (mem_of_getElem? hstep)

theorem inv_emit (h : Inv succ root s) (hcur : s.cur = some p)
    (hnext : (succ p)[s.next p]? = none) :
    Inv succ root (s.emit p) := by
  have hold := open_of_some hcur
  have hopen : (s.emit p).open = s.stack := rfl
  have hout : (s.emit p).out = s.out ++ [p] := rfl
  have hmem : ∀ u, u ∈ s.stack ++ (s.out ++ [p]) ↔ u ∈ s.open ++ s.out := by
    intro u
    simp only [hold, mem_append, mem_cons]
    tauto
  have hpath := h.path
  rw [hold] at hpath
  constructor
  · have hperm : (s.stack ++ (s.out ++ [p])).Perm (s.open ++ s.out) := by
      rw [hold, ← append_assoc]
      exact perm_append_singleton p (s.stack ++ s.out)
    exact hperm.nodup_iff.mpr h.nodup
  · intro u
    rw [hopen, hout, hmem]
    exact h.marked u
  · intro u hu
    rw [hopen, hout, hmem] at hu
    exact h.reached u hu
  · exact hpath.tail
  · intro q hq
    exact h.passed q (by rw [hold]; exact mem_cons_of_mem _ hq)
  · intro u hu d hd
    rcases mem_append.mp hu with hu | hu
    · obtain ⟨hm, hb⟩ := h.closed u hu d hd
      exact ⟨hm, hb.imp (fun hb => hb.append [p]) id⟩
    · -- the node emitted now: its cursor has passed all of its successors
      rw [mem_singleton.mp hu] at hd ⊢
      obtain ⟨k, hk⟩ := mem_iff_getElem?.mp hd
      have hlt : k < s.next p := by
        have hlen := List.getElem?_eq_none_iff.mp hnext
        have := (List.getElem?_eq_some_iff.mp hk).1
        omega
      have hm := h.passed p (by rw [hold]; exact mem_cons_self) k hlt d hk
      refine ⟨hm, ?_⟩
      rcases mem_append.mp ((h.marked d).mp hm) with hd | hd
      · rw [hold] at hd
        exact Or.inr (reach_of_path hpath d hd)
      · exact Or.inl ⟨s.out, [], rfl, hd⟩
  · rcases h.bottom with ⟨pre, hpre⟩ | ⟨hnil, _⟩
    · rw [hold] at hpre
      cases pre with
      | nil =>
        obtain ⟨rfl, hstack⟩ := cons.inj hpre
        exact Or.inr ⟨hstack, s.out, rfl⟩
      | cons q pre => exact Or.inl ⟨pre, (cons.inj hpre).2⟩
    · rw [hold] at hnil
      cases hnil

variable [DecidableEq α]

theorem inv_skip (h : Inv succ root s) (hcur : s.cur = some p)
    (hnext : (succ p)[s.next p]? = some c) (hmark : s.mark c = true) :
    Inv succ root (s.skip p) := by
  have hold := open_of_some hcur
  have hnodup := h.nodup
  rw [hold, cons_append, nodup_cons] at hnodup
  have hne : ∀ q ∈ s.stack, q ≠ p := by
    rintro q hq rfl
    exact hnodup.1 (mem_append_left _ hq)
  have hpath := h.path
  rw [hold] at hpath
  constructor
  · exact h.nodup
  · exact h.marked
  · exact h.reached
  · -- the cursor of the node at hand is not on the path below it
    change s.open.IsChain _
    rw [hold]
    refine hpath.imp_of_mem_tail_imp ?_
    intro d q _ hq hstep
    simpa only [Search.skip, update_of_ne (hne q hq)] using hstep
  · intro q hq k hk d hd
    by_cases hqp : q = p
    · subst hqp
      simp only [Search.skip, update_self] at hk
      rcases Nat.lt_succ_iff_lt_or_eq.mp hk with hk | rfl
      · exact h.passed q hq k hk d hd
      · rw [hnext] at hd
        cases hd
        exact hmark
    · simp only [Search.skip, update_of_ne hqp] at hk
      exact h.passed q hq k hk d hd
  · exact h.closed
  · exact h.bottom

theorem inv_descend (h : Inv succ root s) (hcur : s.cur = some p)
    (hnext : (succ p)[s.next p]? = some c) (hmark : s.mark c = false) :
    Inv succ root (s.descend p c) := by
  have hold := open_of_some hcur
  have hopen : (s.descend p c).open = c :: s.open := by
    rw [hold]
    rfl
  have hfresh : c ∉ s.open ++ s.out := by
    intro hc
    rw [(h.marked c).mpr hc] at hmark
    cases hmark
  have hp : p ∈ s.open := by
    rw [hold]
    exact mem_cons_self
  have hne : ∀ q ∈ s.open, q ≠ c := by
    rintro q hq rfl
    exact hfresh (mem_append_left _ hq)
  have hkeep : ∀ d, s.mark d = true → update s.mark c true d = true := by
    intro d hd
    by_cases hdc : d = c
    · rw [hdc, update_self]
    · rwa [update_of_ne hdc]
  constructor
  · rw [hopen]
    exact nodup_cons.mpr ⟨hfresh, h.nodup⟩
  · intro u
    rw [hopen]
    by_cases hu : u = c
    · simp [hu, Search.descend]
    · simp only [Search.descend, update_of_ne hu, cons_append, mem_cons, hu, false_or]
      exact h.marked u
  · intro u hu
    rw [hopen] at hu
    rcases mem_cons.mp hu with rfl | hu
    · exact (h.reached p (mem_append_left _ hp)).tail (mem_of_getElem? hnext)
    · exact h.reached u hu
  · have hpath : s.open.IsChain fun d q => (succ q)[update s.next c 0 q]? = some d := by
      refine h.path.imp_of_mem_imp ?_
      intro d q _ hq hstep
      rwa [update_of_ne (hne q hq)]
    rw [hold] at hpath
    refine isChain_cons_cons.mpr ⟨?_, hpath⟩
    simpa only [Search.descend, update_of_ne (hne p hp)] using hnext
  · intro q hq k hk d hd
    rw [hopen] at hq
    simp only [Search.descend] at hk
    rcases mem_cons.mp hq with rfl | hq
    · simp at hk
    · rw [update_of_ne (hne q hq)] at hk
      exact hkeep d (h.passed q hq k hk d hd)
  · intro u hu d hd
    obtain ⟨hm, hb⟩ := h.closed u hu d hd
    exact ⟨hkeep d hm, hb⟩
  · rcases h.bottom with ⟨pre, hpre⟩ | ⟨hnil, _⟩
    · exact Or.inl ⟨c :: pre, by rw [hopen, hpre]; rfl⟩
    · rw [hold] at hnil
      cases hnil

def measure (succ : α → List α) (U : Finset α) (s : Search α) : ℕ × ℕ :=
  ((U.filter fun u => s.mark u = false).card,
    (s.open.map fun p => (succ p).length - s.next p).sum + 2 * s.stack.length +
      s.cur.toList.length)

def Smaller (succ : α → List α) (U : Finset α) : Search α → Search α → Prop :=
  InvImage (Prod.Lex (· < ·) (· < ·)) (measure succ U)

omit [DecidableEq α] in
theorem smaller_wf (U : Finset α) : WellFounded (Smaller succ U) :=
  InvImage.wf _ (WellFounded.prod_lex wellFounded_lt wellFounded_lt)

omit [DecidableEq α] in
theorem smaller_of_pending (hmark : t.mark = s.mark)
    (h : (measure succ U t).2 < (measure succ U s).2) : Smaller succ U t s := by
  have hfst : (measure succ U t).1 = (measure succ U s).1 := by simp only [measure, hmark]
  exact Prod.lex_def.mpr (Or.inr ⟨hfst, h⟩)

omit [DecidableEq α] in
theorem smaller_resume (hcur : s.cur = none) (hstack : s.stack = p :: rest) :
    Smaller succ U (s.resume p rest) s := by
  refine smaller_of_pending rfl ?_
  simp only [measure, Search.open, Search.resume, hcur, hstack, toList_some,
    toList_none, nil_append, singleton_append, map_cons, sum_cons,
    length_cons, length_nil]
  omega

omit [DecidableEq α] in
theorem smaller_emit (hcur : s.cur = some p) : Smaller succ U (s.emit p) s := by
  refine smaller_of_pending rfl ?_
  simp only [measure, Search.open, Search.emit, hcur, toList_some, toList_none,
    nil_append, singleton_append, map_cons, sum_cons, length_cons,
    length_nil]
  omega

theorem smaller_skip (h : Inv succ root s) (hcur : s.cur = some p)
    (hnext : (succ p)[s.next p]? = some c) : Smaller succ U (s.skip p) s := by
  have hnodup := h.nodup
  rw [open_of_some hcur, cons_append, nodup_cons] at hnodup
  have hlt := (List.getElem?_eq_some_iff.mp hnext).1
  have hrest : (s.stack.map fun q => (succ q).length - update s.next p (s.next p + 1) q) =
      s.stack.map fun q => (succ q).length - s.next q := by
    apply map_congr_left
    intro q hq
    have hqp : q ≠ p := by
      rintro rfl
      exact hnodup.1 (mem_append_left _ hq)
    rw [update_of_ne hqp]
  refine smaller_of_pending rfl ?_
  simp only [measure, Search.open, Search.skip, hcur, toList_some, singleton_append,
    map_cons, sum_cons, update_self, hrest]
  omega

theorem smaller_descend (hU : c ∈ U) (hmark : s.mark c = false) :
    Smaller succ U (s.descend p c) s := by
  have hset : (s.descend p c).mark c = true := update_self ..
  refine Prod.lex_def.mpr (Or.inl (Finset.card_lt_card ?_))
  refine Finset.ssubset_iff_subset_ne.mpr ⟨?_, ?_⟩
  · intro u hu
    obtain ⟨hu, hunmarked⟩ := Finset.mem_filter.mp hu
    by_cases huc : u = c
    · rw [huc, hset] at hunmarked
      cases hunmarked
    · have hsame : (s.descend p c).mark u = s.mark u := update_of_ne huc _ _
      exact Finset.mem_filter.mpr ⟨hu, hsame ▸ hunmarked⟩
  · intro heq
    have hc : c ∈ U.filter fun u => s.mark u = false := Finset.mem_filter.mpr ⟨hU, hmark⟩
    rw [← heq] at hc
    exact Bool.noConfusion (hset.symm.trans (Finset.mem_filter.mp hc).2)

/-- A turn ends the search with nothing left open, or keeps the invariant and makes progress. -/
theorem turn_progress (hU : ∀ u, Reach succ root u → u ∈ U) (h : Inv succ root s) :
    (∃ t, turn succ s = .ret t ∧ Inv succ root t ∧ t.open = []) ∨
      ∃ t, turn succ s = .again t ∧ Inv succ root t ∧ Smaller succ U t s := by
  cases hcur : s.cur with
  | none =>
    cases hstack : s.stack with
    | nil =>
      refine Or.inl ⟨s, ?_, h, ?_⟩
      · simp [turn, hcur, hstack]
      · simp [Search.open, hcur, hstack]
    | cons p rest =>
      refine Or.inr ⟨s.resume p rest, ?_, inv_resume h hcur hstack, smaller_resume hcur hstack⟩
      simp [turn, hcur, hstack]
  | some p =>
    cases hnext : (succ p)[s.next p]? with
    | none =>
      refine Or.inr ⟨s.emit p, ?_, inv_emit h hcur hnext, smaller_emit hcur⟩
      simp [turn, hcur, hnext]
    | some c =>
      cases hmark : s.mark c with
      | true =>
        refine Or.inr ⟨s.skip p, ?_, inv_skip h hcur hnext hmark, smaller_skip h hcur hnext⟩
        simp [turn, hcur, hnext, hmark]
      | false =>
        have hinv := inv_descend h hcur hnext hmark
        have hc : Reach succ root c := hinv.reached c (by simp [Search.open, Search.descend])
        refine Or.inr ⟨s.descend p c, ?_, hinv, smaller_descend (hU c hc) hmark⟩
        simp [turn, hcur, hnext, hmark]

theorem search_returns {U : Finset α} (hU : ∀ u, Reach succ root u → u ∈ U) (next : α → ℕ) :
    ∃ t, Returns (turn succ) (start root next) t ∧ Inv succ root t ∧ t.open = [] :=
  returns_of_wellFounded (smaller_wf U) (Inv succ root) _ (fun _ h => turn_progress hU h) _
    (inv_start succ root next)

omit [DecidableEq α] in
theorem Inv.mem_out_iff (h : Inv succ root s) (hopen : s.open = []) (u : α) :
    u ∈ s.out ↔ Reach succ root u := by
  have hmarked := h.marked
  have hreached := h.reached
  simp only [hopen, nil_append] at hmarked hreached
  refine ⟨hreached u, ?_⟩
  intro hu
  induction hu with
  | refl =>
    rcases h.bottom with ⟨pre, hpre⟩ | ⟨_, pre, hpre⟩
    · simp [hopen] at hpre
    · simp [hpre]
  | tail _ hedge ih => exact (hmarked _).mp (h.closed _ ih _ hedge).1

omit [DecidableEq α] in
theorem Inv.last_out (h : Inv succ root s) (hopen : s.open = []) : s.out.getLast? = some root := by
  rcases h.bottom with ⟨pre, hpre⟩ | ⟨_, pre, hpre⟩
  · simp [hopen] at hpre
  · simp [hpre]

end Steps

end DepthFirst
