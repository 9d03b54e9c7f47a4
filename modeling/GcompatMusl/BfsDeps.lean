import GcompatMusl.LoaderState

/-! # Breadth-first dependency lists

`extend_bfs_deps` turns the list of direct dependencies of a DSO into the list of everything the
DSO depends on. -/
namespace BfsDeps

open FuelLoop DepthFirst LoaderState List Option Loader

structure Bfs where
  s : Loader
  i : ℕ
  ndeps_all : ℕ

def freshDeps (s : Loader) : List Id → Loader × List Id
  | [] => (s, [])
  | c :: cs =>
    if s.marks c then freshDeps s cs
    else
      let r := freshDeps (s.setMark true c) cs
      (r.1, c :: r.2)

def writeDeps (s : Loader) (p : Id) (n : ℕ) (new : List Id) : Loader :=
  s.set p fun d => { d with deps := some ((d.deps.getD []).take n ++ new) }

/-- One turn of the outer loop. `alloc i` says whether the allocation of turn `i` succeeds; the
result says whether the loop came to its end. -/
def bfsTurn (alloc : ℕ → Bool) (p : Id) (b : Bfs) : Turn (Loader × Bool) Bfs :=
  match (b.s.deps p)[b.i]? with
  | none => .ret (b.s, true)
  | some dep =>
    if alloc b.i then
      let r := freshDeps b.s (b.s.direct dep)
      .again ⟨writeDeps r.1 p b.ndeps_all r.2, b.i + 1, b.ndeps_all + r.2.length⟩
    else .ret (b.s, false)

def finishBfs (p : Id) (s : Loader) : Loader :=
  (s.set p fun d => { d with bfs_built := true }).setMarks false (List.range s.count)

/-- The result is `false` where the source jumps to `rtld_fail`. -/
def extend_bfs_deps (fuel : ℕ) (alloc : ℕ → Bool) (s : Loader) (p : Id) :
    Option (Loader × Bool) :=
  if (s.dso p).bfs_built then some (s, true)
  else
    let start : Bfs := ⟨s.setMarks true (s.deps p), 0, (s.dso p).ndeps_direct⟩
    (loop (bfsTurn alloc p) fuel start).result.map fun r =>
      if r.2 then (finishBfs p r.1, true) else r

structure Wired (s : Loader) : Prop where
  loaded : ∀ p < s.count, (s.dso p).deps ≠ none
  bound : ∀ p, ∀ c ∈ s.deps p, c < s.count
  size : ∀ p, (s.dso p).ndeps_direct ≤ (s.deps p).length
  unbuilt : ∀ p, (s.dso p).bfs_built = false → (s.deps p).length = (s.dso p).ndeps_direct
  built : ∀ p, (s.dso p).bfs_built = true → ∀ u, Reach s.direct p u → u = p ∨ u ∈ s.deps p
  unmarked : ∀ p, s.marks p = false

theorem direct_bound (h : Wired s) (p : Id) : ∀ c ∈ s.direct p, c < s.count := by
  intro c hc
  exact h.bound p c (mem_of_mem_take hc)

theorem reach_bound (h : Wired s) (hp : p < s.count)
    (hu : Reach s.direct p u) : u < s.count := by
  induction hu with
  | refl => exact hp
  | tail _ hedge _ => exact direct_bound h _ _ hedge

/-- The inner loop marks every dependency it looks at and returns the new ones, each once. -/
theorem freshDeps_spec (l : List Id) :
    ∀ s : Loader, (freshDeps s l).1 = s.withMarks (fun q => s.marks q || decide (q ∈ l)) ∧
      (freshDeps s l).2.Nodup ∧ ∀ q, q ∈ (freshDeps s l).2 ↔ q ∈ l ∧ s.marks q = false := by
  induction l with
  | nil =>
    intro s
    simp [freshDeps]
  | cons c l ih =>
    intro s
    cases hc : s.marks c with
    | true =>
      obtain ⟨hs, hnodup, hmem⟩ := ih s
      simp only [freshDeps, hc, if_true]
      refine ⟨?_, hnodup, ?_⟩
      · rw [hs]
        congr 1
        funext q
        by_cases hq : q = c
        · simp [hq, hc]
        · simp [hq]
      · intro q
        rw [hmem q]
        by_cases hq : q = c
        · simp [hq, hc]
        · simp [hq]
    | false =>
      obtain ⟨hs, hnodup, hmem⟩ := ih (s.setMark true c)
      simp only [setMark_eq, withMarks_withMarks] at hs hnodup hmem
      simp only [freshDeps, hc, setMark_eq]
      refine ⟨?_, ?_, ?_⟩
      · simp only [Bool.false_eq_true, if_false, hs]
        congr 1
        funext q
        by_cases hq : q = c <;> simp [hq]
      · refine nodup_cons.mpr ⟨?_, hnodup⟩
        intro hin
        have := ((hmem c).mp hin).2
        simp at this
      · intro q
        simp only [Bool.false_eq_true, if_false, mem_cons, hmem]
        by_cases hq : q = c
        · simp [hq, hc]
        · simp [hq]

section Loop

variable {s : Loader}

section

variable (s : Loader) (p : Id) (L : List Id)

def listed : Loader :=
  (s.set p fun d => { d with deps := some L }).withMarks fun q => decide (q ∈ L)

@[simp] theorem deps_listed : (listed s p L).deps p = L := by
  simp [listed, deps]

@[simp] theorem count_listed :
    (listed s p L).count = s.count := rfl

@[simp] theorem marks_listed :
    (listed s p L).marks = fun q => decide (q ∈ L) := rfl

end

theorem direct_listed (h : (s.dso p).ndeps_direct = (s.direct p).length)
    (hL : s.direct p <+: L) : (listed s p L).direct = s.direct := by
  funext q
  by_cases hq : q = p
  · subst hq
    have hlen : ((listed s q L).dso q).ndeps_direct = (s.direct q).length := by
      simp [listed, h]
    rw [direct, deps_listed, hlen]
    exact (prefix_iff_eq_take.mp hL).symm
  · simp [listed, direct, deps, set_of_ne s hq]

theorem writeDeps_listed (new : List Id) :
    writeDeps ((listed s p L).withMarks fun q => decide (q ∈ L ++ new)) p L.length new =
      listed s p (L ++ new) := by
  refine s.dso_ext ?_
  intro q
  by_cases hq : q = p
  · subst hq
    simp [listed]
  · simp [hq, listed, set_of_ne s hq]

structure Inv (s : Loader) (p : Id) (b : Bfs) (L : List Id) : Prop where
  state : b.s = listed s p L
  all : b.ndeps_all = L.length
  starts : s.direct p <+: L
  bound : ∀ c ∈ L, c < s.count
  passed : ∀ k < b.i, ∀ dep, L[k]? = some dep → ∀ c ∈ s.direct dep, c ∈ L

theorem direct_length (h : (s.deps p).length = (s.dso p).ndeps_direct) :
    s.direct p = s.deps p ∧ (s.dso p).ndeps_direct = (s.direct p).length := by
  have hdirect : s.direct p = s.deps p := by
    rw [direct, ← h, take_length]
  exact ⟨hdirect, by rw [hdirect, h]⟩

theorem inv_start (hw : Wired s) (hp : (s.dso p).bfs_built = false)
    (hdeps : (s.dso p).deps ≠ none) :
    Inv s p ⟨s.setMarks true (s.deps p), 0, (s.dso p).ndeps_direct⟩ (s.deps p) := by
  obtain ⟨hdirect, hlen⟩ := direct_length (hw.unbuilt p hp)
  obtain ⟨l, hl⟩ := ne_none_iff_exists'.mp hdeps
  constructor
  · rw [setMarks_eq]
    refine s.dso_ext ?_
    intro q
    have hmark := hw.unmarked q
    by_cases hq : q = p
    · subst hq
      simp [deps, hl, hmark]
    · simp [hmark, set_of_ne s hq]
  · exact (hw.unbuilt p hp).symm
  · rw [hdirect]
  · exact hw.bound p
  · intro k hk
    exact absurd hk (Nat.not_lt_zero k)

def newDeps (s : Loader) (p : Id) (L : List Id) (dep : Id) : List Id :=
  (freshDeps (listed s p L) (s.direct dep)).2

variable {dep : Id}

theorem mem_newDeps : q ∈ newDeps s p L dep ↔ q ∈ s.direct dep ∧ q ∉ L := by
  rw [newDeps, (freshDeps_spec (s.direct dep) (listed s p L)).2.2 q]
  simp

def nextTurn (s : Loader) (p : Id) (b : Bfs) (L : List Id) (dep : Id) : Bfs where
  s := listed s p (L ++ newDeps s p L dep)
  i := b.i + 1
  ndeps_all := (L ++ newDeps s p L dep).length

theorem bfsTurn_next (hlen : (s.dso p).ndeps_direct = (s.direct p).length) (h : Inv s p b L)
    (hi : L[b.i]? = some dep) (halloc : alloc b.i = true) :
    bfsTurn alloc p b = .again (nextTurn s p b L dep) := by
  have hmarks : (fun q => (listed s p L).marks q || decide (q ∈ s.direct dep)) =
      fun q => decide (q ∈ L ++ newDeps s p L dep) := by
    funext q
    simp only [marks_listed, mem_append, mem_newDeps]
    by_cases hq : q ∈ L <;> simp [hq]
  have hfresh := (freshDeps_spec (s.direct dep) (listed s p L)).1
  rw [hmarks] at hfresh
  simp only [bfsTurn, h.state, deps_listed, hi, halloc, direct_listed hlen h.starts, hfresh,
    h.all]
  change Turn.again (⟨writeDeps _ p L.length (newDeps s p L dep), _, _⟩ : Bfs) = _
  rw [writeDeps_listed, nextTurn, length_append]
  rfl

theorem inv_nextTurn (hw : Wired s) (h : Inv s p b L) (hi : L[b.i]? = some dep) :
    Inv s p (nextTurn s p b L dep) (L ++ newDeps s p L dep) := by
  constructor
  · rfl
  · rfl
  · exact h.starts.trans (prefix_append _ _)
  · refine forall_mem_append.mpr ⟨h.bound, fun c hc => ?_⟩
    exact direct_bound hw dep c (mem_newDeps.mp hc).1
  · intro k hk d hd c hc
    have hle : b.i < L.length := (List.getElem?_eq_some_iff.mp hi).1
    have hkL : k < L.length := by
      have : k < b.i + 1 := hk
      omega
    rw [getElem?_append_left hkL] at hd
    by_cases hlast : k = b.i
    · -- the entry of this turn: each of its dependencies was listed or is new
      rw [hlast, hi] at hd
      cases hd
      by_cases hin : c ∈ L
      · exact mem_append_left _ hin
      · exact mem_append_right _ (mem_newDeps.mpr ⟨hc, hin⟩)
    · have hlt : k < b.i := by
        have : k < b.i + 1 := hk
        omega
      exact mem_append_left _ (h.passed k hlt d hd c hc)

def remaining (p : Id) (b : Bfs) : ℕ :=
  ((Finset.range b.s.count).filter fun q => q ∉ b.s.deps p).card + ((b.s.deps p).length - b.i)

theorem remaining_nextTurn (hw : Wired s) (h : Inv s p b L) (hi : L[b.i]? = some dep) :
    remaining p (nextTurn s p b L dep) < remaining p b := by
  have hlt : b.i < L.length := (List.getElem?_eq_some_iff.mp hi).1
  have hcard : ((Finset.range s.count).filter fun q => q ∉ L ++ newDeps s p L dep).card +
      (newDeps s p L dep).length ≤ ((Finset.range s.count).filter fun q => q ∉ L).card := by
    rw [← toFinset_card_of_nodup (show (newDeps s p L dep).Nodup from (freshDeps_spec _ _).2.1),
      ← Finset.card_union_of_disjoint]
    · apply Finset.card_le_card
      intro q hq
      simp only [Finset.mem_union, Finset.mem_filter, Finset.mem_range, mem_append,
        List.mem_toFinset, not_or] at hq ⊢
      rcases hq with ⟨hq, hL, _⟩ | hq
      · exact ⟨hq, hL⟩
      · exact ⟨direct_bound hw dep q (mem_newDeps.mp hq).1, (mem_newDeps.mp hq).2⟩
    · rw [Finset.disjoint_left]
      intro q hq hnew
      exact (Finset.mem_filter.mp hq).2 (mem_append_right _ (List.mem_toFinset.mp hnew))
  simp only [remaining, nextTurn, h.state, deps_listed, count_listed, length_append]
  omega

structure Listing (s : Loader) (p : Id) (alloc : ℕ → Bool) (r : Loader × Bool) (L : List Id) :
    Prop where
  state : r.1 = listed s p L
  starts : s.direct p <+: L
  bound : ∀ c ∈ L, c < s.count
  closed : r.2 = true → ∀ dep ∈ L, ∀ c ∈ s.direct dep, c ∈ L
  failed : r.2 = false → ∃ i < L.length, alloc i = false

theorem listing_end (h : Inv s p b L) (hi : L[b.i]? = none) :
    Listing s p alloc (listed s p L, true) L where
  state := rfl
  starts := h.starts
  bound := h.bound
  closed := by
    intro _ dep hdep c hc
    obtain ⟨k, hk⟩ := mem_iff_getElem?.mp hdep
    have hlt : k < b.i := by
      have hlen := List.getElem?_eq_none_iff.mp hi
      have := (List.getElem?_eq_some_iff.mp hk).1
      omega
    exact h.passed k hlt dep hk c hc
  failed := by simp

theorem listing_fail (h : Inv s p b L) (hi : L[b.i]? = some dep) (halloc : alloc b.i = false) :
    Listing s p alloc (listed s p L, false) L where
  state := rfl
  starts := h.starts
  bound := h.bound
  closed := by simp
  failed := fun _ => ⟨b.i, (List.getElem?_eq_some_iff.mp hi).1, halloc⟩

theorem bfs_returns (hw : Wired s) (hp : p < s.count) (hbuilt : (s.dso p).bfs_built = false)
    (alloc : ℕ → Bool) :
    ∃ r, Returns (bfsTurn alloc p) ⟨s.setMarks true (s.deps p), 0, (s.dso p).ndeps_direct⟩ r ∧
      ∃ L, Listing s p alloc r L := by
  have hlen := (direct_length (hw.unbuilt p hbuilt)).2
  refine returns_of_wellFounded (measure (remaining p)).wf (fun b => ∃ L, Inv s p b L) _ ?_ _
    ⟨_, inv_start hw hbuilt (hw.loaded p hp)⟩
  rintro b ⟨L, h⟩
  cases hi : L[b.i]? with
  | none => exact Or.inl ⟨_, by simp [bfsTurn, h.state, hi], L, listing_end h hi⟩
  | some dep =>
    cases halloc : alloc b.i with
    | false => exact Or.inl ⟨_, by simp [bfsTurn, h.state, hi, halloc], L, listing_fail h hi halloc⟩
    | true =>
      exact Or.inr ⟨_, bfsTurn_next hlen h hi halloc, ⟨_, inv_nextTurn hw h hi⟩,
        remaining_nextTurn hw h hi⟩

def completed (s : Loader) (p : Id) (L : List Id) : Loader :=
  s.set p fun d => { d with deps := some L, bfs_built := true }

theorem finishBfs_listed (hw : Wired s) (hL : ∀ c ∈ L, c < s.count) :
    finishBfs p (listed s p L) = completed s p L := by
  have hclear : ∀ q, (if q ∈ range s.count then false else decide (q ∈ L)) = false := by
    intro q
    by_cases hq : q ∈ L
    · simp [hL q hq]
    · simp [hq]
  have hmarks : ∀ q, ((listed s p L).set p fun d => { d with bfs_built := true }).marks q =
      decide (q ∈ L) := by
    intro q
    by_cases hq : q = p
    · simp [hq, marks, listed]
    · simp [marks, set_of_ne _ hq, listed]
  rw [finishBfs, setMarks_eq, count_listed]
  simp only [hmarks, hclear]
  refine s.dso_ext ?_
  intro q
  have hmark : (s.dso q).mark = false := hw.unmarked q
  by_cases hq : q = p
  · subst hq
    simp [listed, hmark]
  · simp [listed, set_of_ne _ hq, hq, ← hmark]

theorem direct_completed (hlen : (s.dso p).ndeps_direct = (s.direct p).length)
    (hL : s.direct p <+: L) : (completed s p L).direct = s.direct := by
  rw [← direct_listed hlen hL]
  funext q
  by_cases hq : q = p
  · subst hq
    simp [completed, listed, direct, deps]
  · simp [completed, listed, direct, deps, set_of_ne s hq]

theorem mem_of_closed (hstarts : s.direct p <+: L) (hclosed : ∀ dep ∈ L, ∀ c ∈ s.direct dep, c ∈ L)
    (hu : Reach s.direct p u) : u = p ∨ u ∈ L := by
  induction hu with
  | refl => exact Or.inl rfl
  | tail _ hedge ih =>
    rcases ih with rfl | hin
    · exact Or.inr (hstarts.subset hedge)
    · exact Or.inr (hclosed _ hin _ hedge)

theorem wired_completed (hw : Wired s) (hbuilt : (s.dso p).bfs_built = false)
    (hstarts : s.direct p <+: L) (hbound : ∀ c ∈ L, c < s.count)
    (hclosed : ∀ dep ∈ L, ∀ c ∈ s.direct dep, c ∈ L) : Wired (completed s p L) := by
  have hdirect := direct_completed (direct_length (hw.unbuilt p hbuilt)).2 hstarts
  have hself : (completed s p L).dso p = { s.dso p with deps := some L, bfs_built := true } :=
    set_self ..
  have hne : ∀ {q}, q ≠ p → (completed s p L).dso q = s.dso q := fun h => set_of_ne s h _
  constructor
  · intro q hq
    by_cases h : q = p
    · simp [h, hself]
    · rw [hne h]
      exact hw.loaded q hq
  · intro q c hc
    by_cases h : q = p
    · subst h
      rw [deps, hself] at hc
      exact hbound c hc
    · rw [deps, hne h] at hc
      exact hw.bound q c hc
  · intro q
    by_cases h : q = p
    · subst h
      rw [deps, hself]
      have hlen := (direct_length (hw.unbuilt q hbuilt)).2
      exact hlen ▸ hstarts.length_le
    · rw [deps, hne h]
      exact hw.size q
  · intro q hq
    by_cases h : q = p
    · rw [h, hself] at hq
      cases hq
    · rw [deps, hne h] at *
      exact hw.unbuilt q hq
  · intro q hq u hu
    rw [hdirect] at hu
    by_cases h : q = p
    · subst h
      rw [deps, hself]
      exact mem_of_closed hstarts hclosed hu
    · rw [deps, hne h] at *
      exact hw.built q hq u hu
  · intro q
    by_cases h : q = p
    · rw [marks, h, hself]
      exact hw.unmarked p
    · rw [marks, hne h]
      exact hw.unmarked q

structure Extension (s : Loader) (p : Id) (t : Loader) : Prop where
  wired : Wired t
  built : (t.dso p).bfs_built = true
  direct : t.direct = s.direct
  count : t.count = s.count

theorem extension_completed (hw : Wired s) (hbuilt : (s.dso p).bfs_built = false)
    (hL : Listing s p alloc r L) (hr : r.2 = true) :
    Extension s p (completed s p L) where
  wired := wired_completed hw hbuilt hL.starts hL.bound (hL.closed hr)
  built := by simp [completed]
  direct := direct_completed (direct_length (hw.unbuilt p hbuilt)).2 hL.starts
  count := rfl

theorem extend_bfs_deps_cases (hw : Wired s) (hp : p < s.count)
    (h : extend_bfs_deps fuel alloc s p = some r) :
    ((s.dso p).bfs_built = true ∧ r = (s, true)) ∨
    ((s.dso p).bfs_built = false ∧ ∃ L, Listing s p alloc (listed s p L, r.2) L ∧
      r.1 = if r.2 then completed s p L else listed s p L) := by
  cases hbuilt : (s.dso p).bfs_built with
  | true =>
    simp only [extend_bfs_deps, hbuilt, if_true, some.injEq] at h
    exact Or.inl ⟨rfl, h.symm⟩
  | false =>
    obtain ⟨⟨t, b⟩, hreturns, L, hL⟩ := bfs_returns hw hp hbuilt alloc
    simp only [extend_bfs_deps, hbuilt, Bool.false_eq_true, if_false, map_eq_some_iff] at h
    obtain ⟨r', hr', h⟩ := h
    have ht : t = listed s p L := hL.state
    subst ht
    rw [hreturns.unique hr', finishBfs_listed hw hL.bound] at h
    refine Or.inr ⟨rfl, L, ?_⟩
    cases b with
    | true =>
      subst h
      exact ⟨hL, rfl⟩
    | false =>
      subst h
      exact ⟨hL, rfl⟩

theorem extension_of_success (hw : Wired s) (hp : p < s.count)
    (h : extend_bfs_deps fuel alloc s p = some (t, true)) : Extension s p t := by
  rcases extend_bfs_deps_cases hw hp h with ⟨hbuilt, hr⟩ | ⟨hbuilt, L, hL, ht⟩
  · cases hr
    exact ⟨hw, hbuilt, rfl, rfl⟩
  · rw [show t = completed s p L from ht]
    exact extension_completed hw hbuilt hL rfl

theorem extend_bfs_deps_returns (hw : Wired s) (hp : p < s.count) (halloc : ∀ i, alloc i = true) :
    ∃ t n, ∀ fuel ≥ n, extend_bfs_deps fuel alloc s p = some (t, true) := by
  cases hbuilt : (s.dso p).bfs_built with
  | true => exact ⟨s, 0, fun fuel _ => by simp [extend_bfs_deps, hbuilt]⟩
  | false =>
    obtain ⟨r, hreturns, L, hL⟩ := bfs_returns hw hp hbuilt alloc
    obtain ⟨n, hn⟩ := hreturns.eventually
    have hr : r.2 = true := by
      cases h : r.2 with
      | true => rfl
      | false =>
        obtain ⟨i, -, hi⟩ := hL.failed h
        rw [halloc i] at hi
        cases hi
    refine ⟨completed s p L, n, ?_⟩
    intro fuel hfuel
    simp only [extend_bfs_deps, hbuilt, hn fuel hfuel, map_some, hr, hL.state,
      finishBfs_listed hw hL.bound]
    rfl

end Loop

end BfsDeps
