import GcompatMusl.Interleaving

/-! # Constructors and destructors

`do_init_fini` and `__libc_exit_fini` as threads that share `init_fini_lock` and the fields of
the DSOs. Each thread has a stack of calls: a constructor runs with the lock released, and may
call `dlopen`, hence `do_init_fini`, or `exit`. A step is one group of accesses between two tests.
Waking up from `pthread_cond_wait` needs no signal. -/
namespace InitFini

open Interleaving List Function

/-- Where a call of `do_init_fini` is; `rest` are the entries of the queue from `i` on, or
behind `p`, the entry at hand. -/
inductive InitPc (D : Type*) where
  /-- At `pthread_mutex_lock` or in `pthread_cond_wait`. -/
  | blocked (rest : List D)
  | head (rest : List D)
  /-- Behind the `while`. -/
  | test (p : D) (rest : List D)
  | claim (p : D) (rest : List D)
  | claimed (p : D) (rest : List D)
  /-- The lock is released. -/
  | call (p : D) (rest : List D)
  | running (p : D) (rest : List D)
  /-- The constructors are through and the lock is taken again. -/
  | finish (p : D) (rest : List D)
  deriving DecidableEq, Repr

/-- Where the call of `__libc_exit_fini` is; `rest` is the list from `p` on, or behind it. -/
inductive FiniPc (D : Type*) where
  | enter
  | blocked (rest : List D)
  | head (rest : List D)
  | test (p : D) (rest : List D)
  | destroy (p : D) (rest : List D)
  deriving DecidableEq, Repr

inductive Frame (D : Type*) where
  | init (queue : List D) (pc : InitPc D)
  | fini (pc : FiniPc D)
  deriving DecidableEq, Repr

structure Shared (T D : Type*) where
  /-- The holder of `init_fini_lock`. -/
  owner : Option T
  ctor_visitor : D → Option T
  constructed : D → Bool
  shutting_down : Bool
  /-- The list from `fini_head` along `fini_next`. -/
  fini_head : List D
  /-- The thread that called `__libc_exit_fini`. -/
  exiting : Option T
  /-- The DSOs whose construction was started, and whose con- and destructors were called, in order
  -/
  started : List D
  called : List D
  destroyed : List D

abbrev State (T D : Type*) := Shared T D × (T → List (Frame D))

variable {T D : Type*}

def visitedByOther (s : Shared T D) (t : T) (p : D) : Prop :=
  s.ctor_visitor p ≠ none ∧ s.ctor_visitor p ≠ some t

def Callable (st : List (Frame D)) : Prop :=
  st = [] ∨ ∃ queue p rest below, st = .init queue (.running p rest) :: below

/-- The turns of thread `t`; `hasFini` tells which DSOs have `DT_FINI` or `DT_FINI_ARRAY`. -/
inductive Turn [DecidableEq D] (hasFini : D → Bool) (t : T) :
    Shared T D → List (Frame D) → Shared T D → List (Frame D) → Prop where
  | do_init_fini {s st} (queue) : Callable st →
      Turn hasFini t s st s (.init queue (.blocked queue) :: st)
  | lock {s queue rest b} : s.owner = none →
      Turn hasFini t s (.init queue (.blocked rest) :: b)
        { s with owner := some t } (.init queue (.head rest) :: b)
  | wait {s queue p rest b} : visitedByOther s t p ∨ s.shutting_down = true →
      Turn hasFini t s (.init queue (.head (p :: rest)) :: b)
        { s with owner := none } (.init queue (.blocked (p :: rest)) :: b)
  | pass {s queue p rest b} : ¬(visitedByOther s t p ∨ s.shutting_down = true) →
      Turn hasFini t s (.init queue (.head (p :: rest)) :: b) s (.init queue (.test p rest) :: b)
  | skip {s queue p rest b} : s.ctor_visitor p ≠ none ∨ s.constructed p = true →
      Turn hasFini t s (.init queue (.test p rest) :: b) s (.init queue (.head rest) :: b)
  | fresh {s queue p rest b} : ¬(s.ctor_visitor p ≠ none ∨ s.constructed p = true) →
      Turn hasFini t s (.init queue (.test p rest) :: b) s (.init queue (.claim p rest) :: b)
  | claim {s queue p rest b} :
      Turn hasFini t s (.init queue (.claim p rest) :: b)
        { s with
          ctor_visitor := update s.ctor_visitor p (some t)
          fini_head := if hasFini p then p :: s.fini_head else s.fini_head
          started := s.started ++ [p] }
        (.init queue (.claimed p rest) :: b)
  | unlock {s queue p rest b} :
      Turn hasFini t s (.init queue (.claimed p rest) :: b)
        { s with owner := none } (.init queue (.call p rest) :: b)
  | call {s queue p rest b} :
      Turn hasFini t s (.init queue (.call p rest) :: b)
        { s with called := s.called ++ [p] } (.init queue (.running p rest) :: b)
  | relock {s queue p rest b} : s.owner = none →
      Turn hasFini t s (.init queue (.running p rest) :: b)
        { s with owner := some t } (.init queue (.finish p rest) :: b)
  | finish {s queue p rest b} :
      Turn hasFini t s (.init queue (.finish p rest) :: b)
        { s with
          ctor_visitor := update s.ctor_visitor p none
          constructed := update s.constructed p true }
        (.init queue (.head rest) :: b)
  | ret {s queue b} : Turn hasFini t s (.init queue (.head []) :: b) { s with owner := none } b
  | exit_fini {s st} : Callable st → s.exiting = none →
      Turn hasFini t s st { s with exiting := some t } (.fini .enter :: st)
  | exit_lock {s b} : s.owner = none →
      Turn hasFini t s (.fini .enter :: b)
        { s with owner := some t, shutting_down := true } (.fini (.head s.fini_head) :: b)
  | exit_wait {s p rest b} : visitedByOther s t p →
      Turn hasFini t s (.fini (.head (p :: rest)) :: b)
        { s with owner := none } (.fini (.blocked (p :: rest)) :: b)
  | exit_wake {s rest b} : s.owner = none →
      Turn hasFini t s (.fini (.blocked rest) :: b)
        { s with owner := some t } (.fini (.head rest) :: b)
  | exit_pass {s p rest b} : ¬visitedByOther s t p →
      Turn hasFini t s (.fini (.head (p :: rest)) :: b) s (.fini (.test p rest) :: b)
  | exit_skip {s p rest b} : s.constructed p = false →
      Turn hasFini t s (.fini (.test p rest) :: b) s (.fini (.head rest) :: b)
  | exit_found {s p rest b} : s.constructed p = true →
      Turn hasFini t s (.fini (.test p rest) :: b) s (.fini (.destroy p rest) :: b)
  | destroy {s p rest b} :
      Turn hasFini t s (.fini (.destroy p rest) :: b)
        { s with destroyed := s.destroyed ++ [p] } (.fini (.head rest) :: b)

def Initial (x : State T D) : Prop :=
  x = (⟨none, fun _ => none, fun _ => false, false, [], none, [], [], []⟩, fun _ => [])

def Frame.holds : Frame D → Bool
  | .init _ (.head _) | .init _ (.test _ _) | .init _ (.claim _ _) | .init _ (.claimed _ _)
  | .init _ (.finish _ _) => true
  | .fini (.head _) | .fini (.test _ _) | .fini (.destroy _ _) => true
  | _ => false

def Frame.visiting : Frame D → Option D
  | .init _ (.claimed p _) | .init _ (.call p _) | .init _ (.running p _)
  | .init _ (.finish p _) => some p
  | _ => none

def InitPc.open : InitPc D → List D
  | .blocked rest | .head rest => rest
  | .test p rest | .claim p rest | .claimed p rest | .call p rest | .running p rest
  | .finish p rest => p :: rest

def visits (st : List (Frame D)) : List D := st.filterMap Frame.visiting

def Holding : List (Frame D) → Prop
  | [] => False
  | f :: _ => f.holds = true

/-- Every entry of the queue of a call is still open, or constructed, or under construction
further up the stack. -/
def Accounted (constructed : D → Bool) : List (Frame D) → Prop
  | [] => True
  | .fini _ :: b => Accounted constructed b
  | .init queue pc :: b =>
    (∀ p ∈ queue, p ∈ pc.open ∨ constructed p = true ∨ p ∈ visits b) ∧ Accounted constructed b

/-- How far `__libc_exit_fini` is: the destructors called so far are of DSOs in front of
`rest`, in the order of the list. -/
def Walked (s : Shared T D) (t : T) (rest : List D) : Prop :=
  s.exiting = some t ∧ ∃ seen, s.fini_head = seen ++ rest ∧ s.destroyed.Sublist seen

def Knows (s : Shared T D) (t : T) : Frame D → Prop
  | .init _ (.test p _) => ¬visitedByOther s t p
  | .init _ (.claim p _) => s.ctor_visitor p = none ∧ s.constructed p = false
  | .init _ (.claimed p _) | .init _ (.call p _) => p ∉ s.called
  | .fini .enter => s.exiting = some t ∧ s.destroyed = []
  | .fini (.blocked rest) | .fini (.head rest) => Walked s t rest
  | .fini (.test p rest) => Walked s t (p :: rest)
  | .fini (.destroy p rest) => Walked s t (p :: rest) ∧ s.constructed p = true
  | _ => True

structure Global (hasFini : D → Bool) (s : Shared T D) : Prop where
  started : ∀ p, p ∈ s.started ↔ s.ctor_visitor p ≠ none ∨ s.constructed p = true
  once : s.started.Nodup
  called : ∀ p ∈ s.called, p ∈ s.started
  called_once : s.called.Nodup
  fini : s.fini_head = (s.started.filter hasFini).reverse
  destroyed : ∀ p ∈ s.destroyed, s.constructed p = true
  order : s.destroyed.Sublist s.fini_head
  quiet : s.exiting = none → s.destroyed = []

structure Local (t : T) (s : Shared T D) (st : List (Frame D)) : Prop where
  lock : Holding st ↔ s.owner = some t
  nested : ∀ f ∈ st.tail, ∃ queue p rest, f = .init queue (.running p rest)
  visits : ∀ p, p ∈ visits st ↔ s.ctor_visitor p = some t
  distinct : (InitFini.visits st).Nodup
  accounted : Accounted s.constructed st
  knows : ∀ f b, st = f :: b → Knows s t f

theorem accounted_mono (h : ∀ p, c p = true → c' p = true)
    (hst : Accounted c st) : Accounted c' st := by
  induction st with
  | nil => trivial
  | cons f b ih =>
    cases f with
    | fini pc => exact ih hst
    | init queue pc =>
      exact ⟨fun p hp => (hst.1 p hp).imp_right (Or.imp_left (h p)), ih hst.2⟩

variable {p : D}

theorem Local.advance {t : T} {s s' : Shared T D} (h : Local t s (f :: b))
    (hvisitor : s'.ctor_visitor = s.ctor_visitor) (hconstructed : s'.constructed = s.constructed)
    (hvisiting : g.visiting = f.visiting) (hlock : g.holds = true ↔ s'.owner = some t)
    (hacc : Accounted s.constructed (f :: b) → Accounted s.constructed (g :: b))
    (hknows : Knows s' t g) : Local t s' (g :: b) := by
  have hvisits : InitFini.visits (g :: b) = InitFini.visits (f :: b) := by
    simp [InitFini.visits, filterMap_cons, hvisiting]
  refine ⟨hlock, h.nested, ?_, ?_, ?_, ?_⟩
  · rw [hvisits, hvisitor]
    exact h.visits
  · rw [hvisits]
    exact h.distinct
  · rw [hconstructed]
    exact hacc h.accounted
  · rintro _ _ ⟨⟩
    exact hknows

theorem Local.interfered {u : T} {s s' : Shared T D} {st : List (Frame D)} (h : Local u s st)
    (howner : s'.owner = some u ↔ s.owner = some u)
    (hvisitor : ∀ p, s'.ctor_visitor p = some u ↔ s.ctor_visitor p = some u)
    (hconstructed : ∀ p, s.constructed p = true → s'.constructed p = true)
    (hknows : ∀ f b, st = f :: b → Knows s u f → Knows s' u f) : Local u s' st := by
  refine ⟨h.lock.trans howner.symm, h.nested, fun p => (h.visits p).trans (hvisitor p).symm,
    h.distinct, accounted_mono hconstructed h.accounted, fun f b hst => ?_⟩
  exact hknows f b hst (h.knows f b hst)

variable {hasFini : D → Bool} {t : T}

theorem Local.visitor (h : Local t s (f :: b)) (hf : f.visiting = some p) :
    s.ctor_visitor p = some t :=
  (h.visits p).mp (mem_filterMap.mpr ⟨f, mem_cons_self, hf⟩)

theorem Global.of_visitor (h : Global hasFini s) (hp : s.ctor_visitor p = some t) :
    p ∈ s.started :=
  (h.started p).mpr (.inl (by simp [hp]))

theorem Global.relock (h : Global hasFini s) (owner : Option T) (shutting_down : Bool) :
    Global hasFini { s with owner := owner, shutting_down := shutting_down } :=
  { h with }

theorem Local.push (h : Local t s st) (hcall : Callable st)
    (hvisitor : s'.ctor_visitor = s.ctor_visitor) (hconstructed : s'.constructed = s.constructed)
    (howner : s'.owner = s.owner) (hvisiting : f.visiting = none) (hholds : f.holds = false)
    (hacc : Accounted s.constructed (f :: st)) (hknows : Knows s' t f) : Local t s' (f :: st) := by
  have hvisits : InitFini.visits (f :: st) = InitFini.visits st := by
    simp [InitFini.visits, hvisiting]
  have hfree : ¬Holding st := by
    rcases hcall with rfl | ⟨queue, p, rest, below, rfl⟩ <;> simp [Holding, Frame.holds]
  refine ⟨?_, ?_, ?_, ?_, ?_, ?_⟩
  · simpa [Holding, hholds, howner, ← h.lock] using hfree
  · rcases hcall with rfl | ⟨queue, p, rest, below, rfl⟩
    · simp
    · exact forall_mem_cons.mpr ⟨⟨queue, p, rest, rfl⟩, h.nested⟩
  · rw [hvisits, hvisitor]
    exact h.visits
  · rw [hvisits]
    exact h.distinct
  · rwa [hconstructed]
  · rintro _ _ ⟨⟩
    exact hknows

theorem Local.ret (h : Local t s (.init queue (.head []) :: b)) :
    Local t { s with owner := none } b := by
  refine ⟨?_, fun f hf => h.nested f (mem_of_mem_tail hf), h.visits, h.distinct, h.accounted.2, ?_⟩
  · cases b with
    | nil => simp [Holding]
    | cons f b =>
      obtain ⟨queue', p, rest, rfl⟩ := h.nested f mem_cons_self
      simp [Holding, Frame.holds]
  · rintro f b' rfl
    obtain ⟨queue', p, rest, rfl⟩ := h.nested f mem_cons_self
    trivial

theorem Local.skip (h : Local t s (.init queue (.test p rest) :: b))
    (hdone : s.ctor_visitor p ≠ none ∨ s.constructed p = true) :
    s.constructed p = true ∨ p ∈ InitFini.visits b := by
  have hmine : ¬visitedByOther s t p := h.knows _ _ rfl
  rcases hdone with hv | hc
  · have hown : s.ctor_visitor p = some t := by
      by_contra hne
      exact hmine ⟨hv, hne⟩
    exact Or.inr ((h.visits p).mpr hown)
  · exact Or.inl hc

theorem Local.relocked (h : Local u s other) (owner : Option T) (shutting_down : Bool)
    (howner : owner = some u ↔ s.owner = some u) :
    Local u { s with owner := owner, shutting_down := shutting_down } other :=
  h.interfered howner (fun _ => Iff.rfl) (fun _ hc => hc) (fun _ _ _ hk => hk)

theorem Local.not_holds (h : Local u s other) (howner : s.owner = some t) (hu : u ≠ t)
    (hst : other = f :: b) : f.holds = false := by
  by_contra hf
  have hown : s.owner = some u := h.lock.mp (by simpa [hst, Holding] using hf)
  rw [howner] at hown
  exact hu (Option.some.inj hown).symm

theorem Local.call_other (h : Local u s other) (hu : u ≠ t) (hvisitor : s.ctor_visitor p = some t) :
    Local u { s with called := s.called ++ [p] } other := by
  refine h.interfered Iff.rfl (fun x => Iff.rfl) (fun x hx => hx) fun f b hst hk => ?_
  have hne : ∀ x, f.visiting = some x → x ≠ p := by
    rintro x hx rfl
    have hmine := (hst ▸ h).visitor hx
    exact hu (Option.some.inj (hvisitor.symm.trans hmine)).symm
  cases f with
  | fini pc => cases pc <;> exact hk
  | init queue pc =>
    cases pc with
    | blocked | running | finish | head | test | claim => exact hk
    | claimed x rest | call x rest =>
      intro hx
      rcases mem_append.mp hx with hx | hx
      · exact hk hx
      · exact hne x rfl (mem_singleton.mp hx)

theorem Local.exit_other (h : Local u s other) (hu : s.exiting ≠ some u) (exiting : Option T)
    (destroyed : List D) :
    Local u { s with exiting := exiting, destroyed := destroyed } other := by
  refine h.interfered Iff.rfl (fun x => Iff.rfl) (fun x hx => hx) fun f b hst hk => ?_
  cases f with
  | init queue pc => cases pc <;> exact hk
  | fini pc =>
    cases pc with
    | enter | blocked | head | test => exact absurd hk.1 hu
    | destroy => exact absurd hk.1.1 hu

variable [DecidableEq D]

theorem update_constructed (h : c x = true) : update c p true x = true := by
  by_cases hx : x = p
  · simp [hx]
  · simpa [hx] using h

theorem Global.claim (h : Global hasFini s) (hvisitor : s.ctor_visitor p = none)
    (hconstructed : s.constructed p = false) :
    Global hasFini { s with
      ctor_visitor := update s.ctor_visitor p (some t)
      fini_head := if hasFini p then p :: s.fini_head else s.fini_head
      started := s.started ++ [p] } := by
  have hnew : p ∉ s.started := by
    rw [h.started]
    simp [hvisitor, hconstructed]
  refine ⟨fun x => ?_, ?_, fun x hx => ?_, h.called_once, ?_, h.destroyed, ?_, h.quiet⟩
  · by_cases hx : x = p
    · simp [hx]
    · simp [hx, h.started x]
  · exact h.once.append (nodup_singleton p) (disjoint_singleton.mpr hnew)
  · exact mem_append_left _ (h.called x hx)
  · by_cases hf : hasFini p <;> simp [hf, h.fini]
  · split
    · exact h.order.cons p
    · exact h.order

theorem Global.finish (h : Global hasFini s) (hstarted : p ∈ s.started) :
    Global hasFini { s with
      ctor_visitor := update s.ctor_visitor p none
      constructed := update s.constructed p true } := by
  refine { h with
    started := fun x => ?_, destroyed := fun x hx => update_constructed (h.destroyed x hx) }
  by_cases hx : x = p
  · simp [hx, hstarted]
  · simp [hx, h.started x]

theorem global_turn (hG : Global hasFini s) (hL : Local t s st)
    (h : Turn hasFini t s st s' st') : Global hasFini s' := by
  cases h with
  | do_init_fini | pass | skip | fresh | exit_pass | exit_skip | exit_found => exact hG
  | lock | wait | unlock | relock | ret | exit_lock | exit_wait | exit_wake => exact hG.relock _ _
  | claim =>
    obtain ⟨hv, hc⟩ := hL.knows _ _ rfl
    exact hG.claim hv hc
  | @call queue p rest b =>
    have hstarted : p ∈ s.started := hG.of_visitor (hL.visitor rfl)
    have hnew : p ∉ s.called := hL.knows _ _ rfl
    exact { hG with
      called := forall_mem_append.mpr ⟨hG.called, forall_mem_singleton.mpr hstarted⟩
      called_once := hG.called_once.append (nodup_singleton p) (disjoint_singleton.mpr hnew) }
  | finish => exact hG.finish (hG.of_visitor (hL.visitor rfl))
  | exit_fini _ hnone => exact { hG with quiet := fun h => nomatch h }
  | @destroy p rest b =>
    obtain ⟨⟨hexit, seen, hfini, hsub⟩, hconstructed⟩ := hL.knows _ _ rfl
    refine { hG with
      destroyed := forall_mem_append.mpr ⟨hG.destroyed, forall_mem_singleton.mpr hconstructed⟩
      order := ?_, quiet := ?_ }
    · have := hsub.append (singleton_sublist.mpr (mem_cons_self (a := p) (l := rest)))
      rwa [← hfini] at this
    · intro hnone
      rw [hexit] at hnone
      cases hnone

theorem Local.claim (hG : Global hasFini s) (h : Local t s (.init queue (.claim p rest) :: b)) :
    Local t { s with
      ctor_visitor := update s.ctor_visitor p (some t)
      fini_head := fini_head
      started := started } (.init queue (.claimed p rest) :: b) := by
  obtain ⟨hnone, hconstructed⟩ := h.knows _ _ rfl
  have hb : ∀ x, x ∈ InitFini.visits b ↔ s.ctor_visitor x = some t := h.visits
  have hp : p ∉ InitFini.visits b := by simp [hb, hnone]
  have hstarted : p ∉ s.started := by simp [hG.started, hnone, hconstructed]
  refine ⟨h.lock, h.nested, fun x => ?_, ?_, h.accounted, ?_⟩
  · by_cases hx : x = p
    · simp [hx, InitFini.visits, Frame.visiting]
    · have := hb x
      simp only [InitFini.visits] at this
      simp [hx, InitFini.visits, Frame.visiting, this]
  · exact nodup_cons.mpr ⟨hp, h.distinct⟩
  · rintro _ _ ⟨⟩
    exact fun hc => hstarted (hG.called p hc)

theorem Local.finish (h : Local t s (.init queue (.finish p rest) :: b)) :
    Local t { s with
      ctor_visitor := update s.ctor_visitor p none
      constructed := update s.constructed p true } (.init queue (.head rest) :: b) := by
  have hvisits : ∀ x, x ∈ p :: InitFini.visits b ↔ s.ctor_visitor x = some t := h.visits
  have hp : p ∉ InitFini.visits b := (nodup_cons.mp h.distinct).1
  refine ⟨h.lock, h.nested, fun x => ?_, (nodup_cons.mp h.distinct).2, ⟨fun x hx => ?_, ?_⟩, ?_⟩
  · change x ∈ InitFini.visits b ↔ _
    by_cases hx : x = p
    · simp [hx, hp]
    · simp [hx, ← hvisits x]
  · rcases h.accounted.1 x hx with ho | hc | hv
    · rcases mem_cons.mp ho with rfl | ho
      · exact Or.inr (Or.inl (by simp))
      · exact Or.inl ho
    · exact Or.inr (Or.inl (update_constructed hc))
    · exact Or.inr (Or.inr hv)
  · exact accounted_mono (fun _ => update_constructed) h.accounted.2
  · rintro _ _ ⟨⟩
    trivial

theorem local_turn (hG : Global hasFini s) (hL : Local t s st)
    (h : Turn hasFini t s st s' st') : Local t s' st' := by
  cases h with
  | do_init_fini queue hcall =>
    exact hL.push hcall rfl rfl rfl rfl rfl ⟨fun p hp => Or.inl hp, hL.accounted⟩ trivial
  | lock | wait | relock => exact hL.advance rfl rfl rfl (by simp [Frame.holds]) id trivial
  | pass hp => exact hL.advance rfl rfl rfl hL.lock id fun hv => hp (Or.inl hv)
  | skip hdone =>
    refine hL.advance rfl rfl rfl hL.lock (fun ha => ⟨fun x hx => ?_, ha.2⟩) trivial
    rcases ha.1 x hx with ho | hr
    · rcases mem_cons.mp ho with rfl | ho
      · exact Or.inr (hL.skip hdone)
      · exact Or.inl ho
    · exact Or.inr hr
  | fresh hnew =>
    refine hL.advance rfl rfl rfl hL.lock id ?_
    rw [not_or, not_not, Bool.not_eq_true] at hnew
    exact hnew
  | claim => exact Local.claim hG hL
  | unlock | exit_wait | exit_wake =>
    exact hL.advance rfl rfl rfl (by simp [Frame.holds]) id (hL.knows _ _ rfl)
  | call => exact hL.advance rfl rfl rfl hL.lock id trivial
  | finish => exact hL.finish
  | ret => exact hL.ret
  | exit_fini hcall hnone =>
    exact hL.push hcall rfl rfl rfl rfl rfl hL.accounted ⟨rfl, hG.quiet hnone⟩
  | exit_lock hfree =>
    obtain ⟨hexit, hnil⟩ := hL.knows _ _ rfl
    exact hL.advance rfl rfl rfl (by simp [Frame.holds]) id ⟨hexit, [], rfl, by simp [hnil]⟩
  | exit_pass hp =>
    have hwalked := hL.knows _ _ rfl
    exact hL.advance rfl rfl rfl hL.lock id hwalked
  | @exit_skip p rest b hc =>
    obtain ⟨hexit, seen, hfini, hsub⟩ := hL.knows _ _ rfl
    exact hL.advance rfl rfl rfl hL.lock id
      ⟨hexit, seen ++ [p], by simp [hfini], hsub.trans (sublist_append_left _ _)⟩
  | exit_found hc => exact hL.advance rfl rfl rfl hL.lock id ⟨hL.knows _ _ rfl, hc⟩
  | @destroy p rest b =>
    obtain ⟨⟨hexit, seen, hfini, hsub⟩, hc⟩ := hL.knows _ _ rfl
    exact hL.advance rfl rfl rfl hL.lock id
      ⟨hexit, seen ++ [p], by simp [hfini], hsub.append (Sublist.refl _)⟩

theorem Local.claim_other (h : Local u s other) (howner : s.owner = some t) (hu : u ≠ t)
    (hvisitor : s.ctor_visitor p = none)
    (hfini : fini_head = p :: s.fini_head ∨ fini_head = s.fini_head) :
    Local u { s with
      ctor_visitor := update s.ctor_visitor p (some t)
      fini_head := fini_head
      started := started } other := by
  refine h.interfered Iff.rfl (fun x => ?_) (fun _ hc => hc) fun f b hst hk => ?_
  · by_cases hx : x = p
    · simp [hx, hvisitor, hu.symm]
    · simp [hx]
  · have hfree := h.not_holds howner hu hst
    -- only the list of destructors matters to a thread without the lock
    cases f with
    | init queue pc => cases pc <;> first | exact hk | cases hfree
    | fini pc =>
      cases pc with
      | enter => exact hk
      | head | test | destroy => cases hfree
      | blocked rest =>
        obtain ⟨hexit, seen, hseen, hsub⟩ := hk
        rcases hfini with hf | hf
        · exact ⟨hexit, p :: seen, by simp [hf, hseen], hsub.cons p⟩
        · exact ⟨hexit, seen, by simp [hf, hseen], hsub⟩

theorem Local.finish_other (h : Local u s other) (howner : s.owner = some t) (hu : u ≠ t)
    (hvisitor : s.ctor_visitor p = some t) :
    Local u { s with
      ctor_visitor := update s.ctor_visitor p none
      constructed := update s.constructed p true } other := by
  refine h.interfered Iff.rfl (fun x => ?_) (fun _ => update_constructed) fun f b hst hk => ?_
  · by_cases hx : x = p
    · simp [hx, hvisitor, hu.symm]
    · simp [hx]
  · have hfree := h.not_holds howner hu hst
    cases f with
    | init queue pc => cases pc <;> first | exact hk | cases hfree
    | fini pc => cases pc <;> first | exact hk | cases hfree

theorem other_turn (hu : u ≠ t) (hL : Local t s st) (h : Local u s other)
    (hturn : Turn hasFini t s st s' st') : Local u s' other := by
  cases hturn with
  | do_init_fini | pass | skip | fresh | exit_pass | exit_skip | exit_found => exact h
  | lock hfree | relock hfree | exit_lock hfree | exit_wake hfree =>
    exact h.relocked _ _ (by simp [hfree, hu.symm])
  | wait | unlock | ret | exit_wait =>
    have howner : s.owner = some t := hL.lock.mp rfl
    exact h.relocked _ _ (by simp [howner, hu.symm])
  | @claim queue p rest b =>
    obtain ⟨hv, -⟩ := hL.knows _ _ rfl
    refine h.claim_other (hL.lock.mp rfl) hu hv ?_
    by_cases hf : hasFini p = true
    · exact Or.inl (by simp [hf])
    · exact Or.inr (by simp [hf])
  | call => exact h.call_other hu (hL.visitor rfl)
  | finish => exact h.finish_other (hL.lock.mp rfl) hu (hL.visitor rfl)
  | exit_fini hcall hnone => exact h.exit_other (by simp [hnone]) _ _
  | destroy =>
    obtain ⟨⟨hexit, -⟩, -⟩ := hL.knows _ _ rfl
    exact h.exit_other (by simp [hexit, hu.symm]) _ _

variable [DecidableEq T]

theorem invariant {x : State T D} (h : Reachable Initial (Moves (Turn hasFini)) x) :
    Global hasFini x.1 ∧ ∀ t, Local t x.1 (x.2 t) := by
  refine h.modular ?_ ?_ ?_
  · rintro s own ⟨⟩
    refine ⟨⟨by simp, by simp, by simp, by simp, rfl, by simp, by simp, by simp⟩, fun t => ?_⟩
    exact ⟨by simp [Holding], by simp, by simp [visits], by simp [visits], trivial, by simp⟩
  · intro t s st s' st' hG hL hturn
    exact ⟨global_turn hG hL hturn, local_turn hG hL hturn⟩
  · intro t u s st other s' st' hu _ hL hother hturn
    exact other_turn hu hL hother hturn

/-- The DSO whose constructors were called by the call. -/
def Frame.past : Frame D → Option D
  | .init _ (.running p _) | .init _ (.finish p _) => some p
  | _ => none

def Called (s : Shared T D) (st : List (Frame D)) : Prop :=
  ∀ f ∈ st, ∀ p, f.past = some p → p ∈ s.called

theorem Called.mono (h : Called s st) (hs : s.called ⊆ s'.called) : Called s' st :=
  fun f hf p hp => hs (h f hf p hp)

omit [DecidableEq T] in
theorem called_subset (h : Turn hasFini t s st s' st') : s.called ⊆ s'.called := by
  cases h <;> simp

omit [DecidableEq T] in
theorem called_turn (hG : ∀ p, s.constructed p = true → p ∈ s.called) (hL : Called s st)
    (h : Turn hasFini t s st s' st') :
    (∀ p, s'.constructed p = true → p ∈ s'.called) ∧ Called s' st' := by
  have hrest : ∀ g f b, st = f :: b → g.past = none → Called s (g :: b) := by
    rintro g f b rfl hg
    refine forall_mem_cons.mpr ⟨fun p hp => ?_, (forall_mem_cons.mp hL).2⟩
    rw [hg] at hp
    cases hp
  cases h with
  | do_init_fini | exit_fini =>
    refine ⟨hG, forall_mem_cons.mpr ⟨?_, hL⟩⟩
    rintro p ⟨⟩
  | call =>
    refine ⟨fun p hp => mem_append_left _ (hG p hp), forall_mem_cons.mpr ⟨?_, fun f hf p hp => ?_⟩⟩
    · rintro p ⟨⟩
      exact mem_append_right _ mem_cons_self
    · exact mem_append_left _ (hL f (mem_cons_of_mem _ hf) p hp)
  | relock => exact ⟨hG, forall_mem_cons.mpr (forall_mem_cons.mp hL)⟩
  | @finish _ p =>
    refine ⟨fun x hx => ?_, hrest _ _ _ rfl rfl⟩
    by_cases hp : x = p
    · exact hL _ mem_cons_self x (congrArg some hp.symm)
    · exact hG x (by simpa [hp] using hx)
  | ret => exact ⟨hG, (forall_mem_cons.mp hL).2⟩
  | _ => exact ⟨hG, hrest _ _ _ rfl rfl⟩

theorem called_of_constructed {x : State T D} (h : Reachable Initial (Moves (Turn hasFini)) x) :
    ∀ p, x.1.constructed p = true → p ∈ x.1.called := by
  refine (h.modular (G := fun s => ∀ p, s.constructed p = true → p ∈ s.called)
    (L := fun _ => Called) ?_ ?_ ?_).1
  · rintro s own ⟨⟩
    exact ⟨by simp, fun t => by simp [Called]⟩
  · intro t s st s' st' hG hL hturn
    exact called_turn hG hL hturn
  · intro t u s st other s' st' hu _ hL hother hturn
    exact hother.mono (called_subset hturn)

end InitFini
