import GcompatMusl.BfsDeps
import Mathlib.Data.List.ReduceOption

/-! # The order of constructors

`queue_ctors` sorts a DSO and its dependencies depth first. Its output queue and its stack grow
towards each other in one buffer. -/
namespace CtorQueue

open FuelLoop DepthFirst LoaderState BfsDeps List Function Nat

/-- The buffer with its two positions, marks and cursors, and the DSO of the inner loop, if any -/
structure Work where
  s : Loader
  next_dep : Id → ℕ
  buf : List (Option Id)
  qpos : ℕ
  spos : ℕ
  p : Option Id

/-- One turn of the two nested loops; `none` is an access outside of the buffer or of a list, or
through a null pointer. -/
def ctorTurn (cnt : ℕ) (w : Work) : Turn (Option Work) Work :=
  match w.p with
  | none =>
    if w.spos < cnt then
      match w.buf[w.spos]? with
      | some (some p) => .again { w with p := some p, spos := w.spos + 1 }
      | _ => .ret none
    else .ret (some w)
  | some p =>
    if w.next_dep p < (w.s.dso p).ndeps_direct then
      match (w.s.deps p)[w.next_dep p]? with
      | none => .ret none
      | some c =>
        if w.s.marks c then
          .again { w with next_dep := update w.next_dep p (w.next_dep p + 1) }
        else if w.spos = 0 then .ret none
        else .again { w with
          buf := w.buf.set (w.spos - 1) (some p)
          spos := w.spos - 1
          p := some c
          next_dep := update w.next_dep c 0
          s := w.s.setMark true c }
    else if w.qpos < w.buf.length then
      .again { w with buf := w.buf.set w.qpos (some p), qpos := w.qpos + 1, p := none }
    else .ret none

/-- Whether `calloc` succeeds, which DSOs have a constructor that a fork has interrupted, and the
cursors that earlier calls have left -/
structure Env where
  alloc : Bool
  inconsistent : Id → Bool
  next_dep : Id → ℕ

inductive Failure where
  | noMemory
  | inconsistent (p : Id)
  deriving DecidableEq

def candidates (s : Loader) (root : Id) : List Id :=
  if (s.dso root).bfs_built then s.deps root else List.range s.count

/-- The number of slots, one of them for the null pointer at the end. The root is not in its own
list of dependencies. -/
def slots (s : Loader) (root : Id) : ℕ :=
  if (s.dso root).bfs_built then (s.deps root).length + 1 + 1 else s.count + 1

def usesBuiltin (s : Loader) (root : Id) : Bool := root = 0 && slots s root ≤ 4

def startWork (next_dep : Id → ℕ) (s : Loader) (root : Id) : Work where
  s := (s.setMarks false (candidates s root)).setMark true root
  next_dep := update next_dep root 0
  buf := (List.replicate (slots s root) none).set (slots s root - 1) (some root)
  qpos := 0
  spos := slots s root - 1
  p := none

def finishQueue (inconsistent : Id → Bool) (w : Work) :
    Option (Loader × Except Failure (List (Option Id))) :=
  if w.qpos < w.buf.length then
    let queued := (w.buf.take w.qpos).reduceOption
    let s := w.s.setMarks false queued
    match queued.find? inconsistent with
    | some p => some (s, .error (.inconsistent p))
    | none => some (s, .ok (w.buf.set w.qpos none))
  else none

def queue_ctors (fuel : ℕ) (env : Env) (s : Loader) (root : Id) :
    Option (Loader × Except Failure (List (Option Id))) :=
  if usesBuiltin s root || env.alloc then
    match (loop (ctorTurn (slots s root)) fuel (startWork env.next_dep s root)).result with
    | some (some w) => finishQueue env.inconsistent w
    | _ => none
  else some (s.setMarks false (candidates s root), .error .noMemory)

theorem take_set_succ {β : Type*} (l : List β) (x : β) (h : i < l.length) :
    (l.set i x).take (i + 1) = l.take i ++ [x] := by
  rw [take_add_one, take_set_of_le (le_refl i)]
  simp [h]

theorem drop_set_self {β : Type*} (l : List β) (x : β) (h : i < l.length) :
    (l.set i x).drop i = x :: l.drop (i + 1) := by
  rw [drop_eq_getElem_cons (by simpa using h), drop_set_of_lt (lt_succ_self i)]
  simp

structure Holds (s : Loader) (cnt : ℕ) (w : Work) (a : Search Id) : Prop where
  state : w.s = s.withMarks a.mark
  next : w.next_dep = a.next
  cur : w.p = a.cur
  size : w.buf.length = cnt
  order : w.qpos ≤ w.spos
  top : w.spos ≤ cnt
  queue : w.buf.take w.qpos = a.out.map some
  stack : w.buf.drop w.spos = a.stack.map some

section Simulation

variable {s : Loader} {cnt : ℕ} {w : Work} {a : Search Id}

theorem Holds.qpos_eq (h : Holds s cnt w a) : w.qpos = a.out.length := by
  have hlen := congrArg length h.queue
  have horder := h.order
  have htop := h.top
  rw [length_take, h.size, length_map] at hlen
  omega

theorem Holds.spos_eq (h : Holds s cnt w a) : w.spos + a.stack.length = cnt := by
  have hlen := congrArg length h.stack
  have htop := h.top
  rw [length_drop, h.size, length_map] at hlen
  omega

def Roomy (s : Loader) (root : Id) (cnt : ℕ) : Prop :=
  ∀ l : List Id, l.Nodup → (∀ u ∈ l, Reach s.direct root u) → l.length < cnt

theorem Holds.gap (h : Holds s cnt w a) (hroom : Roomy s root cnt) (hinv : Inv s.direct root a)
    (hcur : a.cur = some p) : w.qpos + 1 < w.spos := by
  have hlen := hroom _ hinv.nodup hinv.reached
  rw [open_of_some hcur, length_append, length_cons] at hlen
  have hq := h.qpos_eq
  have hs := h.spos_eq
  omega

structure Keeps (w w' : Work) : Prop where
  queue : w.qpos ≤ w'.qpos ∧ w'.buf.take w.qpos = w.buf.take w.qpos
  stack : w'.buf.drop (max w.spos w'.spos) = w.buf.drop (max w.spos w'.spos)

theorem direct_getElem? (k : ℕ) :
    (s.direct p)[k]? = if k < (s.dso p).ndeps_direct then (s.deps p)[k]? else none :=
  getElem?_take

section

variable (h : Holds s cnt w a)
include h

theorem ctorTurn_resume (hcur : a.cur = none) (hstack : a.stack = p :: rest) :
    ∃ w', ctorTurn cnt w = .again w' ∧ Holds s cnt w' (a.resume p rest) ∧ Keeps w w' := by
  have hspos := h.spos_eq
  rw [hstack, length_cons] at hspos
  have hlt : w.spos < w.buf.length := by
    rw [h.size]
    omega
  have hdrop := h.stack
  rw [hstack, drop_eq_getElem_cons hlt] at hdrop
  obtain ⟨htop, hrest⟩ := cons.inj hdrop
  refine ⟨{ w with p := some p, spos := w.spos + 1 }, ?_, ?_, ?_⟩
  · have hget : w.buf[w.spos]? = some (some p) := by rw [getElem?_eq_getElem hlt, htop]
    have hcnt : w.spos < cnt := by omega
    simp [ctorTurn, h.cur, hcur, hcnt, hget]
  · exact ⟨h.state, h.next, rfl, h.size, le_succ_of_le h.order, by change w.spos + 1 ≤ cnt; omega,
      h.queue, hrest⟩
  · exact ⟨⟨le_refl _, rfl⟩, rfl⟩

theorem ctorTurn_emit (hgap : w.qpos + 1 < w.spos) (hw : Wired s) (hcur : a.cur = some p)
    (hnext : (s.direct p)[a.next p]? = none) :
    ∃ w', ctorTurn cnt w = .again w' ∧ Holds s cnt w' (a.emit p) ∧ Keeps w w' := by
  have htop := h.top
  have hlt : w.qpos < w.buf.length := by
    rw [h.size]
    omega
  have hdone : ¬ a.next p < (s.dso p).ndeps_direct := by
    intro hlt
    rw [direct_getElem?, if_pos hlt] at hnext
    have := List.getElem?_eq_none_iff.mp hnext
    have := hw.size p
    omega
  refine ⟨{ w with buf := w.buf.set w.qpos (some p), qpos := w.qpos + 1, p := none }, ?_, ?_, ?_⟩
  · simp [ctorTurn, h.cur, hcur, h.state, h.next, hdone, hlt]
  · refine ⟨h.state, h.next, rfl, ?_, ?_, h.top, ?_, ?_⟩
    · simp [h.size]
    · exact le_of_lt hgap
    · change (w.buf.set w.qpos (some p)).take (w.qpos + 1) = (a.out ++ [p]).map some
      rw [take_set_succ _ _ hlt, h.queue, map_append]
      rfl
    · change (w.buf.set w.qpos (some p)).drop w.spos = a.stack.map some
      rw [drop_set_of_lt (by omega), h.stack]
  · refine ⟨⟨le_succ _, take_set_of_le (le_refl _)⟩, ?_⟩
    exact drop_set_of_lt (by change w.qpos < max w.spos w.spos; omega)

theorem ctorTurn_skip (hcur : a.cur = some p) (hnext : (s.direct p)[a.next p]? = some c)
    (hmark : a.mark c = true) :
    ∃ w', ctorTurn cnt w = .again w' ∧ Holds s cnt w' (a.skip p) ∧ Keeps w w' := by
  rw [direct_getElem?] at hnext
  split_ifs at hnext with hlt
  refine ⟨{ w with next_dep := update w.next_dep p (w.next_dep p + 1) }, ?_, ?_, ?_⟩
  · simp [ctorTurn, h.cur, hcur, h.state, h.next, hlt, hnext, hmark]
  · exact ⟨h.state, by rw [h.next]; rfl, h.cur, h.size, h.order, h.top, h.queue, h.stack⟩
  · exact ⟨⟨le_refl _, rfl⟩, rfl⟩

theorem ctorTurn_descend (hgap : w.qpos + 1 < w.spos) (hcur : a.cur = some p)
    (hnext : (s.direct p)[a.next p]? = some c) (hmark : a.mark c = false) :
    ∃ w', ctorTurn cnt w = .again w' ∧ Holds s cnt w' (a.descend p c) ∧ Keeps w w' := by
  rw [direct_getElem?] at hnext
  split_ifs at hnext with hlt
  have htop := h.top
  have hpos : ¬ w.spos = 0 := by omega
  have hslot : w.spos - 1 < w.buf.length := by
    rw [h.size]
    omega
  refine ⟨{ w with
    buf := w.buf.set (w.spos - 1) (some p)
    spos := w.spos - 1
    p := some c
    next_dep := update w.next_dep c 0
    s := w.s.setMark true c }, ?_, ?_, ?_⟩
  · simp [ctorTurn, h.cur, hcur, h.state, h.next, hlt, hnext, hmark, hpos]
  · refine ⟨?_, by rw [h.next]; rfl, rfl, ?_, ?_, ?_, ?_, ?_⟩
    · rw [h.state, setMark_eq, withMarks_withMarks]
      rfl
    · simp [h.size]
    · change w.qpos ≤ w.spos - 1
      omega
    · change w.spos - 1 ≤ cnt
      omega
    · change (w.buf.set (w.spos - 1) (some p)).take w.qpos = _
      rw [take_set_of_le (by omega), h.queue]
      rfl
    · change (w.buf.set (w.spos - 1) (some p)).drop (w.spos - 1) = (p :: a.stack).map some
      rw [drop_set_self _ _ hslot, Nat.sub_add_cancel (by omega), h.stack, map_cons]
  · refine ⟨⟨le_refl _, take_set_of_le ?_⟩, drop_set_of_lt ?_⟩ <;> omega

theorem ctorTurn_ret (ht : turn s.direct a = .ret t) :
    t = a ∧ a.open = [] ∧ ctorTurn cnt w = .ret (some w) := by
  cases hcur : a.cur with
  | none =>
    cases hstack : a.stack with
    | nil =>
      simp only [turn, hcur, hstack, Turn.ret.injEq] at ht
      have hspos := h.spos_eq
      rw [hstack, length_nil] at hspos
      have hdone : ¬ w.spos < cnt := by omega
      refine ⟨ht.symm, ?_, ?_⟩
      · simp [Search.open, hcur, hstack]
      · simp [ctorTurn, h.cur, hcur, hdone]
    | cons p rest => simp [turn, hcur, hstack] at ht
  | some p => cases hnext : (s.direct p)[a.next p]? <;> simp [turn, hcur, hnext] at ht

end

theorem ctorTurn_again (hw : Wired s) (hroom : Roomy s root cnt) (hinv : Inv s.direct root a)
    (h : Holds s cnt w a) (ht : turn s.direct a = .again t) :
    ∃ w', ctorTurn cnt w = .again w' ∧ Holds s cnt w' t ∧ Inv s.direct root t ∧ Keeps w w' := by
  cases hcur : a.cur with
  | none =>
    cases hstack : a.stack with
    | nil => simp [turn, hcur, hstack] at ht
    | cons p rest =>
      simp only [turn, hcur, hstack, Turn.again.injEq] at ht
      subst ht
      obtain ⟨w', hturn, hholds, hkeeps⟩ := ctorTurn_resume h hcur hstack
      exact ⟨w', hturn, hholds, inv_resume hinv hcur hstack, hkeeps⟩
  | some p =>
    have hgap := h.gap hroom hinv hcur
    cases hnext : (s.direct p)[a.next p]? with
    | none =>
      simp only [turn, hcur, hnext, Turn.again.injEq] at ht
      subst ht
      obtain ⟨w', hturn, hholds, hkeeps⟩ := ctorTurn_emit h hgap hw hcur hnext
      exact ⟨w', hturn, hholds, inv_emit hinv hcur hnext, hkeeps⟩
    | some c =>
      simp only [turn, hcur, hnext, Turn.again.injEq] at ht
      cases hmark : a.mark c with
      | true =>
        rw [hmark] at ht
        subst ht
        obtain ⟨w', hturn, hholds, hkeeps⟩ := ctorTurn_skip h hcur hnext hmark
        exact ⟨w', hturn, hholds, inv_skip hinv hcur hnext hmark, hkeeps⟩
      | false =>
        rw [hmark] at ht
        subst ht
        obtain ⟨w', hturn, hholds, hkeeps⟩ := ctorTurn_descend h hgap hcur hnext hmark
        exact ⟨w', hturn, hholds, inv_descend hinv hcur hnext hmark, hkeeps⟩

theorem roomy_slots (hw : Wired s) (hroot : root < s.count) : Roomy s root (slots s root) := by
  intro l hnodup hreach
  unfold slots
  split_ifs with hbuilt
  · have hsub : l ⊆ root :: s.deps root := by
      intro u hu
      exact mem_cons.mpr (hw.built root hbuilt u (hreach u hu))
    have := (hnodup.subperm hsub).length_le
    rw [length_cons] at this
    omega
  · have hsub : l ⊆ range s.count := by
      intro u hu
      exact mem_range.mpr (reach_bound hw hroot (hreach u hu))
    have := (hnodup.subperm hsub).length_le
    rw [length_range] at this
    omega

theorem setMarks_false_eq (hw : Wired s) (l : List Id) : s.setMarks false l = s := by
  rw [setMarks_eq]
  refine Eq.trans (congrArg s.withMarks ?_) (withMarks_marks s)
  funext q
  simp [hw.unmarked q]

theorem holds_start (hw : Wired s) (next : Id → ℕ) :
    Holds s (slots s root) (startWork next s root) (start root next) := by
  have hpos : 0 < slots s root := by
    unfold slots
    split_ifs <;> omega
  constructor
  · simp only [startWork, setMarks_false_eq hw, setMark_eq, funext hw.unmarked]
    rfl
  · rfl
  · rfl
  · simp [startWork]
  · exact zero_le _
  · exact sub_le _ _
  · rfl
  · change ((replicate (slots s root) none).set (slots s root - 1) (some root)).drop
      (slots s root - 1) = [some root]
    rw [drop_set_self _ _ (by rw [length_replicate]; omega), Nat.sub_add_cancel hpos]
    simp

structure Within (cnt : ℕ) (w : Work) : Prop where
  size : w.buf.length = cnt
  order : w.qpos ≤ w.spos
  top : w.spos ≤ cnt
  live : ∀ w', ctorTurn cnt w = .again w' → Keeps w w'

theorem Holds.within (hw : Wired s) (hroom : Roomy s root cnt) (hinv : Inv s.direct root a)
    (h : Holds s cnt w a) : Within cnt w := by
  refine ⟨h.size, h.order, h.top, ?_⟩
  intro w' hw'
  cases ht : turn s.direct a with
  | ret t =>
    obtain ⟨_, _, hret⟩ := ctorTurn_ret h ht
    rw [hret] at hw'
    cases hw'
  | again t =>
    obtain ⟨w'', hagain, _, _, hkeeps⟩ := ctorTurn_again hw hroom hinv h ht
    rw [hagain] at hw'
    cases hw'
    exact hkeeps

theorem within_always (hw : Wired s) (hroot : root < s.count) (next : Id → ℕ) (fuel : ℕ) :
    Outcome (Within (slots s root)) (fun r => ∃ w, r = some w ∧ Within (slots s root) w)
      (loop (ctorTurn (slots s root)) fuel (startWork next s root)) := by
  have hroom := roomy_slots hw hroot
  have hrun := loop_rule (ctorTurn (slots s root))
    (fun w => ∃ a, Holds s (slots s root) w a ∧ Inv s.direct root a)
    (fun r => ∃ w, r = some w ∧ Within (slots s root) w) ?_ fuel _
    ⟨_, holds_start hw next, inv_start s.direct root next⟩
  · cases hl : loop (ctorTurn (slots s root)) fuel (startWork next s root) with
    | ret r =>
      rw [hl] at hrun
      exact hrun
    | again w =>
      rw [hl] at hrun
      obtain ⟨a, hholds, hinv⟩ := hrun
      exact hholds.within hw hroom hinv
  · rintro w ⟨a, hholds, hinv⟩
    cases ht : turn s.direct a with
    | ret t =>
      rw [(ctorTurn_ret hholds ht).2.2]
      exact ⟨w, rfl, hholds.within hw hroom hinv⟩
    | again t =>
      obtain ⟨w', hagain, hholds', hinv', _⟩ := ctorTurn_again hw hroom hinv hholds ht
      rw [hagain]
      exact ⟨t, hholds', hinv'⟩

theorem loops_return (hw : Wired s) (hroot : root < s.count) (next : Id → ℕ) :
    ∃ w a, Returns (ctorTurn (slots s root)) (startWork next s root) (some w) ∧
      Holds s (slots s root) w a ∧ Inv s.direct root a ∧ a.open = [] := by
  have hroom := roomy_slots hw hroot
  have hU : ∀ u, Reach s.direct root u → u ∈ Finset.range s.count := by
    intro u hu
    exact Finset.mem_range.mpr (reach_bound hw hroot hu)
  obtain ⟨t, hreturns, hinv, hopen⟩ := search_returns hU next
  obtain ⟨r, hr, w, rfl, hholds⟩ := Returns.simulate
    (R := fun w a => Holds s (slots s root) w a ∧ Inv s.direct root a)
    (Q := fun r t => ∃ w, r = some w ∧ Holds s (slots s root) w t)
    (by
      rintro w a t ⟨hholds, _⟩ ht
      obtain ⟨rfl, _, hret⟩ := ctorTurn_ret hholds ht
      exact ⟨some w, hret, w, rfl, hholds⟩)
    (by
      rintro w a t ⟨hholds, hinv⟩ ht
      obtain ⟨w', hagain, hholds', hinv', _⟩ := ctorTurn_again hw hroom hinv hholds ht
      exact ⟨w', hagain, hholds', hinv'⟩)
    ⟨holds_start hw next, inv_start s.direct root next⟩ hreturns
  exact ⟨w, t, hr, hholds, hinv, hopen⟩

def verdict (inconsistent : Id → Bool) (out : List Id) (rest : List (Option Id)) :
    Except Failure (List (Option Id)) :=
  match out.find? inconsistent with
  | some p => .error (.inconsistent p)
  | none => .ok (out.map some ++ none :: rest)

theorem finishQueue_eq (hw : Wired s) (hroom : Roomy s root cnt) (h : Holds s cnt w a)
    (hinv : Inv s.direct root a) (hopen : a.open = []) (inconsistent : Id → Bool) :
    ∃ rest, finishQueue inconsistent w = some (s, verdict inconsistent a.out rest) := by
  have hlen := hroom _ hinv.nodup hinv.reached
  have hmarked := hinv.marked
  simp only [hopen] at hlen hmarked
  have hlt : w.qpos < w.buf.length := by rw [h.size, h.qpos_eq]; exact hlen
  have hqueued : (w.buf.take w.qpos).reduceOption = a.out := by
    rw [h.queue]
    simp [reduceOption]
  have hstate : w.s.setMarks false a.out = s := by
    rw [h.state, setMarks_eq, marks_withMarks]
    refine Eq.trans (congrArg s.withMarks ?_) (withMarks_marks s)
    funext u
    rw [hw.unmarked u]
    by_cases hu : u ∈ a.out
    · simp [hu]
    · simpa [hu] using (hmarked u).not.mpr hu
  have hbuf : w.buf.set w.qpos none = a.out.map some ++ none :: w.buf.drop (w.qpos + 1) := by
    rw [← take_append_drop w.qpos (w.buf.set w.qpos none), drop_set_self _ _ hlt,
      take_set_of_le (le_refl _), h.queue]
  refine ⟨w.buf.drop (w.qpos + 1), ?_⟩
  simp only [finishQueue, hlt, hqueued, hstate, verdict, hbuf]
  cases a.out.find? inconsistent <;> rfl

theorem queue_ctors_state (hw : Wired s) (hroot : root < s.count)
    (h : queue_ctors fuel env s root = some r) : r.1 = s := by
  unfold queue_ctors at h
  split_ifs at h
  · obtain ⟨w, a, hreturns, hholds, hinv, hopen⟩ := loops_return hw hroot env.next_dep
    cases hloop : (loop (ctorTurn (slots s root)) fuel (startWork env.next_dep s root)).result with
    | none =>
      rw [hloop] at h
      cases h
    | some w' =>
      rw [hloop, hreturns.unique hloop] at h
      obtain ⟨rest, hfinish⟩ :=
        finishQueue_eq hw (roomy_slots hw hroot) hholds hinv hopen env.inconsistent
      dsimp only at h
      rw [hfinish] at h
      cases h
      rfl
  · cases h
    exact setMarks_false_eq hw _

end Simulation

structure FreshDso (n : ℕ) (d : Dso) : Prop where
  deps : ∃ l, d.deps = some l ∧ l.length = d.ndeps_direct ∧ ∀ c ∈ l, c < n
  bfs_built : d.bfs_built = false
  mark : d.mark = false

structure Blank (d : Dso) : Prop where
  deps : d.deps = none
  ndeps_direct : d.ndeps_direct = 0
  bfs_built : d.bfs_built = false
  mark : d.mark = false

structure Grown (s t : Loader) : Prop where
  le : s.count ≤ t.count
  old : ∀ q < s.count, t.dso q = s.dso q
  fresh : ∀ q, s.count ≤ q → q < t.count → FreshDso t.count (t.dso q)
  blank : ∀ q, t.count ≤ q → Blank (t.dso q)

inductive History : Loader → Prop where
  | start {s : Loader} : s.count = 0 → (∀ q, Blank (s.dso q)) → History s
  | grown {s t : Loader} : History s → Grown s t → History t
  | extended {s t : Loader} {p : Id} {fuel : ℕ} {alloc : ℕ → Bool} : History s → p < s.count →
      extend_bfs_deps fuel alloc s p = some (t, true) → History t

theorem Blank.deps_eq {s : Loader} (h : Blank (s.dso q)) : s.deps q = [] := by
  simp [Loader.deps, h.deps]

theorem wired_start {s : Loader} (hcount : s.count = 0) (h : ∀ q, Blank (s.dso q)) : Wired s where
  loaded := by simp [hcount]
  bound := by
    intro p c hc
    rw [(h p).deps_eq] at hc
    cases hc
  size := by simp [(h _).ndeps_direct]
  unbuilt := by
    intro p _
    rw [(h p).deps_eq, (h p).ndeps_direct]
    rfl
  built := by
    intro p hp
    rw [(h p).bfs_built] at hp
    cases hp
  unmarked := fun p => (h p).mark

theorem grown_wired (h : Wired s) (g : Grown s t) : Wired t := by
  have hold : ∀ {q}, q < s.count → t.deps q = s.deps q ∧ t.direct q = s.direct q := by
    intro q hq
    simp only [Loader.deps, Loader.direct, g.old q hq, and_self]
  have hkind : ∀ q, q < s.count ∨ FreshDso t.count (t.dso q) ∨ Blank (t.dso q) := by
    intro q
    by_cases hs : q < s.count
    · exact Or.inl hs
    · by_cases ht : q < t.count
      · exact Or.inr (Or.inl (g.fresh q (Nat.le_of_not_lt hs) ht))
      · exact Or.inr (Or.inr (g.blank q (Nat.le_of_not_lt ht)))
  constructor
  · intro q hq
    by_cases hs : q < s.count
    · rw [g.old q hs]
      exact h.loaded q hs
    · obtain ⟨l, hl, _⟩ := (g.fresh q (Nat.le_of_not_lt hs) hq).deps
      simp [hl]
  · intro q c hc
    rcases hkind q with hs | hf | hb
    · rw [(hold hs).1] at hc
      exact lt_of_lt_of_le (h.bound q c hc) g.le
    · obtain ⟨l, hl, _, hbound⟩ := hf.deps
      rw [Loader.deps, hl] at hc
      exact hbound c hc
    · rw [hb.deps_eq] at hc
      cases hc
  · intro q
    rcases hkind q with hs | hf | hb
    · rw [(hold hs).1, g.old q hs]
      exact h.size q
    · obtain ⟨l, hl, hlen, _⟩ := hf.deps
      simp [Loader.deps, hl, hlen]
    · simp [hb.ndeps_direct]
  · intro q hq
    rcases hkind q with hs | hf | hb
    · rw [g.old q hs] at hq ⊢
      rw [(hold hs).1]
      exact h.unbuilt q hq
    · obtain ⟨l, hl, hlen, _⟩ := hf.deps
      simp [Loader.deps, hl, hlen]
    · simp [hb.deps_eq, hb.ndeps_direct]
  · intro q hq u hu
    rcases hkind q with hs | hf | hb
    · -- what an old DSO reaches was loaded before, with the same dependencies
      have hreach : u < s.count ∧ Reach s.direct q u := by
        induction hu with
        | refl => exact ⟨hs, .refl⟩
        | tail _ hedge ih =>
          rw [Edge, (hold ih.1).2] at hedge
          exact ⟨direct_bound h _ _ hedge, ih.2.tail hedge⟩
      rw [g.old q hs] at hq
      rw [(hold hs).1]
      exact h.built q hq u hreach.2
    · cases hf.bfs_built.symm.trans hq
    · cases hb.bfs_built.symm.trans hq
  · intro q
    rcases hkind q with hs | hf | hb
    · rw [Loader.marks, g.old q hs]
      exact h.unmarked q
    · exact hf.mark
    · exact hb.mark

theorem History.wired (h : History s) : Wired s := by
  induction h with
  | start hcount hblank => exact wired_start hcount hblank
  | grown _ hgrown ih => exact grown_wired ih hgrown
  | extended _ hp hext ih => exact (extension_of_success ih hp hext).wired

/-- A queue holds the root and everything it reaches, each DSO once and the root last, and puts a
DSO behind each dependency that does not lead back to it. -/
structure Sorted (s : Loader) (root : Id) (out : List Id) : Prop where
  nodup : out.Nodup
  complete : ∀ u, u ∈ out ↔ Reach s.direct root u
  last : out.getLast? = some root
  order : ∀ u ∈ out, ∀ c ∈ s.direct u, ¬ Reach s.direct c u → Before out c u

theorem sorted_out (hinv : Inv s.direct root a)
    (hopen : a.open = []) : Sorted s root a.out where
  nodup := by
    have := hinv.nodup
    rwa [hopen, nil_append] at this
  complete := hinv.mem_out_iff hopen
  last := hinv.last_out hopen
  order := by
    intro u hu c hc hcycle
    exact (hinv.closed u hu c hc).2.resolve_right hcycle

theorem exists_extended (h : History s) (hp : p < s.count) :
    ∃ t n, (∀ fuel ≥ n, extend_bfs_deps fuel (fun _ => true) s p = some (t, true)) ∧
      History t ∧ (t.dso p).bfs_built = true ∧ t.direct = s.direct := by
  obtain ⟨t, n, hn⟩ := extend_bfs_deps_returns h.wired hp fun _ => rfl
  have hext := extension_of_success h.wired hp (hn n (le_refl n))
  exact ⟨t, n, hn, .extended h hp (hn n (le_refl n)), hext.built, hext.direct⟩

def blankDso : Dso := ⟨fun _ _ => false, none, false, false, none, 0⟩

def noDsos : Loader := ⟨fun _ => blankDso, 0, 0⟩

def cyclicPair : Loader :=
  { noDsos with
    count := 2
    dso := fun q =>
      if q = 0 then { blankDso with deps := some [1, 1], ndeps_direct := 2 }
      else if q = 1 then { blankDso with deps := some [1, 0], ndeps_direct := 2 }
      else blankDso }

theorem cyclicPair_history : History cyclicPair := by
  refine .grown (.start (s := noDsos) rfl fun q => ⟨rfl, rfl, rfl, rfl⟩) ⟨by decide, ?_, ?_, ?_⟩
  · intro q hq
    exact absurd hq (not_lt_zero q)
  · intro q _ hq
    obtain rfl | rfl := le_one_iff_eq_zero_or_eq_one.mp (le_of_lt_succ hq)
    · exact ⟨⟨[1, 1], rfl, rfl, by decide⟩, rfl, rfl⟩
    · exact ⟨⟨[1, 0], rfl, rfl, by decide⟩, rfl, rfl⟩
  · intro q (hq : 2 ≤ q)
    simp only [cyclicPair, if_neg (show q ≠ 0 by omega), if_neg (show q ≠ 1 by omega)]
    exact ⟨rfl, rfl, rfl, rfl⟩

def calm : Env := ⟨true, fun _ => false, fun _ => 7⟩

end CtorQueue
