import GcompatMusl.FuelLoop
import Mathlib.Data.Int.Init
import Mathlib.Data.List.Induction
import Mathlib.Data.List.Nodup
import Mathlib.Data.List.Perm.Basic

/-! # Handlers that run at exit

`__cxa_atexit` fills blocks of `COUNT` handlers, the newest block first in a list, and
`__funcs_on_exit` takes the handlers out from the top. More may be registered while a handler runs.
Blocks are numbered in the order in which they are used, the static one being block 0. -/
namespace Atexit

open FuelLoop Function List Option

def COUNT : ℕ := 32

structure Fl (F A : Type*) where
  next : Option ℕ
  f : ℕ → F
  a : ℕ → A

structure State (F A : Type*) where
  heap : ℕ → Fl F A
  used : ℕ
  head : Option ℕ
  slot : ℤ

/-- A call of `__cxa_atexit`, and whether `calloc` succeeds if it is needed -/
structure Attempt (F A : Type*) where
  func : F
  arg : A
  ok : Bool

inductive Event (H : Type*) where
  | registered (h : H)
  | run (h : H)
  deriving DecidableEq

variable {F A : Type*}

section Model

variable [Inhabited F] [Inhabited A]

def zeroed : Fl F A := ⟨none, fun _ => default, fun _ => default⟩

def initial : State F A := ⟨fun _ => zeroed, 1, none, 0⟩

def Fl.put (b : Fl F A) (i : ℕ) (func : F) (arg : A) : Fl F A :=
  ⟨b.next, Function.update b.f i func, Function.update b.a i arg⟩

def append (b : ℕ) (func : F) (arg : A) (s : State F A) : State F A :=
  { s with
    heap := Function.update s.heap b ((s.heap b).put s.slot.toNat func arg)
    slot := s.slot + 1 }

/-- The initialization of `head` is deferred to the first call. -/
def setHead (s : State F A) : State F A := { s with head := some (s.head.getD 0) }

def addBlock (s : State F A) : State F A :=
  { s with
    heap := Function.update s.heap s.used { (zeroed : Fl F A) with next := s.head }
    used := s.used + 1
    head := some s.used
    slot := 0 }

def cxa_atexit (func : F) (arg : A) (ok : Bool) (s : State F A) : ℤ × State F A :=
  let s := setHead s
  if s.slot = COUNT then
    if ok then (0, append s.used func arg (addBlock s)) else (-1, s)
  else (0, append (s.head.getD 0) func arg s)

def atexit (call : F) (func : A) (ok : Bool) (s : State F A) : ℤ × State F A :=
  cxa_atexit call func ok s

structure Progress (F A : Type*) where
  state : State F A
  events : List (Event (F × A))
  calls : ℕ

def Progress.attempt (p : Progress F A) (x : Attempt F A) : Progress F A :=
  let r := cxa_atexit x.func x.arg x.ok p.state
  { p with
    state := r.2
    events := if r.1 = 0 then p.events ++ [.registered (x.func, x.arg)] else p.events }

def Progress.attempts (p : Progress F A) (xs : List (Attempt F A)) : Progress F A :=
  xs.foldl Progress.attempt p

/-- The handler in the slot is called, and `xs` is what is registered before it returns. -/
def Progress.call (p : Progress F A) (b : ℕ) (slot : ℤ) (xs : List (Attempt F A)) : Progress F A :=
  Progress.attempts
    { state := { p.state with slot := slot }
      events := p.events ++ [.run ((p.state.heap b).f slot.toNat, (p.state.heap b).a slot.toNat)]
      calls := p.calls + 1 } xs

/-- One turn of the two loops of `__funcs_on_exit`; `script k` is what is registered during call
number `k`. -/
def turn (script : ℕ → List (Attempt F A)) (p : Progress F A) :
    Turn (Progress F A) (Progress F A) :=
  match p.state.head with
  | none => .ret p
  | some b =>
    if 0 < p.state.slot then .again (p.call b (p.state.slot - 1) (script p.calls))
    else .again { p with state := { p.state with head := (p.state.heap b).next, slot := COUNT } }

def atExit (before : List (Attempt F A)) : Progress F A := Progress.attempts ⟨initial, [], 0⟩ before

def funcs_on_exit (before : List (Attempt F A)) (script : ℕ → List (Attempt F A)) (fuel : ℕ) :
    Turn (Progress F A) (Progress F A) :=
  loop (turn script) fuel (atExit before)

end Model

section Order

def registered : List (Event H) → List H
  | [] => []
  | .registered h :: es => h :: registered es
  | .run _ :: es => registered es

def ran : List (Event H) → List H
  | [] => []
  | .registered _ :: es => ran es
  | .run h :: es => h :: ran es

variable (es es' : List (Event H))

theorem registered_append : registered (es ++ es') = registered es ++ registered es' := by
  induction es with
  | nil => rfl
  | cons e es ih =>
    cases e with
    | registered h => exact congrArg (h :: ·) ih
    | run h => exact ih

theorem ran_append : ran (es ++ es') = ran es ++ ran es' := by
  induction es with
  | nil => rfl
  | cons e es ih =>
    cases e with
    | registered h => exact ih
    | run h => exact congrArg (h :: ·) ih

variable [DecidableEq H]

/-- What `es` does to a list of handlers that wait, the newest first. -/
def pendingFrom : List H → List (Event H) → List H
  | hs, [] => hs
  | hs, .registered h :: es => pendingFrom (h :: hs) es
  | hs, .run h :: es => pendingFrom (hs.erase h) es

def pending (es : List (Event H)) : List H := pendingFrom [] es

def NewestFirst (es : List (Event H)) : Prop :=
  ∀ before h after, es = before ++ .run h :: after → (pending before).head? = some h

theorem pendingFrom_append :
    ∀ hs, pendingFrom hs (es ++ es') = pendingFrom (pendingFrom hs es) es' := by
  induction es with
  | nil => exact fun _ => rfl
  | cons e es ih =>
    intro hs
    cases e with
    | registered h => exact ih _
    | run h => exact ih _

theorem pending_registered (es : List (Event H)) (h : H) :
    pending (es ++ [.registered h]) = h :: pending es :=
  pendingFrom_append es _ []

variable {es : List (Event H)}

theorem pending_run (hp : pending es = h :: hs) : pending (es ++ [.run h]) = hs := by
  have happend : pending (es ++ [.run h]) = (pending es).erase h := pendingFrom_append es _ []
  rw [happend, hp, erase_cons_head]

theorem newestFirst_nil : NewestFirst ([] : List (Event H)) := by
  intro before h after hes
  exact absurd hes.symm (append_ne_nil_of_right_ne_nil _ (cons_ne_nil _ _))

/-- A trace stays in order when the event added to it is no call, or calls the newest handler. -/
theorem NewestFirst.snoc (h : NewestFirst es) (he : ∀ x, e = .run x → (pending es).head? = some x) :
    NewestFirst (es ++ [e]) := by
  intro before x after hes
  rcases eq_nil_or_concat after with rfl | ⟨after, e', rfl⟩
  · obtain ⟨rfl, hlast⟩ := append_inj' hes rfl
    exact he x (singleton_inj.1 hlast)
  · rw [concat_eq_append, ← cons_append, ← append_assoc] at hes
    obtain ⟨hfront, -⟩ := append_inj' hes rfl
    exact h before x after hfront

theorem NewestFirst.perm (h : NewestFirst es) : (ran es ++ pending es).Perm (registered es) := by
  induction es using reverseRecOn with
  | nil => exact Perm.nil
  | append_singleton es e ih =>
    have hes : NewestFirst es := by
      intro before x after heq
      refine h before x (after ++ [e]) ?_
      rw [heq, append_assoc]
      rfl
    rw [registered_append, ran_append]
    cases e with
    | registered x =>
      rw [pending_registered, ran, ran, registered, append_nil]
      refine perm_middle.trans ?_
      exact ((ih hes).cons x).trans (perm_append_singleton x _).symm
    | run x =>
      have hhead := h es x [] rfl
      cases hp : pending es with
      | nil =>
        rw [hp] at hhead
        cases hhead
      | cons y hs =>
        rw [hp] at hhead
        obtain rfl : y = x := some.inj hhead
        have hperm := ih hes
        rw [hp] at hperm
        rw [pending_run hp, append_assoc, registered, registered, append_nil]
        exact hperm

end Order

def taken (b : Fl F A) : ℕ → List (F × A)
  | 0 => []
  | n + 1 => (b.f n, b.a n) :: taken b n

/-- Block `b` at the head holds handlers below the slot, and the blocks `rest` are full. -/
def waiting (heap : ℕ → Fl F A) (slot b : ℕ) (rest : List ℕ) : List (F × A) :=
  taken (heap b) slot ++ rest.flatMap fun b => taken (heap b) COUNT

/-- Following `next` from `a` passes through `l` and ends up at `b`. -/
def Path (next : ℕ → Option ℕ) : Option ℕ → List ℕ → Option ℕ → Prop
  | a, [], b => a = b
  | a, x :: l, b => a = some x ∧ Path next (next x) l b

theorem Path.congr {next next' : ℕ → Option ℕ} (h : Path next a l b)
    (heq : ∀ x ∈ l, next' x = next x) : Path next' a l b := by
  induction l generalizing a with
  | nil => exact h
  | cons x l ih =>
    refine ⟨h.1, ?_⟩
    rw [heq x mem_cons_self]
    exact ih h.2 fun y hy => heq y (mem_cons_of_mem x hy)

structure Rep (s : State F A) (hs : List (F × A)) (b : ℕ) (rest : List ℕ) : Prop where
  path : Path (fun b => (s.heap b).next) s.head (b :: rest) none
  nodup : (b :: rest).Nodup
  used : ∀ b' ∈ b :: rest, b' < s.used
  nonneg : 0 ≤ s.slot
  le : s.slot ≤ COUNT
  handlers : hs = waiting s.heap s.slot.toNat b rest

theorem taken_congr {b b' : Fl F A} {n : ℕ} (h : ∀ i < n, b.f i = b'.f i ∧ b.a i = b'.a i) :
    taken b n = taken b' n := by
  induction n with
  | zero => rfl
  | succ n ih =>
    obtain ⟨hf, ha⟩ := h n (Nat.lt_succ_self n)
    rw [taken, taken, hf, ha, ih fun i hi => h i (Nat.lt_succ_of_lt hi)]

theorem taken_put (b : Fl F A) (n : ℕ) (func : F) (arg : A) :
    taken (b.put n func arg) (n + 1) = (func, arg) :: taken b n := by
  have hf : (b.put n func arg).f n = func := update_self ..
  have ha : (b.put n func arg).a n = arg := update_self ..
  rw [taken, hf, ha]
  refine congrArg _ (taken_congr fun i hi => ?_)
  have hne : i ≠ n := Nat.ne_of_lt hi
  exact ⟨update_of_ne hne .., update_of_ne hne ..⟩

theorem append_rep (h : Rep s hs b rest) (hslot : s.slot < COUNT) (func : F)
    (arg : A) : Rep (append b func arg s) ((func, arg) :: hs) b rest := by
  have hnot : b ∉ rest := (nodup_cons.mp h.nodup).1
  have hnext : ∀ x, ((append b func arg s).heap x).next = (s.heap x).next := by
    intro x
    change (update s.heap b _ x).next = _
    rw [update_apply]
    split
    · rename_i heq
      rw [heq]
      rfl
    · rfl
  have hlt := h.nonneg
  have hsucc : (s.slot + 1).toNat = s.slot.toNat + 1 := by omega
  refine ⟨h.path.congr fun x _ => hnext x, h.nodup, h.used, ?_, ?_, ?_⟩
  · change 0 ≤ s.slot + 1
    omega
  · change s.slot + 1 ≤ COUNT
    omega
  · change _ = waiting (update s.heap b _) (s.slot + 1).toNat b rest
    rw [hsucc, waiting, update_self, taken_put, h.handlers, waiting]
    refine congrArg _ (congrArg _ (flatMap_congr fun x hx => ?_))
    have hne : x ≠ b := by
      rintro rfl
      exact hnot hx
    rw [update_of_ne hne]

section Calls

variable [Inhabited F] [Inhabited A]

variable {p : Progress F A}

theorem addBlock_rep {s : State F A} (h : Rep s hs b rest) (hslot : s.slot = COUNT) :
    Rep (addBlock s) hs s.used (b :: rest) := by
  have hother : ∀ x ∈ b :: rest, x ≠ s.used := fun x hx => Nat.ne_of_lt (h.used x hx)
  have hheap : ∀ x ∈ b :: rest, (addBlock s).heap x = s.heap x :=
    fun x hx => update_of_ne (hother x hx) ..
  have hnew : ((addBlock s).heap s.used).next = s.head := by
    change (update s.heap s.used _ s.used).next = _
    rw [update_self]
  refine ⟨⟨rfl, ?_⟩, ?_, ?_, Int.le_refl 0, show (0 : ℤ) ≤ COUNT by decide, ?_⟩
  · change Path _ ((addBlock s).heap s.used).next _ _
    rw [hnew]
    refine h.path.congr fun x hx => ?_
    rw [hheap x hx]
  · exact nodup_cons.mpr ⟨fun hmem => hother s.used hmem rfl, h.nodup⟩
  · exact forall_mem_cons.mpr ⟨Nat.lt_succ_self _, fun x hx => Nat.lt_succ_of_lt (h.used x hx)⟩
  · -- the new block is empty, and the one before it is full
    have hfull : s.slot.toNat = COUNT := by omega
    rw [h.handlers, hfull]
    change _ = [] ++ (b :: rest).flatMap _
    rw [flatMap_cons, waiting, hheap b (mem_cons_self ..)]
    refine congrArg _ (flatMap_congr fun x hx => ?_)
    rw [hheap x (mem_cons_of_mem _ hx)]

theorem cxa_atexit_rep (h : Rep s hs b rest) (func : F)
    (arg : A) (ok : Bool) :
    ((cxa_atexit func arg ok s).1 = 0 ∧ ∃ b' rest', rest'.length ≤ rest.length + 1 ∧
      Rep (cxa_atexit func arg ok s).2 ((func, arg) :: hs) b' rest') ∨
    ((cxa_atexit func arg ok s).1 = -1 ∧ ok = false ∧
      Rep (cxa_atexit func arg ok s).2 hs b rest) := by
  have hhead : s.head = some b := h.path.1
  have hset : setHead s = s := by
    rw [setHead, hhead, getD_some, ← hhead]
  rw [cxa_atexit, hset]
  split
  · rename_i hslot
    cases ok with
    | true =>
      have hadd := append_rep (addBlock_rep h hslot) (show (0 : ℤ) < COUNT by decide) func arg
      exact .inl ⟨rfl, s.used, b :: rest, Nat.le_refl _, hadd⟩
    | false => exact .inr ⟨rfl, rfl, h⟩
  · have hlt : s.slot < COUNT := by
      have hle := h.le
      omega
    rw [hhead]
    exact .inl ⟨rfl, b, rest, Nat.le_succ _, append_rep h hlt func arg⟩

theorem cxa_atexit_first (func : F) (arg : A) (ok : Bool) :
    (cxa_atexit func arg ok (initial : State F A)).1 = 0 ∧
      Rep (cxa_atexit func arg ok initial).2 [(func, arg)] 0 [] := by
  have hrep : Rep (setHead (initial : State F A)) [] 0 [] :=
    ⟨⟨rfl, rfl⟩, nodup_singleton 0, by simp [setHead, initial], Int.le_refl 0,
      show (0 : ℤ) ≤ COUNT by decide, rfl⟩
  exact ⟨rfl, append_rep hrep (show (0 : ℤ) < COUNT by decide) func arg⟩

theorem attempt_registered (h : (cxa_atexit x.func x.arg x.ok p.state).1 = 0) :
    (p.attempt x).events = p.events ++ [.registered (x.func, x.arg)] :=
  if_pos h

variable [DecidableEq F] [DecidableEq A]

structure Fits (p : Progress F A) (b : ℕ) (rest : List ℕ) : Prop where
  ordered : NewestFirst p.events
  rep : Rep p.state (pending p.events) b rest

theorem attempt_fits (h : Fits p b rest) (x : Attempt F A) :
    ∃ b' rest', Fits (p.attempt x) b' rest' ∧
      ran (p.attempt x).events = ran p.events ∧
      rest'.length + (registered p.events).length ≤
        rest.length + (registered (p.attempt x).events).length := by
  rcases cxa_atexit_rep h.rep x.func x.arg x.ok with
    ⟨hr, b', rest', hlen, hrep⟩ | ⟨hr, -, hrep⟩
  · have hevents := attempt_registered hr
    refine ⟨b', rest', ⟨?_, ?_⟩, ?_, ?_⟩
    · rw [hevents]
      exact h.ordered.snoc nofun
    · rw [hevents, pending_registered]
      exact hrep
    · rw [hevents, ran_append]
      exact append_nil _
    · rw [hevents, registered_append, length_append]
      change _ ≤ _ + (_ + 1)
      omega
  · have hevents : (p.attempt x).events = p.events := if_neg (by rw [hr]; decide)
    refine ⟨b, rest, ⟨?_, ?_⟩, ?_, ?_⟩
    · rw [hevents]
      exact h.ordered
    · rw [hevents]
      exact hrep
    · rw [hevents]
    · exact Nat.le_of_eq (by rw [hevents])

theorem attempts_fits (xs : List (Attempt F A)) : ∀ {p : Progress F A} {b : ℕ} {rest : List ℕ},
    Fits p b rest → ∃ b' rest', Fits (p.attempts xs) b' rest' ∧
      ran (p.attempts xs).events = ran p.events ∧
      rest'.length + (registered p.events).length ≤
        rest.length + (registered (p.attempts xs).events).length := by
  induction xs with
  | nil =>
    intro p b rest h
    exact ⟨b, rest, h, rfl, Nat.le_refl _⟩
  | cons x xs ih =>
    intro p b rest h
    obtain ⟨b1, rest1, h1, hran1, hlen1⟩ := attempt_fits h x
    obtain ⟨b2, rest2, h2, hran2, hlen2⟩ := ih h1
    refine ⟨b2, rest2, h2, hran2.trans hran1, ?_⟩
    change _ ≤ _ + (registered ((p.attempt x).attempts xs).events).length
    omega

inductive After (n : ℕ) (p : Progress F A) : Prop where
  | live {b : ℕ} {rest : List ℕ} (hfits : Fits p b rest)
      (hcount : n + rest.length ≤ (ran p.events).length + (registered p.events).length)
  | done (hhead : p.state.head = none) (hordered : NewestFirst p.events)
      (hnone : pending p.events = [])
      (hcount : n ≤ (ran p.events).length + (registered p.events).length + 1)

theorem call_after (h : Fits p b rest)
    (hcount : n + rest.length ≤ (ran p.events).length + (registered p.events).length)
    (hslot : 0 < p.state.slot) (xs : List (Attempt F A)) :
    After (n + 1) (p.call b (p.state.slot - 1) xs) := by
  have hsucc : p.state.slot.toNat = (p.state.slot - 1).toNat + 1 := by omega
  have hpending : pending p.events = ((p.state.heap b).f (p.state.slot - 1).toNat,
      (p.state.heap b).a (p.state.slot - 1).toNat) ::
        waiting p.state.heap (p.state.slot - 1).toNat b rest := by
    rw [h.rep.handlers, hsucc]
    rfl
  have hle := h.rep.le
  have hfits : Fits
      { state := { p.state with slot := p.state.slot - 1 }
        events := p.events ++ [.run ((p.state.heap b).f (p.state.slot - 1).toNat,
          (p.state.heap b).a (p.state.slot - 1).toNat)]
        calls := p.calls + 1 } b rest := by
    refine ⟨h.ordered.snoc fun x hx => ?_, ?_⟩
    · rw [hpending, ← Event.run.inj hx]
      rfl
    · rw [pending_run hpending]
      refine ⟨h.rep.path, h.rep.nodup, h.rep.used, ?_, ?_, rfl⟩
      · change 0 ≤ p.state.slot - 1
        omega
      · change p.state.slot - 1 ≤ COUNT
        omega
  obtain ⟨b', rest', hfits', hran, hlen⟩ := attempts_fits xs hfits
  refine .live hfits' ?_
  rw [Progress.call, hran, ran_append, length_append]
  rw [registered_append, length_append] at hlen
  change _ ≤ _ + 1 + _
  omega

omit [Inhabited F] [Inhabited A] in
theorem leave_after (h : Fits p b rest)
    (hcount : n + rest.length ≤ (ran p.events).length + (registered p.events).length)
    (hslot : ¬ 0 < p.state.slot) : After (n + 1)
      { p with state := { p.state with head := (p.state.heap b).next, slot := COUNT } } := by
  have hzero : p.state.slot.toNat = 0 := by omega
  have hpath := h.rep.path.2
  cases rest with
  | nil =>
    refine .done hpath h.ordered ?_ ?_
    · change pending p.events = []
      rw [h.rep.handlers, hzero]
      rfl
    · change n + 1 ≤ (ran p.events).length + (registered p.events).length + 1
      omega
  | cons b' rest =>
    have hrep : Rep { p.state with head := (p.state.heap b).next, slot := COUNT }
        (pending p.events) b' rest := by
      refine ⟨hpath, (nodup_cons.mp h.rep.nodup).2,
        fun x hx => h.rep.used x (mem_cons_of_mem b hx), show (0 : ℤ) ≤ COUNT by decide,
        Int.le_refl _, ?_⟩
      rw [h.rep.handlers, hzero]
      rfl
    refine .live ⟨h.ordered, hrep⟩ ?_
    · change n + 1 + rest.length ≤ (ran p.events).length + (registered p.events).length
      rw [length_cons] at hcount
      omega

theorem turn_after (script : ℕ → List (Attempt F A)) (h : After n p) :
    Outcome (After (n + 1)) (fun p => NewestFirst p.events ∧ pending p.events = [])
      (turn script p) := by
  cases h with
  | live hfits hcount =>
    rename_i b rest
    rw [turn, show p.state.head = some b from hfits.rep.path.1]
    dsimp only
    split
    · exact call_after hfits hcount ‹_› _
    · exact leave_after hfits hcount ‹_›
  | done hhead hordered hnone hcount =>
    rw [turn, hhead]
    exact ⟨hordered, hnone⟩

theorem atExit_after (before : List (Attempt F A)) : After 0 (atExit before) := by
  cases before with
  | nil => exact .done rfl newestFirst_nil rfl (Nat.zero_le _)
  | cons x xs =>
    obtain ⟨hr, hrep⟩ := cxa_atexit_first x.func x.arg x.ok
    have hevents : (Progress.attempt ⟨initial, [], 0⟩ x).events = [.registered (x.func, x.arg)] :=
      attempt_registered hr
    have hfits : Fits (Progress.attempt ⟨initial, [], 0⟩ x) 0 [] := by
      refine ⟨?_, ?_⟩
      · exact newestFirst_nil.snoc nofun
      · exact hrep
    obtain ⟨b', rest', hfits', -, hlen⟩ := attempts_fits xs hfits
    refine .live hfits' ?_
    change rest'.length + 1 ≤ 0 + _ at hlen
    change 0 + rest'.length ≤ _ + (registered (Progress.attempts _ xs).events).length
    omega

def trace : Turn (Progress F A) (Progress F A) → List (Event (F × A))
  | .ret p => p.events
  | .again p => p.events

theorem funcs_on_exit_after (before : List (Attempt F A)) (script : ℕ → List (Attempt F A))
    (fuel : ℕ) : Outcome (After fuel) (fun p => NewestFirst p.events ∧ pending p.events = [])
      (funcs_on_exit before script fuel) := by
  have hrun := loop_counted (turn script) After
    (fun p => NewestFirst p.events ∧ pending p.events = [])
    (fun n p => turn_after script) fuel 0 (atExit before) (atExit_after before)
  rwa [Nat.zero_add] at hrun

/-- Each call takes the newest handler that has not run, and at the end every handler has run once.
There is an end if only finitely many are registered. -/
theorem handlers_run_once (before : List (Attempt F A)) (script : ℕ → List (Attempt F A)) :
    (∀ fuel, NewestFirst (trace (funcs_on_exit before script fuel))) ∧
    (∀ fuel p, funcs_on_exit before script fuel = .ret p →
      pending p.events = [] ∧ (ran p.events).Perm (registered p.events)) ∧
    ((∃ bound, ∀ fuel, (registered (trace (funcs_on_exit before script fuel))).length ≤ bound) →
      ∃ fuel p, funcs_on_exit before script fuel = .ret p) := by
  have hordered : ∀ fuel, NewestFirst (trace (funcs_on_exit before script fuel)) := by
    intro fuel
    have hafter := funcs_on_exit_after before script fuel
    cases hrun : funcs_on_exit before script fuel with
    | ret p =>
      rw [hrun] at hafter
      exact hafter.1
    | again p =>
      rw [hrun] at hafter
      cases hafter with
      | live hfits => exact hfits.ordered
      | done _ hordered => exact hordered
  refine ⟨hordered, ?_, ?_⟩
  · intro fuel p hrun
    have hafter := funcs_on_exit_after before script fuel
    rw [hrun] at hafter
    have hperm := hafter.1.perm
    rw [hafter.2, append_nil] at hperm
    exact ⟨hafter.2, hperm⟩
  · rintro ⟨bound, hbound⟩
    -- each turn is a call or leaves a block, and both are counted by the registrations
    have hafter := funcs_on_exit_after before script (2 * bound + 2)
    have hle := hbound (2 * bound + 2)
    have hperm := (hordered (2 * bound + 2)).perm.length_eq
    rw [length_append] at hperm
    cases hrun : funcs_on_exit before script (2 * bound + 2) with
    | ret p => exact ⟨2 * bound + 2, p, hrun⟩
    | again p =>
      rw [hrun] at hafter hle hperm
      change _ + _ = (registered p.events).length at hperm
      change (registered p.events).length ≤ bound at hle
      change (ran p.events).length + _ = _ at hperm
      cases hafter with
      | live hfits hcount => omega
      | done _ _ _ hcount => omega

/-- The first handler to run registers one more, which runs before the handler registered first. -/
example : trace (funcs_on_exit [⟨1, 10, true⟩, ⟨2, 20, true⟩]
    (fun k => if k = 0 then [⟨3, 30, true⟩] else []) 6) =
    [.registered (1, 10), .registered (2, 20), .run (2, 20), .registered (3, 30), .run (3, 30),
      .run ((1, 10) : ℕ × ℕ)] := by
  decide

end Calls

end Atexit
