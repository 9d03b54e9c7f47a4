import GcompatMusl.BitMask
import GcompatMusl.Interleaving

/-! # One group of the allocator under concurrent `malloc` and `free`

`free` gives a slot back by a compare-and-swap on `freed_mask`, without the lock, unless
`freed_mask` is empty or the slot is the last one in use. Everything else is done under the lock,
which `rdlock` takes as well. The steps are the single accesses to the two masks. -/
namespace GroupRace

open BitMask Interleaving Function Option
open BitVec (getLsbD_or eq_of_getLsbD_eq getLsbD_and getLsbD_not zero_or)

abbrev Mask := BitVec 32

structure Group where
  last_idx : ℕ
  size : ℕ
  last_idx_lt : last_idx < 32

def Group.all (g : Group) : Mask := upTo 32 g.last_idx

/-- The group, its slots in the hands of the program or used for a nested group, the lock, and
whether the group is on its active list and was ended by `free_group` -/
structure Shared (T : Type*) where
  avail_mask : Mask
  freed_mask : Mask
  active_idx : ℕ
  live : Mask
  lock : Option T
  queued : Bool
  released : Bool

def Shared.act {T : Type*} (s : Shared T) : Mask := upTo 32 s.active_idx

inductive Reader where
  | malloc
  | try_avail
  deriving DecidableEq, Repr

/-- `nontrivial_free` activates the next group when it releases another one. -/
inductive Activator where
  | try_avail
  | nontrivial_free
  deriving DecidableEq, Repr

inductive Phase where
  | away
  | locked
  | visit
  | free (i : ℕ)
  | freeAvail (i : ℕ) (freed : Mask)
  | freeCas (i : ℕ) (freed : Mask)
  | wrlock (i : ℕ)
  | nontrivialFreed (i : ℕ)
  | nontrivialAvail (i : ℕ) (freed : Mask)
  | nontrivialTest (i : ℕ) (mask : Mask)
  | nontrivialOr (i : ℕ)
  | readAvail (r : Reader)
  | take (mask : Mask)
  | took (i : ℕ)
  | enframe (i : ℕ)
  | headFreed
  | selected
  | chosen (mask : Mask)
  | activate (a : Activator)
  | activateFreed (a : Activator)
  | activateCas (a : Activator) (mask : Mask)
  | activateStore (a : Activator) (mask : Mask)
  deriving DecidableEq, Repr

def growCount (size : ℕ) : ℕ → ℕ → ℕ → ℕ
  | 0, cnt, _ => cnt
  | fuel + 1, cnt, span =>
    if span ^^^ (span + size - 1) < 4096 then growCount size fuel (cnt + 1) (span + size) else cnt

def Group.grown (g : Group) (active_idx : ℕ) : ℕ :=
  min (growCount g.size 4096 (active_idx + 2) (16 + g.size * (active_idx + 2))) (g.last_idx + 1) - 1

/-- One access. A thread that is `locked` works on other groups; it gets to this one through its
active list, or through a slot of it that held a nested group. -/
inductive Turn (g : Group) {T : Type*} (t : T) : Shared T → Phase → Shared T → Phase → Prop where
  | lock {s} : s.lock = none → Turn g t s .away { s with lock := some t } .locked
  | unlock {s} : Turn g t s .locked { s with lock := none } .away
  /-- The links of the group, or its masks when another class counts its usage. -/
  | visit {s} : s.queued = true → Turn g t s .locked s .visit
  | visited {s} : Turn g t s .visit s .locked
  | free {s i} : s.live.getLsbD i = true →
      Turn g t s .away { s with live := s.live &&& ~~~bit 32 i } (.free i)
  | freed {s i} : Turn g t s (.free i) s (.freeAvail i s.freed_mask)
  | trivial {s i freed} : freed ≠ 0 → (freed ||| s.avail_mask) + bit 32 i ≠ g.all →
      Turn g t s (.freeAvail i freed) s (.freeCas i freed)
  | nontrivial {s i freed} : freed = 0 ∨ (freed ||| s.avail_mask) + bit 32 i = g.all →
      Turn g t s (.freeAvail i freed) s (.wrlock i)
  | cas {s i freed} : s.freed_mask = freed →
      Turn g t s (.freeCas i freed) { s with freed_mask := freed + bit 32 i } .away
  | casFailed {s i freed} : s.freed_mask ≠ freed → Turn g t s (.freeCas i freed) s (.free i)
  | wrlock {s i} : s.lock = none →
      Turn g t s (.wrlock i) { s with lock := some t } (.nontrivialFreed i)
  /-- `free_group` of a nested group. -/
  | unnest {s i} : s.live.getLsbD i = true →
      Turn g t s .locked { s with live := s.live &&& ~~~bit 32 i } (.nontrivialFreed i)
  | nontrivialFreed {s i} : Turn g t s (.nontrivialFreed i) s (.nontrivialAvail i s.freed_mask)
  | nontrivialAvail {s i freed} :
      Turn g t s (.nontrivialAvail i freed) s (.nontrivialTest i (freed ||| s.avail_mask))
  /-- The group is full and `okay_to_free` agrees. -/
  | release {s i mask} : mask + bit 32 i = g.all →
      Turn g t s (.nontrivialTest i mask)
        { s with avail_mask := 0, freed_mask := 0, queued := false, released := true } .locked
  | queue {s i mask} : mask = 0 →
      Turn g t s (.nontrivialTest i mask) { s with queued := true } (.nontrivialOr i)
  | keep {s i mask} : mask ≠ 0 → Turn g t s (.nontrivialTest i mask) s (.nontrivialOr i)
  | nontrivialOr {s i} :
      Turn g t s (.nontrivialOr i) { s with freed_mask := s.freed_mask ||| bit 32 i } .locked
  | read {s r} : s.queued = true → Turn g t s .locked s (.readAvail r)
  | available {s r} : s.avail_mask ≠ 0 → Turn g t s (.readAvail r) s (.take s.avail_mask)
  | unavailable {s} : s.avail_mask = 0 → Turn g t s (.readAvail .malloc) s .locked
  | exhausted {s} : s.avail_mask = 0 → Turn g t s (.readAvail .try_avail) s .headFreed
  | take {s mask} :
      Turn g t s (.take mask) { s with avail_mask := mask - lowest mask }
        (.took (lowest mask).ctz.toNat)
  | nest {s i} : Turn g t s (.took i) { s with live := s.live ||| bit 32 i } .locked
  | success {s i} : Turn g t s (.took i) { s with lock := none } (.enframe i)
  | enframe {s i} : Turn g t s (.enframe i) { s with live := s.live ||| bit 32 i } .away
  | dequeue {s} : s.freed_mask = 0 → Turn g t s .headFreed { s with queued := false } .locked
  | headNext {s} : s.freed_mask ≠ 0 → Turn g t s .headFreed s .locked
  | select {s} : s.queued = true → Turn g t s .locked s .selected
  | selected {s} : Turn g t s .selected s (.chosen s.freed_mask)
  | skip {s mask} : mask = g.all ∨ mask &&& s.act = 0 → Turn g t s (.chosen mask) s .locked
  | chosen {s mask} : mask &&& s.act ≠ 0 → Turn g t s (.chosen mask) s (.activate .try_avail)
  | grow {s mask} : mask &&& s.act = 0 →
      Turn g t s (.chosen mask) { s with active_idx := g.grown s.active_idx } (.activate .try_avail)
  | next {s a} : s.queued = true → Turn g t s .locked s (.activate a)
  | activate {s a} : s.avail_mask = 0 → Turn g t s (.activate a) s (.activateFreed a)
  | activateFreed {s a} : Turn g t s (.activateFreed a) s (.activateCas a s.freed_mask)
  | activateCas {s a mask} : s.freed_mask = mask →
      Turn g t s (.activateCas a mask) { s with freed_mask := mask &&& ~~~s.act }
        (.activateStore a (mask &&& s.act))
  | activateCasFailed {s a mask} : s.freed_mask ≠ mask →
      Turn g t s (.activateCas a mask) s (.activateFreed a)
  | activated {s mask} : mask ≠ 0 →
      Turn g t s (.activateStore .try_avail mask) { s with avail_mask := mask } (.take mask)
  | activatedNext {s mask} :
      Turn g t s (.activateStore .nontrivial_free mask) { s with avail_mask := mask } .locked

def freeing : Phase → Mask
  | .free i | .freeAvail i _ | .freeCas i _ | .wrlock i | .nontrivialFreed i
  | .nontrivialAvail i _ | .nontrivialTest i _ | .nontrivialOr i => bit 32 i
  | _ => 0

/-- The slots that `activate_group` has taken out of one mask and not yet put into the other. -/
def moving : Phase → Mask
  | .activateStore _ mask => mask
  | _ => 0

def taken : Phase → Mask
  | .took i | .enframe i => bit 32 i
  | _ => 0

inductive Status (T : Type*) where
  | live
  | freeing (t : T)
  | freed
  | moving (t : T)
  | avail
  | taken (t : T)

inductive Advances {T : Type*} : Status T → Status T → Prop where
  | free (t : T) : Advances .live (.freeing t)
  | publish (t : T) : Advances (.freeing t) .freed
  | activate (t : T) : Advances .freed (.moving t)
  | offer (t : T) : Advances (.moving t) .avail
  | take (t : T) : Advances .avail (.taken t)
  | hand (t : T) : Advances (.taken t) .live

variable {T : Type*}

def slots (x : Shared T × (T → Phase)) : Status T → Mask
  | .live => x.1.live
  | .freeing t => freeing (x.2 t)
  | .freed => x.1.freed_mask
  | .moving t => moving (x.2 t)
  | .avail => x.1.avail_mask
  | .taken t => taken (x.2 t)

def InState (x : Shared T × (T → Phase)) (i : ℕ) (st : Status T) : Prop :=
  (slots x st).getLsbD i = true

/-- A new group of `alloc_group`, an individually mapped one of `malloc`, and a donated one. -/
inductive Start (g : Group) : Shared T × (T → Phase) → Prop where
  | group (t : T) (active_idx : ℕ) (own : T → Phase) : active_idx ≤ g.last_idx → own t = .took 0 →
      (∀ u, u ≠ t → own u = .away) →
      Start g (⟨upTo 32 active_idx - 1, g.all - upTo 32 active_idx, active_idx, 0, some t, true,
        false⟩, own)
  | mapped (t : T) (own : T → Phase) : g.last_idx = 0 → own t = .took 0 →
      (∀ u, u ≠ t → own u = .away) → Start g (⟨0, 0, 0, 0, some t, false, false⟩, own)
  | donated : g.last_idx = 0 → Start g (⟨0, 1, 0, 0, none, true, false⟩, fun _ => .away)

def Reachable [DecidableEq T] (g : Group) : Shared T × (T → Phase) → Prop :=
  Interleaving.Reachable (Start g) (Moves (Turn g))

def holdsLock : Phase → Bool
  | .away | .free _ | .freeAvail _ _ | .freeCas _ _ | .wrlock _ | .enframe _ => false
  | _ => true

def Within (x y : Mask) : Prop := ∀ i, x.getLsbD i = true → y.getLsbD i = true

variable {x : Mask} {i a : ℕ}

theorem Within.trans (h : Within x y) (h' : Within y z) : Within x z := fun i hi => h' i (h i hi)

theorem Within.or_right (z : Mask) (h : Within x y) : Within (x ||| z) (y ||| z) := by
  intro i hi
  rw [getLsbD_or, Bool.or_eq_true] at hi ⊢
  exact hi.imp (h i) id

theorem Within.ne_zero (h : Within x y) (hx : x ≠ 0) : y ≠ 0 := by
  obtain ⟨i, _, hi, _⟩ := lowest_spec hx
  rintro rfl
  have hbit := h i hi
  rw [BitVec.ofNat_eq_ofNat, BitVec.getLsbD_zero] at hbit
  exact Bool.false_ne_true hbit

theorem or_ne_zero (h : x ||| y ≠ 0) : y ≠ 0 ∨ x ≠ 0 := by
  by_contra hno
  rw [not_or, not_not, not_not] at hno
  rw [hno.1, hno.2] at h
  exact h rfl

def Facts (s : Shared T) : Phase → Prop
  | .free i | .freeAvail i _ | .wrlock i | .took i | .enframe i => i < 32
  | .freeCas i freed => i < 32 ∧ freed ≠ 0
  | .nontrivialAvail _ freed => Within freed s.freed_mask
  | .nontrivialTest _ mask => Within mask (s.freed_mask ||| s.avail_mask)
  | .nontrivialOr _ | .selected | .chosen _ | .activate _ => s.queued = true
  | .take mask => s.avail_mask = mask ∧ mask ≠ 0
  | .headFreed => s.avail_mask = 0
  | .activateFreed _ | .activateCas _ _ | .activateStore _ _ => s.avail_mask = 0 ∧ s.queued = true
  | _ => True

def Local (t : T) (s : Shared T) (p : Phase) : Prop :=
  (holdsLock p = true → s.lock = some t) ∧ Facts s p

def Listed (s : Shared T) : Prop := s.avail_mask ≠ 0 ∨ s.freed_mask ≠ 0 → s.queued = true

/-- All but `freed_mask` is left alone, in which bits can only be added. -/
structure Undisturbed (s s' : Shared T) : Prop where
  avail_mask : s'.avail_mask = s.avail_mask
  freed_mask : Within s.freed_mask s'.freed_mask
  lock : s'.lock = s.lock
  queued : s'.queued = s.queued

def Apart (s : Shared T) (p : Phase) : Prop :=
  ∀ i, (freeing p).getLsbD i = true → s.freed_mask.getLsbD i = false

variable {g : Group} {t : T} {s s' : Shared T}

theorem freed_add (h : Apart s (.freeCas i freed)) :
    s.freed_mask + bit 32 i = s.freed_mask ||| bit 32 i := by
  apply eq_of_getLsbD_eq
  intro j _
  rw [getLsbD_add, getLsbD_or]
  intro k hk
  by_contra hbit
  rw [h k (Bool.eq_true_of_not_eq_false hbit)] at hk
  exact Bool.false_ne_true hk

theorem Turn.undisturbed (h : Turn g t s p s' p') (hp : Local t s p) (ha : Apart s p)
    (hlock : s.lock = some u) (hne : u ≠ t) : Undisturbed s s' := by
  have hfree : holdsLock p ≠ true := by
    intro hhold
    exact hne (some.inj (hlock.symm.trans (hp.1 hhold)))
  have hsame : Undisturbed s s := ⟨rfl, fun _ hi => hi, rfl, rfl⟩
  cases h with
  | lock h | wrlock h => exact absurd (hlock.symm.trans h) (some_ne_none u)
  | free | enframe => exact ⟨rfl, fun _ hi => hi, rfl, rfl⟩
  | freed | trivial | nontrivial | casFailed => exact hsame
  | cas h =>
    subst h
    refine ⟨rfl, ?_, rfl, rfl⟩
    rw [freed_add ha]
    intro i hi
    rw [getLsbD_or, hi, Bool.true_or]
  | _ => exact absurd rfl hfree

theorem Facts.undisturbed (h : Facts s q) (hs : Undisturbed s s') : Facts s' q := by
  cases q with
  | nontrivialAvail i freed => exact Within.trans h hs.freed_mask
  | nontrivialTest i mask =>
    refine Within.trans h ?_
    rw [hs.avail_mask]
    exact hs.freed_mask.or_right _
  | nontrivialOr | selected | chosen | activate => exact hs.queued.trans h
  | take => exact ⟨hs.avail_mask.trans h.1, h.2⟩
  | headFreed => exact hs.avail_mask.trans h
  | activateFreed | activateCas | activateStore =>
    exact ⟨hs.avail_mask.trans h.1, hs.queued.trans h.2⟩
  | _ => exact h

theorem Facts.unlocked (h : Facts s q) (hq : holdsLock q ≠ true) : Facts s' q := by
  cases q with
  | away | free | freeAvail | freeCas | wrlock | enframe => exact h
  | _ => exact absurd rfl hq

theorem Local.other (hq : Local u s q) (hp : Local t s p) (ha : Apart s p) (hne : u ≠ t)
    (h : Turn g t s p s' p') : Local u s' q := by
  by_cases hhold : holdsLock q = true
  · have hs := h.undisturbed hp ha (hq.1 hhold) hne
    exact ⟨fun _ => hs.lock.trans (hq.1 hhold), hq.2.undisturbed hs⟩
  · exact ⟨fun hh => absurd hh hhold, hq.2.unlocked hhold⟩

theorem Local.own (hp : Local t s p) (hl : Listed s) (h : Turn g t s p s' p') : Local t s' p' := by
  constructor
  · cases h with
    | lock | wrlock => exact fun _ => rfl
    | unlock | free | freed | trivial | nontrivial | cas | casFailed | success | enframe =>
      exact fun hh => absurd hh Bool.false_ne_true
    | _ => exact fun _ => hp.1 rfl
  · cases h with
    | free h => exact BitVec.lt_of_getLsbD h
    | casFailed => exact hp.2.1
    | trivial h => exact ⟨hp.2, h⟩
    | take =>
      obtain ⟨i, hi, _, _, hctz⟩ := lowest_spec hp.2.2
      exact hctz.trans_lt hi
    | nontrivialFreed => exact fun _ hi => hi
    | nontrivialAvail => exact Within.or_right _ hp.2
    | queue => exact rfl
    | keep h => exact hl (or_ne_zero (Within.ne_zero hp.2 h))
    | available h | activated h => exact ⟨rfl, h⟩
    | exhausted h | select h | next h => exact h
    | activate h => exact ⟨h, hp.2⟩
    | freed | nontrivial | success | selected | chosen | grow | activateFreed | activateCas
    | activateCasFailed => exact hp.2
    | _ => exact True.intro

theorem Listed.turn (hl : Listed s) (hp : Local t s p) (h : Turn g t s p s' p') : Listed s' := by
  cases h with
  | cas h =>
    subst h
    exact fun _ => hl (.inr hp.2.2)
  | release => exact fun h => (h.elim (fun h => h rfl) fun h => h rfl).elim
  | queue => exact fun _ => rfl
  | nontrivialOr => exact fun _ => hp.2
  | take => exact fun _ => hl (.inl (hp.2.1.trans_ne hp.2.2))
  | dequeue h =>
    intro hany
    exact (hany.elim (fun ha => ha hp.2) fun hf => hf h).elim
  | activateCas | activated | activatedNext => exact fun _ => hp.2.2
  | _ => exact hl

inductive Kind where
  | live
  | freeing
  | freed
  | moving
  | avail
  | taken
  deriving DecidableEq, Repr

def Kind.next : Kind → Kind
  | .live => .freeing
  | .freeing => .freed
  | .freed => .moving
  | .moving => .avail
  | .avail => .taken
  | .taken => .live

def Kind.status (t : T) : Kind → Status T
  | .live => .live
  | .freeing => .freeing t
  | .freed => .freed
  | .moving => .moving t
  | .avail => .avail
  | .taken => .taken t

def Status.kind : Status T → Kind
  | .live => .live
  | .freeing _ => .freeing
  | .freed => .freed
  | .moving _ => .moving
  | .avail => .avail
  | .taken _ => .taken

def part (s : Shared T) (p : Phase) : Kind → Mask
  | .live => s.live
  | .freeing => freeing p
  | .freed => s.freed_mask
  | .moving => moving p
  | .avail => s.avail_mask
  | .taken => taken p

theorem kind_status (t : T) (k : Kind) : (k.status t).kind = k := by
  cases k <;> rfl

theorem slots_own (own : T → Phase) (k : Kind) :
    slots (s, own) (k.status t) = part s (own t) k := by
  cases k <;> rfl

section Moving

variable [DecidableEq T]

theorem slots_move_own (k : Kind) :
    slots (s', update own t p') (k.status t) = part s' p' k := by
  rw [slots_own, update_self]

theorem slots_move_other (h : st ≠ st.kind.status t) :
    slots (s', update own t p') st = slots (s, own) st := by
  cases st with
  | live | freed | avail => exact absurd rfl h
  | freeing u | moving u | taken u =>
    have hu : u ≠ t := by
      rintro rfl
      exact h rfl
    simp only [slots, update_of_ne hu]

structure Shifted (old new : Kind → Mask) (k : Kind) (S : Mask) : Prop where
  within : Within S (old k)
  source : new k = old k &&& ~~~S
  target : new k.next = old k.next ||| S
  other : ∀ j, j ≠ k → j ≠ k.next → new j = old j

def Tracks (g : Group) (x : Shared T × (T → Phase)) (owner : ℕ → Status T) : Prop :=
  ∀ i st, InState x i st ↔ i ≤ g.last_idx ∧ st = owner i

theorem Shifted.stays (h : Shifted old new k S) (hi : S.getLsbD i = false) (j : Kind) :
    (new j).getLsbD i = (old j).getLsbD i := by
  by_cases hlt : i < 32
  swap
  · rw [BitVec.getLsbD_of_ge _ i (by omega), BitVec.getLsbD_of_ge _ i (by omega)]
  by_cases hk : j = k
  · rw [hk, h.source, getLsbD_and, getLsbD_not, hi]
    simp [hlt]
  by_cases hn : j = k.next
  · rw [hn, h.target, getLsbD_or, hi, Bool.or_false]
  · rw [h.other j hk hn]

theorem Shifted.moved (h : Shifted old new k S) (hi : S.getLsbD i = true)
    (hold : ∀ j, (old j).getLsbD i = true → j = k) (j : Kind) :
    (new j).getLsbD i = true ↔ j = k.next := by
  by_cases hk : j = k
  · rw [hk, h.source, getLsbD_and, getLsbD_not, hi]
    cases k <;> simp [Kind.next]
  by_cases hn : j = k.next
  · rw [hn, h.target, getLsbD_or, hi]
    simp
  · rw [h.other j hk hn]
    exact ⟨fun hj => absurd (hold j hj) hk, fun hj => absurd hj hn⟩

theorem Shifted.steady (h : ∀ k, new k = old k) :
    Shifted old new .live 0#32 where
  within i hi := by simp at hi
  source := by rw [h, BitVec.not_zero, BitVec.and_allOnes]
  target := by rw [h, BitVec.or_zero]
  other j _ _ := h j

omit [DecidableEq T] in
theorem Tracks.unique {x : Shared T × (T → Phase)} (h : Tracks g x owner) (hst : InState x i st)
    (hst' : InState x i st') : st = st' :=
  ((h i st).1 hst).2.trans ((h i st').1 hst').2.symm

omit [DecidableEq T] in
theorem Tracks.of_part (h : Tracks g (s, own) owner) (hi : (part s (own t) k).getLsbD i = true) :
    i ≤ g.last_idx ∧ owner i = k.status t := by
  have hst : InState (s, own) i (k.status t) := by
    rw [InState, slots_own]
    exact hi
  exact ⟨((h i _).1 hst).1, ((h i _).1 hst).2.symm⟩

def reassign (owner : ℕ → Status T) (S : Mask) (st : Status T) (i : ℕ) : Status T :=
  if S.getLsbD i then st else owner i

theorem Tracks.move (h : Tracks g (s, own) owner) (hs : Shifted (part s (own t)) (part s' p') k S) :
    ∃ owner', Tracks g (s', update own t p') owner' ∧
      ∀ i, owner' i = owner i ∨ Advances (owner i) (owner' i) := by
  have hmoved : ∀ i, S.getLsbD i = true → i ≤ g.last_idx ∧ owner i = k.status t :=
    fun i hi => h.of_part (hs.within i hi)
  refine ⟨reassign owner S (k.next.status t), fun i st => ?_, fun i => ?_⟩
  · by_cases hi : S.getLsbD i = true
    · obtain ⟨hle, hk⟩ := hmoved i hi
      have hold : ∀ j, (part s (own t) j).getLsbD i = true → j = k := by
        intro j hj
        rw [← kind_status t j, ← kind_status t k, ← (h.of_part hj).2, hk]
      rw [reassign, if_pos hi]
      by_cases hst : st = st.kind.status t
      · rw [InState, hst, slots_move_own, hs.moved hi hold]
        refine ⟨fun hkind => ⟨hle, by rw [hkind]⟩, fun hkind => ?_⟩
        rw [← kind_status t st.kind, hkind.2, kind_status]
      · rw [InState, slots_move_other hst]
        refine ⟨fun hin => absurd ?_ hst, fun hin => absurd ?_ hst⟩
        · rw [((h i st).1 hin).2, hk, kind_status]
        · rw [hin.2, kind_status]
    · rw [reassign, if_neg hi, ← h i st, InState, InState]
      by_cases hst : st = st.kind.status t
      · rw [hst, slots_move_own, slots_own, hs.stays (Bool.eq_false_of_not_eq_true hi)]
      · rw [slots_move_other hst]
  · by_cases hi : S.getLsbD i = true
    · right
      rw [reassign, if_pos hi, (hmoved i hi).2]
      cases k <;> constructor
    · left
      rw [reassign, if_neg hi]

end Moving

theorem within_of_bit (hi : x.getLsbD i = true) : Within (bit 32 i) x := by
  intro j hj
  rw [getLsbD_bit (BitVec.lt_of_getLsbD hi), decide_eq_true_eq] at hj
  rw [hj, hi]

theorem take_lowest (h : mask ≠ 0) :
    Within (lowest mask) mask ∧ mask - lowest mask = mask &&& ~~~lowest mask ∧
      bit 32 (lowest mask).ctz.toNat = lowest mask := by
  obtain ⟨i, hi, hbit, hlow, hctz⟩ := lowest_spec h
  have hwithin : Within (lowest mask) mask := by
    rw [hlow]
    exact within_of_bit hbit
  refine ⟨hwithin, ?_, by rw [hctz, hlow]⟩
  apply eq_of_getLsbD_eq
  intro j hj
  rw [getLsbD_sub hwithin, getLsbD_and]
  simp [hj]

/-- Each step moves slots on from one kind to the next, or none, until the group is released. -/
theorem Turn.shifted (h : Turn g t s p s' p') (hp : Local t s p) (ha : Apart s p)
    (hr : s'.released = false) : ∃ k S, Shifted (part s p) (part s' p') k S := by
  cases h with
  | @free i hi | @unnest i hi =>
    exact ⟨.live, bit 32 i, within_of_bit hi, rfl, BitVec.zero_or.symm,
      fun j hj hn => by cases j <;> first | rfl | contradiction⟩
  | @cas i freed h =>
    subst h
    exact ⟨.freeing, bit 32 i, fun _ hi => hi, (BitVec.and_not_self _).symm, freed_add ha,
      fun j hj hn => by cases j <;> first | rfl | contradiction⟩
  | @nontrivialOr i =>
    exact ⟨.freeing, bit 32 i, fun _ hi => hi, (BitVec.and_not_self _).symm, rfl,
      fun j hj hn => by cases j <;> first | rfl | contradiction⟩
  | @activateCas a mask h =>
    subst h
    refine ⟨.freed, s.freed_mask &&& s.act, fun i hi => ?_, ?_, BitVec.zero_or.symm,
      fun j hj hn => by cases j <;> first | rfl | contradiction⟩
    · rw [getLsbD_and, Bool.and_eq_true] at hi
      exact hi.1
    · apply eq_of_getLsbD_eq
      intro i hi
      simp only [part, getLsbD_and, getLsbD_not]
      cases s.freed_mask.getLsbD i <;> simp
  | @activated mask | @activatedNext mask =>
    refine ⟨.moving, mask, fun _ hi => hi, (BitVec.and_not_self _).symm, ?_,
      fun j hj hn => by cases j <;> first | rfl | contradiction⟩
    change mask = s.avail_mask ||| mask
    rw [hp.2.1, BitVec.ofNat_eq_ofNat, zero_or]
  | @take mask =>
    obtain ⟨hwithin, hsub, hbit⟩ := take_lowest hp.2.2
    refine ⟨.avail, lowest mask, ?_, ?_, ?_,
      fun j hj hn => by cases j <;> first | rfl | contradiction⟩
    · rw [part, hp.2.1]
      exact hwithin
    · rw [part, part, hp.2.1]
      exact hsub
    · rw [Kind.next, part, taken, hbit]
      exact BitVec.zero_or.symm
  | @nest i | @enframe i =>
    exact ⟨.taken, bit 32 i, fun _ hi => hi, (BitVec.and_not_self _).symm, rfl,
      fun j hj hn => by cases j <;> first | rfl | contradiction⟩
  | release => exact absurd hr.symm Bool.false_ne_true
  | _ => exact ⟨.live, 0, Shifted.steady fun k => by cases k <;> rfl⟩

structure Over (x : Shared T × (T → Phase)) : Prop where
  phases : ∀ t, x.2 t = .away ∨ x.2 t = .locked
  live : x.1.live = 0
  queued : x.1.queued = false

structure Invariant (g : Group) (x : Shared T × (T → Phase)) : Prop where
  locals : ∀ t, Local t x.1 (x.2 t)
  listed : Listed x.1
  tracked : x.1.released = false → ∃ owner, Tracks g x owner
  ended : x.1.released = true → Over x

variable {own : T → Phase}

theorem Tracks.apart (h : Tracks g (s, own) owner) (t : T) : Apart s (own t) := by
  intro i hi
  by_contra hbit
  have hst : InState (s, own) i (.freeing t) := hi
  have hst' : InState (s, own) i .freed := Bool.eq_true_of_not_eq_false hbit
  cases h.unique hst hst'

/-- When the test for a full group succeeds, the tester has the only slot that is not in a mask. -/
theorem Tracks.of_full (h : Tracks g (s, own) owner) (ht : own t = .nontrivialTest i mask)
    (hm : Within mask (s.freed_mask ||| s.avail_mask)) (hall : mask + bit 32 i = g.all)
    (hj : j ≤ g.last_idx) : owner j = .freeing t ∨ owner j = .freed ∨ owner j = .avail := by
  have hself : ∀ k, (bit 32 i).getLsbD k = true → owner k = .freeing t := by
    intro k hbit
    refine (h.of_part (k := .freeing) ?_).2
    rw [ht]
    exact hbit
  have hmask : ∀ k, mask.getLsbD k = true → owner k = .freed ∨ owner k = .avail := by
    intro k hk
    have hor := hm k hk
    rw [getLsbD_or, Bool.or_eq_true] at hor
    rcases hor with hf | ha
    · exact .inl ((h k .freed).1 hf).2.symm
    · exact .inr ((h k .avail).1 ha).2.symm
  have hsum : (mask + bit 32 i).getLsbD j = true := by
    rw [hall, Group.all, getLsbD_upTo g.last_idx_lt, decide_eq_true_eq]
    exact hj
  rw [getLsbD_add, Bool.or_eq_true] at hsum
  · rcases hsum with hk | hbit
    · exact .inr (hmask j hk)
    · exact .inl (hself j hbit)
  · intro k hk
    by_contra hbit
    have hfreeing := hself k (Bool.eq_true_of_not_eq_false hbit)
    exact absurd (hmask k hk) (by simp [hfreeing])

theorem Tracks.away_of_full (h : Tracks g (s, own) owner)
    (hfull : ∀ j ≤ g.last_idx, owner j = .freeing t ∨ owner j = .freed ∨ owner j = .avail)
    (hne : u ≠ t) (hu : Local u s (own u)) (hlock : holdsLock (own u) ≠ true) :
    own u = .away := by
  have hnone : ∀ k, k = .freeing ∨ k = .taken → ∀ i < 32, part s (own u) k ≠ bit 32 i := by
    intro k hk i hi hbit
    obtain ⟨hle, howner⟩ := h.of_part
      (by rw [hbit, getLsbD_bit hi, decide_eq_true rfl])
    have hany := hfull i hle
    rw [howner] at hany
    rcases hk with rfl | rfl <;> simp [Kind.status, hne] at hany
  have hfreeing := hnone .freeing (.inl rfl)
  have htaken := hnone .taken (.inr rfl)
  generalize own u = q at hu hlock hfreeing htaken
  cases q with
  | away => rfl
  | free i | freeAvail i freed | wrlock i => exact absurd rfl (hfreeing i hu.2)
  | freeCas i freed => exact absurd rfl (hfreeing i hu.2.1)
  | enframe i => exact absurd rfl (htaken i hu.2)
  | _ => exact absurd rfl hlock

theorem Turn.ended [DecidableEq T] (h : Turn g t s (own t) s' p') (hinv : Invariant g (s, own))
    (hr : s.released = false) (hr' : s'.released = true) :
    Over (s', update own t p') := by
  obtain ⟨owner, howner⟩ := hinv.tracked hr
  have hlocal : Local t s (own t) := hinv.locals t
  generalize hp : own t = p at h hlocal
  cases h with
  | release hall =>
    have hfull := fun j hj => howner.of_full (j := j) hp hlocal.2 hall hj
    refine ⟨fun u => ?_, ?_, rfl⟩
    · by_cases hu : u = t
      · subst hu
        exact .inr (update_self ..)
      · left
        refine (update_of_ne hu ..).trans ?_
        refine howner.away_of_full hfull hu (hinv.locals u) fun hhold => hu ?_
        have hlock : s.lock = some u := (hinv.locals u).1 hhold
        exact some.inj (hlock.symm.trans (hlocal.1 rfl))
    · apply eq_of_getLsbD_eq
      intro j _
      rw [BitVec.ofNat_eq_ofNat, BitVec.getLsbD_zero, ← Bool.not_eq_true]
      intro hlive
      obtain ⟨hle, hj⟩ := (howner j .live).1 hlive
      exact absurd (hfull j hle) (by simp [← hj])
  | _ => exact absurd (hr.symm.trans hr') Bool.false_ne_true

theorem Turn.stays_released (h : Turn g t s p s' p') (hr : s.released = true) :
    s'.released = true := by
  cases h with
  | release => rfl
  | _ => exact hr

theorem Turn.unreleased (hturn : Turn g t s p s' p') (hr' : s'.released = false) :
    s.released = false := by
  by_contra hr
  have := hturn.stays_released (Bool.eq_true_of_not_eq_false hr)
  exact Bool.false_ne_true (hr'.symm.trans this)

theorem Invariant.apart (h : Invariant g (s, own)) (t : T) : Apart s (own t) := by
  cases hr : s.released with
  | false =>
    obtain ⟨owner, howner⟩ := h.tracked hr
    exact howner.apart t
  | true =>
    intro i hi
    rcases (show own t = .away ∨ own t = .locked from (h.ended hr).phases t) with hp | hp
    all_goals
      rw [hp] at hi
      exact absurd hi (by simp [freeing])

/-- The creator has the first slot, those up to a bound are available, the rest is freed. -/
def fresh (t : T) (a i : ℕ) : Status T :=
  if i = 0 then .taken t else if i ≤ a then .avail else .freed

theorem fresh_eq_taken : .taken u = fresh t a i ↔ u = t ∧ i = 0 := by
  unfold fresh
  split_ifs with h <;> simp [h]

theorem fresh_eq_avail : .avail = fresh t a i ↔ 0 < i ∧ i ≤ a := by
  unfold fresh
  grind

theorem fresh_eq_freed : .freed = fresh t a i ↔ a < i := by
  unfold fresh
  grind

theorem fresh_ne (t : T) (a i : ℕ) : .live ≠ fresh t a i ∧ (∀ u, .freeing u ≠ fresh t a i) ∧
    ∀ u, .moving u ≠ fresh t a i := by
  unfold fresh
  split_ifs <;> simp

theorem Tracks.created (hle : a ≤ g.last_idx) (hlive : s.live = 0)
    (ha : ∀ i, s.avail_mask.getLsbD i = true ↔ 0 < i ∧ i ≤ a)
    (hf : ∀ i, s.freed_mask.getLsbD i = true ↔ a < i ∧ i ≤ g.last_idx) (ht : own t = .took 0)
    (hother : ∀ u, u ≠ t → own u = .away) : Tracks g (s, own) (fresh t a) := by
  have hown : ∀ u, freeing (own u) = 0 ∧ moving (own u) = 0 ∧
      ∀ i, (taken (own u)).getLsbD i = true ↔ u = t ∧ i = 0 := by
    intro u
    by_cases hu : u = t
    · rw [hu, ht]
      refine ⟨rfl, rfl, fun i => ?_⟩
      rw [taken, getLsbD_bit (by omega)]
      simp
    · rw [hother u hu]
      exact ⟨rfl, rfl, fun i => by simp [taken, hu]⟩
  intro i st
  rw [InState]
  cases st with
  | live =>
    rw [slots, hlive]
    exact ⟨fun h => by simp at h, fun h => absurd h.2 (fresh_ne t a i).1⟩
  | freeing u =>
    rw [slots, (hown u).1]
    exact ⟨fun h => by simp at h, fun h => absurd h.2 ((fresh_ne t a i).2.1 u)⟩
  | freed => rw [slots, hf, fresh_eq_freed, and_comm]
  | moving u =>
    rw [slots, (hown u).2.1]
    exact ⟨fun h => by simp at h, fun h => absurd h.2 ((fresh_ne t a i).2.2 u)⟩
  | avail =>
    rw [slots, ha, fresh_eq_avail]
    omega
  | taken u =>
    rw [slots, (hown u).2.2, fresh_eq_taken]
    exact ⟨fun h => ⟨by omega, h⟩, fun h => h.2⟩

theorem Local.created (hlock : s.lock = some t) (ht : own t = .took 0)
    (hother : ∀ u, u ≠ t → own u = .away) (u : T) : Local u s (own u) := by
  by_cases hu : u = t
  · rw [hu, ht]
    exact ⟨fun _ => hlock, show 0 < 32 by omega⟩
  · rw [hother u hu]
    exact ⟨fun h => absurd h Bool.false_ne_true, True.intro⟩

theorem one_bits (i : ℕ) : (1 : Mask).getLsbD i = true ↔ i = 0 := by
  simp [BitVec.getLsbD_one]

theorem avail_bits (ha : a < 32) (i : ℕ) :
    (upTo 32 a - 1 : Mask).getLsbD i = true ↔ 0 < i ∧ i ≤ a := by
  rw [getLsbD_sub, getLsbD_upTo ha, Bool.and_eq_true, Bool.not_eq_true', ← Bool.not_eq_true,
    one_bits, decide_eq_true_eq]
  · omega
  · intro j hj
    rw [getLsbD_upTo ha, (one_bits j).1 hj, decide_eq_true (Nat.zero_le a)]

theorem freed_bits (ha : a ≤ g.last_idx) (i : ℕ) :
    (g.all - upTo 32 a).getLsbD i = true ↔ a < i ∧ i ≤ g.last_idx := by
  have hlt := ha.trans_lt g.last_idx_lt
  rw [Group.all, getLsbD_sub, getLsbD_upTo g.last_idx_lt, getLsbD_upTo hlt, Bool.and_eq_true,
    Bool.not_eq_true', decide_eq_true_eq, decide_eq_false_iff_not]
  · omega
  · intro j hj
    rw [getLsbD_upTo hlt, decide_eq_true_eq] at hj
    rw [getLsbD_upTo g.last_idx_lt, decide_eq_true (hj.trans ha)]

theorem Start.invariant {x : Shared T × (T → Phase)} (h : Start g x) : Invariant g x := by
  cases h with
  | group t active_idx own hle ht hother =>
    refine ⟨Local.created rfl ht hother, fun _ => rfl, fun _ => ⟨fresh t active_idx, ?_⟩,
      fun h => absurd h Bool.false_ne_true⟩
    exact Tracks.created hle rfl (avail_bits (hle.trans_lt g.last_idx_lt)) (freed_bits hle)
      ht hother
  | mapped t own hlast ht hother =>
    refine ⟨Local.created rfl ht hother, fun h => ?_, fun _ => ⟨fresh t 0, ?_⟩,
      fun h => absurd h Bool.false_ne_true⟩
    · exact (h.elim (fun h => h rfl) fun h => h rfl).elim
    · refine Tracks.created (Nat.zero_le _) rfl (fun i => ?_) (fun i => ?_) ht hother <;>
        exact ⟨fun h => by simp at h, fun h => by omega⟩
  | donated hlast =>
    refine ⟨fun u => ⟨fun h => absurd h Bool.false_ne_true, True.intro⟩, fun _ => rfl,
      fun _ => ⟨fun _ => .freed, fun i st => ?_⟩, fun h => absurd h Bool.false_ne_true⟩
    cases st with
    | freed =>
      rw [InState, slots, hlast]
      simp
    | _ => simp [InState, slots, freeing, moving, taken]

section Runs

variable [DecidableEq T]

theorem Over.relock (h : Over (s, own)) (l : Option T) (hp' : p' = .away ∨ p' = .locked) :
    Over ({ s with lock := l }, update own t p') := by
  refine ⟨fun u => ?_, h.live, h.queued⟩
  change update own t p' u = .away ∨ update own t p' u = .locked
  by_cases hu : u = t
  · rw [hu, update_self]
    exact hp'
  · rw [update_of_ne hu]
    exact h.phases u

theorem Over.turn (h : Over (s, own)) (hturn : Turn g t s (own t) s' p') :
    Over (s', update own t p') := by
  have hlive : ∀ i, s.live.getLsbD i ≠ true := by
    simp [show s.live = 0 from h.live]
  have hqueued : s.queued ≠ true := Bool.eq_false_iff.mp h.queued
  rcases (show own t = .away ∨ own t = .locked from h.phases t) with hp | hp
  · rw [hp] at hturn
    cases hturn with
    | lock => exact h.relock _ (.inr rfl)
    | free hi => exact absurd hi (hlive _)
  · rw [hp] at hturn
    cases hturn with
    | unlock => exact h.relock _ (.inl rfl)
    | unnest hi => exact absurd hi (hlive _)
    | visit hq | read hq | select hq | next hq => exact absurd hq hqueued

theorem Invariant.tracked_move (h : Invariant g (s, own)) (hturn : Turn g t s (own t) s' p')
    (howner : Tracks g (s, own) owner) (hr' : s'.released = false) :
    ∃ owner', Tracks g (s', update own t p') owner' ∧
      ∀ i, owner' i = owner i ∨ Advances (owner i) (owner' i) := by
  obtain ⟨k, S, hshift⟩ := hturn.shifted (h.locals t) (h.apart t) hr'
  exact howner.move hshift

theorem Invariant.move {x y : Shared T × (T → Phase)} (h : Invariant g x)
    (hm : Moves (Turn g) x y) : Invariant g y := by
  obtain @⟨t, s, s', own, p', hturn⟩ := hm
  have hlocal : Local t s (own t) := h.locals t
  refine ⟨fun u => ?_, h.listed.turn hlocal hturn, fun hr' => ?_, fun hr' => ?_⟩
  · change Local u s' (update own t p' u)
    by_cases hu : u = t
    · subst hu
      rw [update_self]
      exact hlocal.own h.listed hturn
    · rw [update_of_ne hu]
      exact (h.locals u).other hlocal (h.apart t) hu hturn
  · obtain ⟨owner, howner⟩ := h.tracked (hturn.unreleased hr')
    obtain ⟨owner', howner', _⟩ := h.tracked_move hturn howner hr'
    exact ⟨owner', howner'⟩
  · cases hr : s.released with
    | false => exact hturn.ended h hr hr'
    | true => exact (h.ended hr).turn hturn

theorem Reachable.invariant {x : Shared T × (T → Phase)} (h : Reachable g x) : Invariant g x :=
  Interleaving.Reachable.invariant (I := Invariant g) (fun _ hs => Start.invariant hs)
    (fun _ _ hi hm => hi.move hm) h

def touches : Phase → Bool
  | .away | .locked => false
  | _ => true

/-- Every slot is in one state, held by one thread at most, and goes from `live` through `freed` and
`avail` back to `live`; a group with a slot to hand out is on its list, and after its release no
thread accesses it. -/
theorem frees_lose_no_slot (g : Group) {x : Shared T × (T → Phase)} (h : Reachable g x) :
    (x.1.released = false → ∀ i ≤ g.last_idx, ∃! st, InState x i st) ∧
    (∀ y, Moves (Turn g) x y → y.1.released = false →
      ∀ i st st', InState x i st → InState y i st' → st' = st ∨ Advances st st') ∧
    (x.1.avail_mask ≠ 0 ∨ x.1.freed_mask ≠ 0 → x.1.queued = true) ∧
    (x.1.released = true → ∀ t, touches (x.2 t) = false) := by
  have hinv := h.invariant
  refine ⟨fun hr i hi => ?_, fun y hm hr i st st' hst hst' => ?_, hinv.listed, fun hr t => ?_⟩
  · obtain ⟨owner, howner⟩ := hinv.tracked hr
    exact ⟨owner i, (howner i _).2 ⟨hi, rfl⟩, fun st hst => ((howner i st).1 hst).2⟩
  · obtain @⟨t, s, s', own, p', hturn⟩ := hm
    obtain ⟨owner, howner⟩ := hinv.tracked (hturn.unreleased hr)
    obtain ⟨owner', howner', hadv⟩ := hinv.tracked_move hturn howner hr
    rw [((howner i st).1 hst).2, ((howner' i st').1 hst').2]
    exact hadv i
  · rcases (hinv.ended hr).phases t with hp | hp <;> rw [hp] <;> rfl

end Runs

def threeSlots : Group := ⟨2, 16, by omega⟩

/-- One thread has taken the second slot, the other hands out the first and frees it by a swap. -/
theorem frees_lose_no_slot_swapped : ∃ x : Shared Bool × (Bool → Phase),
    x.1.freed_mask = 5 ∧ x.1.avail_mask = 0 ∧ ∀ i ≤ 2, ∃! st, InState x i st := by
  have hstart : Reachable threeSlots
      (⟨2, 4, 1, 0, some true, true, false⟩, update (fun _ => .away) true (.took 0)) :=
    .start (.group true 1 _ (by decide) rfl fun u hu => update_of_ne hu ..)
  have hlive := (hstart.turn true .success).turn true .enframe
  have hlocked := (hlive.turn false (.lock rfl)).turn false (.read (r := .malloc) rfl)
  have htook := (hlocked.turn false (.available (by decide))).turn false .take
  have hread := (htook.turn true (.free (i := 0) rfl)).turn true .freed
  have hdone := (hread.turn true (.trivial (by decide) (by decide))).turn true (.cas rfl)
  exact ⟨_, rfl, rfl, (frees_lose_no_slot threeSlots hdone).1 rfl⟩

end GroupRace
