import GcompatMusl.Obstack

/-! # Chunks of an obstack

The blocks of an obstack, linked through their headers, with the objects stacked in each of them,
and the search for the block of an object that is freed. -/
namespace ObstackChunks

open FlatMemory WordMemory FuelLoop Obstack List

structure Obj where
  addr : ℕ
  bytes : List UInt8

def Separate (c d : Chunk) : Prop := c.limit ≤ d.addr ∨ d.limit ≤ c.addr

structure Fresh (live : List Chunk) (c : Chunk) : Prop where
  nonnull : 0 < c.addr
  fits : c.limit < 2 ^ 64
  size : c.size ≤ PTRDIFF_MAX
  separate : ∀ d ∈ live, Separate c d

def Stacked (lo : ℕ) : ℕ → List Obj → Prop
  | top, [] => lo ≤ top
  | top, o :: rest => o.addr + o.bytes.length ≤ top ∧ Stacked lo o.addr rest

variable {lo a k prev : ℕ} {c d : Chunk}

theorem Stacked.le : ∀ {objs : List Obj} {top : ℕ}, Stacked lo top objs → lo ≤ top := by
  intro objs
  induction objs with
  | nil => intro top h; exact h
  | cons o rest ih =>
    intro top h
    have := ih h.2
    have := h.1
    omega

theorem Stacked.mono (h : Stacked lo top objs) (hle : top ≤ top') : Stacked lo top' objs := by
  cases objs with
  | nil => exact Nat.le_trans h hle
  | cons o rest => exact ⟨Nat.le_trans h.1 hle, h.2⟩

theorem Stacked.mem : ∀ {objs : List Obj} {top : ℕ}, Stacked lo top objs →
    ∀ o ∈ objs, lo ≤ o.addr ∧ o.addr + o.bytes.length ≤ top := by
  intro objs
  induction objs with
  | nil => intro top _ o ho; cases ho
  | cons q rest ih =>
    intro top h o ho
    rcases mem_cons.mp ho with rfl | ho
    · exact ⟨h.2.le, h.1⟩
    · obtain ⟨hlo, hhi⟩ := ih h.2 o ho
      have := h.1
      exact ⟨hlo, by omega⟩

theorem Stacked.below :
    ∀ {newer : List Obj} {top : ℕ}, Stacked lo top (newer ++ o :: older) →
      Stacked lo o.addr older := by
  intro newer
  induction newer with
  | nil => intro top h; exact h.2
  | cons q newer ih => intro top h; exact ih h.2

structure Segment where
  chunk : Chunk
  objs : List Obj

def chunks (segs : List Segment) : List Chunk := segs.map Segment.chunk

def allObjs (segs : List Segment) : List Obj := segs.flatMap Segment.objs

structure Valid (k : ℕ) (c : Chunk) : Prop where
  nonnull : 0 < c.addr
  fits : c.limit < 2 ^ 64
  size : c.size ≤ PTRDIFF_MAX
  room : contentsOffset + 2 ^ k ≤ c.size

def ChainAt (m : Mem UInt8) : ℕ → List Chunk → Prop
  | a, [] => a = 0
  | a, c :: cs => a = c.addr ∧ limitOf m c.addr = c.limit ∧ ChainAt m (prevOf m c.addr) cs

theorem header_congr (h : ∀ b, InRange b a contentsOffset → m' b = m b) :
    limitOf m' a = limitOf m a ∧ prevOf m' a = prevOf m a := by
  unfold contentsOffset InRange at h
  constructor
  · rw [limitOf, limitOf, loadWord_congr]
    intro i hi
    exact h (a + i) (by omega)
  · rw [prevOf, prevOf, loadWord_congr]
    intro i hi
    exact h (a + 8 + i) (by omega)

theorem ChainAt.congr :
    ∀ {cs : List Chunk} {a : ℕ}, ChainAt m a cs →
      (∀ c ∈ cs, ∀ b, InRange b c.addr contentsOffset → m' b = m b) → ChainAt m' a cs := by
  intro cs
  induction cs with
  | nil => intro a h _; exact h
  | cons c cs ih =>
    intro a h hm
    obtain ⟨hlimit, hprev⟩ := header_congr (hm c mem_cons_self)
    obtain ⟨ha, hl, hrest⟩ := h
    refine ⟨ha, by rw [hlimit, hl], ?_⟩
    rw [hprev]
    exact ih hrest fun d hd => hm d (mem_cons_of_mem _ hd)

theorem Separate.addr_ne (h : Separate c d) (hc : 0 < c.size) (hd : 0 < d.size) :
    d.addr ≠ c.addr := by
  unfold Separate Chunk.limit at h
  omega

theorem Valid.size_pos (h : Valid k c) : 0 < c.size := by
  have := h.room
  have : 0 < 2 ^ k := Nat.two_pow_pos k
  omega

theorem mem_live_freed {live cs : List Chunk} (hlive : ∀ d, d ∈ live ↔ d ∈ c :: cs)
    (hne : ∀ d ∈ cs, d.addr ≠ c.addr) (d : Chunk) :
    d ∈ live.filter (fun e => e.addr ≠ c.addr) ↔ d ∈ cs := by
  simp only [mem_filter, hlive, mem_cons, decide_eq_true_eq]
  constructor
  · rintro ⟨rfl | hd, hda⟩
    · exact absurd rfl hda
    · exact hd
  · intro hd
    exact ⟨Or.inr hd, hne d hd⟩

theorem Valid.first (h : Valid k c) (hk : k < 64) :
    c.addr + contentsOffset ≤ firstObject (2 ^ k - 1) c.addr ∧
      firstObject (2 ^ k - 1) c.addr < c.limit := by
  have hfits := h.fits
  have hroom := h.room
  have hpos : 0 < 2 ^ k := Nat.two_pow_pos k
  unfold Chunk.limit at *
  have := firstObject_bounds c.addr hk (by omega)
  omega

theorem writeHeader_outside (h : ¬ InRange b a contentsOffset) :
    writeHeader m a limit prev b = m b := by
  unfold InRange contentsOffset at h
  rw [writeHeader, writePrev, storeWord_outside _ (by unfold InRange; omega),
    storeWord_outside _ (by unfold InRange; omega)]

theorem limitOf_writeHeader (h : limit < 2 ^ 64) :
    limitOf (writeHeader m a limit prev) a = limit := by
  rw [limitOf, writeHeader, writePrev, loadWord_storeWord_apart _ (Or.inr (Nat.le_refl _)),
    loadWord_storeWord, BitVec.toNat_ofNat, Nat.mod_eq_of_lt h]

theorem prevOf_writePrev (h : prev < 2 ^ 64) : prevOf (writePrev m a prev) a = prev := by
  rw [prevOf, writePrev, loadWord_storeWord, BitVec.toNat_ofNat, Nat.mod_eq_of_lt h]

theorem allObjs_split :
    ∀ (segs : List Segment) (newer : List Obj), allObjs segs = newer ++ o :: rest →
      ∃ pre g post new old, segs = pre ++ g :: post ∧ g.objs = new ++ o :: old ∧
        rest = old ++ allObjs post := by
  intro segs
  induction segs with
  | nil =>
    intro newer h
    cases newer <;> cases h
  | cons g gs ih =>
    intro newer h
    rcases append_eq_append_iff.mp h with ⟨l, _, htail⟩ | ⟨l, hobjs, htail⟩
    · obtain ⟨pre, g', post, new, old, rfl, hg, hrest⟩ := ih _ htail
      exact ⟨g :: pre, g', post, new, old, rfl, hg, hrest⟩
    · cases l with
      | nil =>
        obtain ⟨pre, g', post, new, old, rfl, hg, hrest⟩ := ih [] htail.symm
        exact ⟨g :: pre, g', post, new, old, rfl, hg, hrest⟩
      | cons q old =>
        obtain ⟨rfl, hrest⟩ := cons.inj htail
        exact ⟨[], g, gs, newer, old, rfl, hobjs, hrest⟩

/-- The obstack after an object at `obj` in chunk `d` was freed, together with newer chunks. -/
structure FreedTo (s : State) (obj : ℕ) (d : Chunk) (switched : Bool) (kept : List Chunk)
    (s' : State) : Prop where
  h : s'.h = { s.h with
    object_base := obj
    next_free := obj
    chunk_limit := d.limit
    chunk := d.addr
    maybe_empty_object := s.h.maybe_empty_object || switched }
  mem : s'.mem = s.mem
  live : ∀ e, e ∈ s'.live ↔ e ∈ kept

theorem outside_other (hsep : Separate e d) (hlo : d.addr + contentsOffset ≤ obj)
    (hhi : obj ≤ d.limit) : e.addr ≥ obj ∨ e.limit < obj := by
  unfold Separate contentsOffset at *
  omega

theorem free_loop (hlo : d.addr + contentsOffset ≤ obj) (hhi : obj ≤ d.limit)
    (post : List Chunk) :
    ∀ (pre : List Chunk) (s : State) (a : ℕ), ChainAt s.mem a (pre ++ d :: post) →
      (pre ++ d :: post).Pairwise Separate → (∀ e ∈ pre ++ d :: post, Valid k e) →
      (∀ e, e ∈ s.live ↔ e ∈ pre ++ d :: post) →
      ∃ s', Returns (freeTurn obj) (a, s) (some s') ∧
        FreedTo s obj d (!pre.isEmpty) (d :: post) s' := by
  intro pre
  induction pre with
  | nil =>
    intro s a hchain _ hvalid hlive
    obtain ⟨rfl, hlimit, _⟩ := hchain
    have hpos := (hvalid d mem_cons_self).nonnull
    have hstop : ¬ (d.addr ≥ obj ∨ limitOf s.mem d.addr < obj) := by
      unfold contentsOffset at hlo
      omega
    have hne : d.addr ≠ 0 := by omega
    refine ⟨resetTo s obj d.addr, Returns.ret ?_, ?_⟩
    · simp only [freeTurn, ← Bool.decide_or, hne, ne_eq, not_false_eq_true, decide_true,
        Bool.true_and,
        hstop, decide_false, Bool.false_eq_true, if_false, if_true]
    · exact ⟨by simp [resetTo, hlimit], rfl, hlive⟩
  | cons e pre ih =>
    intro s a hchain hsep hvalid hlive
    obtain ⟨rfl, hlimit, hrest⟩ := hchain
    obtain ⟨hesep, hsep⟩ := pairwise_cons.mp hsep
    have hpos := (hvalid e mem_cons_self).nonnull
    have hgo : e.addr ≥ obj ∨ limitOf s.mem e.addr < obj := by
      rw [hlimit]
      exact outside_other (hesep d (by simp)) hlo hhi
    have hne : e.addr ≠ 0 := by omega
    have hvalid' : ∀ f ∈ pre ++ d :: post, Valid k f := fun f hf => hvalid f (mem_cons_of_mem _ hf)
    have hfreed := mem_live_freed hlive fun f hf =>
      (hesep f hf).addr_ne (hvalid e mem_cons_self).size_pos (hvalid' f hf).size_pos
    obtain ⟨s', hreturns, hto⟩ := ih
      { call_freefun s e.addr with
        h := { (call_freefun s e.addr).h with maybe_empty_object := true } }
      (prevOf s.mem e.addr) hrest hsep hvalid' hfreed
    refine ⟨s', Returns.again ?_ hreturns, ?_⟩
    · simp only [freeTurn, ← Bool.decide_or, hne, ne_eq, not_false_eq_true, decide_true,
        Bool.true_and,
        hgo, if_true]
    · refine ⟨?_, hto.mem, hto.live⟩
      rw [hto.h]
      simp [call_freefun]

theorem ChainAt.drop :
    ∀ {pre : List Chunk} {a : ℕ}, ChainAt m a (pre ++ d :: post) →
      ChainAt m d.addr (d :: post) := by
  intro pre
  induction pre with
  | nil =>
    intro a h
    obtain ⟨rfl, hrest⟩ := h
    exact ⟨rfl, hrest⟩
  | cons e pre ih => intro a h; exact ih h.2.2

end ObstackChunks
