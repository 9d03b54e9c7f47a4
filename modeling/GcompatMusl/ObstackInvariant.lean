import GcompatMusl.ObstackChunks

/-! # The invariant of an obstack

What each operation keeps: the growing object lies in the current chunk, and the finished objects
keep their bytes in chunks that are still in use. -/
namespace ObstackInvariant

open FlatMemory WordMemory MaskAlign FuelLoop Obstack ObstackChunks
open List hiding length

/-- An obstack with what its user has put into it: the bytes grown since the last object was
finished, and the finished objects, the latest first. -/
structure Conf where
  s : State
  growing : List UInt8
  objects : List Obj

/-- What `chunkfun` answers if it is asked for room for `length` more bytes. -/
def Answers (s : State) (length : ℕ) (answer : Option ℕ) : Prop :=
  ∀ a, answer = some a → Fresh s.live ⟨a, newSize s.h length⟩

structure Good (k : ℕ) (c : Conf) (cur : Segment) (older : List Segment) : Prop where
  exp : k < 64
  mask : c.s.h.alignment_mask = 2 ^ k - 1
  size : contentsOffset + 2 ^ k ≤ c.s.h.chunk_size
  live : ∀ ch, ch ∈ c.s.live ↔ ch ∈ chunks (cur :: older)
  separate : (chunks (cur :: older)).Pairwise Separate
  valid : ∀ ch ∈ chunks (cur :: older), Valid k ch
  chain : ChainAt c.s.mem c.s.h.chunk (chunks (cur :: older))
  limit : c.s.h.chunk_limit = cur.chunk.limit
  below : Stacked (firstObject (2 ^ k - 1) cur.chunk.addr) c.s.h.object_base cur.objs
  base : c.s.h.object_base ≤ c.s.h.next_free
  next : c.s.h.next_free ≤ c.s.h.chunk_limit
  full : ∀ g ∈ older, Stacked (firstObject (2 ^ k - 1) g.chunk.addr) g.chunk.limit g.objs
  growing : readList c.s.mem c.s.h.object_base (c.s.h.next_free - c.s.h.object_base) = c.growing
  bytes : ∀ g ∈ cur :: older, ∀ o ∈ g.objs, readList c.s.mem o.addr o.bytes.length = o.bytes
  objects : c.objects = allObjs (cur :: older)
  flag : c.s.h.maybe_empty_object = false → ∀ o ∈ cur.objs, o.bytes ≠ []

section Invariant

section

variable (h : Good k c cur older)
include h

theorem Good.chunk_eq : c.s.h.chunk = cur.chunk.addr := h.chain.1

theorem Good.cur_valid : Valid k cur.chunk := h.valid _ List.mem_cons_self

theorem Good.bounds :
    cur.chunk.addr + contentsOffset ≤ c.s.h.object_base ∧ c.s.h.next_free ≤ cur.chunk.limit ∧
      cur.chunk.limit < 2 ^ 64 := by
  have hfirst := (h.cur_valid.first h.exp).1
  have hlow := h.below.le
  have hnext := h.next
  have hlimit := h.limit
  have hfits := h.cur_valid.fits
  omega

theorem Good.stacked : ∀ g ∈ cur :: older,
    Stacked (firstObject (2 ^ k - 1) g.chunk.addr) g.chunk.limit g.objs :=
  forall_mem_cons.mpr ⟨h.below.mono (Nat.le_trans h.base (h.limit ▸ h.next)), h.full⟩

theorem Good.placed :
    ∀ g ∈ cur :: older, ∀ o ∈ g.objs,
      g.chunk.addr + contentsOffset ≤ o.addr ∧ o.addr + o.bytes.length ≤ g.chunk.limit := by
  intro g hg o ho
  have hfirst := ((h.valid _ (mem_map_of_mem hg)).first h.exp).1
  have hmem := (h.stacked g hg).mem o ho
  omega

theorem Good.older_separate : ∀ g ∈ older, Separate cur.chunk g.chunk := by
  intro g hg
  exact (pairwise_cons.mp h.separate).1 _ (mem_map_of_mem hg)

theorem Good.free_area (hlo : c.s.h.next_free ≤ b) (hhi : b < cur.chunk.limit) :
    (∀ ch ∈ chunks (cur :: older), ¬ InRange b ch.addr contentsOffset) ∧
      ∀ g ∈ cur :: older, ∀ o ∈ g.objs, ¬ InRange b o.addr o.bytes.length := by
  have hbounds := h.bounds
  have hbase := h.base
  unfold InRange
  constructor
  · intro ch hch
    rcases mem_cons.mp hch with rfl | hch
    · omega
    · obtain ⟨g, hg, rfl⟩ := mem_map.mp hch
      have hsep := h.older_separate g hg
      unfold Separate Chunk.limit at *
      omega
  · intro g hg o ho
    have hplaced := h.placed g hg o ho
    rcases mem_cons.mp hg with rfl | hg
    · have hmem := h.below.mem o ho
      omega
    · have hsep := h.older_separate g hg
      unfold Separate at hsep
      omega

theorem Good.advance (hn : c.s.h.next_free + n ≤ c.s.h.chunk_limit) :
    Good k ⟨advance n c.s, c.growing ++ readList c.s.mem c.s.h.next_free n, c.objects⟩
      cur older := by
  have hbounds := h.bounds
  have hlimit := h.limit
  have hbase := h.base
  have hnext : (Obstack.advance n c.s).h.next_free = c.s.h.next_free + n :=
    Nat.mod_eq_of_lt (by omega)
  refine { h with base := ?_, next := ?_, growing := ?_ }
  · change c.s.h.object_base ≤ (Obstack.advance n c.s).h.next_free
    omega
  · change (Obstack.advance n c.s).h.next_free ≤ c.s.h.chunk_limit
    omega
  · change readList c.s.mem c.s.h.object_base
      ((Obstack.advance n c.s).h.next_free - c.s.h.object_base) = _
    rw [hnext, show c.s.h.next_free + n - c.s.h.object_base =
      (c.s.h.next_free - c.s.h.object_base) + n by omega, readList_append, h.growing,
      show c.s.h.object_base + (c.s.h.next_free - c.s.h.object_base) = c.s.h.next_free by omega]

theorem Good.write (hn : c.s.h.next_free + data.length ≤ c.s.h.chunk_limit) :
    Good k ⟨{ c.s with mem := writeList c.s.mem c.s.h.next_free data }, c.growing, c.objects⟩
      cur older := by
  have hlimit := h.limit
  have hkeep : ∀ b, (¬ InRange b c.s.h.next_free data.length) →
      writeList c.s.mem c.s.h.next_free data b = c.s.mem b :=
    fun b hb => writeList_outside data c.s.mem _ hb
  have harea : ∀ b, InRange b c.s.h.next_free data.length → b < cur.chunk.limit := by
    intro b hb
    unfold InRange at hb
    omega
  refine { h with chain := ?_, growing := ?_, bytes := ?_ }
  · refine h.chain.congr ?_
    intro ch hch b hb
    apply hkeep
    intro hin
    exact (h.free_area hin.1 (harea b hin)).1 ch hch hb
  · refine Eq.trans (readList_congr ?_) h.growing
    intro b hb
    apply hkeep
    unfold InRange at *
    dsimp only at hb
    omega
  · intro g hg o ho
    refine Eq.trans (readList_congr ?_) (h.bytes g hg o ho)
    intro b hb
    apply hkeep
    intro hin
    exact (h.free_area hin.1 (harea b hin)).2 g hg o ho hb

theorem Good.append (hn : c.s.h.next_free + data.length ≤ c.s.h.chunk_limit) :
    Good k ⟨append data c.s, c.growing ++ data, c.objects⟩ cur older := by
  have hgrown := (h.write hn).advance hn
  rwa [readList_writeList] at hgrown

theorem Good.growing_length : c.growing.length = c.s.h.next_free - c.s.h.object_base := by
  rw [← h.growing, readList_length]

theorem Good.finish :
    Good k ⟨obstack_finish c.s, [], ⟨c.s.h.object_base, c.growing⟩ :: c.objects⟩
      ⟨cur.chunk, ⟨c.s.h.object_base, c.growing⟩ :: cur.objs⟩ older := by
  have hbounds := h.bounds
  have hbase := h.base
  have hlen := h.growing_length
  have hchunk := h.chunk_eq
  have hnonnull := h.cur_valid.nonnull
  obtain ⟨hge, hle⟩ := finish_bounds h.exp h.mask (by omega) (by omega) h.next
    (by rw [h.limit]; exact hbounds.2.2) c.s rfl
  refine ⟨h.exp, h.mask, h.size, h.live, h.separate, h.valid, h.chain, h.limit, ⟨?_, h.below⟩,
    Nat.le_refl _, hle, h.full, ?_, ?_, ?_, ?_⟩
  · change c.s.h.object_base + c.growing.length ≤ (obstack_finish c.s).h.next_free
    omega
  · change readList _ _ ((obstack_finish c.s).h.next_free - (obstack_finish c.s).h.next_free) = []
    rw [Nat.sub_self]
    rfl
  · intro g hg o ho
    rcases mem_cons.mp hg with rfl | hg
    · rcases mem_cons.mp ho with rfl | ho
      · change readList c.s.mem c.s.h.object_base c.growing.length = c.growing
        rw [hlen, h.growing]
      · exact h.bytes cur mem_cons_self o ho
    · exact h.bytes g (mem_cons_of_mem _ hg) o ho
  · rw [h.objects]
    rfl
  · intro hflag o ho
    have hflag : c.s.h.maybe_empty_object = false ∧ c.s.h.next_free ≠ c.s.h.object_base := by
      simpa [obstack_finish] using hflag
    rcases mem_cons.mp ho with rfl | ho
    · intro hempty
      rw [show c.growing = [] from hempty, length_nil] at hlen
      exact hflag.2 (by omega)
    · exact h.flag hflag.1 o ho

theorem Good.no_objs (hflag : c.s.h.maybe_empty_object = false)
    (hbase : c.s.h.object_base = firstObject (2 ^ k - 1) cur.chunk.addr) : cur.objs = [] := by
  cases hobjs : cur.objs with
  | nil => rfl
  | cons o rest =>
    have hin : o ∈ cur.objs := by
      rw [hobjs]
      exact mem_cons_self
    have hmem := h.below.mem o hin
    have hlen : o.bytes.length = 0 := by omega
    exact absurd (length_eq_zero_iff.mp hlen) (h.flag hflag o hin)

end

def movedHandle (h : Handle) (N : Chunk) : Handle :=
  { h with
    chunk := N.addr
    chunk_limit := N.limit
    object_base := firstObject h.alignment_mask N.addr
    next_free := firstObject h.alignment_mask N.addr + (h.next_free - h.object_base)
    maybe_empty_object := false }

/-- The growing object has moved to a new chunk `N`, in front of the chunks that are kept. -/
theorem Good.relocate (h : Good k c cur older) {N : Chunk} {kept : List Segment} {live : List Chunk}
    (hfresh : Fresh c.s.live N) (hroom : contentsOffset + 2 ^ k ≤ N.size)
    (hout : ∀ b, ¬ InRange b N.addr N.size → m b = c.s.mem b) (hlimit : limitOf m N.addr = N.limit)
    (hchain : ChainAt c.s.mem (prevOf m N.addr) (chunks kept)) (hkept : kept.Sublist (cur :: older))
    (hlive : ∀ ch, ch ∈ live ↔ ch ∈ chunks (⟨N, []⟩ :: kept)) (hobjs : c.objects = allObjs kept)
    (hgrow : readList m (firstObject (2 ^ k - 1) N.addr) (c.s.h.next_free - c.s.h.object_base) =
      c.growing)
    (hfit : firstObject (2 ^ k - 1) N.addr + (c.s.h.next_free - c.s.h.object_base) ≤ N.limit) :
    Good k ⟨⟨movedHandle c.s.h N, m, live⟩, c.growing, c.objects⟩ ⟨N, []⟩ kept := by
  have hbase : (movedHandle c.s.h N).object_base = firstObject (2 ^ k - 1) N.addr := by
    rw [movedHandle, h.mask]
  have hnext : (movedHandle c.s.h N).next_free =
      firstObject (2 ^ k - 1) N.addr + (c.s.h.next_free - c.s.h.object_base) := by
    rw [movedHandle, h.mask]
  have hsep : ∀ g ∈ cur :: older, Separate N g.chunk := by
    intro g hg
    exact hfresh.separate _ ((h.live _).mpr (mem_map_of_mem hg))
  have hvalid : Valid k N := ⟨hfresh.nonnull, hfresh.fits, hfresh.size, hroom⟩
  refine ⟨h.exp, h.mask, h.size, hlive, ?_, ?_, ?_, rfl, Nat.le_of_eq hbase.symm,
    Nat.le_add_right _ _, hnext ▸ hfit, ?_, ?_, ?_, hobjs, fun _ o ho => by cases ho⟩
  · refine pairwise_cons.mpr ⟨?_, h.separate.sublist (hkept.map _)⟩
    intro d hd
    obtain ⟨g, hg, rfl⟩ := mem_map.mp hd
    exact hsep g (hkept.subset hg)
  · exact forall_mem_cons.mpr ⟨hvalid, fun d hd => h.valid d ((hkept.map _).subset hd)⟩
  · refine ⟨rfl, hlimit, hchain.congr ?_⟩
    intro d hd b hb
    obtain ⟨g, hg, rfl⟩ := mem_map.mp hd
    apply hout
    have hg' := hsep g (hkept.subset hg)
    have hsize := (h.valid _ (mem_map_of_mem (hkept.subset hg))).room
    have hpos : 0 < 2 ^ k := Nat.two_pow_pos k
    unfold Separate Chunk.limit at hg'
    unfold InRange at hb ⊢
    omega
  · exact fun g hg => h.stacked g (hkept.subset hg)
  · rw [hbase, hnext, Nat.add_sub_cancel_left, hgrow]
  · intro g hg o ho
    rcases mem_cons.mp hg with rfl | hg
    · cases ho
    · refine Eq.trans (readList_congr ?_) (h.bytes g (hkept.subset hg) o ho)
      intro b hb
      apply hout
      have hg' := hsep g (hkept.subset hg)
      have hplaced := h.placed g (hkept.subset hg) o ho
      unfold Separate Chunk.limit InRange at *
      omega

theorem Good.objectSize_eq (h : Good k c cur older) :
    objectSize c.s.h = c.s.h.next_free - c.s.h.object_base := by
  have hbounds := h.bounds
  exact subWord_of_le (by omega) h.base

def movedMem (s : State) (N : Chunk) : Mem UInt8 :=
  copy (writeHeader s.mem N.addr N.limit s.h.chunk) (firstObject s.h.alignment_mask N.addr)
    s.h.object_base (objectSize s.h)

section Move

def alone (h : Handle) : Bool :=
  !h.maybe_empty_object && h.object_base = firstObject h.alignment_mask h.chunk

variable (h : Good k c cur older)
include h

section

variable {N : Chunk} (hfits : N.limit < 2 ^ 64)
  (hroom : contentsOffset + (2 ^ k - 1) + objectSize c.s.h ≤ N.size)
include hfits hroom

theorem Good.movedMem_outside (hb : ¬ InRange b N.addr N.size) :
    movedMem c.s N b = c.s.mem b := by
  unfold Chunk.limit at hfits
  have hfirst := firstObject_bounds N.addr h.exp (by omega)
  unfold InRange at hb
  rw [movedMem, h.mask, copy_outside _ _ _ _ (by unfold InRange; omega),
    writeHeader_outside (by unfold InRange; omega)]

theorem Good.movedMem_header :
    limitOf (movedMem c.s N) N.addr = N.limit ∧ prevOf (movedMem c.s N) N.addr = c.s.h.chunk := by
  have hlt := hfits
  unfold Chunk.limit at hfits
  have hfirst := firstObject_bounds N.addr h.exp (by omega)
  have hkeep : ∀ b, InRange b N.addr contentsOffset →
      movedMem c.s N b = writeHeader c.s.mem N.addr N.limit c.s.h.chunk b := by
    intro b hb
    unfold InRange at hb
    rw [movedMem, h.mask]
    exact copy_outside _ _ _ _ (by unfold InRange; omega)
  have hbounds := h.bounds
  have hbase := h.base
  have hchunk : c.s.h.chunk < 2 ^ 64 := by
    rw [h.chunk_eq]
    omega
  rw [(header_congr hkeep).1, (header_congr hkeep).2, limitOf_writeHeader hlt, writeHeader,
    prevOf_writePrev hchunk]
  exact ⟨rfl, rfl⟩

theorem Good.moveTo_eq (hN : N = ⟨a, newSize c.s.h length⟩) :
    moveTo c.s length a = if alone c.s.h then
        ⟨movedHandle c.s.h N,
          writePrev (movedMem c.s N) N.addr (prevOf (movedMem c.s N) c.s.h.chunk),
          (N :: c.s.live).filter fun d => d.addr ≠ c.s.h.chunk⟩
      else ⟨movedHandle c.s.h N, movedMem c.s N, N :: c.s.live⟩ := by
  have hlt := hfits
  unfold Chunk.limit at hfits
  have hfirst := firstObject_bounds N.addr h.exp (by omega)
  rw [← h.mask] at hfirst
  have hlimit : (a + newSize c.s.h length) % 2 ^ 64 = N.limit := by
    rw [hN] at hlt ⊢
    exact Nat.mod_eq_of_lt hlt
  have hnext : (firstObject c.s.h.alignment_mask a + objectSize c.s.h) % 2 ^ 64 =
      firstObject c.s.h.alignment_mask N.addr + (c.s.h.next_free - c.s.h.object_base) := by
    rw [← h.objectSize_eq, hN]
    rw [hN] at hfits hroom hfirst
    rw [h.mask] at hfirst ⊢
    exact Nat.mod_eq_of_lt (by dsimp only at *; omega)
  have haddr : a = N.addr := by rw [hN]
  unfold moveTo
  simp only [hlimit, hnext]
  cases halone : alone c.s.h with
  | true =>
    have hcond := halone
    unfold alone at hcond
    simp only [hcond, if_true, movedMem, movedHandle, haddr]
    subst hN
    rfl
  | false =>
    have hcond := halone
    unfold alone at hcond
    simp only [hcond, movedMem, movedHandle, haddr]
    subst hN
    rfl

end

theorem Good.movedMem_object (hfresh : Fresh c.s.live N)
    (hroom : contentsOffset + (2 ^ k - 1) + objectSize c.s.h ≤ N.size) :
    readList (movedMem c.s N) (firstObject (2 ^ k - 1) N.addr)
      (c.s.h.next_free - c.s.h.object_base) = c.growing := by
  have hbounds := h.bounds
  have hfits := hfresh.fits
  have hsep := hfresh.separate _ ((h.live _).mpr mem_cons_self)
  unfold Separate at hsep
  unfold Chunk.limit at hfits
  have hfirst := firstObject_bounds N.addr h.exp (by omega)
  rw [h.objectSize_eq] at hroom
  have hlim : N.limit = N.addr + N.size := rfl
  rw [movedMem, h.mask, h.objectSize_eq, readList_copy _ _ _ _ (by omega), ← h.growing]
  apply readList_congr
  intro b hb
  unfold InRange at hb
  exact writeHeader_outside (by unfold InRange; omega)

theorem Good.older_addr_ne : ∀ d ∈ chunks older, d.addr ≠ cur.chunk.addr := by
  intro d hd
  obtain ⟨g, hg, rfl⟩ := mem_map.mp hd
  exact (h.older_separate g hg).addr_ne h.cur_valid.size_pos
    (h.valid _ (mem_cons_of_mem _ hd)).size_pos

theorem Good.mem_live_cons (N d : Chunk) :
    d ∈ N :: c.s.live ↔ d ∈ cur.chunk :: chunks (⟨N, []⟩ :: older) := by
  rw [mem_cons, h.live d]
  simp only [chunks, map_cons, mem_cons]
  exact or_left_comm

theorem Good.others_addr_ne (hsep : Separate N cur.chunk) (hsize : 0 < N.size) :
    ∀ d ∈ chunks (⟨N, []⟩ :: older), d.addr ≠ cur.chunk.addr :=
  forall_mem_cons.mpr ⟨(hsep.addr_ne hsize h.cur_valid.size_pos).symm, h.older_addr_ne⟩

section

variable (hfresh : Fresh c.s.live N) (hsize : contentsOffset + 2 ^ k ≤ N.size)
  (hroom : contentsOffset + (2 ^ k - 1) + objectSize c.s.h ≤ N.size)
include hfresh hsize hroom

theorem Good.move_alone (halone : alone c.s.h = true) :
    Good k ⟨⟨movedHandle c.s.h N,
      writePrev (movedMem c.s N) N.addr (prevOf (movedMem c.s N) c.s.h.chunk),
      (N :: c.s.live).filter fun d => d.addr ≠ c.s.h.chunk⟩, c.growing, c.objects⟩
      ⟨N, []⟩ older := by
  have hpos : 0 < 2 ^ k := Nat.two_pow_pos k
  have hsep := hfresh.separate _ ((h.live _).mpr mem_cons_self)
  simp only [alone, Bool.and_eq_true, Bool.not_eq_true', decide_eq_true_eq] at halone
  have hobjs := h.no_objs halone.1 (by rw [halone.2, h.mask, h.chunk_eq])
  have hfits := hfresh.fits
  have hlim : N.limit = N.addr + N.size := rfl
  have hfirst := firstObject_bounds N.addr h.exp (by omega)
  have hout : ∀ b, ¬ InRange b N.addr N.size →
      writePrev (movedMem c.s N) N.addr (prevOf (movedMem c.s N) c.s.h.chunk) b = c.s.mem b := by
    intro b hb
    rw [writePrev, storeWord_outside, h.movedMem_outside hfits hroom hb]
    unfold InRange contentsOffset at *
    omega
  have hprev : prevOf (movedMem c.s N) c.s.h.chunk = prevOf c.s.mem cur.chunk.addr := by
    rw [h.chunk_eq]
    refine (header_congr ?_).2
    intro b hb
    refine h.movedMem_outside hfits hroom ?_
    have := h.cur_valid.room
    unfold Separate Chunk.limit at hsep
    unfold InRange at *
    omega
  refine h.relocate hfresh hsize hout ?_ ?_ (sublist_cons_self _ _) ?_ ?_ ?_ ?_
  · rw [limitOf, writePrev, loadWord_storeWord_apart _ (Or.inr (Nat.le_refl _)), ← limitOf]
    exact (h.movedMem_header hfits hroom).1
  · rw [prevOf_writePrev (by rw [hprev]; exact BitVec.isLt _), hprev]
    exact h.chain.2.2
  · rw [h.chunk_eq]
    exact mem_live_freed (h.mem_live_cons N) (h.others_addr_ne hsep (by omega))
  · rw [h.objects, allObjs, flatMap_cons, hobjs]
    rfl
  · refine Eq.trans (readList_congr ?_) (h.movedMem_object hfresh hroom)
    intro b hb
    rw [writePrev, storeWord_outside]
    unfold InRange contentsOffset at *
    omega
  · rw [h.objectSize_eq] at hroom
    omega

theorem Good.move_kept :
    Good k ⟨⟨movedHandle c.s.h N, movedMem c.s N, N :: c.s.live⟩, c.growing, c.objects⟩
      ⟨N, []⟩ (cur :: older) := by
  have hfits := hfresh.fits
  have hlim : N.limit = N.addr + N.size := rfl
  have hfirst := firstObject_bounds N.addr h.exp (by omega)
  refine h.relocate hfresh hsize (fun b hb => h.movedMem_outside hfits hroom hb)
    (h.movedMem_header hfits hroom).1 ?_ (Sublist.refl _) ?_ h.objects
    (h.movedMem_object hfresh hroom) ?_
  · rw [(h.movedMem_header hfits hroom).2]
    exact h.chain
  · intro d
    simp only [chunks, mem_cons]
    rw [h.live d]
    simp only [chunks, map_cons, mem_cons]
  · rw [h.objectSize_eq] at hroom
    omega

end

theorem Good.newchunk (hlen : length < 2 ^ 64) (hans : Answers c.s length answer)
    (hs : obstack_newchunk answer length c.s = some s) :
    (∃ cur' older', Good k ⟨s, c.growing, c.objects⟩ cur' older') ∧
      s.h.next_free + length ≤ s.h.chunk_limit := by
  unfold obstack_newchunk at hs
  split_ifs at hs with hguard
  simp only [Bool.and_eq_true, decide_eq_true_eq] at hguard
  obtain ⟨a, ha, rfl⟩ := Option.map_eq_some_iff.mp hs
  have hfresh := hans a ha
  obtain ⟨N, hN⟩ : ∃ N : Chunk, N = ⟨a, newSize c.s.h length⟩ := ⟨_, rfl⟩
  rw [← hN] at hfresh
  have hlt := two_pow_lt h.exp
  have hmask := h.mask
  have hNsize : N.size = newSize c.s.h length := by rw [hN]
  have hge := newSize_ge hlen (by omega) hguard.1 hguard.2
    (by rw [← hNsize]; exact hfresh.size)
  have hchunk := (h.size.trans (chunk_size_le_newSize c.s.h length))
  rw [← hNsize] at hchunk
  have hroom : contentsOffset + (2 ^ k - 1) + objectSize c.s.h ≤ N.size := by
    unfold contentsOffset
    omega
  have hfits := hfresh.fits
  have hlim : N.limit = N.addr + N.size := rfl
  have hfirst := firstObject_bounds N.addr h.exp (by omega)
  have hfit : (movedHandle c.s.h N).next_free + length ≤ (movedHandle c.s.h N).chunk_limit := by
    change firstObject c.s.h.alignment_mask N.addr +
      (c.s.h.next_free - c.s.h.object_base) + length ≤
      N.limit
    rw [← h.objectSize_eq, h.mask]
    unfold contentsOffset at hfirst
    omega
  rw [h.moveTo_eq hfits hroom hN]
  cases halone : alone c.s.h with
  | true => exact ⟨⟨_, _, h.move_alone hfresh hchunk hroom halone⟩, hfit⟩
  | false => exact ⟨⟨_, _, h.move_kept hfresh hchunk hroom⟩, hfit⟩

theorem Good.make_room (hlen : length < 2 ^ 64) (hans : Answers c.s length answer)
    (hs : obstack_make_room answer length c.s = some s) :
    (∃ cur' older', Good k ⟨s, c.growing, c.objects⟩ cur' older') ∧
      s.h.next_free + length ≤ s.h.chunk_limit := by
  unfold obstack_make_room at hs
  split_ifs at hs with hroom
  · exact h.newchunk hlen hans hs
  · cases hs
    refine ⟨⟨cur, older, h⟩, ?_⟩
    have hbounds := h.bounds
    have hnext := h.next
    have hlimit := h.limit
    rw [obstack_room, subWord_of_le (by omega) hnext] at hroom
    omega

end Move

theorem Good.freedTo (h : Good k c cur older) (hsegs : cur :: older = pre ++ g :: post)
    (hg : g.objs = new ++ o :: old)
    (hs : FreedTo c.s o.addr g.chunk (!pre.isEmpty) (chunks (g :: post)) s)
    (hchain : ChainAt c.s.mem g.chunk.addr (chunks (g :: post))) :
    Good k ⟨s, [], old ++ allObjs post⟩ ⟨g.chunk, old⟩ post := by
  have hin : g ∈ cur :: older := by simp [hsegs]
  have hkept : (g :: post).Sublist (cur :: older) := by
    rw [hsegs]
    exact sublist_append_right _ _
  have hchunks : (chunks (g :: post)).Sublist (chunks (cur :: older)) := hkept.map _
  have hold : ∀ q ∈ old, q ∈ g.objs := by
    intro q hq
    rw [hg]
    exact mem_append_right _ (mem_cons_of_mem _ hq)
  have hstacked := h.stacked g hin
  have hobj := hstacked.mem o (by rw [hg]; simp)
  rw [hg] at hstacked
  have hpost : ∀ q ∈ post, q ∈ older := by
    intro q hq
    cases pre with
    | nil =>
      obtain ⟨_, rfl⟩ := cons.inj hsegs
      exact hq
    | cons p pre =>
      obtain ⟨_, rfl⟩ := cons.inj hsegs
      exact mem_append_right _ (mem_cons_of_mem _ hq)
  refine ⟨h.exp, ?_, ?_, hs.live, h.separate.sublist hchunks,
    fun ch hch => h.valid ch (hchunks.subset hch), ?_, ?_, ?_, ?_, ?_,
    fun q hq => h.full q (hpost q hq), ?_, ?_, rfl, ?_⟩ <;> simp only [hs.h, hs.mem]
  · exact h.mask
  · exact h.size
  · exact hchain
  · exact hstacked.below
  · exact Nat.le_refl _
  · omega
  · rw [Nat.sub_self]
    rfl
  · intro q hq r hr
    rcases mem_cons.mp hq with rfl | hq
    · exact h.bytes g hin r (hold r hr)
    · exact h.bytes q (hkept.subset (mem_cons_of_mem _ hq)) r hr
  · intro hflag q hq
    simp only [Bool.or_eq_false_iff, Bool.not_eq_false', List.isEmpty_iff] at hflag
    obtain ⟨hmaybe, rfl⟩ := hflag
    obtain ⟨rfl, _⟩ := cons.inj hsegs
    exact h.flag hmaybe q (hold q hq)

/-- Freeing a finished object returns, in a state in which the older objects are as they were. -/
theorem Good.free (h : Good k c cur older) (hobjs : c.objects = newer ++ o :: rest) :
    ∃ s, (∃ n, ∀ fuel ≥ n, obstack_free fuel o.addr c.s = some (some s)) ∧
      (∀ fuel r, obstack_free fuel o.addr c.s = some r → r = some s) ∧
      ∃ cur' older', Good k ⟨s, [], rest⟩ cur' older' := by
  rw [h.objects] at hobjs
  obtain ⟨pre, g, post, new, old, hsegs, hg, rfl⟩ := allObjs_split _ _ hobjs
  have hin : g ∈ cur :: older := by simp [hsegs]
  have hplaced := h.placed g hin o (by rw [hg]; simp)
  have hchunks : chunks (cur :: older) = chunks pre ++ g.chunk :: chunks post := by
    rw [hsegs, chunks, map_append]
    rfl
  have hchain := h.chain
  have hsep := h.separate
  have hvalid := h.valid
  have hlive := h.live
  rw [hchunks] at hchain hsep hvalid hlive
  by_cases hinside : o.addr > c.s.h.chunk ∧ o.addr < c.s.h.chunk_limit
  · -- the object is in the current chunk, since the chunks do not meet
    have hpre : pre = [] := by
      cases pre with
      | nil => rfl
      | cons p pre =>
        obtain ⟨rfl, rfl⟩ := cons.inj hsegs
        have hout := outside_other (h.older_separate g (by simp)) hplaced.1 (by omega)
        rw [h.chunk_eq, h.limit] at hinside
        omega
    subst hpre
    obtain ⟨rfl, rfl⟩ := cons.inj hsegs
    have hstate : ∀ fuel, obstack_free fuel o.addr c.s = some (some
        { c.s with h := { c.s.h with next_free := o.addr, object_base := o.addr } }) := by
      intro fuel
      simp [obstack_free, hinside]
    refine ⟨_, ⟨0, fun fuel _ => hstate fuel⟩, ?_, ⟨_, _, h.freedTo hsegs hg ?_ hchain.drop⟩⟩
    · intro fuel r hr
      rw [hstate fuel] at hr
      exact (Option.some.inj hr).symm
    · exact ⟨by simp [← h.limit, ← h.chunk_eq], rfl, h.live⟩
  · have hstep : ∀ fuel, obstack_free fuel o.addr c.s =
        (loop (freeTurn o.addr) fuel (c.s.h.chunk, c.s)).result := by
      intro fuel
      have hcond : (decide (o.addr > c.s.h.chunk) && decide (o.addr < c.s.h.chunk_limit)) =
          false := by
        rw [← Bool.decide_and]
        exact decide_eq_false hinside
      simp only [obstack_free, hcond, Bool.false_eq_true, if_false]
    obtain ⟨s, hreturns, hto⟩ := free_loop hplaced.1 (by omega) (chunks post) (chunks pre) c.s
      c.s.h.chunk hchain hsep hvalid hlive
    obtain ⟨n, hn⟩ := hreturns.eventually
    have hempty : (chunks pre).isEmpty = pre.isEmpty := by
      cases pre <;> rfl
    rw [hempty] at hto
    refine ⟨s, ⟨n, ?_⟩, ?_, ⟨_, _, h.freedTo hsegs hg hto hchain.drop⟩⟩
    · intro fuel hfuel
      rw [hstep, hn fuel hfuel]
    · intro fuel r hr
      rw [hstep] at hr
      exact hreturns.unique hr

theorem good_initial (hk : k < 64) (hsize : contentsOffset + 2 ^ k ≤ size)
    (hfresh : Fresh [] ⟨chunk, size⟩) :
    Good k ⟨obstack_begin size (2 ^ k) chunk m, [], []⟩ ⟨⟨chunk, size⟩, []⟩ [] := by
  have hpos : 0 < 2 ^ k := Nat.two_pow_pos k
  have hfits := hfresh.fits
  have hvalid : Valid k ⟨chunk, size⟩ := ⟨hfresh.nonnull, hfits, hfresh.size, hsize⟩
  have hfirst := (hvalid.first hk).2
  have halign : (if 2 ^ k = 0 then 16 else 2 ^ k) = 2 ^ k := if_neg (by omega)
  have hdefault : (if size = 0 then 4096 - 32 else size) = size := if_neg (by omega)
  have hmod : (chunk + size) % 2 ^ 64 = chunk + size := Nat.mod_eq_of_lt hfits
  simp only [obstack_begin, halign, hdefault, hmod]
  refine ⟨hk, rfl, hsize, by simp [chunks], pairwise_singleton _ _, ?_, ?_, rfl, Nat.le_refl _,
    Nat.le_refl _, ?_, by simp, ?_, by simp, rfl, by simp⟩
  · exact forall_mem_singleton.mpr hvalid
  · refine ⟨rfl, limitOf_writeHeader hfits, ?_⟩
    exact prevOf_writePrev (by omega)
  · exact Nat.le_of_lt hfirst
  · rw [Nat.sub_self]
    rfl

end Invariant

end ObstackInvariant
