import GcompatMusl.WordMemory

/-! # RELR relocation

The dynamic linker relocates a library through `do_relr_relocs`, and itself through a loop of
`_dlstart_c` that is written out again. Both read the table from memory while they change memory. -/
namespace Relr

open FlatMemory WordMemory List

def addWord (base : BitVec 64) (m : Mem UInt8) (p : BitVec 64) : Mem UInt8 :=
  storeWord m p.toNat (loadWord m p.toNat + base)

structure State where
  mem : Mem UInt8
  reloc_addr : BitVec 64

def index (p : BitVec 64) (i : ℕ) : BitVec 64 := p + BitVec.ofNat 64 (8 * i)

def bitmapLoop (base reloc_addr : BitVec 64) : ℕ → ℕ → BitVec 64 → Mem UInt8 → Mem UInt8
  | 0, _, _, m => m
  | bits + 1, i, bitmap, m =>
    let bitmap := bitmap >>> 1
    if bitmap = 0 then m
    else bitmapLoop base reloc_addr bits (i + 1) bitmap
      (if bitmap &&& 1 = 1 then addWord base m (index reloc_addr i) else m)

def relrEntry (base word : BitVec 64) (s : State) : State :=
  if word &&& 1 = 0 then
    let p := base + word
    ⟨addWord base s.mem p, index p 1⟩
  else ⟨bitmapLoop base s.reloc_addr 64 0 word s.mem, index s.reloc_addr 63⟩

def relrLoop (base : BitVec 64) : ℕ → ℕ → State → State
  | 0, _, s => s
  | n + 1, relr, s => relrLoop base n (relr + 8) (relrEntry base (loadWord s.mem relr) s)

/-- `n` words of a table at `relr`. The cursor is not initialised. The linker's own entry is left
alone, since it was relocated before. -/
def do_relr_relocs (isLdso : Bool) (base : BitVec 64) (relr n : ℕ) (uninit : BitVec 64)
    (m : Mem UInt8) : Mem UInt8 :=
  if isLdso then m else (relrLoop base n relr ⟨m, uninit⟩).mem

def dlstartLoop (base : BitVec 64) : ℕ → ℕ → BitVec 64 → Mem UInt8 → Mem UInt8
  | 0, _, _, m => m
  | n + 1, rel, relr_addr, m =>
    let word := loadWord m rel
    if word &&& 1 = 0 then
      dlstartLoop base n (rel + 8) (index (base + word) 1) (addWord base m (base + word))
    else
      dlstartLoop base n (rel + 8) (index relr_addr 63) (bitmapLoop base relr_addr 64 0 word m)

/-- The stage-1 self-relocation through a table of `n` words at `rel`. -/
def dlstart_relr (base : BitVec 64) (rel n : ℕ) (m : Mem UInt8) : Mem UInt8 :=
  dlstartLoop base n rel 0 m

/-- The words that a bitmap selects among those from the cursor on: bit `i + 1` stands for word
`i`. -/
def bitmapWords (cursor word : BitVec 64) : List (BitVec 64) :=
  ((List.range 63).filter fun i => word.getLsbD (i + 1)).map (index cursor)

/-- An even word is an address and sets the cursor just after it; an odd word is a bitmap over the
next 63 words, and the cursor advances by 63 words. -/
def denoted (base : BitVec 64) : BitVec 64 → List (BitVec 64) → List (BitVec 64)
  | _, [] => []
  | cursor, word :: words =>
    if word &&& 1 = 0 then (base + word) :: denoted base (index (base + word) 1) words
    else bitmapWords cursor word ++ denoted base (index cursor 63) words

def StartsWithAddress (words : List (BitVec 64)) : Prop := ∀ w ∈ words.head?, w &&& 1 = 0

def relocate (base : BitVec 64) (m : Mem UInt8) (ps : List (BitVec 64)) : Mem UInt8 :=
  ps.foldl (addWord base) m

variable {base : BitVec 64} {m : Mem UInt8}

theorem loadWord_addWord_apart (h : Apart p.toNat a) :
    loadWord (addWord base m p) a = loadWord m a :=
  loadWord_storeWord_apart _ h

theorem loadWord_relocate_apart (ps : List (BitVec 64)) :
    ∀ m : Mem UInt8, (∀ p ∈ ps, Apart p.toNat a) → loadWord (relocate base m ps) a = loadWord m a :=
  fun m h => foldlRecOn (motive := (loadWord · a = loadWord m a)) ps _ rfl fun _ ih p hp =>
    (loadWord_addWord_apart (h p hp)).trans ih

theorem loadWord_relocate (ps : List (BitVec 64)) :
    ∀ m : Mem UInt8, ps.Pairwise (fun p q => Apart p.toNat q.toNat) →
      ∀ p ∈ ps, loadWord (relocate base m ps) p.toNat = loadWord m p.toNat + base := by
  induction ps with
  | nil => intro m _ p hp; cases hp
  | cons q ps ih =>
    intro m hpw p hp
    obtain ⟨hq, hpw⟩ := pairwise_cons.mp hpw
    rcases mem_cons.mp hp with rfl | hp
    · have hrest : loadWord (relocate base (addWord base m p) ps) p.toNat =
          loadWord (addWord base m p) p.toNat :=
        loadWord_relocate_apart ps (addWord base m p) (fun r hr => (hq r hr).symm)
      exact hrest.trans (loadWord_storeWord _)
    · have hrest := ih (addWord base m q) hpw p hp
      rw [loadWord_addWord_apart (hq p hp)] at hrest
      exact hrest

theorem relocate_outside (ps : List (BitVec 64)) :
    ∀ m : Mem UInt8, (∀ p ∈ ps, ¬ InRange b p.toNat 8) → relocate base m ps b = m b :=
  fun m h => foldlRecOn (motive := fun m' : Mem UInt8 => m' b = m b) ps _ rfl fun _ ih p hp =>
    (storeWord_outside _ (h p hp)).trans ih

theorem and_one_eq_one_iff (w : BitVec 64) : w &&& 1 = 1 ↔ w.getLsbD 0 = true := by
  have h : w &&& 1#64 = BitVec.setWidth 64 (BitVec.ofBool (w.getLsbD 0)) :=
    BitVec.and_one_eq_setWidth_ofBool_getLsbD
  cases hw : w.getLsbD 0 <;> rw [hw] at h
  · exact iff_of_false (by rw [show w &&& 1 = _ from h]; decide) (by decide)
  · exact iff_of_true (by rw [show w &&& 1 = _ from h]; decide) rfl

theorem getLsbD_shift (w : BitVec 64) (j : ℕ) : w.getLsbD (j + 1) = (w >>> 1).getLsbD j := by
  rw [BitVec.getLsbD_ushiftRight, Nat.add_comm]

theorem bitmapLoop_eq (reloc_addr : BitVec 64) (bits : ℕ) :
    ∀ i bitmap (m : Mem UInt8), bitmapLoop base reloc_addr bits i bitmap m =
      relocate base m (((List.range bits).filter fun j => bitmap.getLsbD (j + 1)).map
        fun j => index reloc_addr (i + j)) := by
  induction bits with
  | zero => intro i bitmap m; rfl
  | succ bits ih =>
    intro i bitmap m
    have hrest : ((range bits).map Nat.succ).filter (fun j => bitmap.getLsbD (j + 1)) =
        ((range bits).filter fun j => (bitmap >>> 1).getLsbD (j + 1)).map Nat.succ := by
      rw [filter_map]
      congr 1
      apply filter_congr
      intro j _
      exact getLsbD_shift bitmap (j + 1)
    rw [bitmapLoop, range_succ_eq_map]
    by_cases hz : bitmap >>> 1 = 0
    · -- no bit is left
      have hnone : ∀ j, bitmap.getLsbD (j + 1) = false := by
        intro j
        rw [getLsbD_shift, hz]
        exact BitVec.getLsbD_zero
      simp [hz, hnone, relocate]
    · simp only [hz, ih]
      have hbit := (and_one_eq_one_iff (bitmap >>> 1)).trans (by rw [← getLsbD_shift])
      have hshift : ∀ j, i + 1 + j = i + (j + 1) := by omega
      by_cases hb : bitmap.getLsbD (0 + 1) = true
      · rw [if_pos (hbit.mpr hb), filter_cons, if_pos hb, hrest]
        simp [relocate, hshift, Function.comp_def]
      · rw [if_neg (mt hbit.mp hb), filter_cons, if_neg hb, hrest]
        simp [hshift, Function.comp_def]

theorem bitmapLoop_word (reloc_addr word : BitVec 64) (m : Mem UInt8) :
    bitmapLoop base reloc_addr 64 0 word m = relocate base m (bitmapWords reloc_addr word) := by
  rw [bitmapLoop_eq, bitmapWords, range_succ]
  simp

def TableAt (m : Mem UInt8) (relr : ℕ) : List (BitVec 64) → Prop
  | [] => True
  | w :: words => loadWord m relr = w ∧ TableAt m (relr + 8) words

def TableApart (relr n : ℕ) (ps : List (BitVec 64)) : Prop :=
  ∀ p ∈ ps, ∀ k < n, Apart p.toNat (relr + 8 * k)

theorem TableAt.relocate :
    ∀ {relr : ℕ}, TableAt m relr words → TableApart relr words.length ps →
      TableAt (relocate base m ps) relr words := by
  induction words with
  | nil => intro relr _ _; trivial
  | cons w words ih =>
    intro relr h hap
    refine ⟨?_, ih h.2 ?_⟩
    · have hkeep : loadWord (Relr.relocate base m ps) relr = loadWord m relr :=
        loadWord_relocate_apart ps m (fun p hp => hap p hp 0 (Nat.succ_pos _))
      exact hkeep.trans h.1
    · intro p hp k hk
      have := hap p hp (k + 1) (Nat.succ_lt_succ hk)
      rwa [show relr + 8 + 8 * k = relr + 8 * (k + 1) by omega]

def entryWords (base cursor word : BitVec 64) : List (BitVec 64) × BitVec 64 :=
  if word &&& 1 = 0 then ([base + word], index (base + word) 1)
  else (bitmapWords cursor word, index cursor 63)

theorem denoted_cons (cursor word : BitVec 64) (words : List (BitVec 64)) :
    denoted base cursor (word :: words) =
      (entryWords base cursor word).1 ++ denoted base (entryWords base cursor word).2 words := by
  unfold entryWords
  rw [denoted]
  split_ifs <;> rfl

theorem relrEntry_eq (word : BitVec 64) (s : State) :
    relrEntry base word s = ⟨relocate base s.mem (entryWords base s.reloc_addr word).1,
      (entryWords base s.reloc_addr word).2⟩ := by
  unfold relrEntry entryWords
  split_ifs
  · rfl
  · rw [bitmapLoop_word]

theorem relrLoop_eq (words : List (BitVec 64)) :
    ∀ (relr : ℕ) (s : State), TableAt s.mem relr words →
      TableApart relr words.length (denoted base s.reloc_addr words) →
      (relrLoop base words.length relr s).mem =
        relocate base s.mem (denoted base s.reloc_addr words) := by
  induction words with
  | nil => intro relr s _ _; rfl
  | cons w words ih =>
    intro relr s htab hap
    obtain ⟨hw, htail⟩ := htab
    rw [denoted_cons] at hap ⊢
    have hlater : ∀ p k, k < words.length →
        p ∈ (entryWords base s.reloc_addr w).1 ++
          denoted base (entryWords base s.reloc_addr w).2 words →
        Apart p.toNat (relr + 8 + 8 * k) := by
      intro p k hk hp
      have := hap p hp (k + 1) (Nat.succ_lt_succ hk)
      rwa [show relr + 8 + 8 * k = relr + 8 * (k + 1) by omega]
    rw [length_cons, relrLoop, hw, relrEntry_eq]
    rw [ih (relr + 8) _ (htail.relocate fun p hp k hk => hlater p k hk (mem_append_left _ hp))
      (fun p hp k hk => hlater p k hk (mem_append_right _ hp))]
    exact (foldl_append ..).symm

theorem dlstartLoop_eq (n : ℕ) :
    ∀ (rel : ℕ) (cursor : BitVec 64) (m : Mem UInt8),
      dlstartLoop base n rel cursor m = (relrLoop base n rel ⟨m, cursor⟩).mem := by
  induction n with
  | zero => intro rel cursor m; rfl
  | succ n ih =>
    intro rel cursor m
    rw [dlstartLoop, relrLoop, relrEntry]
    split_ifs with hw
    · rw [ih]
    · rw [ih]

/-- The cursor is set before it is read. -/
theorem relrLoop_start (h : TableAt m relr words) (hstart : StartsWithAddress words)
    (c c' : BitVec 64) : (relrLoop base words.length relr ⟨m, c⟩).mem =
      (relrLoop base words.length relr ⟨m, c'⟩).mem := by
  cases words with
  | nil => rfl
  | cons w words =>
    have hword : loadWord m relr &&& 1 = 0 := by
      rw [h.1]
      exact hstart w rfl
    simp only [length_cons, relrLoop, relrEntry, if_pos hword]

/-- A table of RELR words in memory whose first word is an address entry and whose words lie inside
an image -/
structure Table (m : Mem UInt8) (base : BitVec 64) (relr : ℕ) (words : List (BitVec 64))
    (image len : ℕ) : Prop where
  stored : TableAt m relr words
  starts : StartsWithAddress words
  inside : ∀ p ∈ denoted base 0 words, image ≤ p.toNat ∧ p.toNat + 8 ≤ image + len

/-- The words lie apart from each other and from the table. -/
structure Separate (base : BitVec 64) (relr : ℕ) (words : List (BitVec 64)) : Prop where
  once : (denoted base 0 words).Pairwise fun p q => Apart p.toNat q.toNat
  apart : TableApart relr words.length (denoted base 0 words)

/-- Both loops leave the same memory behind. If no word is denoted twice and none is part of the
table, they add the base once to each word that the table denotes and change nothing else. -/
theorem relr_relocates_exactly {image len relr : ℕ} {words : List (BitVec 64)}
    (h : Table m base relr words image len) (uninit : BitVec 64) :
    dlstart_relr base relr words.length m =
        do_relr_relocs false base relr words.length uninit m ∧
      (Separate base relr words →
        (∀ p ∈ denoted base 0 words,
          loadWord (do_relr_relocs false base relr words.length uninit m) p.toNat =
            loadWord m p.toNat + base) ∧
        ∀ b, (∀ p ∈ denoted base 0 words, ¬ InRange b p.toNat 8) →
          do_relr_relocs false base relr words.length uninit m b = m b) := by
  have hstart : ∀ c c', (relrLoop base words.length relr ⟨m, c⟩).mem =
      (relrLoop base words.length relr ⟨m, c'⟩).mem := relrLoop_start h.stored h.starts
  refine ⟨(dlstartLoop_eq words.length relr 0 m).trans (hstart 0 uninit), fun hsep => ?_⟩
  have hrelr : do_relr_relocs false base relr words.length uninit m =
      relocate base m (denoted base 0 words) :=
    (hstart uninit 0).trans (relrLoop_eq words relr ⟨m, 0⟩ h.stored hsep.apart)
  rw [hrelr]
  exact ⟨loadWord_relocate _ m hsep.once, fun b hb => relocate_outside _ m hb⟩

def repeatedTable : Mem UInt8 := storeWord (storeWord (fun _ => 0) 64 16) 72 16

theorem repeated_word_relocated_twice :
    TableAt repeatedTable 64 [16, 16] ∧ StartsWithAddress [16, 16] ∧
      denoted 32 0 [16, 16] = [48, 48] ∧ loadWord repeatedTable 48 = 0 ∧
      loadWord (do_relr_relocs false 32 64 2 0 repeatedTable) 48 = 64 := by
  refine ⟨⟨?_, ?_, trivial⟩, ?_, ?_, ?_, ?_⟩
  · decide +kernel
  · decide +kernel
  · intro w hw
    cases hw
    decide
  · decide
  · decide +kernel
  · decide +kernel

def sparseTable : Mem UInt8 := storeWord (storeWord (fun _ => 0) 128 16) 136 13

theorem sparseTable_words : denoted 32 0 [16, 13] = [48, 64, 72] := by decide +kernel

theorem sparseTable_wellFormed : Table sparseTable 32 128 [16, 13] 32 64 where
  stored := ⟨by decide +kernel, by decide +kernel, trivial⟩
  starts := by
    intro w hw
    cases hw
    decide
  inside := by
    rw [sparseTable_words]
    simp

theorem sparseTable_separate : Separate 32 128 [16, 13] where
  once := by
    rw [sparseTable_words]
    simp [Apart]
  apart := by
    intro p hp k hk
    simp only [sparseTable_words, mem_cons, not_mem_nil, or_false] at hp
    rcases hp with rfl | rfl | rfl <;> simp [Apart] <;> omega

theorem sparse_table_relocated :
    Table sparseTable 32 128 [16, 13] 32 64 ∧ Separate 32 128 [16, 13] ∧
      dlstart_relr 32 128 2 sparseTable = do_relr_relocs false 32 128 2 0 sparseTable ∧
      loadWord (do_relr_relocs false 32 128 2 0 sparseTable) 64 = loadWord sparseTable 64 + 32 := by
  obtain ⟨hsame, hexact⟩ := relr_relocates_exactly sparseTable_wellFormed 0
  exact ⟨sparseTable_wellFormed, sparseTable_separate, hsame,
    (hexact sparseTable_separate).1 64 (by rw [sparseTable_words]; simp)⟩

end Relr
