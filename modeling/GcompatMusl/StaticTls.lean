import GcompatMusl.MaskAlign
import GcompatMusl.WordMemory

/-! # Static thread-local storage

The offsets of the modules are fixed while the program and its libraries are loaded, the size of the
area is computed from them by `update_tls_size`, and `__copy_tls` places everything in an area of
that size, with the blocks below the thread pointer. -/
namespace StaticTls

open FlatMemory MaskAlign WordMemory List Nat

structure TlsImage where
  image : ℕ
  len : ℕ
  size : ℕ
  align : ℕ

structure TlsModule extends TlsImage where
  offset : ℕ

/-- The chain at `libc.tls_head` and the counters of the dynamic linker. -/
structure Loader where
  modules : List TlsModule
  tls_cnt : ℕ
  tls_offset : ℕ
  tls_align : ℕ

/-- The offset of a `struct pthread` after one `char`. -/
def MIN_TLS_ALIGN : ℕ := 8

def sizeofPthread : ℕ := 200

def start : Loader := ⟨[], 0, 0, MIN_TLS_ALIGN⟩

def padding (p : TlsImage) : ℕ := negWord ((p.image + p.size) % 2 ^ 64) &&& (p.align - 1)

def dls3 (app : TlsImage) (s : Loader) : Loader :=
  if app.size = 0 then s
  else
    let offset := (app.size + padding app) % 2 ^ 64
    ⟨[⟨app, offset⟩], 1, offset, maxPow2 s.tls_align app.align⟩

section

variable (s : Loader)

def load_library (p : TlsImage) : Loader :=
  if p.image = 0 then s
  else
    let tls_offset := (s.tls_offset + p.size + p.align - 1) % 2 ^ 64
    let tls_offset := subWord tls_offset ((tls_offset + p.image) % 2 ^ 64 &&& (p.align - 1))
    ⟨s.modules ++ [⟨p, tls_offset⟩], s.tls_cnt + 1, tls_offset, maxPow2 s.tls_align p.align⟩

def load (app : TlsImage) (libs : List TlsImage) : Loader :=
  libs.foldl load_library (dls3 app start)

def rawTlsSize : ℕ :=
  (1 + s.tls_cnt) * 8 + s.tls_offset + sizeofPthread + s.tls_align * 2

def update_tls_size : ℕ :=
  (rawTlsSize s + s.tls_align - 1) % 2 ^ 64 &&& negWord s.tls_align

def threadPointer (mem : ℕ) : ℕ :=
  let td := (mem + subWord (update_tls_size s) sizeofPthread) % 2 ^ 64
  subWord td (td &&& (s.tls_align - 1))

def blockAddress (td : ℕ) (p : TlsModule) : ℕ := subWord td p.offset

/-- The loop of `__copy_tls`, from index `i` of the DTV on. `DTP_OFFSET` is 0. -/
def copyModules (dtv td : ℕ) : ℕ → List TlsModule → Mem UInt8 → Mem UInt8
  | _, [], m => m
  | i, p :: ps, m =>
    let m := storeWord m (dtv + 8 * i) (BitVec.ofNat 64 (blockAddress td p))
    copyModules dtv td (i + 1) ps (copy m (blockAddress td p) p.image p.len)

/-- The thread pointer and memory after the call. The field `dtv` of `struct pthread` is its second
word. -/
def copy_tls (mem : ℕ) (m : Mem UInt8) : ℕ × Mem UInt8 :=
  let td := threadPointer s mem
  let m := copyModules mem td 1 s.modules m
  let m := storeWord m mem (BitVec.ofNat 64 s.tls_cnt)
  (td, storeWord m (td + 8) (BitVec.ofNat 64 mem))

end

/-- The alignment is a power of two, and the initialised part is part of the block. The fields of
a program or library without TLS are all 0. -/
structure TlsImage.WellFormed (p : TlsImage) : Prop where
  align : ∃ k < 64, p.align = 2 ^ k
  len : p.len ≤ p.size

structure NoWrap (app : TlsImage) (libs : List TlsImage) : Prop where
  program : app.size ≠ 0 → app.size + padding app < 2 ^ 64
  library : ∀ pre p post, libs = pre ++ p :: post → p.image ≠ 0 →
    (load app pre).tls_offset + p.size + p.align - 1 < 2 ^ 64
  total : rawTlsSize (load app libs) + (load app libs).tls_align - 1 < 2 ^ 64

structure Offsets (s : Loader) : Prop where
  count : s.tls_cnt = s.modules.length
  align : ∃ k < 64, s.tls_align = 2 ^ k
  divides : ∀ p ∈ s.modules, p.align ∣ s.tls_align
  bounded : ∀ p ∈ s.modules, p.size ≤ p.offset ∧ p.offset ≤ s.tls_offset
  congruent : ∀ p ∈ s.modules, p.align ∣ p.offset + p.image
  ordered : s.modules.Pairwise fun p q => p.offset + q.size ≤ q.offset
  copied : ∀ p ∈ s.modules, p.len ≤ p.size

theorem offsets_start : Offsets start where
  count := rfl
  align := ⟨3, by omega, rfl⟩
  divides := by simp [start]
  bounded := by simp [start]
  congruent := by simp [start]
  ordered := List.Pairwise.nil
  copied := by simp [start]

theorem Offsets.add {s : Loader} (hs : Offsets s) (hp : p.WellFormed)
    (hlo : s.tls_offset + p.size ≤ offset) (hcong : p.align ∣ offset + p.image) :
    Offsets ⟨s.modules ++ [⟨p, offset⟩], s.tls_cnt + 1, offset, maxPow2 s.tls_align p.align⟩ := by
  obtain ⟨i, hi, hsal⟩ := hs.align
  obtain ⟨j, hj, hpal⟩ := hp.align
  have hmax : maxPow2 s.tls_align p.align = 2 ^ max i j := by
    rw [hsal, hpal, maxPow2_two_pow hi hj]
  have hold : ∀ q ∈ s.modules, q.align ∣ 2 ^ max i j := by
    intro q hq
    have hdvd := hs.divides q hq
    rw [hsal] at hdvd
    exact hdvd.trans (pow_dvd_pow 2 (le_max_left i j))
  have hnew : p.align ∣ 2 ^ max i j := by
    rw [hpal]
    exact pow_dvd_pow 2 (le_max_right i j)
  constructor
  · simp [hs.count]
  · exact ⟨max i j, by omega, hmax⟩
  · intro q hq
    rw [hmax]
    rcases mem_append.mp hq with hq | hq
    · exact hold q hq
    · obtain rfl := mem_singleton.mp hq
      exact hnew
  · intro q hq
    rcases mem_append.mp hq with hq | hq
    · have := hs.bounded q hq
      exact ⟨this.1, by dsimp only; omega⟩
    · obtain rfl := mem_singleton.mp hq
      exact ⟨by dsimp only; omega, le_rfl⟩
  · exact forall_mem_append.mpr ⟨hs.congruent, forall_mem_singleton.mpr hcong⟩
  · refine pairwise_append.mpr ⟨hs.ordered, pairwise_singleton _ _, ?_⟩
    intro q hq r hr
    obtain rfl := mem_singleton.mp hr
    have := hs.bounded q hq
    dsimp only
    omega
  · exact forall_mem_append.mpr ⟨hs.copied, forall_mem_singleton.mpr hp.len⟩

theorem offsets_dls3 (happ : app.size ≠ 0 → app.WellFormed)
    (hwrap : app.size ≠ 0 → app.size + padding app < 2 ^ 64) : Offsets (dls3 app start) := by
  unfold dls3
  split_ifs with hsize
  · exact offsets_start
  · rw [mod_eq_of_lt (hwrap hsize)]
    have hcong : app.align ∣ app.size + padding app + app.image := by
      obtain ⟨k, hk, hal⟩ := (happ hsize).align
      have hdvd := dvd_add_neg hk (app.image + app.size)
      have hpad : padding app = negWord (app.image + app.size) % 2 ^ k := by
        rw [padding, hal, and_low, negWord_mod]
      rw [hal, hpad]
      rwa [show app.size + negWord (app.image + app.size) % 2 ^ k + app.image =
        app.image + app.size + negWord (app.image + app.size) % 2 ^ k by omega]
    exact offsets_start.add (happ hsize) (by simp [start]) hcong

theorem offsets_load_library {s : Loader} (hs : Offsets s) (hp : p.image ≠ 0 → p.WellFormed)
    (hwrap : p.image ≠ 0 → s.tls_offset + p.size + p.align - 1 < 2 ^ 64) :
    Offsets (load_library s p) := by
  unfold load_library
  split_ifs with himage
  · exact hs
  · obtain ⟨k, hk, hal⟩ := (hp himage).align
    have hpos : 0 < 2 ^ k := Nat.two_pow_pos k
    have hsum := hwrap himage
    have hmask : (s.tls_offset + p.size + p.align - 1 + p.image) % 2 ^ 64 &&& (p.align - 1) =
        (s.tls_offset + p.size + p.align - 1 + p.image) % p.align := by
      rw [hal, and_low, mod_word_mod hk]
    have hlt : (s.tls_offset + p.size + p.align - 1 + p.image) % p.align < p.align :=
      mod_lt _ (by omega)
    dsimp only
    rw [mod_eq_of_lt hsum, hmask, subWord_of_le hsum (by omega)]
    apply hs.add (hp himage) (by omega)
    rw [← Nat.sub_add_comm (by omega)]
    exact dvd_sub_mod _

theorem offsets_load (happ : app.size ≠ 0 → app.WellFormed)
    (hlibs : ∀ p ∈ libs, p.image ≠ 0 → p.WellFormed)
    (hprogram : app.size ≠ 0 → app.size + padding app < 2 ^ 64)
    (hlibrary : ∀ pre p post, libs = pre ++ p :: post → p.image ≠ 0 →
      (load app pre).tls_offset + p.size + p.align - 1 < 2 ^ 64) :
    Offsets (load app libs) := by
  -- libraries are added at the end, so the induction is on the last one
  induction libs using reverseRecOn with
  | nil => exact offsets_dls3 happ hprogram
  | append_singleton libs p ih =>
    have hs : Offsets (load app libs) := by
      apply ih
      · intro q hq
        exact hlibs q (mem_append_left _ hq)
      · intro pre q post hsplit
        exact hlibrary pre q (post ++ [p]) (by rw [hsplit]; simp)
    have hstep := offsets_load_library hs (hlibs p (by simp)) (hlibrary libs p [] rfl)
    simpa [load] using hstep

variable {s : Loader}

theorem update_tls_size_spec (hs : Offsets s) (hwrap : rawTlsSize s + s.tls_align - 1 < 2 ^ 64) :
    rawTlsSize s ≤ update_tls_size s ∧ update_tls_size s < rawTlsSize s + s.tls_align := by
  obtain ⟨k, hk, hal⟩ := hs.align
  rw [update_tls_size, mod_eq_of_lt hwrap]
  rw [hal] at hwrap ⊢
  have := alignUp_spec hk hwrap
  exact ⟨this.1, this.2.1⟩

structure ThreadPointer (s : Loader) (mem td : ℕ) : Prop where
  aligned : s.tls_align ∣ td
  below : td + sizeofPthread ≤ mem + update_tls_size s
  above : mem + (1 + s.tls_cnt) * 8 + s.tls_offset ≤ td

theorem threadPointer_spec (hs : Offsets s) (hwrap : rawTlsSize s + s.tls_align - 1 < 2 ^ 64)
    (harea : mem + update_tls_size s ≤ 2 ^ 64) :
    ThreadPointer s mem (threadPointer s mem) := by
  obtain ⟨k, hk, hal⟩ := hs.align
  have hsize := update_tls_size_spec hs hwrap
  simp only [rawTlsSize, sizeofPthread] at hsize hwrap
  have hsub : subWord (update_tls_size s) sizeofPthread = update_tls_size s - 200 := by
    exact subWord_of_le (by omega) (by simp only [sizeofPthread]; omega)
  have htop : mem + (update_tls_size s - 200) < 2 ^ 64 := by omega
  have hlt : (mem + (update_tls_size s - 200)) % s.tls_align < s.tls_align :=
    mod_lt _ (by omega)
  have htd : threadPointer s mem = mem + (update_tls_size s - 200) -
      (mem + (update_tls_size s - 200)) % s.tls_align := by
    rw [threadPointer, hsub, mod_eq_of_lt htop, hal, and_low]
    exact subWord_of_le htop (mod_le _ _)
  rw [htd]
  constructor
  · exact dvd_sub_mod _
  · simp only [sizeofPthread]
    omega
  · omega

theorem blockAddress_eq (hs : Offsets s) (htd : ThreadPointer s mem td) (hlt : td < 2 ^ 64)
    (hp : p ∈ s.modules) : p.offset ≤ td ∧ blockAddress td p = td - p.offset := by
  have hle : p.offset ≤ td := by
    have := (hs.bounded p hp).2
    have := htd.above
    omega
  exact ⟨hle, subWord_of_le hlt hle⟩

/-- What `__copy_tls` puts into the area: the DTV, the `struct pthread` and the blocks. -/
def regions (s : Loader) (mem td : ℕ) : List (ℕ × ℕ) :=
  (mem, 8 * (s.tls_cnt + 1)) :: (td, sizeofPthread) ::
    s.modules.map fun p => (blockAddress td p, p.size)

section

variable (hs : Offsets s) (htd : ThreadPointer s mem td) (hlt : td < 2 ^ 64)
include hs htd hlt

theorem regions_inside :
    ∀ r ∈ regions s mem td, mem ≤ r.1 ∧ r.1 + r.2 ≤ mem + update_tls_size s := by
  have habove := htd.above
  have hbelow := htd.below
  simp only [regions, forall_mem_cons, forall_mem_map]
  refine ⟨⟨le_rfl, by omega⟩, ⟨by omega, hbelow⟩, ?_⟩
  intro p hp
  have hb := hs.bounded p hp
  obtain ⟨hle, haddr⟩ := blockAddress_eq hs htd hlt hp
  omega

theorem regions_disjoint : (regions s mem td).Pairwise fun r r' => ¬ Overlap r.1 r.2 r'.1 r'.2 := by
  have habove := htd.above
  refine pairwise_cons.mpr ⟨?_, pairwise_cons.mpr ⟨?_, ?_⟩⟩
  · -- the DTV ends below every block and below the thread pointer
    simp only [forall_mem_cons, forall_mem_map, overlap_iff]
    refine ⟨by omega, ?_⟩
    intro p hp
    have hb := hs.bounded p hp
    rw [(blockAddress_eq hs htd hlt hp).2]
    omega
  · simp only [forall_mem_map, overlap_iff]
    intro p hp
    have hb := hs.bounded p hp
    rw [(blockAddress_eq hs htd hlt hp).2]
    omega
  · rw [pairwise_map]
    apply hs.ordered.imp_of_mem
    intro p q hp hq hpq
    rw [overlap_iff, (blockAddress_eq hs htd hlt hp).2, (blockAddress_eq hs htd hlt hq).2]
    have := (blockAddress_eq hs htd hlt hq).1
    omega

theorem block_congruent (hp : p ∈ s.modules) : blockAddress td p % p.align = p.image % p.align := by
  obtain ⟨hle, haddr⟩ := blockAddress_eq hs htd hlt hp
  have hcong := hs.congruent p hp
  have htdvd : p.align ∣ td := (hs.divides p hp).trans htd.aligned
  rw [haddr]
  have hsum : (td - p.offset + (p.offset + p.image)) % p.align = (td + p.image) % p.align := by
    congr 1
    omega
  rw [add_mod, mod_eq_zero_of_dvd hcong, add_zero, mod_mod, add_mod,
    mod_eq_zero_of_dvd htdvd, zero_add, mod_mod] at hsum
  exact hsum

end

/-- The entries of the DTV that the loop has written stay, and each one is the address of its
module, when all blocks lie above the DTV. -/
theorem copyModules_dtv (ps : List TlsModule) :
    ∀ (i : ℕ) (m : Mem UInt8), (∀ p ∈ ps, dtv + 8 * (i + ps.length) ≤ blockAddress td p) →
      (∀ k < i, loadWord (copyModules dtv td i ps m) (dtv + 8 * k) = loadWord m (dtv + 8 * k)) ∧
        ∀ j (hj : j < ps.length), loadWord (copyModules dtv td i ps m) (dtv + 8 * (i + j)) =
          BitVec.ofNat 64 (blockAddress td ps[j]) := by
  induction ps with
  | nil =>
    intro i m _
    exact ⟨fun k _ => rfl, fun j hj => absurd hj (not_lt_zero j)⟩
  | cons p ps ih =>
    intro i m hblocks
    have hp := hblocks p (mem_cons_self ..)
    rw [length_cons] at hp
    have hrest : ∀ q ∈ ps, dtv + 8 * (i + 1 + ps.length) ≤ blockAddress td q := by
      intro q hq
      have := hblocks q (mem_cons_of_mem p hq)
      rw [length_cons] at this
      omega
    obtain ⟨hkeep, hnew⟩ := ih (i + 1)
      (copy (storeWord m (dtv + 8 * i) (BitVec.ofNat 64 (blockAddress td p)))
        (blockAddress td p) p.image p.len) hrest
    have hcopy : ∀ k ≤ i, loadWord (copyModules dtv td i (p :: ps) m) (dtv + 8 * k) =
        loadWord (storeWord m (dtv + 8 * i) (BitVec.ofNat 64 (blockAddress td p)))
          (dtv + 8 * k) := by
      intro k hk
      exact (hkeep k (by omega)).trans (loadWord_copy_outside (by omega))
    refine ⟨?_, ?_⟩
    · intro k hk
      rw [hcopy k hk.le]
      exact loadWord_storeWord_apart _ (by unfold Apart; omega)
    · intro j hj
      cases j with
      | zero =>
        rw [add_zero, hcopy i le_rfl]
        exact loadWord_storeWord _
      | succ j =>
        have hj' : j < ps.length := by simpa using hj
        have := hnew j hj'
        rwa [show i + 1 + j = i + (j + 1) by omega] at this

theorem load_modules (app : TlsImage) (libs : List TlsImage) :
    (load app libs).modules.map TlsModule.toTlsImage =
      (if app.size = 0 then [] else [app]) ++ libs.filter fun p => p.image ≠ 0 := by
  induction libs using reverseRecOn with
  | nil =>
    simp only [load, dls3]
    split_ifs <;> rfl
  | append_singleton libs p ih =>
    have hstep : load app (libs ++ [p]) = load_library (load app libs) p := by
      simp [load]
    rw [hstep, load_library]
    by_cases hp : p.image = 0 <;> simp [hp, ih]

theorem copy_tls_dtv (hs : Offsets s) (htd : ThreadPointer s mem (threadPointer s mem))
    (hlt : threadPointer s mem < 2 ^ 64) (m : Mem UInt8) :
    loadWord (copy_tls s mem m).2 mem = BitVec.ofNat 64 s.tls_cnt ∧
      ∀ i (hi : i < s.modules.length), loadWord (copy_tls s mem m).2 (mem + 8 * (i + 1)) =
        BitVec.ofNat 64 (threadPointer s mem - s.modules[i].offset) := by
  have habove := htd.above
  rw [hs.count] at habove
  have hself : ∀ k ≤ s.modules.length, Apart (threadPointer s mem + 8) (mem + 8 * k) := by
    intro k hk
    unfold Apart
    omega
  have hblocks : ∀ p ∈ s.modules,
      mem + 8 * (1 + s.modules.length) ≤ blockAddress (threadPointer s mem) p := by
    intro p hp
    have hb := hs.bounded p hp
    rw [(blockAddress_eq hs htd hlt hp).2]
    omega
  obtain ⟨-, hdtv⟩ := copyModules_dtv s.modules 1 m hblocks
  constructor
  · exact (loadWord_storeWord_apart _ (hself 0 (zero_le _))).trans (loadWord_storeWord _)
  · intro i hi
    have happ : Apart mem (mem + 8 * (i + 1)) := by
      unfold Apart
      omega
    rw [copy_tls, loadWord_storeWord_apart _ (hself (i + 1) hi), loadWord_storeWord_apart _ happ,
      add_comm i 1, hdtv i hi, (blockAddress_eq hs htd hlt (getElem_mem hi)).2]

/-- The static TLS of any program and libraries, in any area of the computed size. -/
theorem static_tls_layout {app : TlsImage} {libs : List TlsImage} {mem : ℕ}
    (happ : app.size ≠ 0 → app.WellFormed) (hlibs : ∀ p ∈ libs, p.image ≠ 0 → p.WellFormed)
    (hwrap : NoWrap app libs)
    (harea : mem + update_tls_size (load app libs) ≤ 2 ^ 64) (m : Mem UInt8) :
    let s := load app libs
    let td := (copy_tls s mem m).1
    let m' := (copy_tls s mem m).2
    (∀ r ∈ regions s mem td, mem ≤ r.1 ∧ r.1 + r.2 ≤ mem + update_tls_size s) ∧
      ((regions s mem td).Pairwise fun r r' => ¬ Overlap r.1 r.2 r'.1 r'.2) ∧
      s.tls_align ∣ td ∧
      (∀ p ∈ s.modules, p.offset ≤ td ∧ blockAddress td p = td - p.offset ∧
        blockAddress td p % p.align = p.image % p.align) ∧
      s.modules.map TlsModule.toTlsImage =
        (if app.size = 0 then [] else [app]) ++ libs.filter (fun p => p.image ≠ 0) ∧
      (loadWord m' mem).toNat = s.modules.length ∧
      ∀ i (hi : i < s.modules.length),
        (loadWord m' (mem + 8 * (i + 1))).toNat = td - s.modules[i].offset := by
  intro s td m'
  have hs : Offsets s := offsets_load happ hlibs hwrap.program hwrap.library
  have htd : ThreadPointer s mem td := threadPointer_spec hs hwrap.total harea
  have hbelow := htd.below
  have habove := htd.above
  have hlt : td < 2 ^ 64 := by
    have hend : mem + update_tls_size s ≤ 2 ^ 64 := harea
    simp only [sizeofPthread] at hbelow
    omega
  obtain ⟨hcount, hentry⟩ := copy_tls_dtv hs htd hlt m
  refine ⟨regions_inside hs htd hlt, regions_disjoint hs htd hlt, htd.aligned, ?_,
    load_modules app libs, ?_, ?_⟩
  · intro p hp
    obtain ⟨hle, haddr⟩ := blockAddress_eq hs htd hlt hp
    exact ⟨hle, haddr, block_congruent hs htd hlt hp⟩
  · have hcnt : s.tls_cnt < 2 ^ 64 := by omega
    rw [hcount, BitVec.toNat_ofNat, mod_eq_of_lt hcnt, hs.count]
  · intro i hi
    have haddr : td - s.modules[i].offset < 2 ^ 64 := by omega
    rw [hentry i hi, BitVec.toNat_ofNat]
    exact mod_eq_of_lt haddr

def smallApp : TlsImage := ⟨0x1004, 12, 20, 16⟩

def smallLib : TlsImage := ⟨0x5040, 100, 100, 64⟩

theorem smallApp_wellFormed : smallApp.WellFormed := ⟨⟨4, by decide, by decide⟩, by decide⟩

theorem smallLibs_wellFormed : ∀ p ∈ [smallLib], p.image ≠ 0 → p.WellFormed := by
  intro p hp _
  obtain rfl := mem_singleton.mp hp
  exact ⟨⟨6, by decide, by decide⟩, by decide⟩

theorem small_noWrap : NoWrap smallApp [smallLib] where
  program := fun _ => by decide +kernel
  library := by
    intro pre p post hsplit _
    cases pre with
    | nil =>
      obtain ⟨rfl, -⟩ := cons.inj hsplit
      decide +kernel
    | cons q pre => simp at hsplit
  total := by decide +kernel

theorem static_tls_layout_small :
    (smallApp.WellFormed ∧ (∀ p ∈ [smallLib], p.image ≠ 0 → p.WellFormed) ∧
      NoWrap smallApp [smallLib] ∧
      0x7000 + update_tls_size (load smallApp [smallLib]) ≤ 2 ^ 64) ∧
      (load smallApp [smallLib]).tls_align ∣
        (copy_tls (load smallApp [smallLib]) 0x7000 fun _ => 0).1 := by
  have harea : 0x7000 + update_tls_size (load smallApp [smallLib]) ≤ 2 ^ 64 := by decide +kernel
  have hlayout := static_tls_layout (fun _ => smallApp_wellFormed) smallLibs_wellFormed
    small_noWrap harea
    fun _ => 0
  exact ⟨⟨smallApp_wellFormed, smallLibs_wellFormed, small_noWrap, harea⟩, hlayout.2.2.1⟩

end StaticTls
