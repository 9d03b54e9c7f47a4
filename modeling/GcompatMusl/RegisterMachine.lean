import GcompatMusl.WordMemory

/-! # Straight-line code over registers and memory

Moves between 64-bit registers and words of memory, with a stack pointer for `push` and `ret`. A
run of stores or of loads through one base register has the effect of all of them at once. -/
namespace RegisterMachine

open FlatMemory WordMemory List

variable {R : Type*} [DecidableEq R]

structure Machine (R : Type*) where
  reg : R → BitVec 64
  rip : BitVec 64
  mem : Mem UInt8

inductive Instr (R : Type*) where
  | store (src : R) (off : ℕ) (base : R)
  | load (off : ℕ) (base dst : R)
  | lea (off : ℕ) (base dst : R)
  | push (off : ℕ) (base : R)
  | zero (dst : R)
  | ret

def Machine.addr (m : Machine R) (off : ℕ) (base : R) : ℕ :=
  (m.reg base + BitVec.ofNat 64 off).toNat

def Machine.set (m : Machine R) (r : R) (v : BitVec 64) : Machine R :=
  { m with reg := Function.update m.reg r v }

theorem addr_set_of_ne {m : Machine R} {base r : R} (h : base ≠ r) {v : BitVec 64} {off : ℕ} :
    (m.set r v).addr off base = m.addr off base := by
  simp [Machine.addr, Machine.set, h]

def Machine.pushWord (m : Machine R) (sp : R) (v : BitVec 64) : Machine R :=
  let top := m.reg sp - 8
  { m with reg := Function.update m.reg sp top, mem := storeWord m.mem top.toNat v }

def exec (sp : R) (m : Machine R) : Instr R → Machine R
  | .store src off base => { m with mem := storeWord m.mem (m.addr off base) (m.reg src) }
  | .load off base dst => m.set dst (loadWord m.mem (m.addr off base))
  | .lea off base dst => m.set dst (m.reg base + BitVec.ofNat 64 off)
  | .push off base => m.pushWord sp (loadWord m.mem (m.addr off base))
  | .zero dst => m.set dst 0
  | .ret => { m.set sp (m.reg sp + 8) with rip := loadWord m.mem (m.reg sp).toNat }

def run (sp : R) (code : List (Instr R)) (m : Machine R) : Machine R := code.foldl (exec sp) m

theorem run_append (sp : R) (a b : List (Instr R)) (m : Machine R) :
    run sp (a ++ b) m = run sp b (run sp a m) :=
  foldl_append

def storeAll {ι : Type*} (pos : ι → ℕ) (val : ι → BitVec 64) (l : List ι) (m : Mem UInt8) :
    Mem UInt8 :=
  l.foldl (fun m i => storeWord m (pos i) (val i)) m

section Stores

variable {ι : Type*}

theorem storeAll_outside (h : ∀ i ∈ l, ¬ InRange b (pos i) 8) :
    ∀ m, storeAll pos val l m b = m b :=
  fun m => foldlRecOn (motive := fun m' : Mem UInt8 => m' b = m b) l _ rfl fun _ ih i hi =>
    (storeWord_outside _ (h i hi)).trans ih

theorem loadWord_storeAll_apart (h : ∀ i ∈ l, Apart (pos i) a) :
    ∀ m, loadWord (storeAll pos val l m) a = loadWord m a :=
  fun m => foldlRecOn (motive := (loadWord · a = loadWord m a)) l _ rfl fun _ ih i hi =>
    (loadWord_storeWord_apart _ (h i hi)).trans ih

theorem loadWord_storeAll (h : l.Pairwise fun i j => Apart (pos i) (pos j)) :
    ∀ m, ∀ i ∈ l, loadWord (storeAll pos val l m) (pos i) = val i := by
  induction l with
  | nil => intro m i hi; cases hi
  | cons j l ih =>
    intro m i hi
    obtain ⟨hj, hl⟩ := pairwise_cons.mp h
    rcases mem_cons.mp hi with rfl | hi
    · have hrest : loadWord (storeAll pos val l (storeWord m (pos i) (val i))) (pos i) =
          loadWord (storeWord m (pos i) (val i)) (pos i) :=
        loadWord_storeAll_apart (fun k hk => (hj k hk).symm) _
      exact hrest.trans (loadWord_storeWord _)
    · exact ih hl _ i hi

end Stores

theorem run_stores (sp base : R) (off : R → ℕ) (l : List R) :
    ∀ m : Machine R, run sp (l.map fun r => .store r (off r) base) m =
      { m with mem := storeAll (fun r => m.addr (off r) base) m.reg l m.mem } := by
  induction l with
  | nil => intro m; rfl
  | cons r l ih =>
    intro m
    exact ih { m with mem := storeWord m.mem (m.addr (off r) base) (m.reg r) }

theorem run_loads (sp base : R) (off : R → ℕ) (l : List R) :
    ∀ m : Machine R, base ∉ l → run sp (l.map fun r => .load (off r) base r) m =
      { m with reg := fun r =>
        if r ∈ l then loadWord m.mem (m.addr (off r) base) else m.reg r } := by
  induction l with
  | nil => intro m _; simp [run]
  | cons q l ih =>
    intro m hbase
    obtain ⟨hq, hl⟩ := not_or.mp (mt mem_cons.mpr hbase)
    refine Eq.trans (ih (m.set q (loadWord m.mem (m.addr (off q) base))) hl) ?_
    simp only [addr_set_of_ne hq]
    simp only [Machine.set]
    congr 1
    funext r
    by_cases hr : r ∈ l
    · simp [hr]
    · by_cases hrq : r = q
      · subst hrq
        simp [hr]
      · simp [hrq]

end RegisterMachine
