import GcompatMusl.RegisterMachine
import GcompatMusl.Interleaving

/-! # User contexts on x86_64

`getcontext`, `setcontext` and `swapcontext` as straight-line code, and what a context finds in its
registers when control comes back to it. -/
namespace ContextSwitch

open FlatMemory WordMemory RegisterMachine Interleaving Function List

inductive Reg where
  | r8 | r9 | r10 | r11 | r12 | r13 | r14 | r15 | rdi | rsi | rbp | rbx | rdx | rax | rcx | rsp
  deriving DecidableEq

/-- The numbers `REG_R8`, ..., `REG_RSP` of the general registers in a context. -/
def Reg.index : Reg → ℕ
  | .r8 => 0
  | .r9 => 1
  | .r10 => 2
  | .r11 => 3
  | .r12 => 4
  | .r13 => 5
  | .r14 => 6
  | .r15 => 7
  | .rdi => 8
  | .rsi => 9
  | .rbp => 10
  | .rbx => 11
  | .rdx => 12
  | .rax => 13
  | .rcx => 14
  | .rsp => 15

def REG_RSP : ℕ := Reg.rsp.index

def REG_RIP : ℕ := 16

def MCONTEXT_GREGS : ℕ := 40

def REG_SZ : ℕ := 8

def REG_OFFSET (reg : ℕ) : ℕ := MCONTEXT_GREGS + reg * REG_SZ

def savedRegs : List Reg :=
  [.r8, .r9, .r10, .r11, .r12, .r13, .r14, .r15, .rdi, .rsi, .rbp, .rbx, .rdx, .rax, .rcx]

def saveCode : List (Instr Reg) :=
  savedRegs.map (fun r => .store r (REG_OFFSET r.index) .rdi) ++
    [.load 0 .rsp .rcx,
      .store .rcx (REG_OFFSET REG_RIP) .rdi,
      .lea 8 .rsp .rcx,
      .store .rcx (REG_OFFSET REG_RSP) .rdi]

def restoredRegs (other : Reg) : List Reg :=
  [.r8, .r9, .r10, .r11, .r12, .r13, .r14, .r15, other, .rbp, .rbx, .rdx, .rax, .rcx, .rsp]

/-- All of `setcontext` and the second part of `swapcontext` -/
def restoreCode (ucp other : Reg) : List (Instr Reg) :=
  (restoredRegs other).map (fun r => .load (REG_OFFSET r.index) ucp r) ++
    [.push (REG_OFFSET REG_RIP) ucp,
      .load (REG_OFFSET ucp.index) ucp ucp,
      .zero .rax,
      .ret]

def getcontext : List (Instr Reg) := saveCode ++ [.zero .rax, .ret]

def setcontext : List (Instr Reg) := restoreCode .rdi .rsi

def swapcontext : List (Instr Reg) := saveCode ++ restoreCode .rsi .rdi

def call (ret : BitVec 64) (code : List (Instr Reg)) (m : Machine Reg) : Machine Reg :=
  run .rsp code (m.pushWord .rsp ret)

def usedSize : ℕ := REG_OFFSET (REG_RIP + 1)

def field (c : BitVec 64) (i : ℕ) : ℕ := c.toNat + REG_OFFSET i

variable {i b : ℕ} {rsp : BitVec 64} {mem : Mem UInt8}

theorem field_apart (h : i ≠ j) : Apart (field c i) (field c j) := by
  unfold Apart field REG_OFFSET REG_SZ
  omega

variable {c : BitVec 64} {m : Machine Reg}

theorem toNat_field (hfit : c.toNat + usedSize ≤ 2 ^ 64) (hi : i ≤ REG_RIP) :
    (c + BitVec.ofNat 64 (REG_OFFSET i)).toNat = field c i := by
  unfold usedSize REG_OFFSET MCONTEXT_GREGS REG_SZ REG_RIP at *
  simp only [field, REG_OFFSET, MCONTEXT_GREGS, REG_SZ, BitVec.toNat_add, BitVec.toNat_ofNat]
  omega

theorem index_lt (r : Reg) : r.index < REG_RIP := by
  cases r <;> decide

theorem addr_eq (hbase : m.reg base = c) (hfit : c.toNat + usedSize ≤ 2 ^ 64) (r : Reg) :
    m.addr (REG_OFFSET r.index) base = field c r.index := by
  rw [Machine.addr, hbase, toNat_field hfit (index_lt r).le]

def Clear (c : BitVec 64) (a : ℕ) : Prop := a + 8 ≤ c.toNat ∨ c.toNat + usedSize ≤ a

theorem Clear.apart (h : Clear c a) (hi : i ≤ REG_RIP) : Apart a (field c i) := by
  unfold Clear usedSize at h
  unfold Apart field
  unfold REG_OFFSET MCONTEXT_GREGS REG_SZ REG_RIP at *
  omega

theorem field_inside (hi : i ≤ REG_RIP) (h : ¬ InRange b c.toNat usedSize) :
    ¬ InRange b (field c i) 8 := by
  unfold InRange usedSize field at *
  unfold REG_OFFSET MCONTEXT_GREGS REG_SZ REG_RIP at *
  omega

/-- The context at `c` holds the registers `reg`, the instruction `ret` to go on with and the stack
pointer `rsp`. -/
structure Saved (c ret rsp : BitVec 64) (reg : Reg → BitVec 64) (mem : Mem UInt8) : Prop where
  regs : ∀ r ∈ savedRegs, loadWord mem (field c r.index) = reg r
  rip : loadWord mem (field c REG_RIP) = ret
  rsp : loadWord mem (field c REG_RSP) = rsp

def savedMem (c : BitVec 64) (m : Machine Reg) : Mem UInt8 :=
  storeWord
    (storeWord (storeAll (fun r => field c r.index) m.reg savedRegs m.mem) (field c REG_RIP)
      (loadWord m.mem (m.reg .rsp).toNat))
    (field c REG_RSP) (m.reg .rsp + 8)

theorem savedRegs_apart (c : BitVec 64) :
    savedRegs.Pairwise fun r q => Apart (field c r.index) (field c q.index) := by
  have hne : savedRegs.Pairwise fun r q => r.index ≠ q.index := by decide
  exact hne.imp fun h => field_apart h

theorem run_saveCode (hdi : m.reg .rdi = c) (hfit : c.toNat + usedSize ≤ 2 ^ 64)
    (hclear : Clear c (m.reg .rsp).toNat) :
    run .rsp saveCode m =
      { m with reg := update m.reg .rcx (m.reg .rsp + 8), mem := savedMem c m } := by
  have hstores : storeAll (fun r => m.addr (REG_OFFSET r.index) .rdi) m.reg savedRegs m.mem =
      storeAll (fun r => field c r.index) m.reg savedRegs m.mem := by
    congr 1
    funext r
    exact addr_eq hdi hfit r
  -- the return address is read after the registers were stored, from a word they do not touch
  have hret : loadWord (storeAll (fun r => field c r.index) m.reg savedRegs m.mem)
      (m.reg .rsp).toNat = loadWord m.mem (m.reg .rsp).toNat := by
    apply loadWord_storeAll_apart
    intro r _
    exact (hclear.apart (index_lt r).le).symm
  rw [saveCode, run_append, run_stores, hstores]
  simp only [run, foldl_cons, foldl_nil, exec, Machine.set, Machine.addr,
    update_self, ne_eq, reduceCtorEq, not_false_eq_true, update_of_ne, hdi, BitVec.add_zero,
    update_idem, hret,
    toNat_field hfit (Nat.le_refl REG_RIP), toNat_field hfit (show REG_RSP ≤ REG_RIP by decide)]
  rfl

theorem saved_savedMem (c : BitVec 64) (m : Machine Reg) :
    Saved c (loadWord m.mem (m.reg .rsp).toNat) (m.reg .rsp + 8) m.reg (savedMem c m) := by
  have hne : ∀ r ∈ savedRegs, REG_RSP ≠ r.index := by decide
  constructor
  · intro r hr
    rw [savedMem, loadWord_storeWord_apart _ (field_apart (hne r hr)),
      loadWord_storeWord_apart _ (field_apart (Nat.ne_of_gt (index_lt r)))]
    exact loadWord_storeAll (savedRegs_apart c) m.mem r hr
  · rw [savedMem, loadWord_storeWord_apart _ (field_apart (by decide)), loadWord_storeWord]
  · rw [savedMem, loadWord_storeWord]

theorem savedMem_outside (h : ¬ InRange b c.toNat usedSize) : savedMem c m b = m.mem b := by
  rw [savedMem, storeWord_outside _ (field_inside (by decide) h),
    storeWord_outside _ (field_inside (Nat.le_refl _) h)]
  apply storeAll_outside
  intro r _
  exact field_inside (index_lt r).le h

structure Restored (c : BitVec 64) (mem : Mem UInt8) (m' : Machine Reg) : Prop where
  rip : m'.rip = loadWord mem (field c REG_RIP)
  rsp : m'.reg .rsp = loadWord mem (field c REG_RSP)
  regs : ∀ r ∈ savedRegs, r ≠ .rax → m'.reg r = loadWord mem (field c r.index)
  rax : m'.reg .rax = 0
  frame : ∀ b, ¬ InRange b (loadWord mem (field c REG_RSP) - 8).toNat 8 → m'.mem b = mem b

def loadedRegs (c : BitVec 64) (other : Reg) (m : Machine Reg) (r : Reg) : BitVec 64 :=
  if r ∈ restoredRegs other then loadWord m.mem (field c r.index) else m.reg r

section Restore

def Roles (ucp other : Reg) : Prop := ucp = .rsi ∧ other = .rdi ∨ ucp = .rdi ∧ other = .rsi

variable (h : Roles ucp other)
include h

theorem Roles.not_mem : ucp ∉ restoredRegs other := by
  rcases h with ⟨rfl, rfl⟩ | ⟨rfl, rfl⟩ <;> decide

theorem Roles.ne_rsp : ucp ≠ .rsp := by
  rcases h with ⟨rfl, rfl⟩ | ⟨rfl, rfl⟩ <;> decide

theorem Roles.covers : ∀ r ∈ savedRegs, r = ucp ∨ r ∈ restoredRegs other := by
  rcases h with ⟨rfl, rfl⟩ | ⟨rfl, rfl⟩ <;> decide

theorem run_loadRegs (hucp : m.reg ucp = c) (hfit : c.toNat + usedSize ≤ 2 ^ 64) :
    run .rsp ((restoredRegs other).map fun r => .load (REG_OFFSET r.index) ucp r) m =
      { m with reg := loadedRegs c other m } := by
  have hregs : (fun r => if r ∈ restoredRegs other
      then loadWord m.mem (m.addr (REG_OFFSET r.index) ucp) else m.reg r) =
        loadedRegs c other m := by
    funext r
    rw [loadedRegs, addr_eq hucp hfit r]
  rw [run_loads _ _ (fun r => REG_OFFSET r.index) _ m h.not_mem, hregs]

theorem run_restoreCode (hucp : m.reg ucp = c) (hfit : c.toNat + usedSize ≤ 2 ^ 64)
    (hclear : Clear c (loadWord m.mem (field c REG_RSP) - 8).toNat) :
    Restored c m.mem (run .rsp (restoreCode ucp other) m) := by
  have hrsp := h.ne_rsp
  have hbase : loadedRegs c other m ucp = c := by rw [loadedRegs, if_neg h.not_mem, hucp]
  have htop : loadedRegs c other m .rsp = loadWord m.mem (field c REG_RSP) :=
    if_pos (by simp [restoredRegs])
  -- the word that is pushed lies outside of the context, from which one register is still loaded
  have hlast : loadWord (storeWord m.mem (loadWord m.mem (field c REG_RSP) - 8).toNat
      (loadWord m.mem (field c REG_RIP))) (field c ucp.index) =
        loadWord m.mem (field c ucp.index) :=
    loadWord_storeWord_apart _ (hclear.apart (index_lt ucp).le)
  rw [restoreCode, run_append, run_loadRegs h hucp hfit]
  simp only [run, foldl_cons, foldl_nil, exec, Machine.set, Machine.addr,
    Machine.pushWord, hbase, htop, ne_eq, hrsp, not_false_eq_true, update_of_ne,
    toNat_field hfit (Nat.le_refl REG_RIP), toNat_field hfit (index_lt ucp).le, hlast,
    Ne.symm hrsp, reduceCtorEq]
  refine ⟨loadWord_storeWord _, ?_, ?_, ?_, ?_⟩
  · simp only [update_self, BitVec.sub_add_cancel]
  · intro r hr hra
    dsimp only
    have hrs : r ≠ .rsp := by
      rintro rfl
      exact absurd hr (by decide)
    rw [update_of_ne hrs, update_of_ne hra]
    rcases h.covers r hr with rfl | hin
    · rw [update_self]
    · have hru : r ≠ ucp := by
        rintro rfl
        exact h.not_mem hin
      rw [update_of_ne hru, update_of_ne hrs, loadedRegs, if_pos hin]
  · dsimp only
    rw [update_of_ne (by decide), update_self]
  · intro b hb
    dsimp only
    rw [storeWord_outside _ hb]

end Restore

structure Layout (K : Type*) where
  ctx : K → BitVec 64
  size : ℕ
  stack : ℕ → Prop
  used : usedSize ≤ size
  fits : ∀ k, (ctx k).toNat + size ≤ 2 ^ 64
  apart : ∀ j k, j ≠ k → (ctx j).toNat + size ≤ (ctx k).toNat ∨ (ctx k).toNat + size ≤ (ctx j).toNat
  off_stack : ∀ k b, stack b → ¬ InRange b (ctx k).toNat size

structure Call where
  ret : BitVec 64
  reg : Reg → BitVec 64

structure State (K : Type*) where
  m : Machine Reg
  last : K → Option Call

variable {K : Type*} (L : Layout K)

def Layout.OnStack (rsp : BitVec 64) : Prop := ∀ b, InRange b (rsp - 8).toNat 8 → L.stack b

def Layout.Ready (last : K → Option Call) (mem : Mem UInt8) (k : K) : Prop :=
  last k = none → L.OnStack (loadWord mem (field (L.ctx k) REG_RSP))

inductive Event (K : Type*) where
  | code
  | getcontext (k : K)
  | swapcontext (j k : K)
  | setcontext (k : K)

def Event.resumes : Event K → K → Prop
  | .swapcontext _ k', k => k' = k
  | .setcontext k', k => k' = k
  | _, _ => False

inductive Step [DecidableEq K] : State K → Event K → State K → Prop where
  | code {s : State K} (m : Machine Reg) :
      (∀ k b, InRange b (L.ctx k).toNat L.size → m.mem b = s.m.mem b) →
      Step s .code ⟨m, s.last⟩
  | getcontext {s : State K} {k : K} (ret : BitVec 64) :
      s.m.reg .rdi = L.ctx k → L.OnStack (s.m.reg .rsp) →
      Step s (.getcontext k)
        ⟨call ret getcontext s.m, update s.last k (some ⟨ret, s.m.reg⟩)⟩
  | swapcontext {s : State K} {j k : K} (ret : BitVec 64) :
      s.m.reg .rdi = L.ctx j → s.m.reg .rsi = L.ctx k → L.OnStack (s.m.reg .rsp) →
      L.Ready (update s.last j (some ⟨ret, s.m.reg⟩)) s.m.mem k →
      Step s (.swapcontext j k)
        ⟨call ret swapcontext s.m, update s.last j (some ⟨ret, s.m.reg⟩)⟩
  | setcontext {s : State K} {k : K} (ret : BitVec 64) :
      s.m.reg .rdi = L.ctx k → L.OnStack (s.m.reg .rsp) → L.Ready s.last s.m.mem k →
      Step s (.setcontext k) ⟨call ret setcontext s.m, s.last⟩

def Initial (s : State K) : Prop := ∀ k, s.last k = none

structure Resumed (c : Call) (m : Machine Reg) : Prop where
  rip : m.rip = c.ret
  rsp : m.reg .rsp = c.reg .rsp
  callee : ∀ r ∈ [Reg.rbx, .rbp, .r12, .r13, .r14, .r15], m.reg r = c.reg r
  rax : m.reg .rax = 0

variable {L}

theorem Layout.OnStack.clear (h : L.OnStack rsp) (k : K) : Clear (L.ctx k) (rsp - 8).toNat := by
  by_contra hmeet
  have hused := L.used
  have hpos : 0 < usedSize := by decide
  unfold Clear at hmeet
  have hb := h (max (rsp - 8).toNat (L.ctx k).toNat) (by unfold InRange; omega)
  refine L.off_stack k _ hb ?_
  unfold InRange
  omega

def Untouched (L : Layout K) (k : K) (mem mem' : Mem UInt8) : Prop :=
  ∀ b, InRange b (L.ctx k).toNat L.size → mem' b = mem b

theorem Untouched.trans (h : Untouched L k mem mem') (h' : Untouched L k mem' mem'') :
    Untouched L k mem mem'' := by
  intro b hb
  rw [h' b hb, h b hb]

theorem Untouched.loadWord_eq (h : Untouched L k mem mem') (hi : i ≤ REG_RIP) :
    loadWord mem' (field (L.ctx k) i) = loadWord mem (field (L.ctx k) i) := by
  have hused := L.used
  apply loadWord_congr
  intro n hn
  apply h
  unfold InRange field
  unfold usedSize at hused
  unfold REG_OFFSET MCONTEXT_GREGS REG_SZ REG_RIP at *
  omega

theorem Saved.of_untouched (h : Untouched L k mem mem') (hs : Saved (L.ctx k) ret rsp reg mem) :
    Saved (L.ctx k) ret rsp reg mem' := by
  constructor
  · intro r hr
    rw [h.loadWord_eq (index_lt r).le]
    exact hs.regs r hr
  · rw [h.loadWord_eq (Nat.le_refl _)]
    exact hs.rip
  · rw [h.loadWord_eq (by decide)]
    exact hs.rsp

theorem untouched_of_frame (hstack : L.OnStack rsp)
    (h : ∀ b, ¬ InRange b (rsp - 8).toNat 8 → mem' b = mem b) (k : K) :
    Untouched L k mem mem' := by
  intro b hb
  apply h
  intro hslot
  exact L.off_stack k b (hstack b hslot) hb

variable {m : Machine Reg}

theorem untouched_push (hstack : L.OnStack (m.reg .rsp)) (ret : BitVec 64)
    (k : K) : Untouched L k m.mem (m.pushWord .rsp ret).mem :=
  untouched_of_frame hstack (fun _ hb => storeWord_outside _ hb) k

theorem untouched_save (h : j ≠ k) :
    Untouched L k m.mem (savedMem (L.ctx j) m) := by
  intro b hb
  apply savedMem_outside
  have hused := L.used
  have hapart := L.apart j k h
  unfold InRange at *
  omega

structure Holds (L : Layout K) (last : K → Option Call) (mem : Mem UInt8) : Prop where
  saved : ∀ k c, last k = some c → Saved (L.ctx k) c.ret (c.reg .rsp) c.reg mem
  slot : ∀ k c, last k = some c → L.OnStack (c.reg .rsp)

theorem Holds.of_untouched (h : Holds L last mem) (hmem : ∀ k, Untouched L k mem mem') :
    Holds L last mem' where
  saved := fun k c hc => (h.saved k c hc).of_untouched (hmem k)
  slot := h.slot

theorem fits_used (L : Layout K) (k : K) : (L.ctx k).toNat + usedSize ≤ 2 ^ 64 :=
  Nat.le_trans (Nat.add_le_add_left L.used _) (L.fits k)

theorem Holds.target_slot (h : Holds L last mem) (hready : L.Ready last mem k) :
    L.OnStack (loadWord mem (field (L.ctx k) REG_RSP)) := by
  cases hk : last k with
  | none => exact hready hk
  | some c =>
    rw [(h.saved k c hk).rsp]
    exact h.slot k c hk

theorem Holds.restore {ucp other : Reg} (h : Holds L last m.mem)
    (hroles : Roles ucp other) (hucp : m.reg ucp = L.ctx k) (hready : L.Ready last m.mem k) :
    Holds L last (run .rsp (restoreCode ucp other) m).mem ∧
      ∀ c, last k = some c → Resumed c (run .rsp (restoreCode ucp other) m) := by
  have hslot := h.target_slot hready
  have hrest := run_restoreCode hroles hucp (fits_used L k) (hslot.clear k)
  refine ⟨h.of_untouched (untouched_of_frame hslot hrest.frame), ?_⟩
  intro c hc
  have hsaved := h.saved k c hc
  have hcallee : ∀ r ∈ [Reg.rbx, .rbp, .r12, .r13, .r14, .r15], r ∈ savedRegs ∧ r ≠ .rax := by
    decide
  refine ⟨?_, ?_, ?_, hrest.rax⟩
  · rw [hrest.rip, hsaved.rip]
  · rw [hrest.rsp, hsaved.rsp]
  · intro r hr
    obtain ⟨hin, hne⟩ := hcallee r hr
    rw [hrest.regs r hin hne, hsaved.regs r hin]

def stored (ret : BitVec 64) (m : Machine Reg) : Machine Reg :=
  run .rsp saveCode (m.pushWord .rsp ret)

theorem stored_eq (hdi : m.reg .rdi = L.ctx j) (hstack : L.OnStack (m.reg .rsp))
    (ret : BitVec 64) :
    stored ret m =
      { m.pushWord .rsp ret with
        reg := update (m.pushWord .rsp ret).reg .rcx (m.reg .rsp)
        mem := savedMem (L.ctx j) (m.pushWord .rsp ret) } := by
  have hrsp : (m.pushWord .rsp ret).reg .rsp = m.reg .rsp - 8 := by simp [Machine.pushWord]
  have hclear : Clear (L.ctx j) ((m.pushWord .rsp ret).reg .rsp).toNat := by
    exact hstack.clear j
  have hbase : (m.pushWord .rsp ret).reg .rdi = L.ctx j := by simp [Machine.pushWord, hdi]
  rw [stored, run_saveCode hbase (fits_used L j) hclear, hrsp, BitVec.sub_add_cancel]

theorem saved_stored (c : BitVec 64) (m : Machine Reg) (ret : BitVec 64) :
    Saved c ret (m.reg .rsp) m.reg (savedMem c (m.pushWord .rsp ret)) := by
  have h := saved_savedMem c (m.pushWord .rsp ret)
  constructor
  · intro r hr
    have hrs : r ≠ .rsp := by
      rintro rfl
      exact absurd hr (by decide)
    rw [h.regs r hr]
    simp [Machine.pushWord, hrs]
  · rw [h.rip]
    simp [Machine.pushWord]
  · rw [h.rsp]
    simp [Machine.pushWord]

section Steps

variable [DecidableEq K]

theorem Holds.store (h : Holds L last m.mem) (hdi : m.reg .rdi = L.ctx j)
    (hstack : L.OnStack (m.reg .rsp)) (ret : BitVec 64) :
    Holds L (update last j (some ⟨ret, m.reg⟩)) (stored ret m).mem := by
  have hboth : ∀ k c, update last j (some ⟨ret, m.reg⟩) k = some c →
      Saved (L.ctx k) c.ret (c.reg .rsp) c.reg (stored ret m).mem ∧ L.OnStack (c.reg .rsp) := by
    intro k c hc
    rw [stored_eq hdi hstack]
    by_cases hk : k = j
    · subst hk
      rw [update_self] at hc
      cases hc
      exact ⟨saved_stored _ m ret, hstack⟩
    · rw [update_of_ne hk] at hc
      exact ⟨(h.saved k c hc).of_untouched
        ((untouched_push hstack ret k).trans (untouched_save (Ne.symm hk))), h.slot k c hc⟩
  exact ⟨fun k c hc => (hboth k c hc).1, fun k c hc => (hboth k c hc).2⟩

theorem ready_stored (hdi : m.reg .rdi = L.ctx j)
    (hstack : L.OnStack (m.reg .rsp))
    (hready : L.Ready (update last j (some ⟨ret, m.reg⟩)) m.mem k) :
    L.Ready (update last j (some ⟨ret, m.reg⟩)) (stored ret m).mem k := by
  intro hnone
  have hk : k ≠ j := by
    rintro rfl
    rw [update_self] at hnone
    cases hnone
  have hsame := ((untouched_push hstack ret k).trans
    (untouched_save (Ne.symm hk))).loadWord_eq (i := REG_RSP) (by decide)
  rw [stored_eq hdi hstack]
  rw [hsame]
  exact hready hnone

theorem step_spec (h : Holds L s.last s.m.mem) (hstep : Step L s ev t) :
    Holds L t.last t.m.mem ∧ ∀ k c, ev.resumes k → t.last k = some c → Resumed c t.m := by
  cases hstep with
  | code m hmem => exact ⟨h.of_untouched hmem, fun k c hk => hk.elim⟩
  | getcontext ret hdi hstack =>
    refine ⟨?_, fun k c hk => hk.elim⟩
    exact h.store hdi hstack ret
  | @swapcontext j k ret hdi hsi hstack hready =>
    have hbase : (stored ret s.m).reg .rsi = L.ctx k := by
      rw [stored_eq hdi hstack]
      simp [Machine.pushWord, hsi]
    obtain ⟨hholds, hresumed⟩ := (h.store hdi hstack ret).restore (Or.inl ⟨rfl, rfl⟩) hbase
      (ready_stored hdi hstack hready)
    refine ⟨hholds, ?_⟩
    rintro k' c rfl hc
    exact hresumed c hc
  | @setcontext k ret hdi hstack hready =>
    have hpush := h.of_untouched (untouched_push hstack ret)
    have hbase : (s.m.pushWord .rsp ret).reg .rdi = L.ctx k := by simp [Machine.pushWord, hdi]
    have hready' : L.Ready s.last (s.m.pushWord .rsp ret).mem k := by
      intro hnone
      rw [(untouched_push hstack ret k).loadWord_eq (by decide)]
      exact hready hnone
    obtain ⟨hholds, hresumed⟩ := hpush.restore (Or.inr ⟨rfl, rfl⟩) hbase hready'
    refine ⟨hholds, ?_⟩
    rintro k' c rfl hc
    exact hresumed c hc

theorem reachable_holds (h : Reachable Initial (fun s t => ∃ ev, Step L s ev t) s) :
    Holds L s.last s.m.mem := by
  refine h.invariant (I := fun s : State K => Holds L s.last s.m.mem) ?_ ?_
  · intro s hs
    have hnone : ∀ k c, s.last k ≠ some c := by
      intro k c
      rw [hs k]
      nofun
    exact ⟨fun k c hc => absurd hc (hnone k c), fun k c hc => absurd hc (hnone k c)⟩
  · rintro s t hs ⟨ev, hstep⟩
    exact (step_spec hs hstep).1

/-- Control comes back behind the call that stored the context, with the stack pointer and the
callee-saved registers of that call and 0 as its result. -/
theorem resumes_behind_own_call {s t : State K} {ev : Event K} {k : K} {c : Call}
    (h : Reachable Initial (fun s t => ∃ ev, Step L s ev t) s) (hstep : Step L s ev t)
    (hresumes : ev.resumes k) (hlast : t.last k = some c) : Resumed c t.m :=
  (step_spec (reachable_holds h) hstep).2 k c hresumes hlast

end Steps

def pair : Layout Bool where
  ctx k := if k then 0x2000 else 0x1000
  size := 0x400
  stack b := 0x8000 ≤ b ∧ b < 0x9000
  used := by decide
  fits := by decide
  apart := by decide
  off_stack := by
    rintro k b ⟨hlo, _⟩ hb
    unfold InRange at hb
    cases k
    · change 0x1000 ≤ b ∧ b < 0x1000 + 0x400 at hb
      omega
    · change 0x2000 ≤ b ∧ b < 0x2000 + 0x400 at hb
      omega

def pairRegs : Reg → BitVec 64
  | .rdi => 0x1000
  | .rsi => 0x2000
  | .rsp => 0x8800
  | .rbx => 7
  | _ => 0

def pairMem : Mem UInt8 := fun b => if b = field 0x2000 REG_RSP + 1 then 0x84 else 0

def pairStart : State Bool := ⟨⟨pairRegs, 0x400000, pairMem⟩, fun _ => none⟩

def pairBack : State Bool :=
  ⟨{ call 0x400005 swapcontext pairStart.m with reg := pairRegs },
    update pairStart.last false (some ⟨0x400005, pairRegs⟩)⟩

theorem pair_onStack : pair.OnStack 0x8800 := by
  intro b hb
  change 0x87f8 ≤ b ∧ b < 0x87f8 + 8 at hb
  change 0x8000 ≤ b ∧ b < 0x9000
  omega

theorem pairBack_reachable :
    Reachable Initial (fun s t => ∃ ev, Step pair s ev t) pairBack := by
  have hready : pair.Ready (update pairStart.last false (some ⟨0x400005, pairRegs⟩))
      pairStart.m.mem true := by
    intro _ b hb
    have hrsp : loadWord pairMem (field 0x2000 REG_RSP) = 0x8400 := by decide +kernel
    change InRange b (loadWord pairMem (field 0x2000 REG_RSP) - 8).toNat 8 at hb
    change 0x83f8 ≤ b ∧ b < 0x83f8 + 8 at hb
    change 0x8000 ≤ b ∧ b < 0x9000
    omega
  have hstart : Reachable Initial (fun s t => ∃ ev, Step pair s ev t) pairStart :=
    .start fun _ => rfl
  have hswap := hstart.next ⟨_, Step.swapcontext 0x400005 rfl rfl
    pair_onStack hready⟩
  exact hswap.next ⟨_, Step.code _ fun _ _ _ => rfl⟩

theorem resumes_behind_own_call_pair :
    Step pair pairBack (.setcontext false) ⟨call 0x500000 setcontext pairBack.m, pairBack.last⟩ ∧
      Resumed ⟨0x400005, pairRegs⟩ (call 0x500000 setcontext pairBack.m) := by
  have hstep : Step pair pairBack (.setcontext false)
      ⟨call 0x500000 setcontext pairBack.m, pairBack.last⟩ :=
    Step.setcontext 0x500000 rfl pair_onStack (by intro hnone; cases hnone)
  exact ⟨hstep, resumes_behind_own_call pairBack_reachable hstep rfl rfl⟩

end ContextSwitch
