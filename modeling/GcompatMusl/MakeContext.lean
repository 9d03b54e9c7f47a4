import GcompatMusl.ContextSwitch
import GcompatMusl.MaskAlign

/-! # The first frame of a context

`makecontext` prepares the stack and the registers with which a function starts in a new context. -/
namespace MakeContext

open ContextSwitch MaskAlign List Function

structure Ucontext where
  uc_link : ℕ
  ss_sp : ℕ
  ss_size : ℕ
  gregs : ℕ → ℕ

/-- The saved registers by their numbers, and the words stored on the stack in their order -/
structure Made where
  gregs : ℕ → ℕ
  stores : List (ℕ × ℕ)

def argRegs : List Reg := [.rdi, .rsi, .rdx, .rcx, .r8, .r9]

def storeArg (sp : ℕ) (c : Made) (arg : ℕ × ℕ) : Made :=
  match argRegs[arg.2]? with
  | some r => { c with gregs := update c.gregs r.index arg.1 }
  | none => { c with stores := c.stores ++ [(sp + 8 * (arg.2 - 5), arg.1)] }

def linkIndex (argc : ℕ) : ℕ := (if argc > 6 then argc - 6 else 0) + 1

def stackPointer (u : Ucontext) (argc : ℕ) : ℕ :=
  subWord (subWord (u.ss_sp + u.ss_size) (8 * linkIndex argc) &&& negWord 16) 8

def started (u : Ucontext) (func trampoline argc : ℕ) : Made :=
  let sp := stackPointer u argc
  let link := sp + 8 * linkIndex argc
  ⟨update (update (update u.gregs REG_RIP func) Reg.rbx.index link) REG_RSP sp,
    [(sp, trampoline), (link, u.uc_link)]⟩

def makecontext (u : Ucontext) (func trampoline : ℕ) (args : List ℕ) : Made :=
  args.zipIdx.foldl (storeArg (stackPointer u args.length)) (started u func trampoline args.length)

/-- The stack has room for the words of the frame and for its alignment. -/
structure Fits (u : Ucontext) (argc : ℕ) : Prop where
  top : u.ss_sp + u.ss_size < 2 ^ 64
  room : u.ss_sp + 8 ≤ (u.ss_sp + u.ss_size - 8 * linkIndex argc) / 16 * 16

def InRegs (args : List ℕ) (gregs : ℕ → ℕ) : Prop :=
  ∀ (i : ℕ) (r : Reg) (v : ℕ), args[i]? = some v → argRegs[i]? = some r → gregs r.index = v

structure Passed (sp : ℕ) (c : Made) (args : List ℕ) (d : Made) : Prop where
  regs : InRegs args d.gregs
  others : ∀ n, (∀ r ∈ argRegs, r.index ≠ n) → d.gregs n = c.gregs n
  stores : d.stores = c.stores ++ (args.drop 6).zipIdx.map fun a => (sp + 8 * (a.2 + 1), a.1)

theorem argRegs_inj {i j : ℕ} {r r' : Reg} (hi : argRegs[i]? = some r) (hj : argRegs[j]? = some r')
    (h : r.index = r'.index) : i = j := by
  have hi' : (argRegs.map Reg.index)[i]? = some r.index := by rw [getElem?_map, hi]; rfl
  have hj' : (argRegs.map Reg.index)[j]? = some r.index := by rw [getElem?_map, hj, h]; rfl
  have hnodup : (argRegs.map Reg.index).Nodup := by decide
  exact (getElem?_inj (List.getElem?_eq_some_iff.mp hi').1 hnodup).mp (hi'.trans hj'.symm)

theorem passed (sp : ℕ) (c : Made) (args : List ℕ) :
    Passed sp c args (args.zipIdx.foldl (storeArg sp) c) := by
  induction args using reverseRecOn with
  | nil => exact ⟨nofun, fun _ _ => rfl, (append_nil _).symm⟩
  | append_singleton init v ih =>
    rw [zipIdx_append, foldl_append]
    change Passed sp c (init ++ [v]) (storeArg sp _ (v, 0 + init.length))
    rw [Nat.zero_add, storeArg]
    have hold : ∀ (i : ℕ) (w : ℕ), (init ++ [v])[i]? = some w →
        init[i]? = some w ∨ i = init.length ∧ v = w := by
      intro i w hi
      rw [getElem?_append] at hi
      split at hi
      · exact .inl hi
      · have hlt := (List.getElem?_eq_some_iff.mp hi).1
        rw [length_singleton] at hlt
        rw [Nat.lt_one_iff.mp hlt] at hi
        exact .inr ⟨by omega, Option.some.inj hi⟩
    cases hr : argRegs[init.length]? with
    | some r =>
      have hsix : init.length < 6 := (List.getElem?_eq_some_iff.mp hr).1
      refine ⟨?_, ?_, ?_⟩
      · intro i r' w hi hr'
        rcases hold i w hi with hi | ⟨rfl, rfl⟩
        · have hne : r'.index ≠ r.index := by
            intro heq
            have hlt := (List.getElem?_eq_some_iff.mp hi).1
            rw [argRegs_inj hr' hr heq] at hlt
            exact Nat.lt_irrefl _ hlt
          exact (update_of_ne hne ..).trans (ih.regs i r' w hi hr')
        · rw [hr] at hr'
          cases hr'
          exact update_self ..
      · intro n hn
        exact (update_of_ne (hn r (mem_of_getElem? hr)).symm ..).trans (ih.others n hn)
      · rw [drop_eq_nil_of_le (by rw [length_append]; exact hsix)]
        exact ih.stores.trans (by rw [drop_eq_nil_of_le hsix.le])
    | none =>
      have hsix : 6 ≤ init.length := getElem?_eq_none_iff.mp hr
      refine ⟨?_, ih.others, ?_⟩
      · intro i r w hi hr'
        rcases hold i w hi with hi | ⟨rfl, -⟩
        · exact ih.regs i r w hi hr'
        · rw [hr] at hr'
          cases hr'
      · rw [drop_append_of_le_length hsix, zipIdx_append, map_append, ← append_assoc, ← ih.stores]
        simp only [zipIdx_singleton, map_cons, map_nil, length_drop, Nat.zero_add,
          show init.length - 6 + 1 = init.length - 5 by omega]

/-- The frame that the calling convention asks for -/
structure Conforming (u : Ucontext) (trampoline : ℕ) (args : List ℕ) (c : Made) : Prop where
  inside : ∀ s ∈ c.stores, u.ss_sp ≤ s.1 ∧ s.1 + 8 ≤ u.ss_sp + u.ss_size
  aligned : (c.gregs REG_RSP + 8) % 16 = 0
  returns : (c.gregs REG_RSP, trampoline) ∈ c.stores
  link : (c.gregs Reg.rbx.index, u.uc_link) ∈ c.stores
  regs : InRegs args c.gregs
  stack : ∀ (i : ℕ) (v : ℕ), args[i]? = some v → 6 ≤ i →
    (c.gregs REG_RSP + 8 * (i - 5), v) ∈ c.stores
  apart : (c.stores.map Prod.fst).Nodup

theorem stackPointer_eq (h : Fits u argc) :
    stackPointer u argc = (u.ss_sp + u.ss_size - 8 * linkIndex argc) / 16 * 16 - 8 := by
  have htop := h.top
  have hroom := h.room
  have h16 : negWord 16 = 2 ^ 64 - 2 ^ 4 := by decide
  rw [stackPointer, subWord_of_le htop (by omega), h16, and_high (by decide) (by omega),
    subWord_of_le (by omega) (by omega)]
  omega

theorem started_rbx : (started u func trampoline argc).gregs Reg.rbx.index =
    stackPointer u argc + 8 * linkIndex argc := by
  simp only [started]
  rw [update_of_ne (by decide), update_self]

theorem conforming_of_stores (sp link : ℕ) (hlow : u.ss_sp ≤ sp) (halign : (sp + 8) % 16 = 0)
    (hhigh : sp + 8 * link + 8 ≤ u.ss_sp + u.ss_size) (hlink : link = (args.drop 6).length + 1)
    (hrsp : c.gregs REG_RSP = sp) (hrbx : c.gregs Reg.rbx.index = sp + 8 * link)
    (hregs : InRegs args c.gregs)
    (hstores : c.stores = [(sp, trampoline), (sp + 8 * link, u.uc_link)] ++
      (args.drop 6).zipIdx.map fun a => (sp + 8 * (a.2 + 1), a.1)) :
    Conforming u trampoline args c := by
  refine ⟨?_, ?_, ?_, ?_, hregs, ?_, ?_⟩
  · -- every word is one of `sp[0]`, ..., `sp[link]`
    have hword : ∀ s ∈ c.stores, ∃ j ≤ link, s.1 = sp + 8 * j := by
      intro s hs
      rw [hstores] at hs
      rcases mem_append.mp hs with hs | hs
      · rcases mem_pair.mp hs with rfl | rfl
        · exact ⟨0, Nat.zero_le _, rfl⟩
        · exact ⟨link, Nat.le_refl _, rfl⟩
      · obtain ⟨a, ha, rfl⟩ := mem_map.mp hs
        have hlt := snd_lt_of_mem_zipIdx ha
        exact ⟨a.2 + 1, by omega, rfl⟩
    intro s hs
    obtain ⟨j, hj, hs⟩ := hword s hs
    omega
  · omega
  · rw [hrsp, hstores]
    exact mem_append_left _ mem_cons_self
  · rw [hrbx, hstores]
    exact mem_append_left _ (mem_cons_of_mem _ mem_cons_self)
  · intro i v hi hsix
    rw [hrsp, hstores]
    refine mem_append_right _ (mem_map.mpr ⟨(v, i - 6), ?_, ?_⟩)
    · rw [mem_zipIdx_iff_getElem?, getElem?_drop, Nat.add_sub_cancel' hsix]
      exact hi
    · rw [show i - 6 + 1 = i - 5 by omega]
  · have hmap : (args.drop 6).zipIdx.map (fun a => sp + 8 * (a.2 + 1)) =
        (range (args.drop 6).length).map fun k => sp + 8 * (k + 1) := by
      rw [range_eq_range', ← zipIdx_map_snd, map_map]
      rfl
    rw [hstores, map_append, map_map]
    change (sp :: (sp + 8 * link) :: (args.drop 6).zipIdx.map fun a => sp + 8 * (a.2 + 1)).Nodup
    rw [hmap, nodup_cons, nodup_cons, mem_cons]
    refine ⟨?_, ?_, ?_⟩
    · rintro (heq | hmem)
      · omega
      · obtain ⟨k, -, hk⟩ := mem_map.mp hmem
        omega
    · intro hmem
      obtain ⟨k, hk, heq⟩ := mem_map.mp hmem
      have hk := mem_range.mp hk
      omega
    · refine nodup_range.map ?_
      intro i j hij
      dsimp only at hij
      omega

theorem makecontext_conforms (u : Ucontext) (func trampoline : ℕ) (args : List ℕ)
    (h : Fits u args.length) :
    Conforming u trampoline args (makecontext u func trampoline args) := by
  have hroom := h.room
  have heq := stackPointer_eq h
  have hp := passed (stackPointer u args.length) (started u func trampoline args.length) args
  have hlink : linkIndex args.length = (args.drop 6).length + 1 := by
    rw [length_drop, linkIndex]
    split <;> omega
  apply conforming_of_stores (stackPointer u args.length) (linkIndex args.length) (by omega)
    (by omega)
    (by omega) hlink
  · exact (hp.others REG_RSP (by decide)).trans (by simp only [started, update_self])
  · exact (hp.others Reg.rbx.index (by decide)).trans started_rbx
  · exact hp.regs
  · exact hp.stores

theorem makecontext_conforms_eight : Conforming ⟨0x9000, 0x1000, 0x100, fun _ => 0⟩ 0x8000
    [1, 2, 3, 4, 5, 6, 7, 8] (makecontext ⟨0x9000, 0x1000, 0x100, fun _ => 0⟩ 0x7000 0x8000
      [1, 2, 3, 4, 5, 6, 7, 8]) :=
  makecontext_conforms _ _ _ _ ⟨by decide, by decide⟩

end MakeContext
