import GcompatMusl.SymbolLookup
import Mathlib.Data.List.MinMax

/-! `dladdr` names the symbol that starts last at or before an address, if its size reaches it. -/
namespace AddressLookup

open List SymbolLookup

structure Phdr where
  p_type : ℕ
  p_vaddr : BitVec 64
  p_memsz : BitVec 64

structure Symbol where
  name : String
  st_info : ℕ
  st_value : BitVec 64
  st_size : BitVec 64

structure Dso where
  base : BitVec 64
  phdr : List Phdr
  map : BitVec 64
  map_len : BitVec 64
  syms : List Symbol

def addr2dso (a : BitVec 64) : List Dso → Option Dso
  | [] => none
  | p :: next =>
    if p.phdr.any fun ph => ph.p_type = 1 && a - p.base - ph.p_vaddr < ph.p_memsz then some p
    else if a - p.map < p.map_len then none
    else addr2dso a next

def Symbol.type (s : Symbol) : ℕ := s.st_info &&& 0xf

def Symbol.admitted (s : Symbol) : Bool :=
  s.st_value ≠ 0 && 1 <<< s.type &&& OK_TYPES ≠ 0 && 1 <<< (s.st_info >>> 4) &&& OK_BINDS ≠ 0

section

variable (p : Dso) (addr : BitVec 64)

def Dso.laddr (s : Symbol) : BitVec 64 := p.base + s.st_value

def bestLoop : List Symbol → BitVec 64 → Option Symbol → Option Symbol
  | [], _, bestsym => bestsym
  | s :: syms, best, bestsym =>
    if s.admitted then
      if p.laddr s > addr ∨ p.laddr s ≤ best then bestLoop syms best bestsym
      else if addr = p.laddr s then some s
      else bestLoop syms (p.laddr s) (some s)
    else bestLoop syms best bestsym

/-- The symbol that `dladdr` names in `p`: for a size of 0 the bound `st_size-1` wraps around. -/
def named : Option Symbol :=
  (bestLoop p addr p.syms 0 none).filter fun s => addr - p.laddr s ≤ s.st_size - 1

def Dso.Contains (s : Symbol) : Prop := p.laddr s ≤ addr ∧ addr - p.laddr s < s.st_size

def candidates (syms : List Symbol) : List Symbol :=
  syms.filter fun s => s.admitted && p.laddr s ≤ addr

def leadingOf (syms : List Symbol) : Option Symbol :=
  (candidates p addr syms).argmax fun s => (p.laddr s).toNat

theorem leadingOf_le (h : leadingOf p addr syms = some s) :
    p.laddr s ≤ addr := by
  have hs := (mem_filter.mp (argmax_mem h)).2
  rw [Bool.and_eq_true] at hs
  exact of_decide_eq_true hs.2

theorem leadingOf_cons (s : Symbol) (syms : List Symbol) :
    leadingOf p addr (s :: syms) = if s.admitted && p.laddr s ≤ addr then
      match leadingOf p addr syms with
      | none => some s
      | some t => if (p.laddr s).toNat < (p.laddr t).toNat then some t else some s
    else leadingOf p addr syms := by
  rw [leadingOf, candidates, filter_cons]
  split
  · rw [argmax_cons, ← candidates, ← leadingOf]
    cases leadingOf p addr syms <;> rfl
  · rfl

/-- The leading symbol of a table replaces the best one so far if it starts after it. -/
theorem bestLoop_eq (syms : List Symbol) (best : BitVec 64) (bestsym : Option Symbol) :
    bestLoop p addr syms best bestsym =
      ((leadingOf p addr syms).filter fun s => best < p.laddr s).or bestsym := by
  induction syms generalizing best bestsym with
  | nil => rfl
  | cons s syms ih =>
    rw [bestLoop, leadingOf_cons, ih, ih]
    simp only [gt_iff_lt, BitVec.lt_def, BitVec.le_def]
    cases h : leadingOf p addr syms with
    | none => grind
    | some t =>
      have := BitVec.le_def.mp (leadingOf_le p addr h)
      grind

theorem named_eq_some : named p addr = some s ↔
    leadingOf p addr p.syms = some s ∧ 0 < p.laddr s ∧ addr - p.laddr s ≤ s.st_size - 1 := by
  rw [named, bestLoop_eq, Option.or_none, Option.filter_filter, Option.filter_eq_some_iff]
  simp only [Bool.and_eq_true, decide_eq_true_eq]

end

/-- The name set by `dladdr`, if any. -/
def dladdr (head : List Dso) (addr : BitVec 64) : Option Symbol :=
  (addr2dso addr head).bind fun p => named p addr

/-- `calloc` says whether the allocation of the result succeeds. -/
def backtraceSymbols (calloc : Bool) (head : List Dso) (array : List (BitVec 64)) :
    Option (List String) :=
  if calloc then some (array.map fun addr => ((dladdr head addr).map Symbol.name).getD "??:0")
  else none

/-- Some function or object symbol contains the address. -/
def Inside (p : Dso) (addr : BitVec 64) : Prop :=
  ∃ s ∈ p.syms, s.admitted ∧ (s.type = 1 ∨ s.type = 2) ∧ p.Contains addr s

structure NamesContaining (head : List Dso) (p : Dso) (addr : BitVec 64) : Prop where
  contains : Inside p addr → ∃ s, dladdr head addr = some s ∧ p.Contains addr s
  no_tls : ∀ s, dladdr head addr = some s → s.type ≠ STT_TLS
  printed : ∀ (array : List _) (i : ℕ), array[i]? = some addr →
    ∃ names, backtraceSymbols true head array = some names ∧
      names[i]? = some (((dladdr head addr).map Symbol.name).getD "??:0")

theorem namesContaining_iff {head : List Dso} {p : Dso} {addr : BitVec 64}
    (hp : addr2dso addr head = some p) : NamesContaining head p addr ↔ (Inside p addr →
        ∃ s, leadingOf p addr p.syms = some s ∧ 0 < p.laddr s ∧ p.Contains addr s) ∧
      ∀ s, leadingOf p addr p.syms = some s → 0 < p.laddr s →
        addr - p.laddr s ≤ s.st_size - 1 → s.type ≠ STT_TLS := by
  have hname : dladdr head addr = named p addr := by rw [dladdr, hp, Option.bind_some]
  constructor
  · intro h
    refine ⟨fun hs => ?_, fun s hs h0 hsize => ?_⟩
    · obtain ⟨s, hs, hc⟩ := h.contains hs
      obtain ⟨hs, h0, -⟩ := (named_eq_some p addr).mp (hname ▸ hs)
      exact ⟨s, hs, h0, hc⟩
    · exact h.no_tls s (hname ▸ (named_eq_some p addr).mpr ⟨hs, h0, hsize⟩)
  · rintro ⟨hlead, htls⟩
    refine ⟨fun hs => ?_, fun s hs => ?_, fun array i hi => ?_⟩
    · obtain ⟨s, hs, h0, hc⟩ := hlead hs
      have hsize : addr - p.laddr s ≤ s.st_size - 1 := by have := hc.2; bv_omega
      exact ⟨s, hname ▸ (named_eq_some p addr).mpr ⟨hs, h0, hsize⟩, hc⟩
    · obtain ⟨hs, h0, hsize⟩ := (named_eq_some p addr).mp (hname ▸ hs)
      exact htls s hs h0 hsize
    · exact ⟨_, rfl, by rw [getElem?_map, hi, Option.map_some]⟩

def nested : Dso :=
  ⟨0x1000, [⟨1, 0, 0x2000⟩], 0x1000, 0x2000,
    [⟨"outer", 0x12, 0x100, 0x100⟩, ⟨"inner", 0x12, 0x110, 4⟩]⟩

theorem outer_named : NamesContaining [nested] nested 0x1100 := by
  have hlead : leadingOf nested 0x1100 nested.syms = some ⟨"outer", 0x12, 0x100, 0x100⟩ := rfl
  refine (namesContaining_iff rfl).mpr
    ⟨fun _ => ⟨_, hlead, by decide, by decide, by decide⟩, fun s hs _ _ => ?_⟩
  cases hlead.symm.trans hs
  decide

/-- The address 0x1180 lies in `outer`, but `inner` starts after it. -/
theorem nested_unnamed : addr2dso 0x1180 [nested] = some nested ∧
    ¬ NamesContaining [nested] nested 0x1180 := by
  refine ⟨rfl, fun h => ?_⟩
  obtain ⟨s, hs, -⟩ := h.contains ⟨_, .head _, rfl, .inr rfl, by decide, by decide⟩
  have hnone : dladdr [nested] 0x1180 = none := rfl
  cases hnone.symm.trans hs

end AddressLookup
