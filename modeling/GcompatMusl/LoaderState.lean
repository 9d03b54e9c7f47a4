import GcompatMusl.DepthFirst
import GcompatMusl.SymbolLookup

/-! # The state of the dynamic linker

The DSOs from `head` to `tail` are numbered in load order, so `head` is number 0. Pointers between
them are numbers; the lists and tables hanging off a DSO are the fields of its record. -/
namespace LoaderState

open SymbolLookup (Name)

abbrev Id := ℕ

/-- The fields of a `struct dso` that the functions below read. `defines` looks a name up in this
library alone, with or without the need for a definition. -/
structure Dso where
  defines : Name → Bool → Bool
  syms_next : Option Id
  mark : Bool
  bfs_built : Bool
  deps : Option (List Id)
  ndeps_direct : ℕ

structure Loader where
  dso : Id → Dso
  count : ℕ
  ldso : Id

variable (s : Loader)

def Loader.set (p : Id) (f : Dso → Dso) : Loader :=
  { s with dso := Function.update s.dso p (f (s.dso p)) }

@[simp] theorem Loader.set_self (p : Id) (f : Dso → Dso) : (s.set p f).dso p = f (s.dso p) := by
  simp [Loader.set]

theorem Loader.set_of_ne (h : q ≠ p) (f : Dso → Dso) : (s.set p f).dso q = s.dso q := by
  simp [Loader.set, h]

@[simp] theorem Loader.set_set (p : Id) (f g : Dso → Dso) :
    (s.set p f).set p g = s.set p fun d => g (f d) := by
  simp [Loader.set]

theorem Loader.dso_ext (h : ∀ q, f q = g q) :
    ({ s with dso := f } : Loader) = { s with dso := g } := by
  rw [funext h]

def Loader.deps (p : Id) : List Id := (s.dso p).deps.getD []

def Loader.direct (p : Id) : List Id := (s.deps p).take (s.dso p).ndeps_direct

def Loader.withMarks (mark : Id → Bool) : Loader :=
  { s with dso := fun p => { s.dso p with mark := mark p } }

def Loader.marks : Id → Bool := fun p => (s.dso p).mark

def Loader.setMark (b : Bool) (p : Id) : Loader := s.set p fun d => { d with mark := b }

variable (mark : Id → Bool)

@[simp] theorem withMarks_dso (p : Id) :
    (s.withMarks mark).dso p = { s.dso p with mark := mark p } := rfl

@[simp] theorem withMarks_marks : s.withMarks s.marks = s := rfl

@[simp] theorem marks_withMarks : (s.withMarks mark).marks = mark := rfl

@[simp] theorem withMarks_withMarks (mark mark' : Id → Bool) :
    (s.withMarks mark).withMarks mark' = s.withMarks mark' := rfl

@[simp] theorem deps_withMarks : (s.withMarks mark).deps = s.deps := rfl

@[simp] theorem direct_withMarks : (s.withMarks mark).direct = s.direct := rfl

theorem setMark_eq (b : Bool) (p : Id) :
    s.setMark b p = s.withMarks (Function.update s.marks p b) := by
  refine s.dso_ext ?_
  intro q
  by_cases h : q = p
  · subst h
    simp
  · simp [h, Loader.marks]

def Loader.setMarks (b : Bool) (l : List Id) : Loader := l.foldl (fun s p => s.setMark b p) s

theorem setMarks_eq (b : Bool) (l : List Id) :
    s.setMarks b l = s.withMarks fun p => if p ∈ l then b else s.marks p := by
  induction l generalizing s with
  | nil => rfl
  | cons q l ih =>
    change (s.setMark b q).setMarks b l = _
    rw [ih, setMark_eq, withMarks_withMarks]
    congr 1
    funext p
    by_cases hl : p ∈ l
    · simp [hl]
    · by_cases hq : p = q <;> simp [hq]

end LoaderState
