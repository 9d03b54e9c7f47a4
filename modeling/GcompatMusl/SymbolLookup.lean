import GcompatMusl.FuelLoop
import Mathlib.Data.Nat.Bitwise
import Mathlib.Data.UInt

/-! # Symbol lookup

The dynamic linker finds a symbol of a library through its SysV hash table or through its GNU hash
table with the Bloom filter in front, and `find_sym2` asks a chain of libraries, each through the
table it has. A read outside a table is a fault, written `none`. -/
namespace SymbolLookup

open FuelLoop List Option

abbrev Name := { bs : List UInt8 // 0 ∉ bs }

def emptyName : Name := ⟨[], List.not_mem_nil⟩

def dl_strcmp : List UInt8 → List UInt8 → ℤ
  | [], [] => 0
  | [], r :: _ => 0 - r.toNat
  | l :: _, [] => l.toNat - 0
  | l :: ls, r :: rs => if l = r ∧ l ≠ 0 then dl_strcmp ls rs else l.toNat - r.toNat

structure Sym where
  name : Name
  st_info : ℕ
  st_shndx : ℕ
  st_value : ℕ

structure Dso where
  syms : List Sym
  versym : Option (List ℤ)
  hashtab : Option (List UInt32)
  ghashtab : Option (List UInt32)

def word (t : List UInt32) (k : ℕ) : Option ℕ := t[k]?.map UInt32.toNat

def sysvHashStep (h : ℕ) (c : UInt8) : ℕ :=
  let h := (16 * h + c.toNat) % 2 ^ 32
  h ^^^ (h >>> 24 &&& 0xf0)

def sysv_hash (s : List UInt8) : ℕ := s.foldl sysvHashStep 0 &&& 0xfffffff

def gnu_hash (s : List UInt8) : ℕ := s.foldl (fun h c => (h + (h * 32 + c.toNat)) % 2 ^ 32) 5381

def visible (d : Dso) (i : ℕ) : Option Bool :=
  match d.versym with
  | none => some true
  | some v => v[i]?.map fun n => decide (0 ≤ n)

def matchesAt (d : Dso) (s : Name) (i : ℕ) : Option Bool := do
  if ← visible d i then
    let sym ← d.syms[i]?
    return decide (dl_strcmp s.1 sym.name.1 = 0)
  else return false

/-- One turn of the loop in `sysv_lookup`. `2+hashtab[0]` is a sum of 32 bits. -/
def sysvTurn (d : Dso) (t : List UInt32) (nb : ℕ) (s : Name) (i : ℕ) :
    Turn (Option (Option ℕ)) ℕ :=
  if i = 0 then .ret (some none)
  else
    match matchesAt d s i with
    | none => .ret none
    | some true => .ret (some (some i))
    | some false =>
      match word t ((2 + nb) % 2 ^ 32 + i) with
      | none => .ret none
      | some j => .again j

/-- The symbol found, or `none` inside when there is none. The loop is given `fuel` turns. -/
def sysv_lookup (fuel : ℕ) (s : Name) (h : ℕ) (d : Dso) : Option (Option ℕ) := do
  let t ← d.hashtab
  let nb ← word t 0
  if nb = 0 then none
  else
    let i ← word t ((2 + h % nb) % 2 ^ 32)
    ((loop (sysvTurn d t nb s) fuel i).result).join

def gnuTurn (d : Dso) (t : List UInt32) (s : Name) (h1 : ℕ) (x : ℕ × ℕ) :
    Turn (Option (Option ℕ)) (ℕ × ℕ) :=
  match word t x.2 with
  | none => .ret none
  | some h2 =>
    match if h1 ||| 1 = h2 ||| 1 then matchesAt d s x.1 else some false with
    | none => .ret none
    | some true => .ret (some (some x.1))
    | some false => if h2 &&& 1 ≠ 0 then .ret (some none) else .again ((x.1 + 1) % 2 ^ 32, x.2 + 1)

def gnu_lookup (fuel h1 : ℕ) (t : List UInt32) (d : Dso) (s : Name) : Option (Option ℕ) := do
  let nb ← word t 0
  let buckets := 4 + (← word t 2) * 2
  if nb = 0 then none
  else
    let i ← word t (buckets + h1 % nb)
    if i = 0 then some none
    else
      let off ← word t 1
      ((loop (gnuTurn d t s h1) fuel (i, buckets + nb + (i + 2 ^ 32 - off) % 2 ^ 32)).result).join

def bloomWord (t : List UInt32) (k : ℕ) : Option ℕ := do
  let lo ← word t (4 + 2 * k)
  let hi ← word t (4 + 2 * k + 1)
  return lo + 2 ^ 32 * hi

def bloomPasses (h1 : ℕ) (t : List UInt32) (fofs fmask : ℕ) : Option Bool := do
  let f ← bloomWord t (fofs &&& ((← word t 2) + 2 ^ 32 - 1) % 2 ^ 32)
  if f &&& fmask = 0 then return false
  else
    let f := f >>> ((h1 >>> (← word t 3)) % 64)
    return decide (f &&& 1 ≠ 0)

def gnu_lookup_filtered (fuel h1 : ℕ) (t : List UInt32) (d : Dso) (s : Name) (fofs fmask : ℕ) :
    Option (Option ℕ) := do
  if ← bloomPasses h1 t fofs fmask then gnu_lookup fuel h1 t d s else return none

def STT_TLS : ℕ := 6

def OK_TYPES : ℕ := 1 <<< 0 ||| 1 <<< 1 ||| 1 <<< 2 ||| 1 <<< 5 ||| 1 <<< 6

def OK_BINDS : ℕ := 1 <<< 1 ||| 1 <<< 2 ||| 1 <<< 10

def accepted (need_def : Bool) (sym : Sym) : Bool :=
  if sym.st_shndx = 0 && (need_def || sym.st_info &&& 0xf = STT_TLS) then false
  else if sym.st_value = 0 && sym.st_info &&& 0xf ≠ STT_TLS then false
  else if 1 <<< (sym.st_info &&& 0xf) &&& OK_TYPES = 0 then false
  else if 1 <<< (sym.st_info >>> 4) &&& OK_BINDS = 0 then false
  else true

/-- `h` when a library is asked: it is computed for the first one without a GNU table. A hash that
is 0 is computed again. -/
def sysvHashFor (s : Name) (d : Dso) (h : ℕ) : ℕ :=
  if d.ghashtab.isNone && h = 0 then sysv_hash s.1 else h

def lookup (fuel : ℕ) (s : Name) (d : Dso) (h : ℕ) : Option (Option ℕ) :=
  match d.ghashtab with
  | some t =>
    let gh := gnu_hash s.1
    gnu_lookup_filtered fuel gh t d s (gh / 64) (1 <<< (gh % 64))
  | none => sysv_lookup fuel s h d

/-- `find_sym2` over the libraries of a chain. The result is the position in the chain and the
symbol. -/
def find_sym2 (fuel : ℕ) (s : Name) (need_def : Bool) :
    List Dso → ℕ → ℕ → Option (Option (ℕ × ℕ))
  | [], _, _ => some none
  | d :: ds, h, pos =>
    let h := sysvHashFor s d h
    match lookup fuel s d h with
    | none => none
    | some none => find_sym2 fuel s need_def ds h (pos + 1)
    | some (some i) =>
      match d.syms[i]? with
      | none => none
      | some sym =>
        if accepted need_def sym then some (some (pos, i))
        else find_sym2 fuel s need_def ds h (pos + 1)

theorem dl_strcmp_eq_zero_iff (l : List UInt8) :
    ∀ r, 0 ∉ l → 0 ∉ r → (dl_strcmp l r = 0 ↔ l = r) := by
  induction l with
  | nil =>
    intro r _ hr
    cases r with
    | nil => simp [dl_strcmp]
    | cons b r =>
      have hb : b ≠ 0 := fun h => hr (by simp [h])
      have hn : b.toNat ≠ 0 := fun h => hb (UInt8.toNat_inj.mp h)
      simp [dl_strcmp, hn]
  | cons a l ih =>
    intro r hl hr
    have ha : a ≠ 0 := fun h => hl (by simp [h])
    have hn : a.toNat ≠ 0 := fun h => ha (UInt8.toNat_inj.mp h)
    cases r with
    | nil => simp [dl_strcmp, hn]
    | cons b r =>
      have hl' : 0 ∉ l := fun h => hl (mem_cons_of_mem a h)
      have hr' : 0 ∉ r := fun h => hr (mem_cons_of_mem b h)
      by_cases hab : a = b
      · simp [dl_strcmp, hab, hab ▸ ha, ih r hl' hr']
      · have hne : a.toNat ≠ b.toNat := fun h => hab (UInt8.toNat_inj.mp h)
        simp only [dl_strcmp, hab, false_and, if_false, cons.injEq, iff_false]
        omega

def nameAt (d : Dso) (k : ℕ) : List UInt8 := ((d.syms[k]?).map fun sym => sym.name.1).getD []

def visibleAt (d : Dso) (k : ℕ) : Bool := (visible d k).getD false

/-- The symbols `S` are in the symbol table, their versions in the version table, and at most one
that is not hidden has any given name. -/
structure Symbols (d : Dso) (S : List ℕ) : Prop where
  inTable : ∀ k ∈ S, 0 < k ∧ k < d.syms.length ∧ k < 2 ^ 32
  versions : ∀ v ∈ d.versym, v.length = d.syms.length
  unique : ∀ i ∈ S, ∀ j ∈ S, visibleAt d i → visibleAt d j → nameAt d i = nameAt d j → i = j

def named (d : Dso) (s : Name) (k : ℕ) : Bool := visibleAt d k && nameAt d k = s.1

variable {k : ℕ} {d : Dso} {l : List ℕ}

theorem named_iff : named d s k = true ↔ visibleAt d k = true ∧ nameAt d k = s.1 := by
  simp [named]

def lookupSpec (d : Dso) (S : List ℕ) (s : Name) : Option ℕ := S.find? (named d s)

theorem matchesAt_eq (hS : Symbols d S) (hk : k ∈ S) (s : Name) :
    matchesAt d s k = some (named d s k) := by
  obtain ⟨-, hlt, -⟩ := hS.inTable k hk
  have hvis : visible d k = some (visibleAt d k) := by
    unfold visibleAt visible
    cases hv : d.versym with
    | none => rfl
    | some v =>
      have hlen := hS.versions v hv
      simp [getElem?_eq_getElem (hlen ▸ hlt)]
  have hname : nameAt d k = d.syms[k].name.1 := by
    simp [nameAt, getElem?_eq_getElem hlt]
  have hcmp := dl_strcmp_eq_zero_iff s.1 d.syms[k].name.1 s.2 d.syms[k].name.2
  rw [matchesAt, hvis, named]
  cases visibleAt d k with
  | false => rfl
  | true =>
    have hdec : decide (dl_strcmp s.1 d.syms[k].name.1 = 0) = decide (d.syms[k].name.1 = s.1) := by
      rw [decide_eq_decide, hcmp, eq_comm]
    simp only [hname, ← hdec]
    simp [getElem?_eq_getElem hlt]

theorem find_eq_lookupSpec (hS : Symbols d S) (hsub : ∀ k ∈ l, k ∈ S)
    (hsup : ∀ k ∈ S, nameAt d k = s.1 → k ∈ l) : l.find? (named d s) = lookupSpec d S s := by
  cases hspec : lookupSpec d S s with
  | none =>
    have hnone := find?_eq_none.mp hspec
    exact find?_eq_none.mpr fun k hk => hnone k (hsub k hk)
  | some k =>
    have hk := mem_of_find?_eq_some hspec
    have hP := named_iff.mp (find?_some hspec)
    cases hl : l.find? (named d s) with
    | none =>
      have hnot := find?_eq_none.mp hl k (hsup k hk hP.2)
      exact absurd (named_iff.mpr hP) hnot
    | some j =>
      have hj := hsub j (mem_of_find?_eq_some hl)
      have hPj := named_iff.mp (find?_some hl)
      rw [hS.unique j hj k hk hPj.1 hP.1 (hPj.2.trans hP.2.symm)]

inductive Chain (t : List UInt32) (nb : ℕ) : ℕ → List ℕ → Prop
  | nil : Chain t nb 0 []
  | cons {i j : ℕ} {l : List ℕ} : i ≠ 0 → word t (2 + nb + i) = some j → Chain t nb j l →
      Chain t nb i (i :: l)

/-- A SysV table over `S`: every bucket is a chain of the symbols whose hash falls into it. The
indices of its head are sums of 32 bits. -/
structure SysvTable (d : Dso) (t : List UInt32) (S : List ℕ) (nb : ℕ) : Prop where
  nbucket : word t 0 = some nb
  pos : 0 < nb
  small : 2 + nb < 2 ^ 32
  bucket : ∀ b < nb, ∃ i l, word t (2 + b) = some i ∧ Chain t nb i l ∧
    ∀ k, k ∈ l ↔ k ∈ S ∧ sysv_hash (nameAt d k) % nb = b

theorem chain_walk (hS : Symbols d S) (hsmall : 2 + nb < 2 ^ 32) (s : Name)
    (hc : Chain t nb i l) (hl : ∀ k ∈ l, k ∈ S) :
    Returns (sysvTurn d t nb s) i (some (l.find? (named d s))) := by
  induction hc with
  | nil => exact .ret (by simp [sysvTurn])
  | @cons i j l hi hw hc ih =>
    have hmatch := matchesAt_eq hS (hl i (mem_cons_self ..)) s
    have hsum : (2 + nb) % 2 ^ 32 = 2 + nb := Nat.mod_eq_of_lt hsmall
    cases hb : named d s i with
    | true =>
      rw [hb] at hmatch
      rw [find?_cons_of_pos hb]
      exact .ret (by simp only [sysvTurn, hi, if_false, hmatch])
    | false =>
      rw [hb] at hmatch
      rw [find?_cons_of_neg (by simp [hb])]
      have hturn : sysvTurn d t nb s i = .again j := by
        simp only [sysvTurn, hi, if_false, hmatch, hsum, hw]
      exact .again hturn (ih fun k hk => hl k (mem_cons_of_mem i hk))

theorem sysv_lookup_spec (hS : Symbols d S) (ht : d.hashtab = some t) (hT : SysvTable d t S nb)
    (s : Name) :
    ∃ n, ∀ fuel ≥ n, sysv_lookup fuel s (sysv_hash s.1) d = some (lookupSpec d S s) := by
  have hb : sysv_hash s.1 % nb < nb := Nat.mod_lt _ hT.pos
  have hsmall := hT.small
  obtain ⟨i, l, hi, hc, hl⟩ := hT.bucket _ hb
  obtain ⟨n, hn⟩ := (chain_walk hS hT.small s hc fun k hk => ((hl k).mp hk).1).eventually
  have hfind : l.find? (named d s) = lookupSpec d S s := by
    apply find_eq_lookupSpec hS (fun k hk => ((hl k).mp hk).1)
    intro k hk hname
    rw [hl k, hname]
    exact ⟨hk, rfl⟩
  have hidx : (2 + sysv_hash s.1 % nb) % 2 ^ 32 = 2 + sysv_hash s.1 % nb :=
    Nat.mod_eq_of_lt (by omega)
  refine ⟨n, fun fuel hfuel => ?_⟩
  rw [sysv_lookup, ht]
  simp only [bind_eq_bind, bind_some, hT.nbucket, hT.pos.ne', if_false, hidx, hi,
    hn fuel hfuel, hfind, join_some]

def buckets (bloom : ℕ) : ℕ := 4 + bloom * 2

/-- The run of a bucket: the symbols from `i` on, `n` of them, with their hash values, of which only
the last one has its low bit set. -/
structure BucketRun (d : Dso) (t : List UInt32) (base off i n : ℕ) : Prop where
  nonempty : 0 < n
  above : off ≤ i
  values : ∀ k, i ≤ k → k < i + n → ∃ h2, word t (base + (k - off)) = some h2 ∧
    h2 ||| 1 = gnu_hash (nameAt d k) ||| 1 ∧ (h2 &&& 1 ≠ 0 ↔ k + 1 = i + n)

/-- A filter of a power of two words with both bits of every symbol set, and for every bucket the
run of the symbols whose hash falls into it, or 0 -/
structure GnuTable (d : Dso) (t : List UInt32) (S : List ℕ) (nb off bloom shift : ℕ) : Prop where
  nbuckets : word t 0 = some nb
  pos : 0 < nb
  symoffset : word t 1 = some off
  maskwords : word t 2 = some bloom
  pow : ∃ j, bloom = 2 ^ j
  shift2 : word t 3 = some shift
  shiftSmall : shift < 32
  filter : ∀ w < bloom, ∃ f, bloomWord t w = some f ∧
    ∀ k ∈ S, gnu_hash (nameAt d k) / 64 % bloom = w →
      f.testBit (gnu_hash (nameAt d k) % 64) = true ∧
      f.testBit ((gnu_hash (nameAt d k) >>> shift) % 64) = true
  bucket : ∀ b < nb, ∃ i, word t (buckets bloom + b) = some i ∧
    ((i = 0 ∧ ∀ k ∈ S, gnu_hash (nameAt d k) % nb ≠ b) ∨
      ∃ n, 0 < i ∧ BucketRun d t (buckets bloom + nb) off i n ∧
        ∀ k, k ∈ S ∧ gnu_hash (nameAt d k) % nb = b ↔ i ≤ k ∧ k < i + n)

theorem hash_then_match (hS : Symbols d S) (hk : k ∈ S) (s : Name)
    (hh : h2 ||| 1 = gnu_hash (nameAt d k) ||| 1) :
    (if gnu_hash s.1 ||| 1 = h2 ||| 1 then matchesAt d s k else some false) =
      some (named d s k) := by
  split_ifs with heq
  · exact matchesAt_eq hS hk s
  · -- a symbol of that name has that hash
    cases hn : named d s k with
    | false => rfl
    | true =>
      rw [hh, (named_iff.mp hn).2] at heq
      exact absurd rfl heq

theorem run_walk (hS : Symbols d S) (s : Name) (n : ℕ) :
    ∀ i, BucketRun d t base off i n → (∀ k, i ≤ k → k < i + n → k ∈ S) →
      Returns (gnuTurn d t s (gnu_hash s.1)) (i, base + (i - off))
        (some ((List.range' i n).find? (named d s))) := by
  induction n with
  | zero => intro i hr; exact absurd hr.nonempty (lt_irrefl 0)
  | succ n ih =>
    intro i hr hin
    obtain ⟨h2, hw, hh, hlast⟩ := hr.values i le_rfl (by omega)
    have hiS := hin i le_rfl (by omega)
    have htest := hash_then_match hS hiS s hh
    rw [range'_succ]
    cases hb : named d s i with
    | true =>
      rw [hb] at htest
      rw [find?_cons_of_pos hb]
      exact .ret (by simp only [gnuTurn, hw, htest])
    | false =>
      rw [hb] at htest
      rw [find?_cons_of_neg (by simp [hb])]
      by_cases hn : n = 0
      · subst hn
        have hend : h2 &&& 1 ≠ 0 := hlast.mpr rfl
        apply Returns.ret
        simp only [gnuTurn, hw, htest]
        rw [if_pos hend]
        rfl
      · have hmore : ¬ h2 &&& 1 ≠ 0 := fun h => hn (by have := hlast.mp h; omega)
        have hlt := (hS.inTable (i + 1) (hin (i + 1) (by omega) (by omega))).2.2
        have habove := hr.above
        have hnext : gnuTurn d t s (gnu_hash s.1) (i, base + (i - off)) =
            .again (i + 1, base + (i + 1 - off)) := by
          simp only [gnuTurn, hw, htest, hmore, if_false, Nat.mod_eq_of_lt hlt]
          rw [show base + (i - off) + 1 = base + (i + 1 - off) by omega]
        refine .again hnext (ih (i + 1) ⟨by omega, by omega, ?_⟩ ?_)
        · intro k hik hkn
          obtain ⟨h2, hw, hh, hlast⟩ := hr.values k (by omega) (by omega)
          exact ⟨h2, hw, hh, by rw [hlast]; omega⟩
        · intro k hik hkn
          exact hin k (by omega) (by omega)

theorem word_lt (h : word t k = some v) : v < 2 ^ 32 := by
  obtain ⟨u, -, rfl⟩ := map_eq_some_iff.mp h
  exact u.toNat_lt

theorem gnu_lookup_spec (hS : Symbols d S) (hT : GnuTable d t S nb off bloom shift) (s : Name) :
    ∃ n, ∀ fuel ≥ n, gnu_lookup fuel (gnu_hash s.1) t d s = some (lookupSpec d S s) := by
  have hb : gnu_hash s.1 % nb < nb := Nat.mod_lt _ hT.pos
  obtain ⟨i, hi, hcase⟩ := hT.bucket _ hb
  unfold buckets at hi
  rcases hcase with ⟨rfl, hnone⟩ | ⟨n, hpos, hrun, hmem⟩
  · -- an empty bucket: no symbol has the name
    have hspec : lookupSpec d S s = none := by
      refine find?_eq_none.mpr fun k hk hn => hnone k hk ?_
      rw [(named_iff.mp hn).2]
    refine ⟨0, fun fuel _ => ?_⟩
    simp only [gnu_lookup, bind_eq_bind, bind_some, hT.nbuckets, hT.maskwords,
      hT.pos.ne', if_false, hi, if_true, hspec]
  · have hwalk := run_walk hS s n i hrun fun k hik hkn => ((hmem k).mpr ⟨hik, hkn⟩).1
    obtain ⟨N, hN⟩ := hwalk.eventually
    have hfind : (range' i n).find? (named d s) = lookupSpec d S s := by
      apply find_eq_lookupSpec hS
      · intro k hk
        have := mem_range'_1.mp hk
        exact ((hmem k).mpr this).1
      · intro k hk hname
        refine mem_range'_1.mpr ((hmem k).mp ⟨hk, ?_⟩)
        rw [hname]
    have hsub : (i + 2 ^ 32 - off) % 2 ^ 32 = i - off := by
      have := word_lt hi
      have := hrun.above
      omega
    refine ⟨N, fun fuel hfuel => ?_⟩
    simp only [gnu_lookup, bind_eq_bind, bind_some, hT.nbuckets, hT.maskwords,
      hT.symoffset, hT.pos.ne', hi, hpos.ne', hsub]
    unfold buckets at hN
    rw [hN fuel hfuel, hfind]
    rfl

theorem and_bit_eq_zero_iff : f &&& 1 <<< b = 0 ↔ f.testBit b = false := by
  rw [Nat.shiftLeft_eq, Nat.one_mul, Nat.and_two_pow]
  cases f.testBit b <;> simp

theorem shifted_bit_ne_zero_iff : f >>> b &&& 1 ≠ 0 ↔ f.testBit b = true := by
  rw [Nat.testBit]
  simp

theorem bloomPasses_eq (hT : GnuTable d t S nb off bloom shift) (h1 : ℕ) :
    ∃ f, bloomWord t (h1 / 64 % bloom) = some f ∧
      bloomPasses h1 t (h1 / 64) (1 <<< (h1 % 64)) =
        some (f.testBit (h1 % 64) && f.testBit ((h1 >>> shift) % 64)) := by
  obtain ⟨j, hj⟩ := hT.pow
  have hpos : 0 < bloom := hj ▸ Nat.two_pow_pos j
  have hlt := word_lt hT.maskwords
  obtain ⟨f, hf, -⟩ := hT.filter (h1 / 64 % bloom) (Nat.mod_lt _ hpos)
  have hidx : h1 / 64 &&& (bloom + 2 ^ 32 - 1) % 2 ^ 32 = h1 / 64 % bloom := by
    rw [show (bloom + 2 ^ 32 - 1) % 2 ^ 32 = bloom - 1 by omega, hj, Nat.and_two_pow_sub_one_eq_mod]
  refine ⟨f, hf, ?_⟩
  simp only [bloomPasses, bind_eq_bind, bind_some, hT.maskwords, hT.shift2, hidx, hf]
  cases hb : f.testBit (h1 % 64) with
  | false => rw [if_pos (and_bit_eq_zero_iff.mpr hb)]; rfl
  | true =>
    have hne : ¬ f &&& 1 <<< (h1 % 64) = 0 := by rw [and_bit_eq_zero_iff, hb]; decide
    have hdec : decide (f >>> ((h1 >>> shift) % 64) &&& 1 ≠ 0) =
        f.testBit ((h1 >>> shift) % 64) := by
      rw [Bool.eq_iff_iff, decide_eq_true_iff, shifted_bit_ne_zero_iff]
    rw [if_neg hne, hdec]
    rfl

theorem bloomPasses_of_mem (hT : GnuTable d t S nb off bloom shift) (hk : k ∈ S) :
    bloomPasses (gnu_hash (nameAt d k)) t (gnu_hash (nameAt d k) / 64)
      (1 <<< (gnu_hash (nameAt d k) % 64)) = some true := by
  obtain ⟨f, hf, hpass⟩ := bloomPasses_eq hT (gnu_hash (nameAt d k))
  obtain ⟨j, hj⟩ := hT.pow
  have hpos : 0 < bloom := hj ▸ Nat.two_pow_pos j
  obtain ⟨f', hf', hset⟩ := hT.filter _ (Nat.mod_lt (gnu_hash (nameAt d k) / 64) hpos)
  obtain rfl : f = f' := some.inj (hf.symm.trans hf')
  obtain ⟨h1, h2⟩ := hset k hk rfl
  rw [hpass, h1, h2]
  rfl

/-- A lookup through the filter and the GNU table ends inside it, with the symbol of that name. -/
theorem gnu_lookup_filtered_spec (hS : Symbols d S) (hT : GnuTable d t S nb off bloom shift)
    (s : Name) :
    ∃ n, ∀ fuel ≥ n, gnu_lookup_filtered fuel (gnu_hash s.1) t d s (gnu_hash s.1 / 64)
      (1 <<< (gnu_hash s.1 % 64)) = some (lookupSpec d S s) := by
  obtain ⟨n, hn⟩ := gnu_lookup_spec hS hT s
  refine ⟨n, fun fuel hfuel => ?_⟩
  obtain ⟨f, -, hpass⟩ := bloomPasses_eq hT (gnu_hash s.1)
  rw [gnu_lookup_filtered]
  cases hb : f.testBit (gnu_hash s.1 % 64) && f.testBit ((gnu_hash s.1 >>> shift) % 64) with
  | true =>
    rw [hb] at hpass
    simp only [bind_eq_bind, bind_some, hpass, if_true, hn fuel hfuel]
  | false =>
    rw [hb] at hpass
    -- what the filter rejects is not in the set
    have hspec : lookupSpec d S s = none := by
      refine find?_eq_none.mpr fun k hk hnamed => ?_
      have htrue := bloomPasses_of_mem hT hk
      rw [(named_iff.mp hnamed).2, hpass] at htrue
      exact absurd htrue (by simp)
    simp [hpass, hspec]

/-- The library has a well-formed table over `S`, of the kind that `find_sym2` uses for it. -/
def HasTable (d : Dso) (S : List ℕ) : Prop :=
  (∃ t nb off bloom shift, d.ghashtab = some t ∧ GnuTable d t S nb off bloom shift) ∨
    (d.ghashtab = none ∧ ∃ t nb, d.hashtab = some t ∧ SysvTable d t S nb)

def findSpec (s : Name) (need_def : Bool) : List (Dso × List ℕ) → ℕ → Option (ℕ × ℕ)
  | [], _ => none
  | (d, S) :: ds, pos =>
    match lookupSpec d S s with
    | none => findSpec s need_def ds (pos + 1)
    | some i =>
      if (d.syms[i]?).any (accepted need_def) then some (pos, i)
      else findSpec s need_def ds (pos + 1)

theorem lookup_spec (hS : Symbols d S) (hT : HasTable d S) (s : Name) :
    ∃ n, ∀ fuel ≥ n, ∀ h, h = 0 ∨ h = sysv_hash s.1 →
      lookup fuel s d (sysvHashFor s d h) = some (lookupSpec d S s) := by
  rcases hT with ⟨t, nb, off, bloom, shift, hg, hT⟩ | ⟨hg, t, nb, ht, hT⟩
  · obtain ⟨n, hn⟩ := gnu_lookup_filtered_spec hS hT s
    refine ⟨n, fun fuel hfuel h _ => ?_⟩
    rw [lookup, hg]
    exact hn fuel hfuel
  · obtain ⟨n, hn⟩ := sysv_lookup_spec hS ht hT s
    refine ⟨n, fun fuel hfuel h hh => ?_⟩
    have hhash : sysvHashFor s d h = sysv_hash s.1 := by
      rcases hh with rfl | rfl
      · simp [sysvHashFor, hg]
      · simp [sysvHashFor]
    rw [lookup, hg, hhash]
    exact hn fuel hfuel

def WellFormedChain (c : List (Dso × List ℕ)) : Prop := ∀ x ∈ c, Symbols x.1 x.2 ∧ HasTable x.1 x.2

theorem sysvHashFor_cases (hh : h = 0 ∨ h = sysv_hash s.1) (d : Dso) :
    sysvHashFor s d h = 0 ∨ sysvHashFor s d h = sysv_hash s.1 := by
  unfold sysvHashFor
  split_ifs
  · exact Or.inr rfl
  · exact hh

theorem find_sym2_spec (s : Name) (need_def : Bool) (c : List (Dso × List ℕ)) :
    WellFormedChain c → ∃ n, ∀ fuel ≥ n, ∀ h pos, h = 0 ∨ h = sysv_hash s.1 →
      find_sym2 fuel s need_def (c.map Prod.fst) h pos = some (findSpec s need_def c pos) := by
  induction c with
  | nil => intro _; exact ⟨0, fun fuel _ h pos _ => rfl⟩
  | cons x c ih =>
    intro hwf
    obtain ⟨d, S⟩ := x
    obtain ⟨hS, hT⟩ := hwf (d, S) (mem_cons_self ..)
    obtain ⟨n, hn⟩ := ih fun y hy => hwf y (mem_cons_of_mem _ hy)
    obtain ⟨k, hk⟩ := lookup_spec hS hT s
    refine ⟨max n k, fun fuel hfuel h pos hh => ?_⟩
    have hrest := hn fuel (le_of_max_le_left hfuel) (sysvHashFor s d h) (pos + 1)
      (sysvHashFor_cases hh d)
    rw [map_cons, find_sym2, findSpec, hk fuel (le_of_max_le_right hfuel) h hh]
    cases hspec : lookupSpec d S s with
    | none => exact hrest
    | some i =>
      have hi := (hS.inTable i (mem_of_find?_eq_some hspec)).2.1
      simp only [getElem?_eq_getElem hi, any_some]
      split_ifs
      · rfl
      · exact hrest

def SameLibraries (c c' : List (Dso × List ℕ)) : Prop :=
  List.Forall₂ (fun x y => x.1.syms = y.1.syms ∧ x.1.versym = y.1.versym ∧ x.2 = y.2) c c'

theorem lookupSpec_congr {d d' : Dso} (hsyms : d.syms = d'.syms) (hver : d.versym = d'.versym)
    (S : List ℕ) (s : Name) : lookupSpec d S s = lookupSpec d' S s := by
  have hnamed : named d s = named d' s := by
    funext k
    unfold named visibleAt visible nameAt
    rw [hsyms, hver]
  rw [lookupSpec, lookupSpec, hnamed]

theorem findSpec_congr (h : SameLibraries c c') (s : Name) (need_def : Bool) :
    ∀ pos, findSpec s need_def c pos = findSpec s need_def c' pos := by
  induction h with
  | nil => intro pos; rfl
  | @cons x y c c' hxy _ ih =>
    intro pos
    obtain ⟨d, S⟩ := x
    obtain ⟨d', S'⟩ := y
    obtain ⟨hsyms, hver, rfl⟩ := hxy
    have hsyms : d.syms = d'.syms := hsyms
    simp only [findSpec, lookupSpec_congr hsyms hver, hsyms, ih]

/-- The two lookups agree on every name inside their tables, the filter rejects no name of the set,
and a definition found in a chain does not depend on the kind of the tables. -/
theorem lookups_agree :
    (∀ (d : Dso) (S : List ℕ) (t g : List UInt32) (nb gnb off bloom shift : ℕ), Symbols d S →
      d.hashtab = some t → SysvTable d t S nb → GnuTable d g S gnb off bloom shift → ∀ s : Name,
        (∃ r n, ∀ fuel ≥ n, sysv_lookup fuel s (sysv_hash s.1) d = some r ∧
          gnu_lookup_filtered fuel (gnu_hash s.1) g d s (gnu_hash s.1 / 64)
            (1 <<< (gnu_hash s.1 % 64)) = some r) ∧
        ∀ k ∈ S, nameAt d k = s.1 →
          bloomPasses (gnu_hash s.1) g (gnu_hash s.1 / 64) (1 <<< (gnu_hash s.1 % 64)) =
            some true) ∧
    ∀ c c' : List (Dso × List ℕ), WellFormedChain c → WellFormedChain c' → SameLibraries c c' →
      ∀ (s : Name) (need_def : Bool), ∃ r n, ∀ fuel ≥ n,
        find_sym2 fuel s need_def (c.map Prod.fst) 0 0 = some r ∧
          find_sym2 fuel s need_def (c'.map Prod.fst) 0 0 = some r := by
  constructor
  · intro d S t g nb gnb off bloom shift hS ht hT hG s
    obtain ⟨n, hn⟩ := sysv_lookup_spec hS ht hT s
    obtain ⟨k, hk⟩ := gnu_lookup_filtered_spec hS hG s
    refine ⟨⟨lookupSpec d S s, max n k, fun fuel hfuel => ?_⟩, ?_⟩
    · exact ⟨hn fuel (le_of_max_le_left hfuel), hk fuel (le_of_max_le_right hfuel)⟩
    · intro k hk hname
      rw [← hname]
      exact bloomPasses_of_mem hG hk
  · intro c c' hc hc' hsame s need_def
    obtain ⟨n, hn⟩ := find_sym2_spec s need_def c hc
    obtain ⟨k, hk⟩ := find_sym2_spec s need_def c' hc'
    refine ⟨findSpec s need_def c 0, max n k, fun fuel hfuel => ⟨?_, ?_⟩⟩
    · exact hn fuel (le_of_max_le_left hfuel) 0 0 (Or.inl rfl)
    · rw [findSpec_congr hsame]
      exact hk fuel (le_of_max_le_right hfuel) 0 0 (Or.inl rfl)

theorem gnu_hash_lt (s : List UInt8) : gnu_hash s < 2 ^ 32 := by
  induction s using List.reverseRecOn with
  | nil => decide
  | append_singleton s c _ =>
    rw [gnu_hash, foldl_concat]
    exact Nat.mod_lt _ (by decide)

theorem or_one_eq (h : m / 2 = n / 2) : m ||| 1 = n ||| 1 := by
  apply Nat.eq_of_testBit_eq
  intro i
  cases i with
  | zero => simp
  | succ i => simp [Nat.testBit_succ, Nat.or_div_two, h]

/-- One bucket with the symbols 1 and 2, and a filter that lets every name through -/
def collidingTable (x y : Name) : List UInt32 :=
  [1, 1, 1, 6, 0xffffffff, 0xffffffff, 1, .ofNat (gnu_hash x.1 / 2 * 2),
    .ofNat (gnu_hash y.1 / 2 * 2 + 1)]

/-- Two symbols that share a bucket in both tables; `gnu` says if there is a GNU table. -/
def colliding (gnu : Bool) (x y : Name) : Dso where
  syms := [⟨emptyName, 0, 0, 0⟩, ⟨x, 0x12, 5, 0x1000⟩, ⟨y, 0x12, 5, 0x1008⟩]
  versym := none
  hashtab := some [1, 3, 1, 0, 2, 0]
  ghashtab := if gnu then some (collidingTable x y) else none

section

variable {x y : Name} {gnu : Bool}

theorem colliding_symbols (h : x ≠ y) : Symbols (colliding gnu x y) [1, 2] where
  inTable := by simp [colliding]
  versions := by simp [colliding]
  unique := by
    have hne : x.1 ≠ y.1 := fun heq => h (Subtype.ext heq)
    simp [nameAt, colliding, hne, hne.symm]

theorem colliding_sysv : SysvTable (colliding gnu x y) [1, 3, 1, 0, 2, 0] [1, 2] 1 where
  nbucket := rfl
  pos := by decide
  small := by decide
  bucket := by
    intro b hb
    obtain rfl : b = 0 := by omega
    refine ⟨1, [1, 2], rfl, .cons (by decide) rfl (.cons (by decide) rfl .nil), fun k => ?_⟩
    simp [Nat.mod_one]

theorem colliding_gnu : GnuTable (colliding gnu x y) (collidingTable x y) [1, 2] 1 1 1 6 where
  nbuckets := rfl
  pos := by decide
  symoffset := rfl
  maskwords := rfl
  pow := ⟨0, rfl⟩
  shift2 := rfl
  shiftSmall := by decide
  filter := by
    intro w hw
    obtain rfl : w = 0 := by omega
    have hall : ∀ i, (2 ^ 64 - 1).testBit (i % 64) = true := by
      intro i
      rw [Nat.testBit_two_pow_sub_one]
      exact decide_eq_true (Nat.mod_lt i (by decide))
    exact ⟨2 ^ 64 - 1, rfl, fun k _ _ => ⟨hall _, hall _⟩⟩
  bucket := by
    intro b hb
    obtain rfl : b = 0 := by omega
    refine ⟨1, rfl, Or.inr ⟨2, by decide, ⟨by decide, le_rfl, fun k hk hk' => ?_⟩, fun k => ?_⟩⟩
    · have hx := gnu_hash_lt x.1
      have hy := gnu_hash_lt y.1
      obtain rfl | rfl : k = 1 ∨ k = 2 := by omega
      · refine ⟨gnu_hash x.1 / 2 * 2, ?_, or_one_eq ?_, ?_⟩
        · exact congrArg some (UInt32.toNat_ofNat_of_lt' (by rw [UInt32.size]; omega))
        · change _ = gnu_hash x.1 / 2
          omega
        · simp [Nat.and_one_is_mod]
      · refine ⟨gnu_hash y.1 / 2 * 2 + 1, ?_, or_one_eq ?_, ?_⟩
        · exact congrArg some (UInt32.toNat_ofNat_of_lt' (by rw [UInt32.size]; omega))
        · change _ = gnu_hash y.1 / 2
          omega
        · simp [Nat.and_one_is_mod]
    · rw [Nat.mod_one, mem_cons, mem_singleton]
      omega

theorem colliding_table : HasTable (colliding gnu x y) [1, 2] := by
  cases gnu with
  | true => exact .inl ⟨_, _, _, _, _, rfl, colliding_gnu⟩
  | false => exact .inr ⟨rfl, _, _, rfl, colliding_sysv⟩

end

def nameA : Name := ⟨[97], by decide⟩

def nameB : Name := ⟨[98], by decide⟩

def nameC : Name := ⟨[99], by decide⟩

theorem colliding_chain (gnu gnu' : Bool) :
    WellFormedChain [(colliding gnu nameA nameB, [1, 2]),
      (colliding gnu' nameB nameC, [1, 2])] := by
  intro x hx
  simp only [mem_cons, not_mem_nil, or_false] at hx
  rcases hx with rfl | rfl
  · exact ⟨colliding_symbols (by decide), colliding_table⟩
  · exact ⟨colliding_symbols (by decide), colliding_table⟩

/-- The second name of a bucket, and a name that only the second library of a chain has -/
theorem lookups_agree_colliding :
    (∃ r n, ∀ fuel ≥ n,
      sysv_lookup fuel nameB (sysv_hash nameB.1) (colliding true nameA nameB) = some r ∧
      gnu_lookup_filtered fuel (gnu_hash nameB.1) (collidingTable nameA nameB)
        (colliding true nameA nameB) nameB (gnu_hash nameB.1 / 64)
        (1 <<< (gnu_hash nameB.1 % 64)) = some r) ∧
    ∃ r n, ∀ fuel ≥ n,
      find_sym2 fuel nameC true
        [colliding false nameA nameB, colliding true nameB nameC] 0 0 = some r ∧
      find_sym2 fuel nameC true
        [colliding true nameA nameB, colliding false nameB nameC] 0 0 = some r := by
  constructor
  · exact (lookups_agree.1 _ _ _ _ _ _ _ _ _ (colliding_symbols (by decide)) rfl colliding_sysv
      colliding_gnu nameB).1
  · exact lookups_agree.2 _ _ (colliding_chain false true) (colliding_chain true false)
      (.cons ⟨rfl, rfl, rfl⟩ (.cons ⟨rfl, rfl, rfl⟩ .nil)) nameC true

end SymbolLookup
