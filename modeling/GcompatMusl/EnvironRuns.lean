import GcompatMusl.EnvironEntries

/-! # The environment over every run

The invariant links the array, the table of allocated strings and the vector; it holds between the
calls, and the array then means the map that the calls describe. -/
namespace Environ

open Function List Option Prod

def pairsOf (st : State) (es : List ℕ) : List (List UInt8 × List UInt8) :=
  es.filterMap fun p => parse (st.text p)

/-- `oldenv` is null or the vector that `environ` points to, which was then allocated. -/
def OldVec (st : State) : Prop :=
  st.oldenv = none ∨ st.oldenv = st.environ ∧ ∃ v vec, st.environ = some v ∧ st.vecs v = some vec ∧
    vec.malloced = true

structure Inv (st : State) (es : List ℕ) : Prop where
  lists : Lists st es
  readable : Readable st es
  table : Table st es
  once : ∀ p ∈ st.live, es.count p ≤ 1
  apart : ∀ p ∈ st.live, p ∉ st.owned
  old : OldVec st
  names : ((pairsOf st es).map fst).Nodup

variable {st : State} {p s : ℕ} {x r : Option ℕ} {es a b es' kept : List ℕ}
  {name value : List UInt8}

variable {old : List UInt8}

theorem storeCell_spec (x : Option ℕ)
    (hvec : st.vecs v = some ⟨a.map some ++ g :: rest, malloced⟩) :
    ∃ vecs', st.storeCell v a.length x = some (st.withVecs vecs') ∧
      vecs' v = some ⟨a.map some ++ x :: rest, malloced⟩ := by
  have hlen : a.length < (a.map some ++ g :: rest).length := by
    rw [length_append, length_map, length_cons]
    omega
  have hset : (a.map some ++ g :: rest).set a.length x = a.map some ++ x :: rest := by
    have hmap : a.length = (a.map some).length := (length_map _).symm
    rw [hmap, set_append_right _ _ (Nat.le_refl _), Nat.sub_self]
    rfl
  refine ⟨update st.vecs v _, ?_, update_self ..⟩
  rw [State.storeCell, hvec, bind_some, if_pos hlen, hset]

theorem pairsOf_append (st : State) (a b : List ℕ) :
    pairsOf st (a ++ b) = pairsOf st a ++ pairsOf st b := filterMap_append

theorem pairsOf_cons_some {x : List UInt8 × List UInt8} (b : List ℕ)
    (hp : parse (st.text p) = some x) : pairsOf st (p :: b) = x :: pairsOf st b := by
  rw [pairsOf, filterMap_cons, hp]
  rfl

theorem pairsOf_cons_none (b : List ℕ) (hp : parse (st.text p) = none) :
    pairsOf st (p :: b) = pairsOf st b := by
  rw [pairsOf, filterMap_cons, hp]
  rfl

theorem pairsOf_congr (h : ∀ p ∈ es, st'.text p = st.text p) : pairsOf st' es = pairsOf st es :=
  filterMap_congr fun p hp => by rw [h p hp]

theorem OldVec.of_same (h : OldVec st) (hsame : SameArray st st') : OldVec st' := by
  rw [OldVec, hsame.oldenv, hsame.environ, hsame.vecs]
  exact h

theorem OldVec.at_vec (h : OldVec st) (hv : st.environ = some v) (hvec : st.vecs v = some vec) :
    st.oldenv = none ∨ st.oldenv = st.environ ∧ vec.malloced = true := by
  rcases h with hnone | ⟨heq, v', vec', hv', hvec', hmalloced⟩
  · exact .inl hnone
  · obtain rfl : v = v' := some.inj (hv.symm.trans hv')
    obtain rfl : vec = vec' := some.inj (hvec.symm.trans hvec')
    exact .inr ⟨heq, hmalloced⟩

theorem Lists.of_same (h : Lists st es) (hsame : SameArray st st') : Lists st' es := by
  rw [Lists, hsame.environ, hsame.vecs]
  exact h

/-- The string `s` that goes into the environment: the caller's, or one just allocated, which then
is also `r`. -/
def Enters (st : State) (es : List ℕ) (s : ℕ) (r : Option ℕ) : Prop :=
  r = none ∧ s ∈ st.owned ∨ r = some s ∧ s ∈ st.live ∧ s ∉ es

theorem Enters.readable (h : Enters st es s r) : s ∈ st.live ∨ s ∈ st.owned := by
  rcases h with ⟨-, hs⟩ | ⟨-, hs, -⟩
  · exact .inr hs
  · exact .inl hs

theorem Inv.not_mem_of_count (h : Inv st (a ++ p :: b)) (hp : p ∈ st.live) : p ∉ a ∧ p ∉ b := by
  have hcount := h.once p hp
  rw [count_append, count_cons_self] at hcount
  exact ⟨count_eq_zero.mp (by omega), count_eq_zero.mp (by omega)⟩

theorem Enters.ne (h : Inv st (a ++ p :: b)) (hs : Enters st (a ++ p :: b) s r) (hp : p ∈ st.live) :
    s ≠ p := by
  rintro rfl
  rcases hs with ⟨-, howned⟩ | ⟨-, -, hnot⟩
  · exact h.apart s hp howned
  · exact hnot (mem_append_right a mem_cons_self)

theorem Enters.once (hs : Enters st es s r) (honce : ∀ p ∈ st.live, es.count p ≤ 1)
    (hapart : ∀ p ∈ st.live, p ∉ st.owned) (hcount : ∀ p, p ≠ s → es'.count p ≤ es.count p)
    (hnew : es'.count s ≤ es.count s + 1) : ∀ p ∈ st.live, es'.count p ≤ 1 := by
  intro p hp
  by_cases heq : p = s
  · subst heq
    rcases hs with ⟨-, howned⟩ | ⟨-, -, hnot⟩
    · exact absurd howned (hapart p hp)
    · rw [count_eq_zero.mpr hnot] at hnew
      exact hnew
  · exact (hcount p heq).trans (honce p hp)

structure Rewritten (st st' : State) : Prop where
  text : st'.text = st.text
  owned : st'.owned = st.owned
  live : st'.live = st.live
  env_alloced : st'.env_alloced = st.env_alloced
  freed : st'.freed = st.freed

/-- The list `es'` comes from `es` by the entry of `s`, in the place of `old` if that is there. -/
structure Exchanged (st : State) (es es' : List ℕ) (s : ℕ) (old : Option ℕ) : Prop where
  mem : s ∈ es'
  kept : ∀ p ∈ es, old ≠ some p → p ∈ es'
  origin : ∀ p ∈ es', p = s ∨ p ∈ es
  gone : ∀ p ∈ st.live, old = some p → p ∉ es'
  count : ∀ p, p ≠ s → es'.count p ≤ es.count p
  count_new : es'.count s ≤ es.count s + 1
  names : ((pairsOf st es').map fst).Nodup

/-- The entries of `st'` are `es'`, and between the two states only the strings `fs` were freed. -/
abbrev Settled (st st' : State) (es' : List ℕ) (fs : List (ℕ × List ℕ)) : Prop :=
  Inv st' es' ∧ st'.text = st.text ∧ st'.owned = st.owned ∧ Frees st st' fs ∧ ∀ f ∈ fs, f.1 ∉ f.2

/-- The part of `__putenv` behind the change of the array: the old string may be freed. -/
theorem exchanged_inv {old : Option ℕ} (h : Inv st es) (hre : Rewritten st st1)
    (hlists : Lists st1 es') (hold : OldVec st1) (hs : Enters st es s r)
    (hex : Exchanged st es es' s old) (table : Bool) :
    ∃ st' fs, env_rm_add st1 old r table = some st' ∧ Settled st st' es' fs := by
  have htable : Table st1 es := by
    refine ⟨?_, ?_⟩
    · rw [hre.env_alloced]
      exact h.table.nodup
    · rw [hre.env_alloced, hre.live]
      exact h.table.tracked
  have hnew : ∀ n, r = some n →
      n ∈ st1.live ∧ n ∈ es' ∧ n ∉ somes st1.env_alloced ∧ old ≠ some n := by
    intro n hn
    rcases hs with ⟨hr, -⟩ | ⟨hr, hlive, hnot⟩
    · rw [hr] at hn
      cases hn
    · obtain rfl : s = n := some.inj (hr.symm.trans hn)
      rw [hre.live, hre.env_alloced]
      exact ⟨hlive, hex.mem, fun hmem => hnot (h.table.tracked s hmem).2,
        fun heq => hex.gone s hlive heq hex.mem⟩
  obtain ⟨st', fs, hrm, htable', hsame, hfrees, hfs, hlive⟩ :=
    env_rm_add_spec htable table hnew hex.kept
  have htext : st'.text = st.text := hsame.text.trans hre.text
  have howned : st'.owned = st.owned := hsame.owned.trans hre.owned
  have hfrees' : Frees st st' fs := by
    refine ⟨?_, ?_, ?_, hfrees.nodup⟩
    · rw [hfrees.freed, hre.freed]
    · rw [← hre.live]
      exact hfrees.live
    · rw [← hre.live]
      exact hfrees.gone
  have hreadable : Readable st' es' := by
    intro p hp
    have hbefore : p ∈ st.live ∨ p ∈ st.owned := by
      rcases hex.origin p hp with rfl | hmem
      · exact hs.readable
      · exact h.readable p hmem
    rw [howned]
    rcases hbefore with hlive' | howned'
    · refine .inl (hlive p ?_ fun heq => hex.gone p hlive' heq hp)
      rw [hre.live]
      exact hlive'
    · exact .inr howned'
  refine ⟨st', fs, hrm, ?_, htext, howned, hfrees', ?_⟩
  · refine ⟨hlists.of_same hsame, hreadable, htable', ?_, ?_, hold.of_same hsame, ?_⟩
    · exact fun p hp => hs.once h.once h.apart hex.count hex.count_new p (hfrees'.live hp)
    · rw [howned]
      exact fun p hp => h.apart p (hfrees'.live hp)
    · rw [pairsOf_congr fun p _ => congrFun htext p]
      exact hex.names
  · intro f hf
    obtain ⟨heq, hentries⟩ := hfs f hf
    rw [hentries, hlists.entries]
    exact hex.gone f.1 (hfrees'.gone f hf).1 heq

theorem mem_append_cons_of_ne (hq : q ∈ a ++ p :: b) (hne : some p ≠ some q) (hb : b ⊆ b') :
    q ∈ a ++ b' := by
  rcases mem_append.mp hq with hq | hq
  · exact mem_append_left _ hq
  · exact mem_append_right a (hb ((mem_cons.mp hq).resolve_left fun heq => hne (heq ▸ rfl)))

section

variable (h : Inv st (a ++ p :: b)) (hs : Enters st (a ++ p :: b) s r)
  (hp : parse (st.text p) = some (name, old)) (ht : parse (st.text s) = some (name, value))
include h hs hp ht

theorem replaced_exchanged : Exchanged st (a ++ p :: b) (a ++ s :: b) s (some p) := by
  refine ⟨mem_append_right a mem_cons_self, ?_, ?_, ?_, ?_, ?_, ?_⟩
  · exact fun q hq hne => mem_append_cons_of_ne hq hne (subset_cons_self s b)
  · refine forall_mem_append.mpr ⟨fun q hq => .inr (mem_append_left _ hq), ?_⟩
    exact forall_mem_cons.mpr
      ⟨.inl rfl, fun q hq => .inr (mem_append_right a (mem_cons_of_mem p hq))⟩
  · intro q hq heq hmem
    obtain rfl : p = q := some.inj heq
    obtain ⟨ha, hb⟩ := h.not_mem_of_count hq
    rcases mem_append.mp hmem with hmem | hmem
    · exact ha hmem
    · rcases mem_cons.mp hmem with heq | hmem
      · exact hs.ne h hq heq.symm
      · exact hb hmem
  · intro q hq
    rw [count_append, count_append, count_cons_of_ne hq.symm]
    exact Nat.add_le_add_left count_le_count_cons _
  · rw [count_append, count_append, count_cons_self]
    exact Nat.add_le_add_left (Nat.succ_le_succ count_le_count_cons) _
  · have hnames := h.names
    rw [pairsOf_append, pairsOf_cons_some b hp, map_append] at hnames
    rw [pairsOf_append, pairsOf_cons_some b ht, map_append]
    exact hnames

theorem replaceEntry_spec (table : Bool) :
    ∃ st' fs, replaceEntry st s a.length p r table = some (.done, st') ∧
      Settled st st' (a ++ s :: b) fs := by
  rcases h.lists with ⟨-, hnil⟩ | ⟨v, vec, junk, hv, hvec, hcells⟩
  · exact absurd hnil (append_ne_nil_of_right_ne_nil a (cons_ne_nil p b))
  obtain ⟨cells, malloced⟩ := vec
  obtain rfl : cells = _ := hcells
  have hold := h.old.at_vec hv hvec
  rw [map_append, append_assoc] at hvec
  obtain ⟨vecs', hstore, hvec'⟩ := storeCell_spec (some s) hvec
  have hlists : Lists (st.withVecs vecs') (a ++ s :: b) := by
    refine .inr ⟨v, _, junk, hv, hvec', ?_⟩
    rw [map_append, append_assoc]
    rfl
  have hold' : OldVec (st.withVecs vecs') :=
    hold.imp id fun ⟨heq, hmalloced⟩ => ⟨heq, v, _, hv, hvec', hmalloced⟩
  have hre : Rewritten st (st.withVecs vecs') := ⟨rfl, rfl, rfl, rfl, rfl⟩
  obtain ⟨st', fs, hrm, hrest⟩ :=
    exchanged_inv h hre hlists hold' hs (replaced_exchanged h hs hp ht) table
  refine ⟨st', fs, ?_, hrest⟩
  rw [replaceEntry, hv, bind_some, hstore, bind_some, hrm]
  rfl

end

theorem newVec_spec (h : Inv st es) (fill : Option ℕ) (w : ℕ) :
    ∃ vecs' x y, newVec st es.length fill w = some (st.withVecs vecs') ∧
      vecs' w = some ⟨es.map some ++ [x, y], true⟩ := by
  rw [newVec]
  rcases h.lists with ⟨hnone, rfl⟩ | ⟨v, vec, junk, hv, hvec, hcells⟩
  · rcases h.old with hold | ⟨-, v, vec, hv, -⟩
    · rw [if_pos (hnone.trans hold.symm), reallocVec, hold]
      exact ⟨_, fill, fill, rfl, update_self ..⟩
    · rw [hnone] at hv
      cases hv
  rcases h.old.at_vec hv hvec with hold | ⟨heq, hmalloced⟩
  · -- the first vector of all is a copy of the array that the program was started with
    have hne : ¬ st.environ = st.oldenv := by
      rw [hold, hv]
      nofun
    have hlen : es.length ≤ st.cells.length := by
      rw [cells_of_vec hv hvec, hcells, length_append, length_map]
      exact Nat.le_add_right _ _
    have htake : st.cells.take es.length = es.map some := by
      rw [cells_of_vec hv hvec, hcells]
      exact take_left' (length_map _)
    rw [if_neg hne, copyVec, if_pos hlen, hold, htake]
    exact ⟨_, fill, fill, rfl, update_self ..⟩
  · have htwo : (((none :: junk) ++ replicate (es.length + 2) fill).take 2).length = 2 := by
      rw [length_take, length_append, length_replicate]
      omega
    obtain ⟨x, y, hxy⟩ := length_eq_two.mp htwo
    have htake : (vec.cells ++ replicate (es.length + 2) fill).take (es.length + 2) =
        es.map some ++ [x, y] := by
      have hcut : (es.map some ++ ((none :: junk) ++ replicate (es.length + 2) fill)).take
          ((es.map some).length + 2) = _ := take_length_add_append 2
      rw [length_map] at hcut
      rw [hcells, append_assoc, hcut, hxy]
    rw [if_pos heq.symm, reallocVec, heq, hv]
    dsimp only
    rw [hvec, bind_some, if_pos hmalloced, htake]
    exact ⟨_, x, y, rfl, update_self ..⟩

theorem parse_ne_of_miss {hit : List UInt8 → Bool}
    (hhit : ∀ {e}, hit e = true ↔ ∃ value, parse e = some (name, value))
    (h : ∀ q ∈ es, hit (st.text q) = false) :
    ∀ q ∈ es, ∀ value, parse (st.text q) ≠ some (name, value) := by
  intro q hq value hparse
  have hmiss := h q hq
  rw [hhit.mpr ⟨value, hparse⟩] at hmiss
  cases hmiss

theorem name_not_mem (h : ∀ q ∈ es, ∀ value, parse (st.text q) ≠ some (name, value)) :
    name ∉ (pairsOf st es).map fst := by
  intro hmem
  obtain ⟨x, hx, rfl⟩ := mem_map.mp hmem
  obtain ⟨q, hq, hparse⟩ := mem_filterMap.mp hx
  exact h q hq x.2 hparse

theorem appended_exchanged (h : Inv st es)
    (hno : ∀ q ∈ es, ∀ value, parse (st.text q) ≠ some (name, value))
    (ht : parse (st.text s) = some (name, value)) : Exchanged st es (es ++ [s]) s none := by
  refine ⟨mem_append_right es mem_cons_self, fun p hp _ => mem_append_left _ hp, ?_,
    nofun, ?_, ?_, ?_⟩
  · exact forall_mem_append.mpr ⟨fun p hp => .inr hp, forall_mem_singleton.mpr (.inl rfl)⟩
  · intro p hp
    rw [count_append, count_singleton, beq_false_of_ne hp.symm]
    exact Nat.le_refl _
  · rw [count_append, count_singleton_self]
  · rw [pairsOf_append, pairsOf_cons_some [] ht, map_append]
    refine nodup_append.mpr ⟨h.names, nodup_singleton name, ?_⟩
    intro x hx y hy hxy
    rw [hxy, mem_singleton.mp hy] at hx
    exact name_not_mem hno hx

theorem appendEntry_spec (h : Inv st es) (hs : Enters st es s r)
    (hw : vecs' w = some ⟨es.map some ++ [x, y], true⟩)
    (hno : ∀ q ∈ es, ∀ value, parse (st.text q) ≠ some (name, value))
    (ht : parse (st.text s) = some (name, value)) (table : Bool) :
    ∃ st' fs, appendEntry (st.withVecs vecs') s es.length r table w = some (.done, st') ∧
      Settled st st' (es ++ [s]) fs := by
  have hw' : (st.withVecs vecs').vecs w = some ⟨es.map some ++ x :: [y], true⟩ := hw
  obtain ⟨vecs1, hstore1, hvec1⟩ := storeCell_spec (some s) hw'
  have hvec1' : (st.withVecs vecs1).vecs w = some ⟨(es ++ [s]).map some ++ y :: [], true⟩ := by
    refine hvec1.trans ?_
    rw [map_append, append_assoc]
    rfl
  obtain ⟨vecs2, hstore2, hvec2⟩ := storeCell_spec none hvec1'
  have hstore2' : ((st.withVecs vecs').withVecs vecs1).storeCell w (es.length + 1) none =
      some (st.withVecs vecs2) := by
    rw [length_append] at hstore2
    exact hstore2
  have hre : Rewritten st { st.withVecs vecs2 with environ := some w, oldenv := some w } :=
    ⟨rfl, rfl, rfl, rfl, rfl⟩
  obtain ⟨st', fs, hrm, hrest⟩ := exchanged_inv h hre (.inr ⟨w, _, [], rfl, hvec2, rfl⟩)
    (.inr ⟨rfl, w, _, rfl, hvec2, rfl⟩) hs (appended_exchanged h hno ht) table
  have hif : (if r = none then some { st.withVecs vecs2 with environ := some w, oldenv := some w }
      else env_rm_add { st.withVecs vecs2 with environ := some w, oldenv := some w } none r table) =
        some st' := by
    split
    · rename_i hr
      rw [← hrm, hr, env_rm_add_nothing]
    · exact hrm
  refine ⟨st', fs, ?_, hrest⟩
  rw [appendEntry, hstore1, bind_some, hstore2', bind_some]
  dsimp only
  rw [hif]
  rfl

/-- What `__putenv` does: the pair enters the map, or there is no memory and nothing happens but
that a string just allocated is freed. -/
structure Put (st st' : State) (es' : List ℕ) (status : Status) (name value : List UInt8)
    (fs : List (ℕ × List ℕ)) : Prop where
  inv : Inv st' es'
  text : st'.text = st.text
  owned : st'.owned = st.owned
  frees : Frees st st' fs
  order : ∀ f ∈ fs, f.1 ∉ f.2
  valid : status ≠ .EINVAL
  map : ∀ x, (pairsOf st' es').lookup x =
    if status = .done then update st.map name (some value) x else st.map x

section

variable (h : Inv st es)
include h

theorem Inv.map_eq (x : List UInt8) : st.map x = (pairsOf st es).lookup x := by
  rw [State.map, State.pairs, h.lists.entries]
  rfl

theorem Inv.free_new (hs : Enters st es s r) :
    ∃ st' fs, st.free r = some st' ∧ Settled st st' es fs := by
  rcases hs with ⟨rfl, -⟩ | ⟨rfl, hlive, hnot⟩
  · exact ⟨st, [], rfl, h, rfl, rfl, Frees.none rfl rfl, nofun⟩
  · refine ⟨_, [(s, st.entries)], if_pos hlive, ?_, rfl, rfl,
      ⟨rfl, Finset.erase_subset s st.live, ?_, nodup_singleton s⟩, ?_⟩
    · have hkeep : ∀ p ∈ es, p ∈ st.live → p ∈ st.live.erase s := by
        intro p hp hlive'
        refine Finset.mem_erase.mpr ⟨?_, hlive'⟩
        rintro rfl
        exact hnot hp
      refine ⟨h.lists, ?_, ⟨h.table.nodup, ?_⟩, ?_, ?_, h.old, h.names⟩
      · exact fun p hp => (h.readable p hp).imp_left (hkeep p hp)
      · intro p hp
        obtain ⟨hlive', hmem⟩ := h.table.tracked p hp
        exact ⟨hkeep p hmem hlive', hmem⟩
      · exact fun p hp => h.once p (Finset.mem_of_mem_erase hp)
      · exact fun p hp => h.apart p (Finset.mem_of_mem_erase hp)
    · exact forall_mem_singleton.mpr ⟨hlive, Finset.notMem_erase s st.live⟩
    · rw [h.lists.entries]
      exact forall_mem_singleton.mpr hnot

theorem libc_putenv_spec (hs : Enters st es s r) (hname : ValidName name)
    (htext : st.text s = name ++ 61 :: value) (o : Oracle) :
    ∃ status st' es' fs, libc_putenv st s name.length r o = some (status, st') ∧
      Put st st' es' status name value fs := by
  have hread : st.read s = some (st.text s) := if_pos hs.readable
  have hparse : parse (st.text s) = some (name, value) := parse_eq_some_iff.mpr ⟨htext, hname⟩
  rw [libc_putenv, hread, bind_some, htext]
  rcases findEntry_spec h.lists h.readable
      (fun e => strncmp (name ++ 61 :: value) e (name.length + 1)) with
    ⟨a, p, b, rfl, hhit, hbefore, hfind⟩ | ⟨hno, hfind⟩
  · obtain ⟨old, hold⟩ := (putHit_iff hname).mp hhit
    obtain ⟨st', fs, hreplace, hinv, htext', howned, hfrees, horder⟩ :=
      replaceEntry_spec h hs hold hparse o.table
    refine ⟨.done, st', a ++ s :: b, fs, ?_, hinv, htext', howned, hfrees, horder, nofun, ?_⟩
    · rw [hfind]
      exact hreplace
    · intro x
      have hfirst := name_not_mem (parse_ne_of_miss (putHit_iff hname) hbefore)
      have hmap : st.map = _ := funext h.map_eq
      rw [pairsOf_append, pairsOf_cons_some b hold] at hmap
      rw [hmap, pairsOf_congr fun p _ => congrFun htext' p, pairsOf_append,
        pairsOf_cons_some b hparse]
      exact lookup_replace hfirst x
  · have hmiss := parse_ne_of_miss (putHit_iff hname) hno
    rw [hfind, bind_some, putAt]
    cases hvec : o.vec with
    | none =>
      obtain ⟨st', fs, hfree, hinv, htext', howned, hfrees, horder⟩ := h.free_new hs
      refine ⟨.oom, st', es, fs, ?_, hinv, htext', howned, hfrees, horder, nofun, ?_⟩
      · rw [hfree]
        rfl
      · intro x
        rw [if_neg nofun, h.map_eq, pairsOf_congr fun p _ => congrFun htext' p]
    | some w =>
      obtain ⟨vecs', x, y, hnew, hw⟩ := newVec_spec h o.fill w
      obtain ⟨st', fs, happend, hinv, htext', howned, hfrees, horder⟩ :=
        appendEntry_spec h hs hw hmiss hparse o.table
      refine ⟨.done, st', es ++ [s], fs, ?_, hinv, htext', howned, hfrees, horder, nofun, ?_⟩
      · dsimp only
        rw [hnew]
        exact happend
      · intro x
        have hmap : st.map = _ := funext h.map_eq
        rw [hmap, pairsOf_congr fun p _ => congrFun htext' p, pairsOf_append,
          pairsOf_cons_some [] hparse]
        exact lookup_insert (name_not_mem hmiss) x

theorem Inv.alloc (hs : s ∉ st.live ∧ s ∉ st.owned) (t : List UInt8) :
    s ∉ es ∧ Inv (st.alloc s t) es ∧ ∀ p ∈ es, (st.alloc s t).text p = st.text p := by
  have hnot : s ∉ es := fun hmem => (h.readable s hmem).elim hs.1 hs.2
  have htext : ∀ p ∈ es, (st.alloc s t).text p = st.text p := by
    intro p hp
    refine update_of_ne ?_ ..
    rintro rfl
    exact hnot hp
  refine ⟨hnot, ⟨h.lists, ?_, ⟨h.table.nodup, ?_⟩, ?_, ?_, h.old, ?_⟩, htext⟩
  · exact fun p hp => (h.readable p hp).imp_left Finset.mem_insert_of_mem
  · exact fun p hp => ⟨Finset.mem_insert_of_mem (h.table.tracked p hp).1, (h.table.tracked p hp).2⟩
  · refine Finset.forall_mem_insert _ _ _ |>.mpr ⟨?_, h.once⟩
    rw [count_eq_zero.mpr hnot]
    exact Nat.zero_le 1
  · exact Finset.forall_mem_insert _ _ _ |>.mpr ⟨hs.2, h.apart⟩
  · rw [pairsOf_congr htext]
    exact h.names

theorem Inv.hold (hs : s ∉ st.live) (ht : s ∈ es → st.text s = t) :
    Inv (st.hold s t) es ∧ ∀ p ∈ es, (st.hold s t).text p = st.text p := by
  have htext : ∀ p ∈ es, (st.hold s t).text p = st.text p := by
    intro p hp
    by_cases heq : p = s
    · subst heq
      rw [ht hp]
      exact update_self ..
    · exact update_of_ne heq ..
  refine ⟨⟨h.lists, ?_, ⟨h.table.nodup, h.table.tracked⟩, h.once, ?_, h.old, ?_⟩, htext⟩
  · exact fun p hp => (h.readable p hp).imp_right Finset.mem_insert_of_mem
  · intro p hp hmem
    rcases Finset.mem_insert.mp hmem with rfl | hmem
    · exact hs hp
    · exact h.apart p hp hmem
  · rw [pairsOf_congr htext]
    exact h.names

theorem Inv.letGo (hs : s ∉ es) : Inv (st.letGo s) es := by
  refine ⟨h.lists, ?_, ⟨h.table.nodup, h.table.tracked⟩, h.once, ?_, h.old, h.names⟩
  · intro p hp
    refine (h.readable p hp).imp_right fun howned => Finset.mem_erase.mpr ⟨?_, howned⟩
    rintro rfl
    exact hs hp
  · exact fun p hp hmem => h.apart p hp (Finset.mem_of_mem_erase hmem)

theorem getenv_spec (name : List UInt8) : (∃ p n, getenv st name = some (some (p, n)) ∧ p ∈ es ∧
      st.map name = some ((st.text p).drop n)) ∨
    (getenv st name = some none ∧ st.map name = none) := by
  by_cases hvalid : nameLength name ≠ 0 ∧ nameLength name = name.length
  · have hname := validName_iff.mp hvalid
    rw [getenv, if_pos hvalid, h.map_eq]
    rcases findEntry_spec h.lists h.readable (hits name) with
      ⟨a, p, b, rfl, hhit, hbefore, hfind⟩ | ⟨hno, hfind⟩
    · refine .inl ⟨p, nameLength name + 1, ?_, mem_append_right a mem_cons_self, ?_⟩
      · rw [hfind]
        rfl
      · obtain ⟨value, hvalue⟩ := (hits_iff hname).mp hhit
        have hfirst := name_not_mem (parse_ne_of_miss (hits_iff hname) hbefore)
        rw [pairsOf_append, pairsOf_cons_some b hvalue, lookup_append_of_not_mem hfirst,
          lookup_cons, beq_self_eq_true, (parse_eq_some_iff.mp hvalue).1, hvalid.2,
          ← drop_drop, drop_left' rfl]
        rfl
    · refine .inr ⟨?_, lookup_of_not_mem (name_not_mem (parse_ne_of_miss (hits_iff hname) hno))⟩
      rw [hfind]
      rfl
  · refine .inr ⟨if_neg hvalid, lookup_of_not_mem (name_not_mem fun q hq w hw => ?_)⟩
    exact hvalid (validName_iff.mpr (parse_eq_some_iff.mp hw).2)

end

/-- The loop of `unsetenv` in the middle: it has kept `kept`, passed as many cells as `kept` and
`gap` have, and `rest` is still to come. -/
structure Unsetting (st : State) (v : ℕ) (kept : List ℕ) (gap : List (Option ℕ)) (rest : List ℕ)
    (junk : List (Option ℕ)) (malloced : Bool) : Prop where
  vec : st.vecs v = some ⟨kept.map some ++ (gap ++ (rest.map some ++ none :: junk)), malloced⟩
  readable : Readable st (kept ++ rest)
  table : Table st (kept ++ rest)
  once : ∀ p ∈ st.live, (kept ++ rest).count p ≤ 1

structure Shrunk (st st' : State) : Prop where
  text : st'.text = st.text
  owned : st'.owned = st.owned
  environ : st'.environ = st.environ
  oldenv : st'.oldenv = st.oldenv

theorem Shrunk.trans (h : Shrunk st st') (h' : Shrunk st' st'') : Shrunk st st'' :=
  ⟨h'.text.trans h.text, h'.owned.trans h.owned, h'.environ.trans h.environ,
    h'.oldenv.trans h.oldenv⟩

theorem cell_at (hi : i = kept.length + gap.length) :
    (kept.map some ++ (gap ++ x :: rest))[i]? = some x := by
  rw [← append_assoc, getElem?_append_right]
  · rw [hi, length_append, length_map, Nat.sub_self]
    rfl
  · rw [hi, length_append, length_map]

theorem unset_drop (h : Unsetting st v kept gap (p :: rest) junk malloced) :
    ∃ st' fs, env_rm_add st (some p) none true = some st' ∧
      Unsetting st' v kept (gap ++ [some p]) rest junk malloced ∧ Shrunk st st' ∧
      Frees st st' fs := by
  have hes : ∀ q ∈ kept ++ p :: rest, some p ≠ some q → q ∈ kept ++ rest :=
    fun q hq hne => mem_append_cons_of_ne hq hne (Subset.refl rest)
  obtain ⟨st', fs, hrm, htable, hsame, hfrees, hfs, hlive⟩ :=
    env_rm_add_spec h.table true (show ∀ n, (none : Option ℕ) = some n → _ from nofun) hes
  have hcount : ∀ q, (kept ++ rest).count q ≤ (kept ++ p :: rest).count q := by
    intro q
    rw [count_append, count_append]
    exact Nat.add_le_add_left count_le_count_cons _
  refine ⟨st', fs, hrm, ⟨?_, ?_, htable, ?_⟩,
    ⟨hsame.text, hsame.owned, hsame.environ, hsame.oldenv⟩, hfrees⟩
  · rw [hsame.vecs, h.vec, append_assoc]
    rfl
  · intro q hq
    have hmem : q ∈ kept ++ p :: rest :=
      (mem_append.mp hq).elim (mem_append_left _)
        fun hq => mem_append_right _ (mem_cons_of_mem p hq)
    rw [hsame.owned]
    refine (h.readable q hmem).imp_left fun hq' => hlive q hq' fun heq => ?_
    -- an allocated string is in the array once
    obtain rfl : p = q := some.inj heq
    have honce := h.once p hq'
    rw [count_append, count_cons_self] at honce
    have hpos := count_pos_iff.mpr hq
    rw [count_append] at hpos
    omega
  · exact fun q hq => (hcount q).trans (h.once q (hfrees.live hq))

theorem Unsetting.moved (h : Unsetting st v kept gap rest junk malloced)
    (hvec : vecs' v =
      some ⟨kept'.map some ++ (gap' ++ (rest'.map some ++ none :: junk')), malloced⟩)
    (hsplit : kept' ++ rest' = kept ++ rest) :
    Unsetting (st.withVecs vecs') v kept' gap' rest' junk' malloced ∧
      Shrunk st (st.withVecs vecs') ∧ Frees st (st.withVecs vecs') [] := by
  refine ⟨⟨hvec, ?_, ?_, ?_⟩, ⟨rfl, rfl, rfl, rfl⟩, Frees.none rfl rfl⟩ <;> rw [hsplit]
  · exact h.readable
  · exact ⟨h.table.nodup, h.table.tracked⟩
  · exact h.once

theorem unset_keep (h : Unsetting st v kept gap (p :: rest) junk malloced) :
    ∃ st' gap', (if kept.length ≠ kept.length + gap.length then st.storeCell v kept.length (some p)
        else some st) = some st' ∧ gap'.length = gap.length ∧
      Unsetting st' v (kept ++ [p]) gap' rest junk malloced ∧ Shrunk st st' ∧ Frees st st' [] := by
  have hsplit : kept ++ [p] ++ rest = kept ++ p :: rest := by
    rw [append_assoc]
    rfl
  cases gap with
  | nil =>
    refine ⟨st, [], if_neg (fun hne => hne rfl), rfl, h.moved ?_ hsplit⟩
    rw [h.vec, map_append, append_assoc]
    rfl
  | cons g gap =>
    obtain ⟨vecs', hstore, hvec⟩ := storeCell_spec (some p) h.vec
    have hne : kept.length ≠ kept.length + (g :: gap).length := by
      rw [length_cons]
      omega
    refine ⟨_, gap ++ [some p], (if_pos hne).trans hstore, length_append, h.moved ?_ hsplit⟩
    rw [hvec, map_append, append_assoc, append_assoc]
    rfl

theorem unset_end (h : Unsetting st v kept gap [] junk malloced) :
    ∃ st' junk', (if kept.length ≠ kept.length + gap.length then st.storeCell v kept.length none
        else some st) = some st' ∧ Unsetting st' v kept [] [] junk' malloced ∧ Shrunk st st' ∧
      Frees st st' [] := by
  cases gap with
  | nil => exact ⟨st, junk, if_neg (fun hne => hne rfl), h.moved h.vec rfl⟩
  | cons g gap =>
    obtain ⟨vecs', hstore, hvec⟩ := storeCell_spec none h.vec
    have hne : kept.length ≠ kept.length + (g :: gap).length := by
      rw [length_cons]
      omega
    exact ⟨_, gap ++ none :: junk, (if_pos hne).trans hstore, h.moved hvec rfl⟩

theorem unsetLoop_spec (hit : List UInt8 → Bool) (v : ℕ) (rest : List ℕ) :
    ∀ {fuel : ℕ} {st : State} {kept : List ℕ} {gap junk : List (Option ℕ)}, rest.length < fuel →
      Unsetting st v kept gap rest junk malloced →
      ∃ st' fs junk', unsetLoop hit v fuel (kept.length + gap.length) kept.length st = some st' ∧
        Unsetting st' v (kept ++ rest.filter fun p => !hit (st.text p)) [] [] junk' malloced ∧
        Shrunk st st' ∧ Frees st st' fs := by
  induction rest with
  | nil =>
    intro fuel st kept gap junk hfuel h
    obtain ⟨fuel, rfl⟩ := Nat.exists_eq_add_of_lt hfuel
    obtain ⟨st', junk', hend, hunset, hshrunk, hfrees⟩ := unset_end h
    refine ⟨st', [], junk', ?_, ?_, hshrunk, hfrees⟩
    · rw [unsetLoop, h.vec, bind_some, map_nil, nil_append, cell_at rfl]
      exact hend
    · rw [filter_nil, append_nil]
      exact hunset
  | cons p rest ih =>
    intro fuel st kept gap junk hfuel h
    obtain ⟨fuel, rfl⟩ := Nat.exists_eq_add_of_lt (Nat.zero_lt_of_lt hfuel)
    rw [Nat.zero_add] at hfuel ⊢
    have hfuel' : rest.length < fuel := Nat.lt_of_succ_lt_succ hfuel
    have hread : st.read p = some (st.text p) :=
      if_pos (h.readable p (mem_append_right _ mem_cons_self))
    rw [unsetLoop, h.vec, bind_some, map_cons, cons_append, cell_at rfl, bind_some]
    dsimp only
    rw [hread, bind_some]
    by_cases hhit : hit (st.text p) = true
    · obtain ⟨st1, fs, hrm, hunset, hshrunk, hfrees⟩ := unset_drop h
      obtain ⟨st', gs, junk', hloop, hunset', hshrunk', hfrees'⟩ := ih hfuel' hunset
      refine ⟨st', fs ++ gs, junk', ?_, ?_, hshrunk.trans hshrunk', hfrees.trans hfrees'⟩
      · rw [if_pos hhit, hrm]
        rw [length_append] at hloop
        exact hloop
      · rw [hshrunk.text] at hunset'
        rw [filter_cons_of_neg (by rw [hhit]; decide)]
        exact hunset'
    · obtain ⟨st1, gap', hstore, hlen, hunset, hshrunk, hfrees⟩ := unset_keep h
      obtain ⟨st', gs, junk', hloop, hunset', hshrunk', hfrees'⟩ := ih hfuel' hunset
      refine ⟨st', [] ++ gs, junk', ?_, ?_, hshrunk.trans hshrunk', hfrees.trans hfrees'⟩
      · rw [if_neg hhit]
        rw [hlen, length_append] at hloop
        have hnext : kept.length + gap.length + 1 = kept.length + [p].length + gap.length :=
          Nat.add_right_comm ..
        rw [hnext]
        split at hstore
        · rename_i hne
          rw [if_pos hne, hstore]
          exact hloop
        · rename_i heq
          rw [if_neg heq, some.inj hstore]
          exact hloop
      · rw [hshrunk.text, append_assoc] at hunset'
        rw [filter_cons_of_pos (by rw [Bool.eq_false_iff.mpr hhit]; decide)]
        exact hunset'

theorem pairsOf_filter (st : State) (hname : ValidName name) (es : List ℕ) :
    pairsOf st (es.filter fun p => !hits name (st.text p)) =
      (pairsOf st es).filter fun x => x.1 ≠ name := by
  induction es with
  | nil => rfl
  | cons p es ih =>
    by_cases hhit : hits name (st.text p) = true
    · obtain ⟨value, hparse⟩ := (hits_iff hname).mp hhit
      rw [filter_cons_of_neg (by rw [hhit]; decide), ih, pairsOf_cons_some es hparse,
        filter_cons_of_neg (by simp)]
    · rw [filter_cons_of_pos (by rw [Bool.eq_false_iff.mpr hhit]; decide)]
      cases hparse : parse (st.text p) with
      | none =>
        rw [pairsOf_cons_none _ hparse, pairsOf_cons_none _ hparse]
        exact ih
      | some x =>
        have hne : x.1 ≠ name := by
          rintro rfl
          exact hhit ((hits_iff hname).mpr ⟨x.2, hparse⟩)
        rw [pairsOf_cons_some _ hparse, pairsOf_cons_some _ hparse, ih,
          filter_cons_of_pos (by simpa using hne)]

theorem unsetenv_spec (h : Inv st es) (hname : ValidName name) :
    ∃ st' es' fs, unsetenv st name = some (.done, st') ∧
      Inv st' es' ∧ st'.text = st.text ∧ st'.owned = st.owned ∧ Frees st st' fs ∧
      ∀ x, (pairsOf st' es').lookup x = update st.map name none x := by
  have hvalid : ¬ (nameLength name = 0 ∨ nameLength name ≠ name.length) := by
    obtain ⟨hne, hlen⟩ := validName_iff.mpr hname
    rintro (hzero | hne')
    · exact hne hzero
    · exact hne' hlen
  have hmap : st.map = _ := funext h.map_eq
  rw [unsetenv, if_neg hvalid]
  rcases h.lists with ⟨hnone, rfl⟩ | ⟨v, vec, junk, hv, hvec, hcells⟩
  · rw [hnone]
    refine ⟨st, [], [], rfl, h, rfl, rfl, Frees.none rfl rfl, fun x => ?_⟩
    rw [hmap]
    exact lookup_remove [] x
  · have hunset : Unsetting st v [] [] es junk vec.malloced :=
      ⟨by rw [hvec, map_nil, nil_append, nil_append, ← hcells], h.readable, h.table,
        h.once⟩
    have hfuel : es.length < st.cells.length + 1 := by
      rw [cells_of_vec hv hvec, hcells, length_append, length_map]
      omega
    obtain ⟨st', fs, junk', hloop, hdone, hshrunk, hfrees⟩ :=
      unsetLoop_spec (hits name) v es hfuel hunset
    have hcut := hdone.vec
    have hreadable := hdone.readable
    have htable := hdone.table
    have honce := hdone.once
    rw [append_nil] at hreadable htable honce
    refine ⟨st', es.filter fun p => !hits name (st.text p), fs, ?_,
      ⟨.inr ⟨v, _, junk', hshrunk.environ.trans hv, hcut, rfl⟩, hreadable, htable, honce,
        ?_, ?_, ?_⟩,
      hshrunk.text, hshrunk.owned, hfrees, ?_⟩
    · rw [hv]
      dsimp only
      rw [show unsetLoop (hits name) v (st.cells.length + 1) 0 0 st = some st' from hloop]
      rfl
    · rw [hshrunk.owned]
      exact fun p hp => h.apart p (hfrees.live hp)
    · rcases h.old.at_vec hv hvec with hold | ⟨heq, hmalloced⟩
      · exact .inl (hshrunk.oldenv.trans hold)
      · refine .inr ⟨?_, v, _, hshrunk.environ.trans hv, hcut, hmalloced⟩
        rw [hshrunk.oldenv, hshrunk.environ]
        exact heq
    · rw [pairsOf_congr fun p _ => congrFun hshrunk.text p, pairsOf_filter st hname]
      exact h.names.sublist (filter_sublist.map fst)
    · intro x
      rw [pairsOf_congr fun p _ => congrFun hshrunk.text p, pairsOf_filter st hname, hmap]
      exact lookup_remove _ x

def Unsets : Call → Prop
  | .unsetenv _ => True
  | .putenv _ t => parse t = none
  | _ => False

/-- Each string that a call frees was allocated by `setenv`, is freed once, and is not in the
environment afterwards; unless the call takes entries out, it had left before. -/
structure Discards (st : State) (o : Oracle) (c : Call) (st' : State) (fs : List (ℕ × List ℕ)) :
    Prop where
  freed : st'.freed = st.freed ++ fs
  allocated : ∀ f ∈ fs, f.1 ∈ st.live ∨ o.str = some f.1
  once : (fs.map fst).Nodup ∧ ∀ f ∈ fs, f.1 ∉ st'.live
  foreign : ∀ f ∈ fs, f.1 ∉ st.owned
  left : ∀ f ∈ fs, f.1 ∉ st'.entries
  order : ¬ Unsets c → ∀ f ∈ fs, f.1 ∉ f.2

theorem discards_of_frees (hinv : Inv st' es) (hfrees : Frees st1 st' fs)
    (hfreed : st1.freed = st.freed) (hlive : ∀ p ∈ st1.live, p ∈ st.live ∨ o.str = some p)
    (hapart : ∀ p ∈ st1.live, p ∉ st1.owned) (howned : st'.owned = st1.owned)
    (hsub : st.owned ⊆ st1.owned) (horder : ¬ Unsets c → ∀ f ∈ fs, f.1 ∉ f.2) :
    Discards st o c st' fs := by
  refine ⟨?_, fun f hf => hlive _ (hfrees.gone f hf).1,
    ⟨hfrees.nodup, fun f hf => (hfrees.gone f hf).2⟩, ?_, ?_, horder⟩
  · rw [hfrees.freed, hfreed]
  · exact fun f hf hmem => hapart _ (hfrees.gone f hf).1 (hsub hmem)
  · intro f hf hmem
    rw [hinv.lists.entries] at hmem
    rcases hinv.readable _ hmem with hlive' | howned'
    · exact (hfrees.gone f hf).2 hlive'
    · exact hapart _ (hfrees.gone f hf).1 (howned ▸ howned')

def Performs (st : State) (o : Oracle) (c : Call) : Prop :=
  ∃ status st' es' fs, exec st o c = some (status, st') ∧ Inv st' es' ∧ Discards st o c st' fs ∧
    st'.map = if status = .done then effect st.map c else st.map

theorem performs_nothing (hexec : exec st o c = some (status, st')) (hinv : Inv st' es)
    (hfreed : st'.freed = st.freed)
    (hmap : st'.map = if status = .done then effect st.map c else st.map) : Performs st o c := by
  refine ⟨status, st', es, [], hexec, hinv, ⟨?_, nofun, ⟨nodup_nil, nofun⟩, nofun, nofun, nofun⟩,
    hmap⟩
  rw [hfreed, append_nil]

theorem Put.map_eq (h : Put st st' es' status name value fs) :
    st'.map = if status = .done then update st.map name (some value) else st.map := by
  funext x
  rw [h.inv.map_eq, h.map]
  split <;> rfl

theorem setenvStore_performs (h : Inv st es) (ho : Fresh st o) (hname : ValidName var)
    (hexec : exec st o (.setenv (some var) value overwrite) = setenvStore st var value o)
    (heffect : effect st.map (.setenv (some var) value overwrite) =
      update st.map var (some value)) :
    Performs st o (.setenv (some var) value overwrite) := by
  rw [setenvStore] at hexec
  have hlen := nameLength_eq_length_iff.mpr hname.2
  cases hstr : o.str with
  | none =>
    rw [hstr] at hexec
    exact performs_nothing hexec h rfl (if_neg nofun).symm
  | some s =>
    rw [hstr, hlen, take_length] at hexec
    obtain ⟨hnot, hinv, htext⟩ := h.alloc (ho s hstr) (var ++ 61 :: value)
    have henters : Enters (st.alloc s (var ++ 61 :: value)) es s (some s) :=
      .inr ⟨rfl, Finset.mem_insert_self s st.live, hnot⟩
    obtain ⟨status, st', es', fs, hput, hspec⟩ :=
      libc_putenv_spec hinv henters hname (update_self ..) o
    have hsame : (st.alloc s (var ++ 61 :: value)).map = st.map := by
      funext x
      rw [hinv.map_eq, h.map_eq, pairsOf_congr htext]
    refine ⟨status, st', es', fs, hexec.trans hput, hspec.inv,
      discards_of_frees hspec.inv hspec.frees rfl ?_ hinv.apart hspec.owned (Finset.Subset.refl _)
        fun _ => hspec.order, ?_⟩
    · exact Finset.forall_mem_insert _ _ _ |>.mpr ⟨.inr hstr, fun p hp => .inl hp⟩
    · rw [hspec.map_eq, hsame, heffect]

theorem setenv_performs (h : Inv st es) (ho : Fresh st o) (var : Option (List UInt8))
    (value : List UInt8) (overwrite : Bool) : Performs st o (.setenv var value overwrite) := by
  cases var with
  | none => exact performs_nothing rfl h rfl rfl
  | some var =>
    by_cases hvalid : nameLength var = 0 ∨ nameLength var ≠ var.length
    · have hexec : exec st o (.setenv (some var) value overwrite) = some (.EINVAL, st) :=
        if_pos hvalid
      exact performs_nothing hexec h rfl (if_neg nofun).symm
    have hname : ValidName var := by
      rw [not_or, not_not] at hvalid
      exact validName_iff.mp hvalid
    cases overwrite with
    | true =>
      refine setenvStore_performs h ho hname (if_neg hvalid) ?_
      rw [effect, if_pos (.inl rfl)]
    | false =>
      have hexec : exec st o (.setenv (some var) value false) =
          (getenv st var).bind fun found =>
            if found.isSome then some (.done, st) else setenvStore st var value o := if_neg hvalid
      rcases getenv_spec h var with ⟨p, n, hget, -, hmap⟩ | ⟨hget, hmap⟩
      · have hfound : exec st o (.setenv (some var) value false) = some (.done, st) := by
          rw [hexec, hget]
          rfl
        refine performs_nothing hfound h rfl ?_
        · rw [if_pos rfl, effect, hmap, if_neg]
          rintro (hfalse | hnone)
          · cases hfalse
          · cases hnone
      · refine setenvStore_performs h ho hname ?_ ?_
        · rw [hexec, hget]
          rfl
        · rw [effect, if_pos (.inr hmap)]

theorem unsetenv_performs (h : Inv st es) (name : List UInt8) :
    Performs st o (.unsetenv name) := by
  by_cases hvalid : nameLength name = 0 ∨ nameLength name ≠ name.length
  · have hexec : exec st o (.unsetenv name) = some (.EINVAL, st) := if_pos hvalid
    exact performs_nothing hexec h rfl (if_neg nofun).symm
  rw [not_or, not_not] at hvalid
  obtain ⟨st', es', fs, hunset, hinv, -, howned, hfrees, hmap⟩ :=
    unsetenv_spec h (validName_iff.mp hvalid)
  refine ⟨.done, st', es', fs, hunset, hinv, discards_of_frees hinv hfrees rfl (fun p hp => .inl hp)
    h.apart howned (Finset.Subset.refl _) fun hno => absurd trivial hno, ?_⟩
  funext x
  rw [hinv.map_eq, hmap]
  rfl

theorem putenv_performs (h : Inv st es) (hlive : s ∉ st.live) (htext : s ∈ es → st.text s = t) :
    Performs st o (.putenv s t) := by
  obtain ⟨hinv, hsame⟩ := h.hold hlive htext
  have hmap : (st.hold s t).map = st.map := by
    funext x
    rw [hinv.map_eq, h.map_eq, pairsOf_congr hsame]
  have howned : s ∈ (st.hold s t).owned := Finset.mem_insert_self s st.owned
  have hself : (st.hold s t).text s = t := update_self ..
  have hread : (st.hold s t).read s = some t := by
    rw [State.read, if_pos (.inr howned), hself]
  have hexec : exec st o (.putenv s t) =
      if nameLength t = 0 ∨ nameLength t = t.length then unsetenv (st.hold s t) t
      else libc_putenv (st.hold s t) s (nameLength t) none o := by
    rw [exec, putenv, hread, bind_some]
  have hsub : st.owned ⊆ (st.hold s t).owned := Finset.subset_insert s _
  split_ifs at hexec with hplain
  · have hparse : parse t = none := by
      refine if_neg fun hlt => ?_
      omega
    by_cases hzero : nameLength t = 0
    · refine performs_nothing (hexec.trans (if_pos (.inl hzero))) hinv rfl ?_
      rw [hmap, if_neg nofun]
    · have hname := validName_iff.mp ⟨hzero, hplain.resolve_left hzero⟩
      obtain ⟨st', es', fs, hunset, hinv', -, howned', hfrees, hmap'⟩ := unsetenv_spec hinv hname
      refine ⟨.done, st', es', fs, hexec.trans hunset, hinv',
        discards_of_frees hinv' hfrees rfl (fun p hp => .inl hp) hinv.apart howned' hsub
          fun hno => absurd hparse hno, ?_⟩
      funext x
      rw [hinv'.map_eq, hmap', if_pos rfl, effect, hparse, hmap]
  · have hlt : nameLength t < t.length := by
      have hle := nameLength_le t
      omega
    have hparse : parse t = some (t.take (nameLength t), t.drop (nameLength t + 1)) :=
      if_pos ⟨fun hzero => hplain (.inl hzero), hlt⟩
    obtain ⟨hsplit, hname⟩ := parse_eq_some_iff.mp hparse
    have hlen : nameLength t = (t.take (nameLength t)).length := by
      rw [length_take]
      omega
    obtain ⟨status, st', es', fs, hput, hspec⟩ :=
      libc_putenv_spec hinv (.inl ⟨rfl, howned⟩) hname (hself.trans hsplit) o
    rw [← hlen] at hput
    refine ⟨status, st', es', fs, hexec.trans hput, hspec.inv,
      discards_of_frees hspec.inv hspec.frees rfl (fun p hp => .inl hp) hinv.apart hspec.owned hsub
        fun _ => hspec.order, ?_⟩
    rw [hspec.map_eq, hmap, effect, hparse]

theorem exec_performs (h : Inv st es) (hc : Polite st c) (ho : Fresh st o) : Performs st o c := by
  cases c with
  | getenv name =>
    have hexec : exec st o (.getenv name) = some (.done, st) := by
      rcases getenv_spec h name with ⟨p, n, hget, -⟩ | ⟨hget, -⟩
      all_goals
        rw [exec, hget]
        rfl
    exact performs_nothing hexec h rfl rfl
  | setenv var value overwrite => exact setenv_performs h ho var value overwrite
  | putenv s t =>
    obtain ⟨hlive, htext⟩ := hc
    rw [h.lists.entries] at htext
    exact putenv_performs h hlive htext
  | unsetenv name => exact unsetenv_performs h name
  | release s =>
    have hs : s ∉ es := by
      rw [← h.lists.entries]
      exact hc
    exact performs_nothing rfl (h.letGo hs) rfl rfl

theorem inv_of_initial (h : Initial st) : Inv st st.entries := by
  have hlive : ∀ p, p ∉ st.live := by
    intro p
    rw [h.live]
    exact Finset.notMem_empty p
  refine ⟨?_, fun p hp => .inr (h.owned p hp), ⟨?_, ?_⟩, fun p hp => absurd hp (hlive p),
    fun p hp => absurd hp (hlive p), .inl h.oldenv, h.names⟩
  · cases hv : st.environ with
    | none =>
      refine .inl ⟨hv, ?_⟩
      rw [State.entries, State.cells, hv]
      rfl
    | some v =>
      obtain ⟨vec, hvec, hnone⟩ := h.terminated v hv
      have hcells : ∀ cells : List (Option ℕ), none ∈ cells →
          ∃ junk, cells = (entriesIn cells).map some ++ none :: junk := by
        intro cells
        induction cells with
        | nil => exact fun hmem => absurd hmem not_mem_nil
        | cons a cells ih =>
          intro hmem
          cases a with
          | none => exact ⟨cells, rfl⟩
          | some p =>
            obtain ⟨junk, hjunk⟩ := ih ((mem_cons.mp hmem).resolve_left (some_ne_none p).symm)
            exact ⟨junk, congrArg (some p :: ·) hjunk⟩
      obtain ⟨junk, hjunk⟩ := hcells vec.cells hnone
      refine .inr ⟨v, vec, junk, hv, hvec, ?_⟩
      rw [State.entries, cells_of_vec hv hvec]
      exact hjunk
  · rw [h.env_alloced]
    exact nodup_nil
  · rw [h.env_alloced]
    exact fun p hp => absurd hp not_mem_nil

theorem run_inv (hrun : Run st₀ m0 st m) (hm : st₀.map = m0) (h₀ : ∃ es, Inv st₀ es) :
    st.map = m ∧ ∃ es, Inv st es := by
  induction hrun with
  | refl => exact ⟨hm, h₀⟩
  | step _ hc ho he ih =>
    obtain ⟨hmap, es, hinv⟩ := ih hm
    obtain ⟨status, st', es', fs, hexec, hinv', -, hmap'⟩ := exec_performs hinv hc ho
    obtain ⟨rfl, rfl⟩ := mk.inj (some.inj (he.symm.trans hexec))
    rw [hmap] at hmap'
    exact ⟨hmap', es', hinv'⟩

/-- Over every run `getenv` gives the value that was set last, the entries are strings that are
still there, the array ends in its vector, no call goes wrong, and calls discard strings as they
should. -/
theorem environment_kept {st₀ st : State} {m : Map} (h₀ : Initial st₀)
    (hrun : Run st₀ st₀.map st m) :
    (∀ name, ∃ found, getenv st name = some found ∧
      found.map (fun x => (st.text x.1).drop x.2) = m name) ∧
    (∀ p ∈ st.entries, p ∈ st.live ∨ p ∈ st.owned) ∧
    (∀ v, st.environ = some v → ∃ vec, st.vecs v = some vec ∧ none ∈ vec.cells) ∧
    ∀ c o, Polite st c → Fresh st o → ∃ status st' fs, exec st o c = some (status, st') ∧
      Discards st o c st' fs := by
  obtain ⟨hmap, es, hinv⟩ := run_inv hrun rfl ⟨_, inv_of_initial h₀⟩
  refine ⟨?_, ?_, ?_, ?_⟩
  · intro name
    rw [← hmap]
    rcases getenv_spec hinv name with ⟨p, n, hget, -, hvalue⟩ | ⟨hget, hvalue⟩ <;>
      exact ⟨_, hget, hvalue.symm⟩
  · rw [hinv.lists.entries]
    exact hinv.readable
  · intro v hv
    rcases hinv.lists with ⟨hnone, -⟩ | ⟨v', vec, junk, hv', hvec, hcells⟩
    · rw [hv] at hnone
      cases hnone
    · obtain rfl : v = v' := some.inj (hv.symm.trans hv')
      refine ⟨vec, hvec, ?_⟩
      rw [hcells]
      exact mem_append_right _ mem_cons_self
  · intro c o hc ho
    obtain ⟨status, st', es', fs, hexec, -, hdiscards, -⟩ := exec_performs hinv hc ho
    exact ⟨status, st', fs, hexec, hdiscards⟩

def started : State where
  text := fun _ => []
  owned := ∅
  live := ∅
  vecs := update (fun _ => none) 0 (some ⟨[none], false⟩)
  environ := some 0
  oldenv := none
  env_alloced := []
  freed := []

def givesFive : Oracle := ⟨some 5, some 1, none, true⟩

/-- After `setenv("A", "1", 1)` with the string at address 5 -/
def withA : State := ((exec started givesFive (.setenv (some [65]) [49] true)).map snd).getD started

theorem started_initial : Initial started := by
  refine ⟨rfl, rfl, rfl, nofun, nodup_nil, ?_⟩
  intro v hv
  obtain rfl : 0 = v := some.inj hv
  exact ⟨_, rfl, mem_cons_self⟩

theorem withA_run : Run started started.map withA (update started.map [65] (some [49])) := by
  have hfresh : Fresh started givesFive := fun s _ => ⟨Finset.notMem_empty s, Finset.notMem_empty s⟩
  have hexec : exec started givesFive (.setenv (some [65]) [49] true) = some (.done, withA) := rfl
  have hpolite : Polite started (.setenv (some [65]) [49] true) := trivial
  have hstep := Run.step (.refl started started.map) hpolite hfresh hexec
  exact hstep

theorem environment_kept_withA : withA.entries = [5] ∧
    ∃ found, getenv withA [65] = some found ∧
      found.map (fun x => (withA.text x.1).drop x.2) = some [49] := by
  refine ⟨by decide, ?_⟩
  exact (environment_kept started_initial withA_run).1 [65]

/-- `unsetenv` frees a string while its entry is still in the array, and shortens the array then. -/
theorem unsetenv_frees_first : Run started started.map withA (update started.map [65] (some [49])) ∧
    (exec withA givesFive (.unsetenv [65])).map (fun r => (r.2.freed, r.2.entries)) =
      some ([(5, [5])], []) :=
  ⟨withA_run, by decide⟩

end Environ
