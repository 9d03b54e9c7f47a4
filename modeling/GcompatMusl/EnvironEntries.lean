import GcompatMusl.Environ
import Mathlib.Data.List.TakeWhile

/-! # Entries of the environment

How an entry is split into its name and value, what `__env_rm_add` does to the table of allocated
strings, and where a walk over the array stops. -/
namespace Environ

open Function List Option

def ValidName (name : List UInt8) : Prop := name ≠ [] ∧ (61 : UInt8) ∉ name

variable {st : State}

theorem nameLength_append (h : (61 : UInt8) ∉ name) (value : List UInt8) :
    nameLength (name ++ 61 :: value) = name.length := by
  have hpass : ∀ c ∈ name, decide (c ≠ 61) = true := by
    intro c hc
    rw [decide_eq_true_eq]
    rintro rfl
    exact h hc
  rw [nameLength, takeWhile_append_of_pos hpass, takeWhile_cons_of_neg (by decide), append_nil]

theorem nameLength_eq_length_iff : nameLength t = t.length ↔ (61 : UInt8) ∉ t := by
  constructor
  · intro h hmem
    have hstart := takeWhile_prefix (l := t) fun c => decide (c ≠ 61)
    have hall := hstart.eq_of_length h
    have hpass := takeWhile_eq_self_iff.mp hall 61 hmem
    exact absurd hpass (by decide)
  · intro h
    rw [nameLength, takeWhile_eq_self_iff.mpr]
    intro c hc
    rw [decide_eq_true_eq]
    rintro rfl
    exact h hc

theorem validName_iff : nameLength name ≠ 0 ∧ nameLength name = name.length ↔ ValidName name := by
  constructor
  · rintro ⟨hne, hlen⟩
    refine ⟨?_, nameLength_eq_length_iff.mp hlen⟩
    rintro rfl
    exact hne rfl
  · rintro ⟨hne, hnot⟩
    have hlen := nameLength_eq_length_iff.mpr hnot
    refine ⟨?_, hlen⟩
    rw [hlen]
    exact fun hnil => hne (length_eq_zero_iff.mp hnil)

theorem nameLength_le (t : List UInt8) : nameLength t ≤ t.length :=
  IsPrefix.length_le <| takeWhile_prefix _

theorem split_of_lt (h : nameLength t < t.length) :
    t = t.take (nameLength t) ++ 61 :: t.drop (nameLength t + 1) ∧
      (61 : UInt8) ∉ t.take (nameLength t) := by
  have htake : t.take (nameLength t) = t.takeWhile fun c => decide (c ≠ 61) :=
    Eq.symm <| prefix_iff_eq_take.mp <| takeWhile_prefix _
  have hdrop : t.drop (nameLength t) = t.dropWhile fun c => decide (c ≠ 61) := by
    have hall := takeWhile_append_dropWhile (p := fun c : UInt8 => decide (c ≠ 61)) (l := t)
    rw [← htake] at hall
    have hcut := take_append_drop (nameLength t) t
    exact append_cancel_left (hcut.trans hall.symm)
  have hne : t.dropWhile (fun c => decide (c ≠ 61)) ≠ [] := by
    rw [← hdrop]
    exact fun hnil => absurd (drop_eq_nil_iff.mp hnil) (Nat.not_le.mpr h)
  have hhead := head_dropWhile_not (fun c : UInt8 => decide (c ≠ 61)) hne
  constructor
  · nth_rewrite 1 [← take_append_drop (nameLength t) t]
    rw [← tail_drop, hdrop]
    nth_rewrite 1 [← cons_head_tail hne]
    rw [of_decide_eq_false hhead |> not_not.mp]
  · rw [htake]
    intro hmem
    exact absurd (mem_takeWhile_imp hmem) (by decide)

theorem parse_eq_some_iff :
    parse t = some (name, value) ↔ t = name ++ 61 :: value ∧ ValidName name := by
  constructor
  · intro h
    rw [parse] at h
    split at h
    · rename_i hlen
      obtain ⟨hsplit, hnot⟩ := split_of_lt hlen.2
      obtain ⟨rfl, rfl⟩ := Prod.mk.inj (some.inj h)
      refine ⟨hsplit, ?_, hnot⟩
      intro hnil
      have hlength := congrArg length hnil
      rw [length_take] at hlength
      change _ = 0 at hlength
      omega
    · cases h
  · rintro ⟨rfl, hne, hnot⟩
    have hlen := nameLength_append hnot value
    have hpos : name.length ≠ 0 := fun h => hne (length_eq_zero_iff.mp h)
    rw [parse, hlen, if_pos]
    · rw [take_left' rfl, ← drop_drop, drop_left' rfl]
      rfl
    · refine ⟨hpos, ?_⟩
      rw [length_append, length_cons]
      omega

theorem strncmp_append (s : List UInt8) : ∀ (rest t : List UInt8),
    strncmp (s ++ rest) t s.length = true ↔ s <+: t := by
  induction s with
  | nil =>
    intro rest t
    simp [strncmp]
  | cons a s ih =>
    intro rest t
    cases t with
    | nil => simp [strncmp]
    | cons b t => simp [strncmp, ih, cons_prefix_cons]

theorem prefix_iff_parse (h : ValidName name) :
    name ++ [61] <+: t ↔ ∃ value, parse t = some (name, value) := by
  constructor
  · rintro ⟨value, rfl⟩
    exact ⟨value, parse_eq_some_iff.mpr ⟨by simp, h⟩⟩
  · rintro ⟨value, hparse⟩
    rw [(parse_eq_some_iff.mp hparse).1]
    exact ⟨value, by simp⟩

theorem hits_iff (h : ValidName name) :
    hits name t = true ↔ ∃ value, parse t = some (name, value) := by
  have hlen : nameLength name = name.length := nameLength_eq_length_iff.mpr h.2
  have hcmp := strncmp_append name [] t
  rw [append_nil] at hcmp
  rw [← prefix_iff_parse h, hits, hlen, Bool.and_eq_true, hcmp]
  constructor
  · rintro ⟨⟨rest, rfl⟩, hbyte⟩
    cases rest with
    | nil => simp at hbyte
    | cons b rest =>
      obtain rfl : b = 61 := by simpa using hbyte
      exact ⟨rest, by simp⟩
  · rintro ⟨rest, rfl⟩
    exact ⟨⟨61 :: rest, by simp⟩, by simp⟩

theorem putHit_iff (h : ValidName name) :
    strncmp (name ++ 61 :: value) t (name.length + 1) = true ↔
      ∃ value, parse t = some (name, value) := by
  have hcmp := strncmp_append (name ++ [61]) value t
  rw [append_assoc, length_append] at hcmp
  rw [← prefix_iff_parse h]
  exact hcmp

section Pairs

variable [BEq α] [LawfulBEq α]

theorem lookup_append_of_not_mem {a b : List (α × β)} (h : k ∉ a.map Prod.fst) :
    (a ++ b).lookup k = b.lookup k := by
  induction a with
  | nil => rfl
  | cons x a ih =>
    rw [map_cons, mem_cons, not_or] at h
    rw [cons_append, lookup_cons, beq_false_of_ne h.1]
    exact ih h.2

theorem lookup_of_not_mem {a : List (α × β)} (h : k ∉ a.map Prod.fst) : a.lookup k = none := by
  have happend := lookup_append_of_not_mem (b := []) h
  rwa [append_nil] at happend

theorem lookup_ne (hx : x ≠ k) (a b : List (α × β)) (v : β) :
    (a ++ (k, v) :: b).lookup x = (a ++ b).lookup x := by
  induction a with
  | nil => rw [nil_append, nil_append, lookup_cons, beq_false_of_ne hx]
  | cons y a ih => rw [cons_append, cons_append, lookup_cons, lookup_cons, ih]

variable [DecidableEq α]

theorem lookup_replace (h : k ∉ a.map Prod.fst) (x : α) :
    (a ++ (k, v) :: b).lookup x =
      Function.update (fun x => (a ++ (k, w) :: b).lookup x) k (some v) x := by
  by_cases hx : x = k
  · rw [hx, update_self, lookup_append_of_not_mem h, lookup_cons, beq_self_eq_true]
  · rw [update_of_ne hx, lookup_ne hx, lookup_ne hx]

theorem lookup_insert (h : k ∉ a.map Prod.fst) (x : α) :
    (a ++ [(k, v)]).lookup x = Function.update (fun x => a.lookup x) k (some v) x := by
  by_cases hx : x = k
  · rw [hx, update_self, lookup_append_of_not_mem h, lookup_cons, beq_self_eq_true]
  · rw [update_of_ne hx, lookup_ne hx, append_nil]

theorem lookup_remove (a : List (α × β)) (x : α) :
    (a.filter fun y => y.1 ≠ k).lookup x = Function.update (fun x => a.lookup x) k none x := by
  by_cases hx : x = k
  · rw [hx, update_self]
    refine lookup_of_not_mem fun hmem => ?_
    obtain ⟨y, hy, hk⟩ := mem_map.mp hmem
    have hkeep := (mem_filter.mp hy).2
    rw [decide_eq_true_eq] at hkeep
    exact hkeep hk
  · rw [update_of_ne hx]
    induction a with
    | nil => rfl
    | cons y a ih =>
      by_cases hy : y.1 = k
      · rw [filter_cons_of_neg (by simpa using hy), ih, lookup_cons,
          beq_false_of_ne fun h => hx (h.trans hy)]
      · rw [filter_cons_of_pos (by simpa using hy), lookup_cons, lookup_cons, ih]

end Pairs

def somes (table : List (Option ℕ)) : List ℕ := table.filterMap id

structure RmAdd (old new : Option ℕ) (table : List (Option ℕ))
    (r : List (Option ℕ) × Option ℕ × Bool) : Prop where
  kept : ∀ x ∈ somes r.1, x ∈ somes table ∧ old ≠ some x ∨ new = some x
  nodup : (somes r.1).Nodup
  found : r.2.2 = true → ∀ p, old = some p → p ∈ somes table
  missed : r.2.2 = false → ∀ p, old = some p → p ∉ somes table
  left : ∀ n, r.2.1 = some n → new = some n ∧ n ∉ somes r.1

theorem RmAdd.here (hnodup : (somes (old :: rest)).Nodup)
    (hnew : ∀ n, new = some n → n ∉ somes (old :: rest)) :
    RmAdd old new (old :: rest) (new :: rest, none, true) := by
  have hrest : ∀ x ∈ somes rest, x ∈ somes (old :: rest) ∧ old ≠ some x := by
    intro x hx
    cases old with
    | none => exact ⟨hx, nofun⟩
    | some p =>
      replace hnodup := nodup_cons.mp hnodup
      refine ⟨mem_cons_of_mem p hx, fun heq => ?_⟩
      rw [some.inj heq] at hnodup
      exact hnodup.1 hx
  have htail : (somes rest).Nodup := by
    cases old with
    | none => exact hnodup
    | some p => exact (nodup_cons.mp hnodup).2
  refine ⟨?_, ?_, ?_, nofun, nofun⟩
  · intro x hx
    cases new with
    | none => exact .inl (hrest x hx)
    | some n =>
      exact (mem_cons.mp hx).elim (fun h => .inr (congrArg some h.symm)) (.inl <| hrest x ·)
  · cases new with
    | none => exact htail
    | some n =>
      refine nodup_cons.mpr ⟨fun hn => ?_, htail⟩
      exact hnew n rfl (hrest n hn).1
  · rintro - p rfl
    exact mem_cons_self

theorem rmAddLoop_spec (old : Option ℕ) (table : List (Option ℕ)) : ∀ new : Option ℕ,
    (somes table).Nodup → (∀ n, new = some n → n ∉ somes table) →
      RmAdd old new table (rmAddLoop old new table) := by
  induction table with
  | nil =>
    intro new _ _
    exact ⟨nofun, nodup_nil, nofun, fun _ _ _ => not_mem_nil, fun n hn => ⟨hn, not_mem_nil⟩⟩
  | cons a rest ih =>
    intro new hnodup hnew
    rw [rmAddLoop]
    split
    · rename_i ha
      rw [ha] at hnodup hnew ⊢
      exact RmAdd.here hnodup hnew
    rename_i ha
    split
    · -- a free cell takes the new string, and the search goes on
      rename_i hfree
      obtain ⟨rfl, hne⟩ := hfree
      obtain ⟨n, rfl⟩ := ne_none_iff_exists'.mp hne
      obtain ⟨hkept, hnd, hfound, hmissed, hleft⟩ := ih none hnodup nofun
      refine ⟨?_, ?_, hfound, hmissed, fun m hm => absurd (hleft m hm).1 nofun⟩
      · exact forall_mem_cons.mpr ⟨.inr rfl, fun x hx => .inl ((hkept x hx).resolve_right nofun)⟩
      · refine nodup_cons.mpr ⟨fun hn => ?_, hnd⟩
        exact hnew n rfl ((hkept n hn).resolve_right nofun).1
    · cases a with
      | none => exact { ih new hnodup hnew with }
      | some q =>
        obtain ⟨hq, htail⟩ := nodup_cons.mp hnodup
        obtain ⟨hkept, hnd, hfound, hmissed, hleft⟩ :=
          ih new htail fun n hn hmem => hnew n hn (mem_cons_of_mem q hmem)
        have hqnew : ∀ n, new = some n → n ≠ q := by
          rintro n hn rfl
          exact hnew n hn mem_cons_self
        refine ⟨?_, ?_, ?_, ?_, ?_⟩
        · refine forall_mem_cons.mpr ⟨.inl ⟨mem_cons_self, fun h => ha h.symm⟩, fun x hx => ?_⟩
          exact (hkept x hx).imp_left fun h => ⟨mem_cons_of_mem q h.1, h.2⟩
        · refine nodup_cons.mpr ⟨fun hmem => ?_, hnd⟩
          rcases hkept q hmem with ⟨hmem', -⟩ | hnew'
          · exact hq hmem'
          · exact hqnew q hnew' rfl
        · exact fun h p hp => mem_cons_of_mem q (hfound h p hp)
        · exact fun h p hp => not_mem_cons_of_ne_of_not_mem (fun heq => ha (heq ▸ hp.symm))
            (hmissed h p hp)
        · intro n hn
          obtain ⟨hnew', hnot⟩ := hleft n hn
          exact ⟨hnew', not_mem_cons_of_ne_of_not_mem (hqnew n hnew') hnot⟩

structure Table (st : State) (es : List ℕ) : Prop where
  nodup : (somes st.env_alloced).Nodup
  tracked : ∀ p ∈ somes st.env_alloced, p ∈ st.live ∧ p ∈ es

structure Frees (st st' : State) (fs : List (ℕ × List ℕ)) : Prop where
  freed : st'.freed = st.freed ++ fs
  live : st'.live ⊆ st.live
  gone : ∀ f ∈ fs, f.1 ∈ st.live ∧ f.1 ∉ st'.live
  nodup : (fs.map Prod.fst).Nodup

structure SameArray (st st' : State) : Prop where
  text : st'.text = st.text
  owned : st'.owned = st.owned
  vecs : st'.vecs = st.vecs
  environ : st'.environ = st.environ
  oldenv : st'.oldenv = st.oldenv

theorem Frees.none (hfreed : st'.freed = st.freed) (hlive : st'.live = st.live) :
    Frees st st' [] := by
  refine ⟨?_, ?_, nofun, nodup_nil⟩
  · rw [hfreed, append_nil]
  · rw [hlive]

theorem Frees.trans (h : Frees st st' fs)
    (h' : Frees st' st'' gs) : Frees st st'' (fs ++ gs) := by
  refine ⟨?_, h'.live.trans h.live, ?_, ?_⟩
  · rw [h'.freed, h.freed, append_assoc]
  · intro f hf
    rcases mem_append.mp hf with hf | hf
    · exact ⟨(h.gone f hf).1, fun hlive => (h.gone f hf).2 (h'.live hlive)⟩
    · exact ⟨h.live (h'.gone f hf).1, (h'.gone f hf).2⟩
  · rw [map_append, nodup_append]
    refine ⟨h.nodup, h'.nodup, ?_⟩
    intro x hx y hy hxy
    obtain ⟨f, hf, rfl⟩ := mem_map.mp hx
    obtain ⟨g, hg, rfl⟩ := mem_map.mp hy
    have hlive := (h'.gone g hg).1
    rw [← hxy] at hlive
    exact (h.gone f hf).2 hlive

theorem recordNew_spec (h : Table st es) (table : Bool)
    (hleft : ∀ n, left = some n → n ∈ st.live ∧ n ∈ es ∧ n ∉ somes st.env_alloced) :
    Table (recordNew st table left) es ∧ SameArray st (recordNew st table left) ∧
      (recordNew st table left).freed = st.freed ∧ (recordNew st table left).live = st.live := by
  cases left with
  | none => exact ⟨h, ⟨rfl, rfl, rfl, rfl, rfl⟩, rfl, rfl⟩
  | some n =>
    obtain ⟨hlive, hes, hnot⟩ := hleft n rfl
    cases table with
    | false => exact ⟨h, ⟨rfl, rfl, rfl, rfl, rfl⟩, rfl, rfl⟩
    | true =>
      have hsomes : somes (st.env_alloced ++ [some n]) = somes st.env_alloced ++ [n] :=
        filterMap_append
      refine ⟨⟨?_, ?_⟩, ⟨rfl, rfl, rfl, rfl, rfl⟩, rfl, rfl⟩
      · change (somes (st.env_alloced ++ [some n])).Nodup
        rw [hsomes]
        exact nodup_append.mpr ⟨h.nodup, nodup_singleton n, fun x hx y hy hxy =>
          hnot (by rwa [← mem_singleton.mp hy, ← hxy])⟩
      · intro p hp
        change p ∈ somes (st.env_alloced ++ [some n]) at hp
        rw [hsomes] at hp
        rcases mem_append.mp hp with hp | hp
        · exact h.tracked p hp
        · rw [mem_singleton.mp hp]
          exact ⟨hlive, hes⟩

/-- The old string leaves the table and is freed if it was there, and the new one may enter it. -/
theorem env_rm_add_spec (h : Table st es) (table : Bool)
    (hnew : ∀ n, new = some n → n ∈ st.live ∧ n ∈ es' ∧ n ∉ somes st.env_alloced ∧ old ≠ some n)
    (hes : ∀ p ∈ es, old ≠ some p → p ∈ es') :
    ∃ st' fs, env_rm_add st old new table = some st' ∧ Table st' es' ∧ SameArray st st' ∧
      Frees st st' fs ∧ (∀ f ∈ fs, old = some f.1 ∧ f.2 = st.entries) ∧
      ∀ p ∈ st.live, old ≠ some p → p ∈ st'.live := by
  obtain ⟨hkept, hnodup, hfound, hmissed, hleft⟩ :=
    rmAddLoop_spec old st.env_alloced new h.nodup fun n hn => (hnew n hn).2.2.1
  have htracked : ∀ p ∈ somes (rmAddLoop old new st.env_alloced).1,
      p ∈ st.live ∧ p ∈ es' ∧ old ≠ some p := by
    intro p hp
    rcases hkept p hp with ⟨hmem, hne⟩ | hp'
    · obtain ⟨hlive, hmem⟩ := h.tracked p hmem
      exact ⟨hlive, hes p hmem hne, hne⟩
    · obtain ⟨hlive, hmem, -, hne⟩ := hnew p hp'
      exact ⟨hlive, hmem, hne⟩
  have htable : Table { st with env_alloced := (rmAddLoop old new st.env_alloced).1 } es' :=
    ⟨hnodup, fun p hp => ⟨(htracked p hp).1, (htracked p hp).2.1⟩⟩
  rw [env_rm_add]
  split
  · rename_i hf
    cases old with
    | none =>
      exact ⟨_, [], rfl, htable, ⟨rfl, rfl, rfl, rfl, rfl⟩, Frees.none rfl rfl, nofun,
        fun p hp _ => hp⟩
    | some q =>
      have hq := (h.tracked q (hfound hf q rfl)).1
      refine ⟨_, [(q, st.entries)], if_pos hq, ⟨hnodup, ?_⟩, ⟨rfl, rfl, rfl, rfl, rfl⟩,
        ⟨rfl, Finset.erase_subset q st.live, ?_, nodup_singleton q⟩, ?_, ?_⟩
      · intro p hp
        obtain ⟨hlive, hmem, hne⟩ := htracked p hp
        exact ⟨Finset.mem_erase.mpr ⟨fun heq => hne (by rw [heq]), hlive⟩, hmem⟩
      · exact forall_mem_singleton.mpr ⟨hq, Finset.notMem_erase q st.live⟩
      · exact forall_mem_singleton.mpr ⟨rfl, rfl⟩
      · intro p hp hne
        exact Finset.mem_erase.mpr ⟨fun heq => hne (by rw [heq]), hp⟩
  · obtain ⟨htable', hsame, hfreed, hlive⟩ := recordNew_spec htable table fun n hn => by
      obtain ⟨hn', hnot⟩ := hleft n hn
      exact ⟨(hnew n hn').1, (hnew n hn').2.1, hnot⟩
    exact ⟨_, [], rfl, htable', { hsame with }, Frees.none hfreed hlive, nofun,
      fun p hp _ => by rw [hlive]; exact hp⟩

theorem rmAddLoop_nothing (table : List (Option ℕ)) :
    (rmAddLoop none none table).1 = table ∧ (rmAddLoop none none table).2.1 = none := by
  induction table with
  | nil => exact ⟨rfl, rfl⟩
  | cons a rest ih =>
    rw [rmAddLoop]
    split
    · rename_i ha
      rw [ha]
      exact ⟨rfl, rfl⟩
    · rw [if_neg fun h => h.2 rfl]
      exact ⟨congrArg (a :: ·) ih.1, ih.2⟩

theorem env_rm_add_nothing (st : State) (table : Bool) :
    env_rm_add st none none table = some st := by
  obtain ⟨htable, hleft⟩ := rmAddLoop_nothing st.env_alloced
  rw [env_rm_add, htable, hleft]
  split <;> rfl

def Lists (st : State) (es : List ℕ) : Prop :=
  (st.environ = none ∧ es = []) ∨ ∃ v vec junk, st.environ = some v ∧ st.vecs v = some vec ∧
    vec.cells = es.map some ++ none :: junk

def Readable (st : State) (es : List ℕ) : Prop := ∀ p ∈ es, p ∈ st.live ∨ p ∈ st.owned

theorem entriesIn_terminated (es : List ℕ) (junk : List (Option ℕ)) :
    entriesIn (es.map some ++ none :: junk) = es := by
  induction es with
  | nil => rfl
  | cons p es ih => exact congrArg (p :: ·) ih

theorem cells_of_vec (hv : st.environ = some v) (hvec : st.vecs v = some vec) :
    st.cells = vec.cells := by
  rw [State.cells, hv, bind_some, hvec]
  rfl

theorem Lists.entries (h : Lists st es) : st.entries = es := by
  rcases h with ⟨hnone, rfl⟩ | ⟨v, vec, junk, hv, hvec, hcells⟩
  · rw [State.entries, State.cells, hnone]
    rfl
  · rw [State.entries, cells_of_vec hv hvec, hcells, entriesIn_terminated]

theorem scanEntries_spec (hit : List UInt8 → Bool) (junk : List (Option ℕ)) (es : List ℕ) :
    ∀ i, Readable st es →
    (∃ a p b, es = a ++ p :: b ∧ hit (st.text p) = true ∧ (∀ q ∈ a, hit (st.text q) = false) ∧
      scanEntries st hit (es.map some ++ none :: junk) i = some (i + a.length, some p)) ∨
    ((∀ q ∈ es, hit (st.text q) = false) ∧
      scanEntries st hit (es.map some ++ none :: junk) i = some (i + es.length, none)) := by
  induction es with
  | nil => exact fun i _ => .inr ⟨nofun, rfl⟩
  | cons p es ih =>
    intro i hread
    have hp : st.read p = some (st.text p) := if_pos (hread p mem_cons_self)
    have hstep : scanEntries st hit ((p :: es).map some ++ none :: junk) i =
        if hit (st.text p) then some (i, some p)
        else scanEntries st hit (es.map some ++ none :: junk) (i + 1) := by
      rw [map_cons, cons_append, scanEntries, hp, bind_some]
    rw [hstep]
    by_cases hhit : hit (st.text p) = true
    · exact .inl ⟨[], p, es, rfl, hhit, nofun, if_pos hhit⟩
    · rw [if_neg hhit]
      have hno : hit (st.text p) = false := Bool.eq_false_iff.mpr hhit
      rcases ih (i + 1) fun q hq => hread q (mem_cons_of_mem p hq) with
        ⟨a, q, b, rfl, hq, ha, heq⟩ | ⟨hall, heq⟩
      · refine .inl ⟨p :: a, q, b, rfl, hq, forall_mem_cons.mpr ⟨hno, ha⟩, ?_⟩
        rw [heq, length_cons, Nat.add_right_comm, Nat.add_assoc]
      · refine .inr ⟨forall_mem_cons.mpr ⟨hno, hall⟩, ?_⟩
        rw [heq, length_cons, Nat.add_right_comm, Nat.add_assoc]

theorem findEntry_spec (h : Lists st es) (hread : Readable st es) (hit : List UInt8 → Bool) :
    (∃ a p b, es = a ++ p :: b ∧ hit (st.text p) = true ∧ (∀ q ∈ a, hit (st.text q) = false) ∧
      findEntry st hit = some (a.length, some p)) ∨
    ((∀ q ∈ es, hit (st.text q) = false) ∧ findEntry st hit = some (es.length, none)) := by
  rcases h with ⟨hnone, rfl⟩ | ⟨v, vec, junk, hv, hvec, hcells⟩
  · refine .inr ⟨nofun, ?_⟩
    rw [findEntry, hnone]
    rfl
  · have hfind : findEntry st hit = scanEntries st hit (es.map some ++ none :: junk) 0 := by
      rw [findEntry, hv]
      dsimp only
      rw [hvec, bind_some, hcells]
    have hspec := scanEntries_spec hit junk es 0 hread
    rw [← hfind] at hspec
    simpa only [Nat.zero_add] using hspec

end Environ
