import GcompatMusl.Hsearch

/-! # The hash table as a map

A call of `hsearch_r` keeps every key where the search for it stops and some slot empty. -/
namespace Hsearch

open OpenAddressing Function List
open Option (bind_some bind_eq_bind)

variable {key : Key} {entries old : List ENTRY}

/-- A table of `2 ^ k` slots in which every key is where its probe sequence finds it -/
structure Hashed (k : ℕ) (entries : List ENTRY) : Prop where
  length : entries.length = 2 ^ k
  placed : Placed (probe k) (contents entries)

theorem exists_empty (h : entries.countP occupied < entries.length) :
    ∃ s < entries.length, contents entries s = none := by
  by_contra hfull
  refine absurd (countP_eq_length.2 fun e he => ?_) (Nat.ne_of_lt h)
  obtain ⟨s, hs, rfl⟩ := getElem_of_mem he
  by_contra hempty
  refine hfull ⟨s, hs, ?_⟩
  rw [contents, getElem?_eq_getElem hs]
  cases hkey : entries[s].key with
  | none => simp only [bind_some, hkey, Option.map_none]
  | some key =>
    rw [occupied, hkey] at hempty
    exact absurd rfl hempty

theorem Hashed.stops (h : Hashed k entries) (hroom : entries.countP occupied < 2 ^ k) (key : Key) :
    ∃ t < 2 ^ k, Stops (probe k) (contents entries) key t := by
  obtain ⟨s, hs, hempty⟩ := exists_empty (h.length ▸ hroom)
  obtain ⟨t, ht, hprobe⟩ := exists_tri_mod (keyhash key) k (h.length ▸ hs)
  have hnone : contents entries (probe k key t) = none := by rw [probe, hprobe, hempty]
  obtain ⟨t', ht', hstops⟩ : ∃ t' ≤ t, Stops (probe k) (contents entries) key t' :=
    exists_stops hnone
  exact ⟨t', by omega, hstops⟩

theorem contents_set (hs : s < entries.length) (key : Key) (v : ℕ) :
    contents (entries.set s ⟨some key, v⟩) =
      Function.update (contents entries) s (some (key, v)) := by
  funext s'
  by_cases heq : s' = s
  · rw [heq, update_self, contents, getElem?_set_self hs]
    rfl
  · rw [update_of_ne heq, contents, getElem?_set_ne (Ne.symm heq)]
    rfl

theorem not_occupied (hs : s < entries.length) (hempty : contents entries s = none) :
    occupied entries[s] = false := by
  rw [contents, getElem?_eq_getElem hs] at hempty
  rw [occupied]
  cases hkey : entries[s].key with
  | none => rfl
  | some key => simp only [bind_some, hkey, Option.map_some, reduceCtorEq] at hempty

theorem count_set (hs : s < entries.length) (hempty : contents entries s = none) (key : Key)
    (v : ℕ) :
    (entries.set s ⟨some key, v⟩).countP occupied = entries.countP occupied + 1 := by
  rw [countP_set hs, not_occupied hs hempty]
  rfl

theorem contents_clear (hempty : contents entries s = none) (v : ℕ) :
    contents (entries.set s ⟨none, v⟩) = contents entries := by
  funext s'
  by_cases heq : s' = s
  · rw [heq, hempty, contents]
    by_cases hs : s < entries.length
    · rw [getElem?_set_self hs]
      rfl
    · rw [getElem?_eq_none (by rw [length_set]; omega)]
      rfl
  · rw [contents, getElem?_set_ne (Ne.symm heq)]
    rfl

theorem count_clear (hs : s < entries.length) (hempty : contents entries s = none) (v : ℕ) :
    (entries.set s ⟨none, v⟩).countP occupied = entries.countP occupied := by
  rw [countP_set hs, not_occupied hs hempty]
  rfl

theorem Hashed.put (h : Hashed k entries) (hstops : Stops (probe k) (contents entries) key t)
    (hempty : contents entries (probe k key t) = none) (v : ℕ) :
    Hashed k (entries.set (probe k key t) ⟨some key, v⟩) ∧
      (entries.set (probe k key t) ⟨some key, v⟩).countP occupied = entries.countP occupied + 1 ∧
      ∀ key' v', ⟨some key', v'⟩ ∈ entries.set (probe k key t) ⟨some key, v⟩ ↔
        (key' = key ∧ v' = v) ∨ ⟨some key', v'⟩ ∈ entries := by
  have hs : probe k key t < entries.length := by
    rw [h.length]
    exact probe_lt k key t
  refine ⟨⟨by rw [length_set, h.length], ?_⟩, count_set hs hempty key v, fun key' v' => ?_⟩
  · rw [contents_set hs]
    exact h.placed.insert hstops hempty v
  · rw [mem_iff_contents, mem_iff_contents, contents_set hs]
    constructor
    · rintro ⟨s', hs'⟩
      by_cases heq : s' = probe k key t
      · rw [heq, update_self] at hs'
        cases hs'
        exact .inl ⟨rfl, rfl⟩
      · rw [update_of_ne heq] at hs'
        exact .inr ⟨s', hs'⟩
    · rintro (⟨rfl, rfl⟩ | ⟨s', hs'⟩)
      · exact ⟨_, update_self ..⟩
      · refine ⟨s', ?_⟩
        rw [update_of_ne, hs']
        rintro rfl
        cases hempty.symm.trans hs'

theorem not_stored (habsent : ∀ v, ⟨some key, v⟩ ∉ entries)
    (hstops : Stops (probe k) (contents entries) key t) :
    contents entries (probe k key t) = none := by
  rcases hstops.here with hnone | ⟨v, hkey⟩
  · exact hnone
  · exact absurd (mem_iff_contents.2 ⟨_, hkey⟩) (habsent v)

/-- No key is in two slots. -/
def Distinct (old : List ENTRY) : Prop :=
  old.Pairwise fun e e' => ∀ key, e.key = some key → e'.key ≠ some key

theorem Hashed.distinct (h : Hashed k entries) : Distinct entries := by
  refine pairwise_iff_getElem.2 fun i j hi hj hlt key hkey hkey' => ?_
  have hcontents : ∀ s (hs : s < entries.length), entries[s].key = some key →
      contents entries s = some (key, entries[s].data) := by
    intro s hs hkey
    rw [contents, getElem?_eq_getElem hs]
    simp only [bind_some, hkey, Option.map_some]
  have heq := h.placed.slot_unique (hcontents i hi hkey) (hcontents j hj hkey')
  omega

/-- The loop of `resize` carries every entry over, as long as the new table has room for them. -/
theorem moveEntries_spec (hk : k < 64) (hdistinct : Distinct old) (h : Hashed k entries)
    (hnew : ∀ e ∈ old, ∀ key v, e.key = some key → ⟨some key, v⟩ ∉ entries)
    (hroom : entries.countP occupied + old.countP occupied < 2 ^ k) :
    ∃ entries', moveEntries (2 ^ k - 1) old entries = some entries' ∧ Hashed k entries' ∧
      entries'.countP occupied = entries.countP occupied + old.countP occupied ∧
      ∀ key v, ⟨some key, v⟩ ∈ entries' ↔ ⟨some key, v⟩ ∈ entries ∨ ⟨some key, v⟩ ∈ old := by
  induction old generalizing entries with
  | nil =>
    refine ⟨entries, rfl, h, rfl, fun key v => ⟨.inl, fun hmem => ?_⟩⟩
    exact hmem.resolve_right not_mem_nil
  | cons e old ih =>
    obtain ⟨hfirst, hrest⟩ := pairwise_cons.1 hdistinct
    rw [moveEntries, moveEntry]
    cases hkey : e.key with
    | none =>
      have hempty : occupied e = false := by rw [occupied, hkey]; rfl
      rw [countP_cons_of_neg (by rw [hempty]; decide)] at hroom ⊢
      obtain ⟨entries', heq, hhashed, hcount, hmem⟩ := ih hrest h
        (fun e he => hnew e (mem_cons_of_mem _ he)) hroom
      refine ⟨entries', heq, hhashed, hcount, fun key v => ?_⟩
      have hne : (⟨some key, v⟩ : ENTRY) ≠ e := by
        rintro rfl
        cases hkey
      rw [hmem, mem_cons, or_iff_right hne]
    | some key =>
      have hfull : occupied e = true := by rw [occupied, hkey]; rfl
      rw [countP_cons_of_pos hfull] at hroom ⊢
      have habsent : ∀ v, ⟨some key, v⟩ ∉ entries := fun v => hnew e mem_cons_self key v hkey
      obtain ⟨t, ht, hstops⟩ := h.stops (by omega) key
      have hempty := not_stored habsent hstops
      obtain ⟨hhashed, hcount, hmem⟩ := h.put hstops hempty e.data
      have hentry : (⟨some key, e.data⟩ : ENTRY) = e := by rw [← hkey]
      have hfree : probeLoop (fun s => (keyAt entries s).isNone) (2 ^ k - 1) (keyhash key) =
          some (probe k key t) := by
        refine probeLoop_stops rfl hk ht (fun t' ht' => ?_) ?_
        · obtain ⟨key', v, hother, -⟩ := hstops.before t' ht'
          rw [keyAt_eq, hother]
          rfl
        · rw [keyAt_eq, hempty]
          rfl
      have hnew' : ∀ e' ∈ old, ∀ key' v', e'.key = some key' →
          ⟨some key', v'⟩ ∉ entries.set (probe k key t) ⟨some key, e.data⟩ := by
        intro e' he' key' v' hkey' hin
        rcases (hmem key' v').1 hin with ⟨rfl, -⟩ | hin
        · exact hfirst e' he' key' hkey hkey'
        · exact hnew e' (mem_cons_of_mem _ he') key' v' hkey' hin
      obtain ⟨entries', heq, hhashed', hcount', hmem'⟩ := ih hrest hhashed hnew' (by omega)
      refine ⟨entries', ?_, hhashed', by omega, fun key' v' => ?_⟩
      · rw [hentry] at heq
        dsimp only
        rw [hfree]
        exact heq
      · rw [hmem', hmem, mem_cons, ← hentry, ENTRY.mk.injEq, Option.some.injEq,
          or_comm (b := _ ∈ entries), or_assoc]

theorem grow_spec (hnel : nel ≤ 2 ^ 63) (turns : ℕ) : ∀ j, j + turns = 63 →
    ∃ k, j ≤ k ∧ k ≤ 63 ∧ grow nel turns (2 ^ j) = 2 ^ k ∧ nel ≤ 2 ^ k ∧
      (k = j ∨ 2 ^ (k - 1) < nel) := by
  induction turns with
  | zero =>
    intro j hj
    have hj : j = 63 := by omega
    exact ⟨j, le_refl j, by omega, rfl, hj ▸ hnel, .inl rfl⟩
  | succ turns ih =>
    intro j hj
    rw [grow]
    by_cases hlt : 2 ^ j < nel
    · have hdouble : 2 ^ j * 2 % 2 ^ 64 = 2 ^ (j + 1) := by
        rw [← Nat.pow_succ]
        exact Nat.mod_eq_of_lt (Nat.pow_lt_pow_right (by decide) (by omega))
      rw [if_pos hlt, hdouble]
      obtain ⟨k, hjk, hk, heq, hle, hleast⟩ := ih (j + 1) (by omega)
      refine ⟨k, by omega, hk, heq, hle, .inr ?_⟩
      rcases hleast with rfl | hleast
      · exact hlt
      · exact hleast
    · exact ⟨j, le_refl j, by omega, if_neg hlt, by omega, .inl rfl⟩

theorem newSize_spec (nel : ℕ) : ∃ k, 3 ≤ k ∧ newSize nel = 2 ^ k ∧ (nel ≤ 2 ^ 63 → nel ≤ 2 ^ k) ∧
    (k = 3 ∨ 2 ^ (k - 1) < nel) := by
  have hmax : MAXSIZE = 2 ^ 63 := by decide
  obtain ⟨k, hlow, -, heq, hle, hleast⟩ := grow_spec
    (show (if nel > 2 ^ 63 then 2 ^ 63 else nel) ≤ 2 ^ 63 by split_ifs <;> omega) 60 3 rfl
  refine ⟨k, hlow, heq, fun hnel => ?_, ?_⟩
  · rwa [if_neg (by omega)] at hle
  · rcases hleast with heq | hlt
    · exact .inl heq
    · refine .inr (lt_of_lt_of_le hlt ?_)
      split_ifs <;> omega

theorem calloc_hashed (k : ℕ) : Hashed k (replicate (2 ^ k) ⟨none, 0⟩) := by
  refine ⟨length_replicate, fun s key v hs => ?_⟩
  obtain ⟨e, he, hkey⟩ := Option.bind_eq_some_iff.1 hs
  obtain ⟨-, rfl⟩ := mem_replicate.1 (mem_of_getElem? he)
  cases hkey

theorem calloc_count (n : ℕ) : (replicate n (⟨none, 0⟩ : ENTRY)).countP occupied = 0 := by
  rw [countP_replicate]
  rfl

theorem calloc_none_mem (n : ℕ) : ⟨some key, v⟩ ∉ replicate n (⟨none, 0⟩ : ENTRY) := by
  intro h
  cases (mem_replicate.1 h).2

theorem resize_spec (tab : Tab) (nel : ℕ) (ok : Bool) (h : Hashed k tab.entries)
    (hsize : newSize nel = 2 ^ k') (hroom : tab.entries.countP occupied < 2 ^ k') :
    (resize nel ok tab = some (false, tab) ∧ (ok = false ∨ 60 ≤ k')) ∨
      ∃ entries, resize nel ok tab =
          some (true, { tab with entries := entries, mask := 2 ^ k' - 1 }) ∧ k' < 60 ∧
        Hashed k' entries ∧ entries.countP occupied = tab.entries.countP occupied ∧
        ∀ key v, ⟨some key, v⟩ ∈ entries ↔ ⟨some key, v⟩ ∈ tab.entries := by
  have hlimit : 2 ^ k' * 16 < 2 ^ 64 ↔ k' < 60 := by
    rw [show 2 ^ k' * 16 = 2 ^ (k' + 4) by rw [Nat.pow_add]]
    rw [Nat.pow_lt_pow_iff_right (by decide)]
    omega
  have hnonempty : tab.entries ≠ [] := by
    intro hnil
    have hlength := h.length
    rw [hnil] at hlength
    exact absurd hlength.symm (Nat.ne_of_gt (Nat.two_pow_pos k))
  rw [resize, hsize, calloc]
  by_cases hok : (ok = true) ∧ 2 ^ k' * 16 < 2 ^ 64
  · have hk' := hlimit.1 hok.2
    obtain ⟨entries, heq, hhashed, hcount, hmem⟩ := moveEntries_spec (by omega) h.distinct
      (calloc_hashed k') (fun _ _ _ _ _ => calloc_none_mem _) (by rw [calloc_count]; omega)
    refine .inr ⟨entries, ?_, hk', hhashed, by rw [hcount, calloc_count, Nat.zero_add],
      fun key v => ?_⟩
    · rw [if_pos hok]
      dsimp only
      rw [if_neg hnonempty, heq]
      rfl
    · rw [hmem, or_iff_right (calloc_none_mem _)]
  · rw [if_neg hok]
    refine .inl ⟨rfl, ?_⟩
    by_cases hfalse : ok = false
    · exact .inl hfalse
    · refine .inr (Nat.le_of_not_lt fun hlt => hok ⟨?_, hlimit.2 hlt⟩)
      exact Bool.eq_true_of_not_eq_false hfalse

/-- What holds of a table between calls: a power of two of slots, at most three quarters of them
used -/
structure Sound (k : ℕ) (tab : Tab) : Prop where
  low : 3 ≤ k
  high : k < 60
  hashed : Hashed k tab.entries
  mask : tab.mask = 2 ^ k - 1
  used : tab.used = tab.entries.countP occupied
  load : tab.used ≤ 3 * 2 ^ (k - 2)

theorem quarter (h : 3 ≤ k) : 2 ^ k = 4 * 2 ^ (k - 2) ∧ 2 ≤ 2 ^ (k - 2) := by
  obtain ⟨j, rfl⟩ := Nat.exists_eq_add_of_le h
  have hone := Nat.two_pow_pos j
  rw [show 3 + j - 2 = j + 1 by omega, show 3 + j = j + 1 + 2 by omega, Nat.pow_add 2 (j + 1) 2]
  omega

section

variable (h : Sound k tab)
include h

theorem Sound.room : tab.used + 1 < 2 ^ k := by
  obtain ⟨hfour, htwo⟩ := quarter h.low
  have hload := h.load
  omega

theorem Sound.empty_slot : ∃ s < tab.entries.length, contents tab.entries s = none :=
  exists_empty (by rw [h.hashed.length, ← h.used]; have := h.room; omega)

theorem Sound.threshold : tab.mask - tab.mask / 4 = 3 * 2 ^ (k - 2) := by
  obtain ⟨hfour, htwo⟩ := quarter h.low
  rw [h.mask]
  omega

theorem Sound.stops (key : Key) : ∃ t < 2 ^ k, Stops (probe k) (contents tab.entries) key t :=
  h.hashed.stops (by rw [← h.used]; have := h.room; omega) key

theorem Sound.lookup (ht : t < 2 ^ k) (hstops : Stops (probe k) (contents tab.entries) key t) :
    lookup key (keyhash key) tab = some (probe k key t) :=
  lookup_stops h.mask (by have := h.high; omega) ht hstops

end

/-- The item that a returned pointer leads to -/
def pointed (tab : Tab) (e : ℕ) : Option Item := (contents tab.entries e).map fun x => ⟨x.1, x.2⟩

section Search

variable (item : Item) (ok : Bool)

theorem hsearch_hit (h : Sound k tab) (hmem : ⟨some item.key, v⟩ ∈ tab.entries) (action : ACTION) :
    ∃ e, hsearch_r item action ok tab = some (some e, tab) ∧
      pointed tab e = some ⟨item.key, v⟩ := by
  obtain ⟨s, hs⟩ := mem_iff_contents.1 hmem
  obtain ⟨t, ht, hstops⟩ := h.stops item.key
  have hslot := h.hashed.placed.stop_eq hs hstops
  refine ⟨s, ?_, by rw [pointed, hs]; rfl⟩
  rw [hsearch_r, h.lookup ht hstops, hslot]
  simp only [bind_eq_bind, bind_some]
  rw [keyAt_eq, hs]
  rfl

theorem hsearch_find_miss (h : Sound k tab) (habsent : ∀ v, ⟨some item.key, v⟩ ∉ tab.entries) :
    hsearch_r item .FIND ok tab = some (none, tab) := by
  obtain ⟨t, ht, hstops⟩ := h.stops item.key
  rw [hsearch_r, h.lookup ht hstops]
  simp only [bind_eq_bind, bind_some]
  rw [keyAt_eq, not_stored habsent hstops]
  rfl

def entered (item : Item) (e : ℕ) (tab : Tab) : Tab :=
  { tab with
    entries := tab.entries.set e ⟨some item.key, item.data⟩
    used := (tab.used + 1) % 2 ^ 64 }

/-- The end of `hsearch` for a new key, with the resize that may fail -/
def settle (item : Item) (ok : Bool) (e : ℕ) (tab : Tab) : Option (Option ℕ × Tab) :=
  if tab.used > tab.mask - tab.mask / 4 then
    (resize (2 * tab.used % 2 ^ 64) ok tab).bind fun r =>
      if r.1 then (lookup item.key (keyhash item.key) r.2).map fun e => (some e, r.2)
      else some (none, { r.2 with
        entries := r.2.entries.set e ⟨none, item.data⟩
        used := r.2.used - 1 })
  else some (some e, tab)

theorem hsearch_enter_eq (h : Sound k tab) (habsent : ∀ v, ⟨some item.key, v⟩ ∉ tab.entries)
    (ht : t < 2 ^ k) (hstops : Stops (probe k) (contents tab.entries) item.key t) :
    hsearch_r item .ENTER ok tab =
      settle item ok (probe k item.key t) (entered item (probe k item.key t) tab) := by
  rw [hsearch_r, h.lookup ht hstops]
  simp only [bind_eq_bind, bind_some]
  rw [keyAt_eq, not_stored habsent hstops]
  simp only [Option.map_none, Option.isSome_none, Bool.false_eq_true, if_false]
  refine if_congr Iff.rfl ?_ rfl
  refine congrArg _ (funext fun r => ?_)
  obtain ⟨_ | _, tab'⟩ := r
  · rfl
  · simp only [if_true]
    cases Hsearch.lookup item.key (keyhash item.key) tab' <;> rfl

theorem Sound.undo (h : Sound k tab) (hs : s < tab.entries.length)
    (hempty : contents tab.entries s = none) (v : ℕ) :
    Sound k { tab with entries := tab.entries.set s ⟨none, v⟩ } := by
  refine ⟨h.low, h.high, ⟨?_, ?_⟩, h.mask, ?_, h.load⟩
  · rw [length_set, h.hashed.length]
  · rw [contents_clear hempty]
    exact h.hashed.placed
  · rw [count_clear hs hempty]
    exact h.used

theorem hsearch_enter_miss (h : Sound k tab) (habsent : ∀ v, ⟨some item.key, v⟩ ∉ tab.entries) :
    (∃ k' e tab', hsearch_r item .ENTER ok tab = some (some e, tab') ∧ Sound k' tab' ∧
      pointed tab' e = some item ∧ tab'.used = tab.used + 1 ∧
      ∀ key v, ⟨some key, v⟩ ∈ tab'.entries ↔
        (key = item.key ∧ v = item.data) ∨ ⟨some key, v⟩ ∈ tab.entries) ∨
    (∃ tab', hsearch_r item .ENTER ok tab = some (none, tab') ∧ Sound k tab' ∧
      tab'.used = tab.used ∧ (ok = false ∨ 2 ^ 58 ≤ tab.used) ∧
      ∀ key v, ⟨some key, v⟩ ∈ tab'.entries ↔ ⟨some key, v⟩ ∈ tab.entries) := by
  obtain ⟨t, ht, hstops⟩ := h.stops item.key
  have hempty := not_stored habsent hstops
  have hs : probe k item.key t < tab.entries.length := by
    rw [h.hashed.length]
    exact probe_lt _ _ _
  obtain ⟨hhashed, hcount, hmem⟩ := h.hashed.put hstops hempty item.data
  have hlt := lt_of_lt_of_le h.room (Nat.pow_le_pow_right (by decide) (Nat.le_of_lt h.high))
  have hused : (entered item (probe k item.key t) tab).used = tab.used + 1 :=
    Nat.mod_eq_of_lt (by omega)
  rw [← h.used] at hcount
  rw [hsearch_enter_eq item ok h habsent ht hstops, settle, hused]
  rw [show (entered item (probe k item.key t) tab).mask = tab.mask from rfl, h.threshold]
  split_ifs with hfull
  · rw [Nat.mod_eq_of_lt (by omega)]
    obtain ⟨k', hlow', hsize, hle, hleast⟩ := newSize_spec (2 * (tab.used + 1))
    obtain ⟨hfour', htwo'⟩ := quarter hlow'
    have hroom : (entered item (probe k item.key t) tab).entries.countP occupied < 2 ^ k' := by
      change (tab.entries.set _ _).countP occupied < _
      omega
    rcases resize_spec (entered item (probe k item.key t) tab) _ ok hhashed hsize hroom with
      ⟨hresize, hwhy⟩ | ⟨entries, hresize, hk', hhashed', hcount', hmem'⟩
    · right
      refine ⟨{ tab with entries := tab.entries.set (probe k item.key t) ⟨none, item.data⟩ }, ?_,
        h.undo hs hempty item.data, rfl, ?_, fun key v => ?_⟩
      · rw [hresize]
        simp only [bind_some, Bool.false_eq_true, if_false, hused, Nat.add_sub_cancel]
        simp only [entered, set_set]
      · rcases hwhy with hok | hlarge
        · exact .inl hok
        · refine .inr ?_
          have hmono : 2 ^ 59 ≤ 2 ^ (k' - 1) := Nat.pow_le_pow_right (by decide) (by omega)
          omega
      · rw [mem_iff_contents, mem_iff_contents, contents_clear hempty]
    · left
      have hsound : Sound k' ⟨entries, 2 ^ k' - 1, tab.used + 1⟩ := by
        refine ⟨hlow', hk', hhashed', rfl, ?_, ?_⟩
        · exact (hcount'.trans hcount).symm
        · change tab.used + 1 ≤ _
          omega
      have hstored : ⟨some item.key, item.data⟩ ∈ entries :=
        (hmem' _ _).2 ((hmem _ _).2 (.inl ⟨rfl, rfl⟩))
      obtain ⟨s', hs'⟩ := mem_iff_contents.1 hstored
      obtain ⟨t', ht', hstops'⟩ := hsound.stops item.key
      have hslot : probe k' item.key t' = s' := hhashed'.placed.stop_eq hs' hstops'
      refine ⟨k', s', ⟨entries, 2 ^ k' - 1, tab.used + 1⟩, ?_, hsound, ?_, rfl, fun key v => ?_⟩
      · rw [hresize]
        simp only [bind_some, hused]
        rw [hsound.lookup ht' hstops', hslot]
        rfl
      · rw [pointed, hs']
        rfl
      · rw [hmem']
        exact hmem key v
  · left
    refine ⟨k, _, _, rfl, ⟨h.low, h.high, hhashed, h.mask, ?_, ?_⟩, ?_, hused, hmem⟩
    · rw [hused]
      exact hcount.symm
    · omega
    · change (contents (tab.entries.set _ _) _).map _ = _
      rw [contents_set hs, update_self]
      rfl

end Search

end Hsearch
