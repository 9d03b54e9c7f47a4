import GcompatMusl.FuelLoop
import GcompatMusl.OpenAddressing

/-! # The hash table of `hsearch`

Keys are the strings that the entries point to. The allocator is asked at most once in a call; `ok`
is its answer. A search that does not come to an end is `none`. -/
namespace Hsearch

open FuelLoop OpenAddressing Option

abbrev Key := List UInt8

structure ENTRY where
  key : Option Key
  data : ℕ
  deriving DecidableEq

inductive ACTION where
  | FIND | ENTER
  deriving DecidableEq

def MINSIZE : ℕ := 8
def MAXSIZE : ℕ := (2 ^ 64 - 1) / 2 + 1

/-- `struct __tab`. The array of the null pointer is empty. -/
structure Tab where
  entries : List ENTRY
  mask : ℕ
  used : ℕ

def keyhash (k : Key) : ℕ := k.foldl (fun h c => (31 * h + c.toNat) % 2 ^ 64) 0

def keyAt (entries : List ENTRY) (s : ℕ) : Option Key := entries[s]?.bind (·.key)

def probeTurn (stop : ℕ → Bool) (mask : ℕ) : ℕ × ℕ → Turn ℕ (ℕ × ℕ)
  | (i, j) =>
    if stop (i &&& mask) then .ret (i &&& mask) else .again ((i + j) % 2 ^ 64, (j + 1) % 2 ^ 64)

def probeLoop (stop : ℕ → Bool) (mask hash : ℕ) : Option ℕ :=
  (loop (probeTurn stop mask) (mask + 1) (hash, 1)).result

def lookup (key : Key) (hash : ℕ) (tab : Tab) : Option ℕ :=
  probeLoop (fun s => (keyAt tab.entries s).all (· == key)) tab.mask hash

def moveEntry (mask : ℕ) (entries : List ENTRY) (e : ENTRY) : Option (List ENTRY) :=
  match e.key with
  | none => some entries
  | some key =>
    (probeLoop (fun s => (keyAt entries s).isNone) mask (keyhash key)).map (entries.set · e)

def moveEntries (mask : ℕ) : List ENTRY → List ENTRY → Option (List ENTRY)
  | [], entries => some entries
  | e :: old, entries => (moveEntry mask entries e).bind (moveEntries mask old)

/-- The loop that doubles `newsize`; 60 turns lead from `MINSIZE` to `MAXSIZE`. -/
def grow (nel : ℕ) : ℕ → ℕ → ℕ
  | 0, newsize => newsize
  | turns + 1, newsize => if newsize < nel then grow nel turns (newsize * 2 % 2 ^ 64) else newsize

def newSize (nel : ℕ) : ℕ := grow (if nel > MAXSIZE then MAXSIZE else nel) 60 MINSIZE

def calloc (ok : Bool) (n : ℕ) : Option (List ENTRY) :=
  if ok ∧ n * 16 < 2 ^ 64 then some (List.replicate n ⟨none, 0⟩) else none

def resize (nel : ℕ) (ok : Bool) (tab : Tab) : Option (Bool × Tab) :=
  match calloc ok (newSize nel) with
  | none => some (false, tab)
  | some entries =>
    if tab.entries = [] then
      some (true, { tab with entries := entries, mask := newSize nel - 1 })
    else (moveEntries (newSize nel - 1) tab.entries entries).map fun entries =>
      (true, { tab with entries := entries, mask := newSize nel - 1 })

def hcreate_r (nel : ℕ) (ok ok' : Bool) : Option Tab :=
  if ok then
    match resize nel ok' ⟨[], 0, 0⟩ with
    | some (true, tab) => some tab
    | _ => none
  else none

structure Item where
  key : Key
  data : ℕ
  deriving DecidableEq

def hsearch_r (item : Item) (action : ACTION) (ok : Bool) (tab : Tab) :
    Option (Option ℕ × Tab) := do
  let e ← lookup item.key (keyhash item.key) tab
  if (keyAt tab.entries e).isSome then some (some e, tab)
  else match action with
  | .FIND => some (none, tab)
  | .ENTER =>
    let tab := { tab with
      entries := tab.entries.set e ⟨some item.key, item.data⟩
      used := (tab.used + 1) % 2 ^ 64 }
    if tab.used > tab.mask - tab.mask / 4 then
      match ← resize (2 * tab.used % 2 ^ 64) ok tab with
      | (false, tab) => some (none, { tab with
          entries := tab.entries.set e ⟨none, item.data⟩
          used := tab.used - 1 })
      | (true, tab) =>
        let e ← lookup item.key (keyhash item.key) tab
        some (some e, tab)
    else some (some e, tab)

def contents (entries : List ENTRY) (s : ℕ) : Option (Key × ℕ) :=
  entries[s]?.bind fun e => e.key.map (·, e.data)

def probe (k : ℕ) (key : Key) (t : ℕ) : ℕ := (keyhash key + tri t) % 2 ^ k

def occupied (e : ENTRY) : Bool := e.key.isSome

theorem probe_lt (k : ℕ) (key : Key) (t : ℕ) : probe k key t < 2 ^ k :=
  Nat.mod_lt _ (Nat.two_pow_pos k)

theorem keyAt_eq (entries : List ENTRY) (s : ℕ) :
    keyAt entries s = (contents entries s).map Prod.fst := by
  rw [keyAt, contents]
  cases entries[s]? with
  | none => rfl
  | some e => cases e with | mk key data => cases key <;> rfl

theorem mem_iff_contents :
    ⟨some key, v⟩ ∈ entries ↔ ∃ s, contents entries s = some (key, v) := by
  rw [List.mem_iff_getElem?]
  refine exists_congr fun s => ?_
  rw [contents]
  cases entries[s]? with
  | none => exact ⟨nofun, nofun⟩
  | some e =>
    cases e with
    | mk key' data =>
      cases key' with
      | none => exact ⟨nofun, nofun⟩
      | some key' =>
        simp only [bind_some, map_some, some.injEq, ENTRY.mk.injEq, Prod.mk.injEq]

theorem probeLoop_stops (hmask : mask = 2 ^ k - 1) (hk : k < 64) (ht : t < 2 ^ k)
    (hbefore : ∀ t' < t, stop (probe k key t') = false) (hstop : stop (probe k key t) = true) :
    probeLoop stop mask (keyhash key) = some (probe k key t) := by
  have hpow : 2 ^ k ≤ 2 ^ 63 := Nat.pow_le_pow_right (by decide) (by omega)
  have hslot : ∀ i j, i % 2 ^ 64 = (keyhash key + tri j) % 2 ^ 64 → i &&& mask = probe k key j := by
    intro i j hi
    have hdvd : 2 ^ k ∣ 2 ^ 64 := Nat.pow_dvd_pow 2 (by omega)
    rw [hmask, Nat.and_two_pow_sub_one_eq_mod, probe, ← Nat.mod_mod_of_dvd i hdvd, hi,
      Nat.mod_mod_of_dvd _ hdvd]
  let I : ℕ → ℕ × ℕ → Prop := fun j x => x.1 % 2 ^ 64 = (keyhash key + tri j) % 2 ^ 64 ∧ x.2 = j + 1
  have hagain : ∀ j < t, ∀ x, I j x → ∃ x', probeTurn stop mask x = .again x' ∧ I (j + 1) x' := by
    rintro j hj ⟨i, j'⟩ ⟨hi, rfl⟩
    refine ⟨_, if_neg (by rw [hslot i j hi, hbefore j hj]; decide), ?_, ?_⟩
    · rw [tri]
      omega
    · exact Nat.mod_eq_of_lt (by omega)
  have hret : ∀ x, I t x → ∃ r, probeTurn stop mask x = .ret r ∧ r = probe k key t := by
    rintro ⟨i, j⟩ ⟨hi, -⟩
    rw [probeTurn, hslot i t hi, if_pos hstop]
    exact ⟨_, rfl, rfl⟩
  obtain ⟨r, hloop, rfl⟩ := loop_reaches _ I _ hagain hret (keyhash key, 1) ⟨rfl, rfl⟩
  have hfuel : mask + 1 = t + 1 + (mask - t) := by omega
  rw [probeLoop, hfuel, loop_more hloop]
  rfl

theorem lookup_stops (hmask : tab.mask = 2 ^ k - 1) (hk : k < 64) (ht : t < 2 ^ k)
    (h : Stops (probe k) (contents tab.entries) key t) :
    lookup key (keyhash key) tab = some (probe k key t) := by
  refine probeLoop_stops hmask hk ht (fun t' ht' => ?_) ?_
  · obtain ⟨key', v, hother, hne⟩ := h.before t' ht'
    rw [keyAt_eq, hother]
    exact beq_eq_false_iff_ne.2 hne
  · rw [keyAt_eq]
    rcases h.here with hnone | ⟨v, hkey⟩
    · rw [hnone]
      rfl
    · rw [hkey]
      exact beq_self_eq_true key

end Hsearch
