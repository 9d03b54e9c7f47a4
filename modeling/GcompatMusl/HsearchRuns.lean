import GcompatMusl.HsearchMap

/-! # Histories of a hash table

What the calls of `hsearch_r` on a new table return, in terms of the calls before. -/
namespace Hsearch

open List Option

structure Request where
  item : Item
  action : ACTION
  ok : Bool

structure Event where
  request : Request
  result : Option Item

def call (q : Request) (tab : Tab) : Option (Event × Tab) :=
  (hsearch_r q.item q.action q.ok tab).map fun r => (⟨q, r.1.bind (pointed r.2)⟩, r.2)

def run : List Request → Tab → Option (List Event × Tab)
  | [], tab => some ([], tab)
  | q :: qs, tab => do
    let (e, tab) ← call q tab
    let (events, tab) ← run qs tab
    some (e :: events, tab)

def findable (tab : Tab) (key : Key) : Option (Option Item) :=
  (call ⟨⟨key, 0⟩, .FIND, true⟩ tab).map fun r => r.1.result

def enters (key : Key) (e : Event) : Bool :=
  e.request.action = .ENTER && e.request.item.key == key && e.result.isSome

def stored (events : List Event) (key : Key) : Option Item :=
  (events.find? (enters key)).map (·.request.item)

/-- What a call returns after the calls of `before` -/
structure Answered (before : List Event) (e : Event) : Prop where
  find : e.request.action = .FIND → e.result = stored before e.request.item.key
  existing : ∀ item, e.request.action = .ENTER → stored before e.request.item.key = some item →
    e.result = some item
  added : e.request.action = .ENTER → stored before e.request.item.key = none →
    e.result = some e.request.item ∨
      (e.result = none ∧ (e.request.ok = false ∨ 2 ^ 58 ≤ before.length))

variable {tab : Tab} {key : Key}

theorem stored_append (before events : List Event) (key : Key) :
    stored (before ++ events) key = (stored before key).or (stored events key) := by
  rw [stored, find?_append, stored]
  cases before.find? (enters key) <;> rfl

theorem stored_singleton (e : Event) (key : Key) :
    stored [e] key = if enters key e = true then some e.request.item else none := by
  rw [stored, find?_singleton]
  split_ifs <;> rfl

theorem stored_key (h : stored before key = some item) : item.key = key := by
  obtain ⟨e, he, rfl⟩ := map_eq_some_iff.1 h
  have henters := find?_some he
  rw [enters, Bool.and_eq_true, Bool.and_eq_true] at henters
  exact eq_of_beq henters.1.2

structure Matches (before : List Event) (k : ℕ) (tab : Tab) : Prop where
  sound : Sound k tab
  used : tab.used ≤ before.length
  mem : ∀ key v, ⟨some key, v⟩ ∈ tab.entries ↔ stored before key = some ⟨key, v⟩

section

variable (h : Matches before k tab)
include h

theorem Matches.mem_of_stored (hstored : stored before key = some item) :
    ⟨some key, item.data⟩ ∈ tab.entries := by
  refine (h.mem key item.data).2 ?_
  rw [hstored, ← stored_key hstored]

theorem Matches.absent (hstored : stored before key = none) (v : ℕ) :
    ⟨some key, v⟩ ∉ tab.entries := by
  rw [h.mem, hstored]
  exact nofun

theorem Matches.same (hsound : Sound k tab') (hused : tab'.used = tab.used)
    (hmem : ∀ key v, ⟨some key, v⟩ ∈ tab'.entries ↔ ⟨some key, v⟩ ∈ tab.entries)
    (he : ∀ key, enters key e = true → (stored before key).isSome = true) :
    Matches (before ++ [e]) k tab' := by
  refine ⟨hsound, ?_, fun key v => ?_⟩
  · rw [hused, length_append]
    exact Nat.le_add_right_of_le h.used
  · rw [hmem, h.mem, stored_append, stored_singleton]
    cases hstored : stored before key with
    | some item => rfl
    | none =>
      have hnot : ¬ enters key e = true := by
        intro henters
        have hsome := he key henters
        rw [hstored] at hsome
        cases hsome
      rw [if_neg hnot]
      rfl

theorem Matches.add (hsound : Sound k' tab') (hused : tab'.used = tab.used + 1)
    (hnone : stored before item.key = none)
    (hmem : ∀ key v, ⟨some key, v⟩ ∈ tab'.entries ↔
      (key = item.key ∧ v = item.data) ∨ ⟨some key, v⟩ ∈ tab.entries)
    (he : ∀ key, enters key e = true ↔ item.key = key) (hitem : e.request.item = item) :
    Matches (before ++ [e]) k' tab' := by
  refine ⟨hsound, ?_, fun key v => ?_⟩
  · have hle := h.used
    rw [length_append, length_singleton]
    omega
  · rw [hmem, h.mem, stored_append, stored_singleton, hitem]
    by_cases hkey : item.key = key
    · subst hkey
      rw [hnone, if_pos ((he _).2 rfl), none_or, some.injEq]
      constructor
      · rintro (⟨-, rfl⟩ | h')
        · rfl
        · cases h'
      · intro heq
        exact .inl ⟨rfl, (congrArg Item.data heq).symm⟩
    · rw [if_neg (mt (he key).1 hkey), or_none]
      exact or_iff_right fun hboth => hkey hboth.1.symm

theorem call_matches (q : Request) :
    ∃ e k' tab', call q tab = some (e, tab') ∧ e.request = q ∧ Answered before e ∧
      Matches (before ++ [e]) k' tab' := by
  cases hstored : stored before q.item.key with
  | some item =>
    obtain ⟨s, hcall, hpointed⟩ :=
      hsearch_hit q.item q.ok h.sound (h.mem_of_stored hstored) q.action
    have hitem : (⟨q.item.key, item.data⟩ : Item) = item := by rw [← stored_key hstored]
    rw [hitem] at hpointed
    refine ⟨⟨q, some item⟩, k, tab, ?_, rfl, ⟨fun _ => hstored.symm, fun item' _ h' => ?_,
      fun _ h' => ?_⟩, h.same h.sound rfl (fun _ _ => Iff.rfl) fun key henters => ?_⟩
    · rw [call, hcall, map_some, bind_some, hpointed]
    · exact hstored.symm.trans h'
    · cases hstored.symm.trans h'
    · rw [enters, Bool.and_eq_true, Bool.and_eq_true] at henters
      rw [← eq_of_beq henters.1.2, hstored]
      rfl
  | none =>
    have habsent := h.absent hstored
    cases haction : q.action with
    | FIND =>
      have hcall := hsearch_find_miss q.item q.ok h.sound habsent
      refine ⟨⟨q, none⟩, k, tab, ?_, rfl, ⟨fun _ => hstored.symm, fun _ h' => ?_, fun h' => ?_⟩,
        h.same h.sound rfl (fun _ _ => Iff.rfl) fun key henters => ?_⟩
      · rw [call, haction, hcall]
        rfl
      · cases haction.symm.trans h'
      · cases haction.symm.trans h'
      · rw [enters, Bool.and_eq_true] at henters
        cases henters.2
    | ENTER =>
      rcases hsearch_enter_miss q.item q.ok h.sound habsent with
        ⟨k', s, tab', hcall, hsound, hpointed, hused, hmem⟩ |
        ⟨tab', hcall, hsound, hused, hwhy, hmem⟩
      · refine ⟨⟨q, some q.item⟩, k', tab', ?_, rfl, ⟨fun h' => ?_, fun item' _ h' => ?_,
          fun _ _ => .inl rfl⟩, h.add hsound hused hstored hmem (fun key => ?_) rfl⟩
        · rw [call, haction, hcall, map_some, bind_some, hpointed]
        · cases haction.symm.trans h'
        · cases hstored.symm.trans h'
        · rw [enters, Bool.and_eq_true, Bool.and_eq_true, beq_iff_eq]
          exact ⟨fun h' => h'.1.2, fun h' => ⟨⟨decide_eq_true haction, h'⟩, rfl⟩⟩
      · refine ⟨⟨q, none⟩, k, tab', ?_, rfl, ⟨fun h' => ?_, fun item' _ h' => ?_,
          fun _ _ => .inr ⟨rfl, ?_⟩⟩, h.same hsound hused hmem fun key henters => ?_⟩
        · rw [call, haction, hcall]
          rfl
        · cases haction.symm.trans h'
        · cases hstored.symm.trans h'
        · exact hwhy.imp_right fun hlarge => le_trans hlarge h.used
        · rw [enters, Bool.and_eq_true] at henters
          cases henters.2

end

theorem run_matches (qs : List Request) : ∀ {before k tab}, Matches before k tab →
    ∃ events k' tab', run qs tab = some (events, tab') ∧ events.map (·.request) = qs ∧
      (∀ a e b, events = a ++ e :: b → Answered (before ++ a) e) ∧
      Matches (before ++ events) k' tab' := by
  induction qs with
  | nil =>
    intro before k tab h
    refine ⟨[], k, tab, rfl, rfl, fun a e b heq => ?_, by rwa [append_nil]⟩
    cases a <;> cases heq
  | cons q qs ih =>
    intro before k tab h
    obtain ⟨e, k1, tab1, hcall, hrequest, hanswered, hmatches⟩ := call_matches h q
    obtain ⟨events, k', tab', hrun, hrequests, hall, hend⟩ := ih hmatches
    refine ⟨e :: events, k', tab', ?_, ?_, fun a e' b heq => ?_, ?_⟩
    · simp only [run, hcall, hrun, bind_eq_bind, bind_some]
    · rw [map_cons, hrequest, hrequests]
    · cases a with
      | nil =>
        cases heq
        rwa [append_nil]
      | cons e1 a =>
        obtain ⟨rfl, hevents⟩ := cons.inj heq
        rw [append_cons]
        exact hall a e' b hevents
    · rwa [append_assoc] at hend

theorem hcreate_matches (h : hcreate_r nel ok ok' = some tab) : ∃ k, Matches [] k tab := by
  obtain ⟨k, hlow, hsize, -⟩ := newSize_spec nel
  rw [hcreate_r, resize, hsize, calloc] at h
  split_ifs at h with hok hcalloc hnull
  swap
  · exact absurd rfl hnull
  cases h
  have hhigh : k < 60 := by
    have hlt := hcalloc.2
    rw [show 2 ^ k * 16 = 2 ^ (k + 4) by rw [Nat.pow_add],
      Nat.pow_lt_pow_iff_right (by decide)] at hlt
    omega
  refine ⟨k, ⟨hlow, hhigh, calloc_hashed k, rfl, (calloc_count _).symm, Nat.zero_le _⟩,
    Nat.le_refl 0, fun key v => ?_⟩
  refine ⟨fun hmem => absurd hmem (calloc_none_mem _), fun hnil => ?_⟩
  cases hnil

/-- A table is a map from keys to the items that were stored first, whatever the allocator does.
Every search ends, and some slot is empty. -/
theorem hsearch_map {nel : ℕ} {ok ok' : Bool} (h : hcreate_r nel ok ok' = some tab)
    (qs : List Request) :
    ∃ events tab', run qs tab = some (events, tab') ∧ events.map (·.request) = qs ∧
      (∀ before e after, events = before ++ e :: after → Answered before e) ∧
      (∀ key, findable tab' key = some (stored events key)) ∧
      ∃ s < tab'.entries.length, keyAt tab'.entries s = none := by
  obtain ⟨k, hmatches⟩ := hcreate_matches h
  obtain ⟨events, k', tab', hrun, hrequests, hall, hend⟩ := run_matches qs hmatches
  refine ⟨events, tab', hrun, hrequests, hall, fun key => ?_, ?_⟩
  · obtain ⟨e, k1, tab1, hcall, hrequest, hanswered, -⟩ := call_matches hend ⟨⟨key, 0⟩, .FIND, true⟩
    have hfind := hanswered.find (by rw [hrequest])
    rw [findable, hcall, map_some, hfind, hrequest]
    rfl
  · obtain ⟨s, hs, hempty⟩ := hend.sound.empty_slot
    exact ⟨s, hs, by rw [keyAt_eq, hempty]; rfl⟩

/-- Two keys of one hash, in the smallest table -/
theorem hsearch_map_collision :
    ∃ events tab', run [⟨⟨[1, 32], 5⟩, .ENTER, true⟩, ⟨⟨[2, 1], 6⟩, .ENTER, true⟩]
        ⟨List.replicate 8 ⟨none, 0⟩, 7, 0⟩ = some (events, tab') ∧ events.length = 2 ∧
      findable tab' [2, 1] = some (stored events [2, 1]) := by
  have hcreate : hcreate_r 0 true true = some ⟨replicate 8 ⟨none, 0⟩, 7, 0⟩ := by rfl
  obtain ⟨events, tab', hrun, hrequests, -, hfind, -⟩ := hsearch_map hcreate
    [⟨⟨[1, 32], 5⟩, .ENTER, true⟩, ⟨⟨[2, 1], 6⟩, .ENTER, true⟩]
  refine ⟨events, tab', hrun, ?_, hfind _⟩
  rw [← length_map, hrequests]
  rfl

end Hsearch
