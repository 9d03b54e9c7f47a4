import GcompatMusl.Interleaving
import GcompatMusl.ObstackInvariant

/-! # Runs of an obstack

What the memory of an obstack holds after any sequence of operations: the bytes of the growing
object, and the finished objects that were not freed, in chunks that were not freed. -/
namespace ObstackRuns

open FlatMemory FuelLoop Interleaving Obstack ObstackChunks ObstackInvariant List Option

inductive Step : Conf → Conf → Prop where
  | grow {c : Conf} {s : State} (data : List UInt8) (answer : Option ℕ) :
      data.length ≤ PTRDIFF_MAX → Answers c.s data.length answer →
      obstack_grow answer data c.s = some s → Step c ⟨s, c.growing ++ data, c.objects⟩
  | grow0 {c : Conf} {s : State} (data : List UInt8) (answer : Option ℕ) :
      data.length ≤ PTRDIFF_MAX → Answers c.s (data.length + 1) answer →
      obstack_grow0 answer data c.s = some s → Step c ⟨s, c.growing ++ data ++ [0], c.objects⟩
  | grow1 {c : Conf} {s : State} (b : UInt8) (answer : Option ℕ) :
      Answers c.s 1 answer → obstack_1grow answer b c.s = some s →
      Step c ⟨s, c.growing ++ [b], c.objects⟩
  | blank {c : Conf} {s : State} (length : ℕ) (answer : Option ℕ) :
      length < 2 ^ 64 → Answers c.s length answer → obstack_blank answer length c.s = some s →
      Step c ⟨s, c.growing ++ readList s.mem (s.h.next_free - length) length, c.objects⟩
  | finish {c : Conf} : Step c ⟨obstack_finish c.s, [], ⟨c.s.h.object_base, c.growing⟩ :: c.objects⟩
  | free {c : Conf} {s : State} (newer older : List Obj) (o : Obj) (fuel : ℕ) :
      c.objects = newer ++ o :: older → obstack_free fuel o.addr c.s = some (some s) →
      Step c ⟨s, [], older⟩

def Initial (k : ℕ) (c : Conf) : Prop :=
  ∃ size chunk m, contentsOffset + 2 ^ k ≤ size ∧ Fresh [] ⟨chunk, size⟩ ∧
    c = ⟨obstack_begin size (2 ^ k) chunk m, [], []⟩

theorem advance_next (h : Good k c cur older) (hn : c.s.h.next_free + n ≤ c.s.h.chunk_limit) :
    (advance n c.s).h.next_free = c.s.h.next_free + n := by
  have hbounds := h.bounds
  have hlimit := h.limit
  exact Nat.mod_eq_of_lt (by omega)

theorem step_good (h : ∃ cur older, Good k c cur older) (hstep : Step c d) :
    ∃ cur older, Good k d cur older := by
  obtain ⟨cur, older, h⟩ := h
  cases hstep with
  | grow data answer hlen hans hs =>
    obtain ⟨s, hmake, rfl⟩ := map_eq_some_iff.mp hs
    unfold PTRDIFF_MAX at hlen
    obtain ⟨⟨cur', older', h'⟩, hroom⟩ := h.make_room (by omega) hans hmake
    exact ⟨cur', older', h'.append hroom⟩
  | grow0 data answer hlen hans hs =>
    unfold PTRDIFF_MAX at hlen
    unfold obstack_grow0 at hs
    rw [Nat.mod_eq_of_lt (by omega)] at hs
    obtain ⟨s, hmake, rfl⟩ := map_eq_some_iff.mp hs
    obtain ⟨⟨cur', older', h'⟩, hroom⟩ := h.make_room (by omega) hans hmake
    have hdata : s.h.next_free + data.length ≤ s.h.chunk_limit := by omega
    have hgrown := h'.append hdata
    have hnext := advance_next (h'.write hdata) hdata
    refine ⟨cur', older', hgrown.append ?_⟩
    change (advance data.length _).h.next_free + 1 ≤ s.h.chunk_limit
    rw [hnext]
    exact hroom
  | grow1 b answer hans hs =>
    obtain ⟨s, hmake, rfl⟩ := map_eq_some_iff.mp hs
    obtain ⟨⟨cur', older', h'⟩, hroom⟩ := h.make_room (by omega) hans hmake
    exact ⟨cur', older', h'.append hroom⟩
  | blank length answer hlen hans hs =>
    obtain ⟨s, hmake, rfl⟩ := map_eq_some_iff.mp hs
    obtain ⟨⟨cur', older', h'⟩, hroom⟩ := h.make_room hlen hans hmake
    have hgrown := h'.advance hroom
    refine ⟨cur', older', ?_⟩
    rw [advance_next h' hroom, Nat.add_sub_cancel]
    exact hgrown
  | finish => exact ⟨_, _, h.finish⟩
  | free newer rest o fuel hobjs hs =>
    obtain ⟨s, _, hunique, hgood⟩ := h.free hobjs
    rw [some.inj (hunique fuel _ hs)]
    exact hgood

theorem reachable_good (h : Reachable (Initial k) Step c) : ∃ cur older, Good k c cur older := by
  refine h.invariant ?_ fun _ _ hc hstep => step_good hc hstep
  rintro c ⟨size, chunk, m, hsize, hfresh, rfl⟩
  have hk : 2 ^ k < 2 ^ 64 := by
    have hmax : size ≤ PTRDIFF_MAX := hfresh.size
    unfold PTRDIFF_MAX at hmax
    omega
  exact ⟨_, _, good_initial ((Nat.pow_lt_pow_iff_right (by omega)).mp hk) hsize hfresh⟩

/-- The growing object has the bytes that were grown, in the current chunk; every finished object
has its bytes in a chunk that was not freed, and can be freed. -/
structure Stable (c : Conf) : Prop where
  base : c.s.h.object_base ≤ c.s.h.next_free
  next : c.s.h.next_free ≤ c.s.h.chunk_limit
  current : ∃ ch ∈ c.s.live, ch.addr = c.s.h.chunk ∧ ch.limit = c.s.h.chunk_limit ∧
    ch.addr + contentsOffset ≤ c.s.h.object_base
  growing : readList c.s.mem c.s.h.object_base (c.s.h.next_free - c.s.h.object_base) = c.growing
  finished : ∀ o ∈ c.objects, readList c.s.mem o.addr o.bytes.length = o.bytes ∧
    ∃ ch ∈ c.s.live, ch.addr + contentsOffset ≤ o.addr ∧ o.addr + o.bytes.length ≤ ch.limit
  freeable : ∀ o ∈ c.objects, ∃ s n, ∀ fuel ≥ n, obstack_free fuel o.addr c.s = some (some s)

theorem stable_of_good (h : Good k c cur older) : Stable c where
  base := h.base
  next := h.next
  current := ⟨cur.chunk, (h.live _).mpr mem_cons_self, h.chunk_eq.symm, h.limit.symm, h.bounds.1⟩
  growing := h.growing
  finished := by
    intro o ho
    rw [h.objects] at ho
    obtain ⟨g, hg, ho⟩ := mem_flatMap.mp ho
    exact ⟨h.bytes g hg o ho, g.chunk, (h.live _).mpr (mem_map_of_mem hg), h.placed g hg o ho⟩
  freeable := by
    intro o ho
    obtain ⟨newer, rest, hobjs⟩ := append_of_mem ho
    obtain ⟨s, ⟨n, hn⟩, _⟩ := h.free hobjs
    exact ⟨s, n, hn⟩

/-- After any operations on an obstack of any alignment and chunk size, its contents are stable. -/
theorem obstack_contents_stable {k : ℕ} {c : Conf} (h : Reachable (Initial k) Step c) :
    Stable c := by
  obtain ⟨cur, older, hgood⟩ := reachable_good h
  exact stable_of_good hgood

def smallStart : Conf := ⟨obstack_begin 32 16 4096 fun _ => 0, [], []⟩

def smallGrown : Option State :=
  obstack_grow (some 8192) (List.replicate 20 7) (obstack_finish smallStart.s)

theorem smallGrown_live : smallGrown.map State.live = some [⟨8192, 135⟩, ⟨4096, 32⟩] := by
  decide +kernel

theorem obstack_contents_stable_small :
    ∃ s, smallGrown = some s ∧ Stable ⟨s, List.replicate 20 7, [⟨4112, []⟩]⟩ := by
  have hstart : Reachable (Initial 4) Step smallStart :=
    .start ⟨32, 4096, fun _ => 0, by decide, ⟨by decide, by decide, by decide, by simp⟩, rfl⟩
  have hfinish := hstart.next Step.finish
  obtain ⟨s, hs, _⟩ := map_eq_some_iff.mp smallGrown_live
  refine ⟨s, hs, obstack_contents_stable (hfinish.next (Step.grow (replicate 20 7) (some 8192)
    (by decide) ?_ hs))⟩
  intro a ha
  cases ha
  refine ⟨by decide, by decide, by decide, ?_⟩
  intro d hd
  rw [mem_singleton.mp hd]
  exact Or.inr (by decide)

end ObstackRuns
