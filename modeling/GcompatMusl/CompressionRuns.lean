import GcompatMusl.NameCompression

/-! # Messages with compressed names

Names and other bytes are appended to a message. Every name is read back from the message that
there is in the end. -/
namespace CompressionRuns

open DomainName NameCompression
open List hiding tail

structure Entry where
  pos : ℕ
  bytes : List UInt8
  src : List UInt8
  space : ℤ

structure Build where
  msg : List UInt8
  table : List ℕ
  names : List Entry

inductive Step where
  | name (src : List UInt8) (space : ℤ)
  | other (bytes : List UInt8)

def accept (b : Build) (src : List UInt8) (space : ℤ) (bytes : List UInt8) (table : List ℕ) :
    Build :=
  ⟨b.msg ++ bytes, table, ⟨b.msg.length, bytes, src, space⟩ :: b.names⟩

def step (cap : ℕ) (b : Build) : Step → Option Build
  | .other bytes => some { b with msg := b.msg ++ bytes }
  | .name src space =>
    (dn_comp src b.msg space b.table cap).map fun result =>
      result.elim b fun written => accept b src space written.1 written.2

def build (cap : ℕ) (steps : List Step) (b : Build) : Option Build := steps.foldlM (step cap) b

def fresh (msg : List UInt8) : Build := ⟨msg, [], []⟩

def LabelOf (n : Entry) (o : ℕ) : Prop :=
  ∃ A a rest, (∀ b ∈ A ++ [a], Proper b) ∧ n.bytes = wire (A ++ [a]) ++ rest ∧
    o = n.pos + (wire A).length

def LabelIn (names : List Entry) (o : ℕ) : Prop := ∃ n ∈ names, LabelOf n o

/-- The bytes of a name are labels and a zero, or labels and a pointer that leads to a label of an
earlier name. -/
def Emitted (earlier : List Entry) (n : Entry) : Prop :=
  ∃ A B o, (∀ a ∈ A ++ B, Proper a) ∧ n.bytes = wire A ++ tail B o ∧
    (B ≠ [] → o < 0x4000 ∧ o < n.pos ∧ LabelIn earlier o)

structure Kept (b : Build) (n : Entry) (labels : List (List UInt8)) : Prop where
  name : Name (LabelIn b.names) b.msg n.pos n.pos (n.pos + n.bytes.length) labels
  text : joined labels = withoutDot n.src
  short : (joined labels).length ≤ 253
  proper : ∀ a ∈ labels, Proper a
  room : (n.bytes.length : ℤ) ≤ n.space

structure Sound (b : Build) : Prop where
  table : ∀ dn ∈ b.table, ∃ L stop, Name (LabelIn b.names) b.msg dn dn stop L
  names : ∀ n earlier, n :: earlier <:+ b.names → (∃ labels, Kept b n labels) ∧ Emitted earlier n

theorem sound_fresh (msg : List UInt8) : Sound (fresh msg) := by
  constructor
  · intro dn hdn
    cases hdn
  · intro n earlier h
    simp [fresh] at h

variable {b : Build}

theorem sound_other (h : Sound b) (bytes : List UInt8) :
    Sound { b with msg := b.msg ++ bytes } := by
  constructor
  · intro dn hdn
    obtain ⟨L, stop, hname⟩ := h.table dn hdn
    exact ⟨L, stop, hname.append fun _ hp => hp⟩
  · intro n earlier hn
    obtain ⟨⟨labels, hkept⟩, hemitted⟩ := h.names n earlier hn
    exact ⟨⟨labels, { hkept with name := hkept.name.append fun _ hp => hp }⟩, hemitted⟩

theorem written_name (h : Written S base src space bytes A B o) (hS : ∀ p, S p → S' p)
    (hnew : ∀ A1 a A2, A = A1 ++ a :: A2 → S' (base.length + (wire A1).length)) :
    Name S' (base ++ bytes) base.length base.length (base.length + bytes.length) (A ++ B) := by
  have hmsg : base ++ bytes = base ++ (wire A ++ tail B o) := by rw [h.bytes_eq]
  have hat : (base ++ bytes).drop (base.length + (wire A).length) = tail B o := by
    rw [hmsg, ← append_assoc, ← length_append, drop_left]
  have hbytes : bytes.length = (wire A).length + (tail B o).length := by
    rw [h.bytes_eq, length_append]
  refine wire_name hmsg (fun a ha => h.proper a (mem_append_left B ha)) hnew ?_
  have hbyte : ∀ i, byte (base ++ bytes) (base.length + (wire A).length + i) =
      (tail B o).getD i 0 := by
    intro i
    rw [byte, getD_eq_getElem?_getD, ← getElem?_drop, hat, getD_eq_getElem?_getD]
  by_cases hB : B = []
  · subst hB
    have hlen : bytes.length = (wire A).length + 1 := by rw [hbytes]; rfl
    rw [hlen]
    exact .root (by rw [length_append]; omega) (hbyte 0)
  · obtain ⟨stop, hname⟩ := (h.found hB).name
    obtain ⟨hbig, hback⟩ := pointer_byte (h.found hB).near
    have htail : tail B o = [UInt8.ofNat (0xc0 ||| o >>> 8), UInt8.ofNat o] := by
      rw [tail, if_neg hB]
    have hlen : bytes.length = (wire A).length + 2 := by rw [hbytes, htail]; rfl
    have hhigh := hbyte 0
    have hlow := hbyte 1
    rw [htail] at hhigh hlow
    simp only [Nat.add_zero, getD_cons_zero, getD_cons_succ] at hhigh hlow
    have htarget : target (base ++ bytes) (base.length + (wire A).length) = o := by
      rw [target, hhigh, hlow, hback]
    rw [hlen]
    refine .pointer (by rw [length_append]; omega) (by rw [hhigh]; exact hbig) hname.stop_le ?_
    rw [htarget]
    exact hname.append hS

theorem sound_accept (h : Sound b)
    (hwritten : Written (LabelIn b.names) b.msg src space bytes A B o)
    (htable : ∀ dn ∈ table, dn ∈ b.table ∨ dn = b.msg.length) :
    Sound (accept b src space bytes table) := by
  have hmore : ∀ p, LabelIn b.names p → LabelIn (accept b src space bytes table).names p := by
    rintro p ⟨n, hn, hlabel⟩
    exact ⟨n, mem_cons_of_mem _ hn, hlabel⟩
  have hname := written_name hwritten hmore (by
    rintro A1 a A2 rfl
    refine ⟨_, mem_cons_self, A1, a, wire A2 ++ tail B o, ?_, ?_, rfl⟩
    · intro c hc
      refine hwritten.proper c ?_
      simp only [mem_append, mem_cons] at hc ⊢
      tauto
    · rw [hwritten.bytes_eq]
      simp [wire_append, wire])
  constructor
  · intro dn hdn
    rcases htable dn hdn with hold | rfl
    · obtain ⟨L, stop, hold⟩ := h.table dn hold
      exact ⟨L, stop, hold.append hmore⟩
    · exact ⟨_, _, hname⟩
  · intro n earlier hn
    rcases suffix_cons_iff.mp hn with hnew | hold
    · obtain ⟨rfl, rfl⟩ := cons.inj hnew
      refine ⟨⟨A ++ B, hname, hwritten.text, hwritten.short, hwritten.proper, hwritten.room⟩,
        A, B, o, hwritten.proper, hwritten.bytes_eq, ?_⟩
      intro hB
      have hfound := hwritten.found hB
      obtain ⟨stop, hlocated⟩ := hfound.name
      exact ⟨hfound.near, lt_of_lt_of_le hlocated.lt_stop hlocated.stop_le, hfound.isLabel⟩
    · obtain ⟨⟨labels, hkept⟩, hemitted⟩ := h.names n earlier hold
      exact ⟨⟨labels, { hkept with name := hkept.name.append hmore }⟩, hemitted⟩

theorem sound_step (cap : ℕ) (h : Sound b) (s : Step) :
    ∃ b', step cap b s = some b' ∧ Sound b' := by
  cases s with
  | other bytes => exact ⟨_, rfl, sound_other h bytes⟩
  | name src space =>
    rw [step]
    rcases dn_comp_spec src space cap h.table with
      hfails | ⟨bytes, table, A, B, o, hcomp, hwritten, htable⟩
    · rw [hfails]
      exact ⟨b, rfl, h⟩
    · rw [hcomp]
      exact ⟨_, rfl, sound_accept h hwritten htable⟩

theorem sound_build (cap : ℕ) (h : Sound b) (steps : List Step) :
    ∃ b', build cap steps b = some b' ∧ Sound b' := by
  induction steps generalizing b with
  | nil => exact ⟨b, rfl, h⟩
  | cons s steps ih =>
    obtain ⟨b1, hstep, hb1⟩ := sound_step cap h s
    obtain ⟨b', hrest, hb'⟩ := ih hb1
    refine ⟨b', ?_, hb'⟩
    rw [build, foldlM_cons, hstep]
    exact hrest

theorem Kept.expand (h : Kept b n labels) (hspace : (withoutDot n.src).length < space) :
    dn_expand b.msg n.pos space = some (n.bytes.length, withoutDot n.src) := by
  have hlt := h.name.lt_stop
  have hle := h.name.stop_le
  have hshort := h.short
  rw [h.text] at hshort
  have htext : extended [] labels = withoutDot n.src := by
    rw [extended_nil h.proper, h.text]
  rw [dn_expand, if_neg (by omega), expandLoop_name h.name (by omega) (by rw [htext]; omega), htext]
  simp

/-- Every call returns, and in the message that there is in the end every accepted name is read
back from its place. -/
theorem names_read_back (cap : ℕ) (header : List UInt8) (steps : List Step) :
    ∃ b, build cap steps (fresh header) = some b ∧ ∀ n earlier, n :: earlier <:+ b.names →
      (∀ space, (withoutDot n.src).length < space →
        dn_expand b.msg n.pos space = some (n.bytes.length, withoutDot n.src)) ∧
      dn_skipname b.msg n.pos = some n.bytes.length ∧
      (n.bytes.length : ℤ) ≤ n.space ∧ Emitted earlier n := by
  obtain ⟨b, hbuild, hsound⟩ := sound_build cap (sound_fresh header) steps
  refine ⟨b, hbuild, ?_⟩
  intro n earlier hn
  obtain ⟨⟨labels, hkept⟩, hemitted⟩ := hsound.names n earlier hn
  refine ⟨fun space hspace => hkept.expand hspace, ?_, hkept.room, hemitted⟩
  have hle : n.pos ≤ b.msg.length := (hkept.name.lt_stop.trans_le hkept.name.stop_le).le
  exact dn_expand_length hkept.name.plain hle (hkept.expand (Nat.lt_succ_self _))

-- `a.b` and then `c.b`, which ends in a pointer to the label `b` of the first
example : (build 8 [.name [97, dot, 98] 64, .other [7], .name [99, dot, 98] 64]
      (fresh (replicate 12 0))).map (fun b => (b.msg.drop 12, b.names.map Entry.pos)) =
    some ([1, 97, 1, 98, 0, 7, 1, 99, 192, 14], [18, 12]) := by
  decide +kernel

end CompressionRuns
