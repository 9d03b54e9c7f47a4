import GcompatMusl.DomainName
import Mathlib.Algebra.Order.Group.Nat

/-! # Name compression

`dn_comp` appends names to a message and shares their suffixes with earlier names, whose positions
it keeps in a table. What it has appended is read back by `dn_expand`. -/
namespace NameCompression

open DomainName List
open UInt8 (ofNat)

/-- The offsets of the labels of a compressed name: empty where the source returns 0, and none when
the turns do not suffice -/
def getoffs (base : List UInt8) : ℕ → ℕ → List ℕ → Option (List ℕ)
  | 0, _, _ => none
  | turns + 1, s, offs =>
    if byte base s &&& 0xc0 ≠ 0 then
      if byte base s &&& 0xc0 ≠ 0xc0 then some []
      else getoffs base turns (target base s) offs
    else if byte base s = 0 then some offs
    else if 0x4000 ≤ s then some []
    else getoffs base turns (s + (byte base s).toNat + 1) (offs ++ [s])

def badLength (n : ℕ) : Bool := n = 0 || 63 < n

/-- The lengths of the labels of a text, of which the first has `n` bytes already. The result is
empty where the source returns 0. -/
def getlens : List UInt8 → ℕ → List ℕ
  | [], n => if badLength n then [] else [n]
  | b :: s, n =>
    if b = dot then
      if badLength n then []
      else if getlens s 0 = [] then []
      else n :: getlens s 0
    else getlens s (n + 1)

def matchLoop (base src : List UInt8) : List ℕ → List ℕ → ℕ → ℕ → ℕ → ℕ × ℕ
  | l :: lens, o :: offs, stop, m, offset =>
    if l ≠ (byte base o).toNat ∨ (base.drop (o + 1)).take l ≠ (src.drop (stop - l)).take l then
      (m, offset)
    else
      let m := if lens = [] then m + l else m + l + 1
      if lens = [] ∨ offs = [] then (m, o)
      else matchLoop base src lens offs (stop - l - 1) m o
  | _, _, _, m, offset => (m, offset)

/-- `match`: how much of the end of `src` can be found in the name at `dn`, and where. -/
def matchName (turns : ℕ) (base src : List UInt8) (lens : List ℕ) (dn : ℕ) : Option (ℕ × ℕ) :=
  match getoffs base turns dn [] with
  | none => none
  | some offs =>
    if offs = [] then some (0, 0)
    else some (matchLoop base src lens.reverse offs.reverse src.length 0 0)

def bestMatch (turns : ℕ) (base src : List UInt8) (lens : List ℕ) :
    List ℕ → ℕ → ℕ → Option (ℕ × ℕ)
  | [], bestlen, bestoff => some (bestlen, bestoff)
  | dn :: table, bestlen, bestoff =>
    match matchName turns base src lens dn with
    | none => none
    | some (m, offset) =>
      if bestlen < m then
        if m = src.length then some (m, offset)
        else bestMatch turns base src lens table m offset
      else bestMatch turns base src lens table bestlen bestoff

def putLengths (n : ℕ) : List ℕ → ℕ → List UInt8 → ℕ × List UInt8
  | l :: lens, i, dst =>
    if i < n then putLengths n lens (i + l + 1) (dst.set i (ofNat l)) else (i, dst)
  | [], i, dst => (i, dst)

/-- `src` without its dot at the end, if it is not too long. -/
def nameText (src : List UInt8) : Option (List UInt8) :=
  let l := min src.length 255
  let l := if l ≠ 0 ∧ src.getD (l - 1) 0 = dot then l - 1 else l
  if 253 < l then none else some (src.take l)

/-- The bytes that are written for a text, of which the last `bestlen` are found at `bestoff`. -/
def encode (text : List UInt8) (lens : List ℕ) (bestlen bestoff : ℕ) : List UInt8 :=
  let n := text.length - bestlen
  -- `memcpy` leaves the first byte as it is
  let r := putLengths n lens 0 (0 :: text.take n)
  r.2.take r.1 ++
    if bestlen ≠ 0 then [ofNat (0xc0 ||| bestoff >>> 8), ofNat bestoff] else [0]

def needed (text : List UInt8) (bestlen : ℕ) : ℕ :=
  text.length - bestlen + 2 + if bestlen ≠ 0 ∧ bestlen < text.length then 1 else 0

/-- The table behind a call, with room for `cap` pointers. The first of them leads to the message,
and the last is null. -/
def saved (table : List ℕ) (cap dst len : ℕ) : List ℕ :=
  if 2 < len ∧ table.length + 2 < cap then table ++ [dst] else table

/-- Writes `src` behind the message `base`. The inner result is none where the source returns -1. -/
def dn_comp (src base : List UInt8) (space : ℤ) (table : List ℕ) (cap : ℕ) :
    Option (Option (List UInt8 × List ℕ)) :=
  match nameText src with
  | none => some none
  | some text =>
    if space ≤ 0 then some none
    else if text = [] then some (some ([0], table))
    else if getlens text 0 = [] then some none
    else
      match bestMatch (base.length + 1) base text (getlens text 0) table 0 0 with
      | none => none
      | some (bestlen, bestoff) =>
        if space < needed text bestlen then some none
        else
          let bytes := encode text (getlens text 0) bestlen bestoff
          some (some (bytes, saved table cap base.length bytes.length))

def joined : List (List UInt8) → List UInt8
  | [] => []
  | a :: labels => a ++ if labels = [] then [] else dot :: joined labels

def wire : List (List UInt8) → List UInt8
  | [] => []
  | a :: labels => ofNat a.length :: (a ++ wire labels)

def Proper (a : List UInt8) : Prop := 0 < a.length ∧ a.length < 64

theorem Proper.byte_ne (h : Proper a) {b : UInt8} (hlen : b.toNat = a.length) : b ≠ 0 := by
  rintro rfl
  exact h.1.ne hlen

@[simp] theorem joined_singleton (a : List UInt8) : joined [a] = a := by simp [joined]

variable {a more dest : List UInt8} {offs table : List ℕ}

theorem joined_cons (h : labels ≠ []) :
    joined (a :: labels) = a ++ dot :: joined labels := by
  rw [joined, if_neg h]

variable {A B L : List (List UInt8)}

theorem joined_append (hA : A ≠ []) (hB : B ≠ []) :
    joined (A ++ B) = joined A ++ dot :: joined B := by
  induction A with
  | nil => exact absurd rfl hA
  | cons a A ih =>
    by_cases hnil : A = []
    · subst hnil
      rw [singleton_append, joined_cons hB, joined_singleton]
    · rw [cons_append, joined_cons (by simp [hnil]), joined_cons hnil, ih hnil,
        append_assoc, cons_append]

theorem wire_append (A B : List (List UInt8)) : wire (A ++ B) = wire A ++ wire B := by
  induction A with
  | nil => rfl
  | cons a A ih => simp [wire, ih]

theorem length_wire (hA : A ≠ []) : (wire A).length = (joined A).length + 1 := by
  induction A with
  | nil => exact absurd rfl hA
  | cons a A ih =>
    by_cases hnil : A = []
    · subst hnil
      simp [wire]
    · have hrest := ih hnil
      rw [joined_cons hnil]
      simp only [wire, length_cons, length_append]
      omega

theorem not_badLength (h : ¬ badLength n = true) : 0 < n ∧ n < 64 := by
  simp only [badLength, Bool.or_eq_true, decide_eq_true_eq] at h
  omega

/-- What `getlens` accepts is the text of proper labels, of which it returns the lengths. -/
theorem getlens_labels (start : List UInt8) (h : getlens s start.length ≠ []) :
    ∃ labels, labels ≠ [] ∧ (∀ a ∈ labels, Proper a) ∧ joined labels = start ++ s ∧
      getlens s start.length = labels.map List.length := by
  induction s generalizing start with
  | nil =>
    rw [getlens] at h ⊢
    split_ifs at h ⊢ with hbad
    · exact absurd rfl h
    · exact ⟨[start], by simp, by simpa [Proper] using not_badLength hbad, by simp, rfl⟩
  | cons b s ih =>
    rw [getlens] at h ⊢
    split_ifs at h ⊢ with hdot hbad hrest
    · exact absurd rfl h
    · exact absurd rfl h
    · subst hdot
      obtain ⟨labels, hne, hproper, hjoined, hlens⟩ := ih [] hrest
      refine ⟨start :: labels, by simp, forall_mem_cons.mpr ⟨not_badLength hbad, hproper⟩, ?_, ?_⟩
      · rw [joined_cons hne, hjoined, nil_append]
      · rw [map_cons, ← hlens]
        rfl
    · have hlen : (start ++ [b]).length = start.length + 1 := by simp
      rw [← hlen] at h ⊢
      obtain ⟨labels, hne, hproper, hjoined, hlens⟩ := ih _ h
      exact ⟨labels, hne, hproper, by rw [hjoined, append_assoc]; rfl, hlens⟩

/-- From `x` on the message has the labels of a name, whose bytes in a row began at `start` and end
at `stop`, at places of which `S` holds. A pointer leads to a row that ended before this one
began. -/
inductive Name (S : ℕ → Prop) (msg : List UInt8) :
    ℕ → ℕ → ℕ → List (List UInt8) → Prop where
  | root {start x : ℕ} : x < msg.length → byte msg x = 0 → Name S msg start x (x + 1) []
  | pointer {start x stop : ℕ} {labels : List (List UInt8)} : x + 1 < msg.length →
      192 ≤ (byte msg x).toNat → stop ≤ start →
      Name S msg (target msg x) (target msg x) stop labels → Name S msg start x (x + 2) labels
  | label {start x stop : ℕ} {a : List UInt8} {labels : List (List UInt8)} : S x → Proper a →
      (byte msg x).toNat = a.length → label msg x = a →
      Name S msg start (x + 1 + a.length) stop labels → Name S msg start x stop (a :: labels)

variable {start : ℕ} {labels : List (List UInt8)}

namespace Name

section

variable (h : Name S msg start x stop labels)
include h

theorem lt_stop : x < stop := by
  induction h <;> omega

theorem stop_le : stop ≤ msg.length := by
  induction h with
  | root hlt => exact hlt
  | pointer hlt => exact hlt
  | label _ _ _ _ _ ih => exact ih

theorem restart (hle : start ≤ start') : Name S msg start' x stop labels := by
  induction h with
  | root hlt hzero => exact .root hlt hzero
  | pointer hlt hbig hstop hname ih => exact .pointer hlt hbig (hstop.trans hle) hname
  | label hS hproper hlen hlabel hrest ih => exact .label hS hproper hlen hlabel (ih hle)

end

theorem byte_append (h : p < msg.length) :
    byte (msg ++ more) p = byte msg p := by
  simp [byte, getElem?_append_left h]

theorem append (h : Name S msg start x stop labels) (hS : ∀ p, S p → S' p) :
    Name S' (msg ++ more) start x stop labels := by
  induction h with
  | root hlt hzero => exact .root (by simp; omega) (by rw [byte_append hlt, hzero])
  | @pointer start x stop labels hlt hbig hstop hname ih =>
    have hbyte : byte (msg ++ more) x = byte msg x := byte_append (by omega)
    have htarget : target (msg ++ more) x = target msg x := by
      rw [target, target, hbyte, byte_append hlt]
    rw [← htarget] at ih
    exact .pointer (by simp; omega) (by rw [hbyte]; exact hbig) hstop ih
  | @label start x stop a labels hx hproper hlen hlabel hrest ih =>
    have hlt := hrest.lt_stop
    have hle := hrest.stop_le
    have hbyte : byte (msg ++ more) x = byte msg x := byte_append (by omega)
    refine .label (hS _ hx) hproper (by rw [hbyte, hlen]) ?_ ih
    rw [← hlabel, DomainName.label, DomainName.label, hbyte, drop_append_of_le_length (by omega),
      take_append_of_le_length (by rw [length_drop]; omega)]

theorem plain (h : Name S msg start x stop labels) : Plain msg x := by
  induction h with
  | root hlt hzero => exact .root hzero
  | pointer hlt hbig => exact .pointer hbig
  | @label start x stop a labels hx hproper hlen hlabel hrest ih =>
    refine .label (hproper.byte_ne hlen) (by rw [hlen]; exact hproper.2) ?_
    rw [hlen, Nat.add_right_comm]
    exact ih

end Name

theorem flags_eq_iff (b : UInt8) : b &&& 0xc0 = 0xc0 ↔ 192 ≤ b.toNat := by
  have hall : ∀ n < 256, n &&& 192 = 192 ↔ 192 ≤ n := by decide +kernel
  rw [← hall b.toNat b.toNat_lt, ← UInt8.toNat_inj]
  rfl

section

variable (dest : List UInt8) (labels : List (List UInt8))

def extended : List UInt8 :=
  labels.foldl (fun dest a => separated dest ++ a) dest

theorem length_extended : dest.length ≤ (extended dest labels).length := by
  induction labels generalizing dest with
  | nil => exact le_rfl
  | cons a labels ih =>
    refine le_trans ?_ (ih (separated dest ++ a))
    rw [separated]
    split_ifs <;> simp

end

theorem extended_of_ne_nil (hdest : dest ≠ []) :
    extended dest labels = dest ++ if labels = [] then [] else dot :: joined labels := by
  induction labels generalizing dest with
  | nil => simp [extended]
  | cons a labels ih =>
    have hstep : extended dest (a :: labels) = extended (separated dest ++ a) labels := rfl
    rw [hstep, separated, if_neg hdest, ih (by simp)]
    simp [joined]

theorem extended_nil (h : ∀ a ∈ labels, Proper a) : extended [] labels = joined labels := by
  cases labels with
  | nil => rfl
  | cons a labels =>
    have hstep : extended [] (a :: labels) = extended a labels := rfl
    rw [hstep, extended_of_ne_nil (length_pos_iff.mp (h a (by simp)).1), joined]

/-- Rows of bytes do not overlap, and every turn but the last reads two bytes or more of them. -/
theorem expandLoop_name (h : Name S msg start x stop labels) (hturns : stop + start ≤ x + 2 * turns)
    (hroom : (extended dest labels).length < room) :
    expandLoop msg src room turns x dest len =
      some (len.getD (stop - src), extended dest labels) := by
  induction h generalizing turns dest len with
  | @root start x hlt hzero =>
    obtain _ | turns := turns
    · omega
    rw [expandLoop, if_neg (by simp [hzero]), if_neg (by simp [hzero])]
    rfl
  | @pointer start x stop labels hlt hbig hstop hname ih =>
    obtain _ | turns := turns
    · omega
    have hflags : byte msg x &&& 0xc0 ≠ 0 := by
      rw [Ne, flags_eq_zero_iff]
      omega
    have htarget := hname.lt_stop
    have hend := hname.stop_le
    rw [expandLoop, if_pos hflags, if_neg (by omega), if_neg (by omega), ih (by omega) hroom]
    rfl
  | @label start x stop a labels hx hproper hlen hlabel hrest ih =>
    have hlt := hrest.lt_stop
    have hle := hrest.stop_le
    have hpos := hproper.1
    have hsmall := hproper.2
    obtain _ | turns := turns
    · omega
    have hflags := (flags_eq_zero_iff _).mpr (hlen.trans_lt hsmall)
    have hstep := length_extended (separated dest ++ a) labels
    have hroom' : (extended (separated dest ++ a) labels).length < room := hroom
    rw [length_append] at hstep
    rw [expandLoop, if_neg (by simp [hflags]), if_pos (hproper.byte_ne hlen), if_neg (by omega),
      hlen, hlabel, ih (by omega) hroom']
    rfl

/-- A pointer can lead to the label at `o`, where a name with these labels begins. -/
structure Located (S : ℕ → Prop) (msg : List UInt8) (o : ℕ) (labels : List (List UInt8)) :
    Prop where
  near : o < 0x4000
  isLabel : S o
  short : (byte msg o).toNat < 64
  name : ∃ stop, Name S msg o o stop labels

theorem Located.first (h : Located S msg o (c :: B)) :
    (byte msg o).toNat = c.length ∧ label msg o = c := by
  obtain ⟨stop, hname⟩ := h.name
  have hshort := h.short
  cases hname with
  | pointer hlt hbig => omega
  | label hx hproper hlen hlabel hrest => exact ⟨hlen, hlabel⟩

/-- Offsets from the last label of a name to its first one. In front of the labels `B` each adds
one, and at the end there are the labels `L`. -/
inductive Chain (S : ℕ → Prop) (msg : List UInt8) :
    List ℕ → List (List UInt8) → List (List UInt8) → Prop where
  | nil (B : List (List UInt8)) : Chain S msg [] B B
  | cons {o : ℕ} {offs : List ℕ} {c : List UInt8} {B L : List (List UInt8)} :
      Located S msg o (c :: B) → Chain S msg offs (c :: B) L → Chain S msg (o :: offs) B L

theorem Chain.snoc (h : Chain S msg offs B L) (ho : Located S msg o (a :: L)) :
    Chain S msg (offs ++ [o]) B (a :: L) := by
  induction h with
  | nil B => exact .cons ho (.nil _)
  | cons hc hrest ih => exact .cons hc (ih ho)

theorem getoffs_name (acc : List ℕ) (turns : ℕ) (h : Name S msg start x stop labels)
    (hstart : start ≤ x)
    (hturns : stop + start ≤ x + 2 * turns) :
    getoffs msg turns x acc = some [] ∨
      ∃ offs, getoffs msg turns x acc = some (acc ++ offs) ∧
        Chain S msg offs.reverse [] labels := by
  induction h generalizing turns acc with
  | @root start x hlt hzero =>
    obtain _ | turns := turns
    · omega
    refine Or.inr ⟨[], ?_, .nil _⟩
    rw [getoffs, if_neg (by simp [hzero]), if_pos hzero, append_nil]
  | @pointer start x stop labels hlt hbig hstop hname ih =>
    obtain _ | turns := turns
    · omega
    have hflags : byte msg x &&& 0xc0 = 0xc0 := (flags_eq_iff _).mpr hbig
    rw [getoffs, if_pos (by rw [hflags]; decide), if_neg (by simp [hflags])]
    exact ih acc turns le_rfl (by omega)
  | @label start x stop a labels hx hproper hlen hlabel hrest ih =>
    have hlt := hrest.lt_stop
    have hpos := hproper.1
    have hsmall := hproper.2
    obtain _ | turns := turns
    · omega
    have hflags := (flags_eq_zero_iff _).mpr (hlen.trans_lt hsmall)
    rw [getoffs, if_neg (by simp [hflags]), if_neg (hproper.byte_ne hlen), hlen, Nat.add_right_comm]
    split_ifs with hfar
    · exact Or.inl rfl
    · rcases ih (acc ++ [x]) turns (by omega) (by omega) with hnone | ⟨offs, hoffs, hchain⟩
      · exact Or.inl hnone
      · refine Or.inr ⟨x :: offs, by rw [hoffs, append_assoc]; rfl, ?_⟩
        rw [reverse_cons]
        refine hchain.snoc ⟨by omega, hx, by omega, stop, ?_⟩
        exact (Name.label hx hproper hlen hlabel hrest).restart hstart

/-- How many bytes of the text of `A ++ B` come with `B`. -/
def suffixLength (A B : List (List UInt8)) : ℕ :=
  if B = [] then 0 else if A = [] then (joined B).length else (joined B).length + 1

/-- The labels end in some that can be found at `offset`, and `m` bytes of the text come with
them. -/
def Found (S : ℕ → Prop) (msg : List UInt8) (labels : List (List UInt8)) (m offset : ℕ) : Prop :=
  ∃ A B, labels = A ++ B ∧ m = suffixLength A B ∧ (B ≠ [] → Located S msg offset B)

theorem found_zero (offset : ℕ) : Found S msg labels 0 offset :=
  ⟨labels, [], by simp, by simp [suffixLength], by simp⟩

def before (A : List (List UInt8)) : List UInt8 := if A = [] then [] else joined A ++ [dot]

theorem joined_concat (A : List (List UInt8)) (a : List UInt8) :
    joined (A ++ [a]) = before A ++ a := by
  by_cases hA : A = []
  · simp [before, hA]
  · rw [before, if_neg hA, joined_append hA (by simp)]
    simp

theorem joined_split (A B : List (List UInt8)) (a : List UInt8) :
    ∃ rest, joined (A ++ a :: B) = before A ++ (a ++ rest) := by
  by_cases hB : B = []
  · exact ⟨[], by rw [hB, joined_concat, append_nil]⟩
  · refine ⟨dot :: joined B, ?_⟩
    rw [← singleton_append, ← append_assoc, joined_append (by simp) hB, joined_concat, append_assoc]

theorem matchLoop_found (offset : ℕ) (hoffs : Chain S msg offs B L) (hA : A ≠ [])
    (hm : m = suffixLength A B) (hB : B ≠ [] → Located S msg offset B) :
    Found S msg (A ++ B)
      (matchLoop msg (joined (A ++ B)) (A.map List.length).reverse offs (joined A).length m
        offset).1
      (matchLoop msg (joined (A ++ B)) (A.map List.length).reverse offs (joined A).length m
        offset).2 := by
  induction hoffs generalizing A m offset with
  | nil B =>
    have hnone : matchLoop msg (joined (A ++ B)) (A.map length).reverse [] (joined A).length m
        offset = (m, offset) := by
      cases (A.map length).reverse <;> rfl
    rw [hnone]
    exact ⟨A, B, rfl, hm, hB⟩
  | @cons o offs c B L ho hrest ih =>
    obtain ⟨A, a, rfl⟩ : ∃ A' a, A = A' ++ [a] := ⟨_, _, (dropLast_concat_getLast hA).symm⟩
    obtain ⟨rest, hsplit⟩ := joined_split A B a
    have hlabels : A ++ [a] ++ B = A ++ a :: B := by simp
    rw [joined_concat, hlabels, map_append, reverse_append, map_singleton,
      reverse_singleton, singleton_append, matchLoop]
    by_cases hdiff : a.length ≠ (byte msg o).toNat ∨ (msg.drop (o + 1)).take a.length ≠
        ((joined (A ++ a :: B)).drop ((before A ++ a).length - a.length)).take a.length
    · rw [if_pos hdiff]
      exact ⟨A ++ [a], B, hlabels.symm, hm, hB⟩
    · rw [if_neg hdiff]
      rw [not_or, not_not, not_not] at hdiff
      -- the label at the offset is the last one that has not been found yet
      have hsame : a = c := by
        have hslice : ((joined (A ++ a :: B)).drop ((before A ++ a).length - a.length)).take
            a.length = a := by
          rw [hsplit, length_append, Nat.add_sub_cancel, drop_left, take_left]
        rw [← ho.first.2, label, ← hdiff.1, hdiff.2, hslice]
      subst hsame
      have hm' : (if (A.map length).reverse = [] then m + a.length else m + a.length + 1) =
          suffixLength A (a :: B) := by
        have hmB : m + a.length = (joined (a :: B)).length := by
          by_cases hnil : B = []
          · simp [hm, hnil, suffixLength]
          · rw [hm, suffixLength, if_neg hnil, if_neg (by simp), joined_cons hnil,
              length_append, length_cons]
            omega
        rw [hmB]
        simp [suffixLength]
      simp only [hm']
      split_ifs with hlast
      · exact ⟨A, a :: B, rfl, rfl, fun _ => ho⟩
      · rw [not_or] at hlast
        have hA' : A ≠ [] := by simpa using hlast.1
        have hstop : (before A ++ a).length - a.length - 1 = (joined A).length := by
          rw [before, if_neg hA']
          simp only [length_append, length_singleton]
          omega
        rw [hstop]
        exact ih o hA' rfl fun _ => ho

theorem matchName_found (hlabels : labels ≠ []) (hname : ∃ stop, Name S msg dn dn stop L) :
    ∃ m offset, matchName (msg.length + 1) msg (joined labels) (labels.map List.length) dn =
      some (m, offset) ∧ Found S msg labels m offset := by
  obtain ⟨stop, hname⟩ := hname
  have hle := hname.stop_le
  rcases getoffs_name [] (msg.length + 1) hname le_rfl (by omega) with
    hnone | ⟨offs, hoffs, hchain⟩
  · exact ⟨0, 0, by simp [matchName, hnone], found_zero 0⟩
  · by_cases hnil : offs = []
    · exact ⟨0, 0, by simp [matchName, hoffs, hnil], found_zero 0⟩
    · have hfound := matchLoop_found 0 hchain hlabels rfl fun h => absurd rfl h
      rw [append_nil] at hfound
      refine ⟨_, _, ?_, hfound⟩
      rw [matchName, hoffs]
      exact if_neg hnil

theorem bestMatch_found (hlabels : labels ≠ [])
    (htable : ∀ dn ∈ table, ∃ L stop, Name S msg dn dn stop L)
    (hfound : Found S msg labels m offset) :
    ∃ m' offset', bestMatch (msg.length + 1) msg (joined labels) (labels.map List.length) table m
      offset = some (m', offset') ∧ Found S msg labels m' offset' := by
  induction table generalizing m offset with
  | nil => exact ⟨m, offset, rfl, hfound⟩
  | cons dn table ih =>
    obtain ⟨L, hname⟩ := htable dn (by simp)
    have hrest : ∀ dn ∈ table, ∃ L stop, Name S msg dn dn stop L :=
      fun dn hdn => htable dn (mem_cons_of_mem _ hdn)
    obtain ⟨m', offset', hmatch, hfound'⟩ := matchName_found hlabels hname
    rw [bestMatch, hmatch]
    dsimp only
    split_ifs with hbetter hall
    · exact ⟨m', offset', rfl, hfound'⟩
    · exact ih hrest hfound'
    · exact ih hrest hfound

theorem putLengths_wire (B : List (List UInt8)) (front : List UInt8) (c : UInt8) (hA : A ≠ [])
    (hproper : ∀ a ∈ A, Proper a) :
    putLengths (front.length + (joined A).length) ((A ++ B).map List.length) front.length
      (front ++ c :: joined A) = ((front ++ wire A).length, front ++ wire A) := by
  induction A generalizing front c with
  | nil => exact absurd rfl hA
  | cons a A ih =>
    obtain ⟨hpos, -⟩ := hproper a (by simp)
    have hlen : front.length < front.length + (joined (a :: A)).length := by
      rw [joined, length_append]
      omega
    have hset : (front ++ c :: joined (a :: A)).set front.length (ofNat a.length) =
        front ++ ofNat a.length :: joined (a :: A) := by
      rw [set_append_right _ _ le_rfl, Nat.sub_self, set_cons_zero]
    rw [cons_append, map_cons, putLengths, if_pos hlen, hset]
    by_cases hnil : A = []
    · subst hnil
      have hdone : putLengths (front.length + (joined [a]).length) (B.map length)
          (front.length + a.length + 1) (front ++ ofNat a.length :: joined [a]) =
          (front.length + a.length + 1, front ++ ofNat a.length :: joined [a]) := by
        cases B with
        | nil => rfl
        | cons b B =>
          rw [map_cons, putLengths, if_neg]
          rw [joined_singleton]
          omega
      rw [nil_append, hdone]
      simp [wire, Nat.add_assoc]
    · have hnext := ih (front ++ ofNat a.length :: a) dot hnil
        fun b hb => hproper b (mem_cons_of_mem _ hb)
      have hstop : (front ++ ofNat a.length :: a).length + (joined A).length =
          front.length + (joined (a :: A)).length := by
        simp only [joined_cons hnil, length_append, length_cons]
        omega
      have hplace : (front ++ ofNat a.length :: a).length = front.length + a.length + 1 := by
        simp only [length_append, length_cons]
        omega
      rw [hstop, hplace] at hnext
      rw [joined_cons hnil]
      rw [joined_cons hnil] at hnext
      simp only [append_assoc, cons_append] at hnext
      rw [hnext]
      rfl

/-- The bytes behind the labels of a name, if the labels `B` are found at `o`. -/
def tail (B : List (List UInt8)) (o : ℕ) : List UInt8 :=
  if B = [] then [0] else [ofNat (0xc0 ||| o >>> 8), ofNat o]

theorem joined_length_pos (hA : A ≠ []) (hproper : ∀ a ∈ A, Proper a) : 0 < (joined A).length := by
  cases A with
  | nil => exact absurd rfl hA
  | cons a A =>
    have hpos := (hproper a (by simp)).1
    rw [joined, length_append]
    omega

theorem suffixLength_eq_zero (hproper : ∀ a ∈ B, Proper a) : suffixLength A B = 0 ↔ B = [] := by
  constructor
  · intro h
    by_contra hB
    have hpos := joined_length_pos hB hproper
    rw [suffixLength] at h
    split_ifs at h
    · omega
  · intro h
    simp [suffixLength, h]

theorem length_joined_append (A B : List (List UInt8)) :
    (joined (A ++ B)).length = (joined A).length + suffixLength A B := by
  by_cases hA : A = []
  · by_cases hB : B = [] <;> simp [hA, hB, suffixLength, joined]
  · by_cases hB : B = []
    · simp [hB, suffixLength]
    · simp [joined_append hA hB, suffixLength, hA, hB]

theorem encode_eq (o : ℕ) (hproper : ∀ a ∈ A ++ B, Proper a) :
    encode (joined (A ++ B)) ((A ++ B).map List.length) (suffixLength A B) o =
      wire A ++ tail B o := by
  have hB := suffixLength_eq_zero (A := A) fun b hb => hproper b (mem_append_right A hb)
  have htail : (if suffixLength A B ≠ 0 then [ofNat (0xc0 ||| o >>> 8), ofNat o]
      else [0]) = tail B o := by
    simp only [tail, ite_not, hB]
  rw [encode, htail, length_joined_append, Nat.add_sub_cancel]
  by_cases hA : A = []
  · have hnone : putLengths 0 (B.map length) 0 [0] = (0, [0]) := by
      cases B <;> rfl
    subst hA
    simp [joined, hnone, wire]
  · have htake : (joined (A ++ B)).take (joined A).length = joined A := by
      by_cases hnil : B = []
      · simp [hnil]
      · rw [joined_append hA hnil, take_left]
    have hput := putLengths_wire B [] 0 hA fun a ha => hproper a (mem_append_left B ha)
    simp only [length_nil, Nat.zero_add, nil_append] at hput
    rw [htake, hput, take_length]

theorem length_tail_le (o : ℕ) (hproper : ∀ a ∈ A ++ B, Proper a) (hne : A ++ B ≠ []) :
    (wire A ++ tail B o).length ≤ needed (joined (A ++ B)) (suffixLength A B) := by
  have hB := suffixLength_eq_zero (A := A) fun b hb => hproper b (mem_append_right A hb)
  rw [needed, length_joined_append, length_append, tail]
  by_cases hA : A = []
  · have hnil : B ≠ [] := by simpa [hA] using hne
    simp [hA, hnil, wire, joined]
  · have hpos := joined_length_pos hA fun a ha => hproper a (mem_append_left B ha)
    rw [length_wire hA]
    by_cases hnil : B = []
    · simp [hnil]
    · have hsuffix : suffixLength A B ≠ 0 := fun h => hnil (hB.mp h)
      rw [if_neg hnil, if_pos ⟨hsuffix, by omega⟩]
      simp

def withoutDot (src : List UInt8) : List UInt8 :=
  if src.getLast? = some dot then src.dropLast else src

theorem nameText_eq (h : nameText src = some text) :
    text = withoutDot src ∧ text.length ≤ 253 := by
  simp only [nameText] at h
  by_cases hlong : 255 < src.length
  · split_ifs at h <;> omega
  · rw [min_eq_left (by omega)] at h
    have hlast : (src.length ≠ 0 ∧ src.getD (src.length - 1) 0 = dot) ↔
        src.getLast? = some dot := by
      rcases eq_nil_or_concat src with rfl | ⟨front, b, rfl⟩ <;> simp
    rw [withoutDot]
    simp only [hlast] at h
    split_ifs at h ⊢ with hdot hover hover
    · obtain rfl := Option.some.inj h
      rw [dropLast_eq_take]
      refine ⟨rfl, ?_⟩
      rw [length_take]
      omega
    · obtain rfl := Option.some.inj h
      rw [take_length]
      exact ⟨rfl, by omega⟩

/-- What a call writes for `src`: all labels but those that are found in the message. -/
structure Written (S : ℕ → Prop) (base src : List UInt8) (space : ℤ) (bytes : List UInt8)
    (A B : List (List UInt8)) (o : ℕ) : Prop where
  text : joined (A ++ B) = withoutDot src
  short : (joined (A ++ B)).length ≤ 253
  proper : ∀ a ∈ A ++ B, Proper a
  bytes_eq : bytes = wire A ++ tail B o
  room : (bytes.length : ℤ) ≤ space
  found : B ≠ [] → Located S base o B

theorem dn_comp_spec (src : List UInt8) (space : ℤ) (cap : ℕ)
    (htable : ∀ dn ∈ table, ∃ L stop, Name S base dn dn stop L) :
    dn_comp src base space table cap = some none ∨
      ∃ bytes table' A B o, dn_comp src base space table cap = some (some (bytes, table')) ∧
        Written S base src space bytes A B o ∧ ∀ dn ∈ table', dn ∈ table ∨ dn = base.length := by
  rw [dn_comp]
  cases hname : nameText src with
  | none => exact Or.inl rfl
  | some text =>
    obtain ⟨htext, hshort⟩ := nameText_eq hname
    dsimp only
    split_ifs with hspace hroot hlens
    · exact Or.inl rfl
    · refine Or.inr ⟨[0], table, [], [], 0, rfl, ?_, fun dn hdn => Or.inl hdn⟩
      exact ⟨by rw [← htext, hroot]; rfl, by simp [joined], by simp, rfl, by simp; omega, by simp⟩
    · exact Or.inl rfl
    · obtain ⟨labels, hne, hproper, hjoined, hmap⟩ := getlens_labels [] hlens
      rw [nil_append] at hjoined
      obtain ⟨m, o, hbest, A, B, rfl, rfl, hfound⟩ := bestMatch_found hne htable (found_zero 0)
      have hmap' : getlens text 0 = (A ++ B).map length := hmap
      rw [hmap', ← hjoined, hbest]
      dsimp only
      split_ifs with hroom
      · exact Or.inl rfl
      · refine Or.inr ⟨_, _, A, B, o, rfl, ?_, ?_⟩
        · rw [← hjoined] at htext hshort
          have hneeded := length_tail_le o hproper hne
          refine ⟨htext, hshort, hproper, encode_eq o hproper, ?_, hfound⟩
          rw [encode_eq o hproper]
          omega
        · intro dn hdn
          rw [saved] at hdn
          split_ifs at hdn
          · simpa using hdn
          · exact Or.inl hdn

theorem pointer_byte (h : o < 0x4000) :
    192 ≤ (ofNat (0xc0 ||| o >>> 8)).toNat ∧
      ((ofNat (0xc0 ||| o >>> 8) &&& 0x3f).toNat <<< 8) ||| (ofNat o).toNat = o := by
  have hhigh : ∀ q < 64, 192 ≤ (ofNat (0xc0 ||| q)).toNat ∧
      (ofNat (0xc0 ||| q) &&& 0x3f).toNat = q := by
    decide +kernel
  have hq : o >>> 8 < 64 := by
    omega
  obtain ⟨hbig, hback⟩ := hhigh _ hq
  refine ⟨hbig, ?_⟩
  rw [hback, UInt8.toNat_ofNat', ← Nat.shiftLeft_add_eq_or_of_lt (Nat.mod_lt _ (by decide)),
    Nat.shiftLeft_eq]
  omega

theorem wire_name (hmsg : msg = front ++ (wire A ++ rest)) (hproper : ∀ a ∈ A, Proper a)
    (hS : ∀ A1 a A2, A = A1 ++ a :: A2 → S (front.length + (wire A1).length))
    (h : Name S msg start (front.length + (wire A).length) stop B) :
    Name S msg start front.length stop (A ++ B) := by
  induction A generalizing front with
  | nil => exact h
  | cons a A ih =>
    have hsmall := (hproper a (by simp)).2
    have hbyte : byte msg front.length = ofNat a.length := by
      simp [hmsg, byte, wire]
    have hlen : (byte msg front.length).toNat = a.length := by
      rw [hbyte, UInt8.toNat_ofNat']
      omega
    have hmsg' : msg = (front ++ ofNat a.length :: a) ++ (wire A ++ rest) := by
      simp [hmsg, wire]
    have hplace : (front ++ ofNat a.length :: a).length = front.length + 1 + a.length := by
      simp only [length_append, length_cons]
      omega
    have hnext : ∀ A' : List (List UInt8), (front ++ ofNat a.length :: a).length +
        (wire A').length = front.length + (wire (a :: A')).length := by
      intro A'
      simp only [wire, length_append, length_cons]
      omega
    refine .label (hS [] a A rfl) (hproper a (by simp)) hlen ?_ ?_
    · rw [label, hlen, hmsg']
      simp
    · rw [← hplace]
      refine ih hmsg' (fun b hb => hproper b (mem_cons_of_mem _ hb)) ?_ ?_
      · intro A1 b A2 hA
        rw [hnext]
        exact hS (a :: A1) b A2 (by rw [hA]; rfl)
      · rw [hnext]
        exact h

end NameCompression
