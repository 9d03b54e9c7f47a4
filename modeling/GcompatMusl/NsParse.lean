import GcompatMusl.DomainName
import Mathlib.Data.Int.Init

/-! # Resource records

`ns_parserr` finds a record with a cursor that the handle keeps from one call to the next. It steps
over earlier records with `dn_skipname`, and over the record that it parses with `dn_expand`. -/
namespace NsParse

open DomainName Function List Option

def NS_MAXDNAME : ℕ := 1025

def ns_s_max : ℕ := 4

def ns_get16 (msg : List UInt8) (p : ℕ) : ℕ :=
  ((byte msg p).toNat <<< 8) ||| (byte msg (p + 1)).toNat

def ns_get32 (msg : List UInt8) (p : ℕ) : ℕ :=
  ((byte msg p).toNat <<< 24) ||| ((byte msg (p + 1)).toNat <<< 16) |||
    ((byte msg (p + 2)).toNat <<< 8) ||| (byte msg (p + 3)).toNat

/-- One turn of `ns_skiprr`. Section 0 is `ns_s_qd`, whose records are shorter. -/
def skipRecord (msg : List UInt8) (sec p : ℕ) : Option ℕ :=
  match dn_skipname msg p with
  | none => none
  | some r =>
    if msg.length - p < r + 4 then none
    else if sec = 0 then some (p + r + 4)
    else if msg.length - (p + r + 4) < 6 then none
    else if msg.length - (p + r + 10) < ns_get16 msg (p + r + 8) then none
    else some (p + r + 10 + ns_get16 msg (p + r + 8))

def skipRecords (msg : List UInt8) (sec : ℕ) : ℕ → ℕ → Option ℕ
  | 0, p => some p
  | count + 1, p =>
    match skipRecord msg sec p with
    | none => none
    | some p => skipRecords msg sec count p

def ns_skiprr (msg : List UInt8) (ptr sec count : ℕ) : Option ℕ :=
  (skipRecords msg sec count ptr).map (· - ptr)

inductive Errno where
  | ENODEV | EMSGSIZE
  deriving DecidableEq

/-- `ns_rr`, with `rdata` as a position in the message. -/
structure Rr where
  name : List UInt8
  type : ℕ
  rr_class : ℕ
  ttl : ℕ
  rdlength : ℕ
  rdata : Option ℕ
  deriving DecidableEq

structure Handle where
  msg : List UInt8
  counts : ℕ → ℕ
  sections : ℕ → Option ℕ
  sect : ℕ
  rrnum : ℤ
  msg_ptr : Option ℕ

def placeSections (msg : List UInt8) (counts : ℕ → ℕ) :
    List ℕ → ℕ → (ℕ → Option ℕ) → Option (ℕ × (ℕ → Option ℕ))
  | [], p, places => some (p, places)
  | i :: is, p, places =>
    if counts i ≠ 0 then
      match ns_skiprr msg p i (counts i) with
      | none => none
      | some r => placeSections msg counts is (p + r) (Function.update places i (some p))
    else placeSections msg counts is p (Function.update places i none)

def ns_initparse (msg : List UInt8) : Option Handle :=
  if msg.length < (2 + ns_s_max) * 2 then none
  else
    let counts := fun i => ns_get16 msg (4 + 2 * i)
    match placeSections msg counts (List.range ns_s_max) 12 fun _ => none with
    | none => none
    | some (p, places) =>
      if p ≠ msg.length then none else some ⟨msg, counts, places, ns_s_max, -1, none⟩

/-- The name cannot be expanded, the message is too short when the cursor has come to `ptr`, or
there is a record up to `ptr`. -/
inductive Parsed where
  | unnamed
  | short (ptr : ℕ)
  | ok (ptr : ℕ) (rr : Rr)
  deriving DecidableEq

def parseAt (msg : List UInt8) (sec p : ℕ) : Parsed :=
  match dn_expand msg p NS_MAXDNAME with
  | none => .unnamed
  | some (r, name) =>
    if msg.length - (p + r) < 4 then .short (p + r)
    else
      let type := ns_get16 msg (p + r)
      let rr_class := ns_get16 msg (p + r + 2)
      if sec = 0 then .ok (p + r + 4) ⟨name, type, rr_class, 0, 0, none⟩
      else if msg.length - (p + r + 4) < 6 then .short (p + r + 4)
      else
        let ttl := ns_get32 msg (p + r + 4)
        let rdlength := ns_get16 msg (p + r + 8)
        if msg.length - (p + r + 10) < rdlength then .short (p + r + 10)
        else .ok (p + r + 10 + rdlength) ⟨name, type, rr_class, ttl, rdlength, some (p + r + 10)⟩

section

variable (h : Handle) (sec : ℕ)

/-- The end of `ns_parserr`. The cursor would go on to the next section if it came further than
behind the last record. -/
def finish : Parsed → Handle × Except Errno Rr
  | .unnamed => (h, .error .EMSGSIZE)
  | .short ptr => ({ h with msg_ptr := some ptr }, .error .EMSGSIZE)
  | .ok ptr rr =>
    let h := { h with msg_ptr := some ptr, rrnum := h.rrnum + 1 }
    if (h.counts sec : ℤ) < h.rrnum then
      if sec + 1 = ns_s_max then
        ({ h with sect := sec + 1, rrnum := -1, msg_ptr := none }, .ok rr)
      else ({ h with sect := sec + 1, rrnum := 0 }, .ok rr)
    else (h, .ok rr)

def rewind : Handle :=
  { h with sect := sec, rrnum := 0, msg_ptr := h.sections sec }

def findRecord (rrnum : ℤ) : Handle × Except Errno Rr :=
  let h := if rrnum < h.rrnum then rewind h sec else h
  let ptr := h.msg_ptr.getD 0
  if h.rrnum < rrnum then
    match ns_skiprr h.msg ptr sec (rrnum - h.rrnum).toNat with
    | none => (h, .error .EMSGSIZE)
    | some r =>
      finish { h with msg_ptr := some (ptr + r), rrnum := rrnum } sec
        (parseAt h.msg sec (ptr + r))
  else finish h sec (parseAt h.msg sec ptr)

end

def ns_parserr (h : Handle) (sec rrnum : ℤ) : Handle × Except Errno Rr :=
  if sec < 0 ∨ (ns_s_max : ℤ) ≤ sec then (h, .error .ENODEV)
  else
    let i := sec.toNat
    let h := if i ≠ h.sect then rewind h i else h
    let rrnum := if rrnum = -1 then h.rrnum else rrnum
    if rrnum < 0 ∨ (h.counts i : ℤ) ≤ rrnum then (h, .error .ENODEV)
    else findRecord h i rrnum

variable {msg : List UInt8} {sec k m : ℕ}

theorem skipRecord_bounds (h : skipRecord msg sec p = some q) : p ≤ q ∧ q ≤ msg.length := by
  unfold skipRecord at h
  split at h
  · cases h
  · next r hr =>
    split_ifs at h
    all_goals
      cases h
      omega

theorem skipRecords_bounds (h : skipRecords msg sec n p = some q) :
    p ≤ q ∧ (p ≤ msg.length → q ≤ msg.length) := by
  induction n generalizing p with
  | zero =>
    cases h
    exact ⟨Nat.le_refl _, id⟩
  | succ n ih =>
    rw [skipRecords] at h
    split at h
    · cases h
    · next p' hp' =>
      obtain ⟨hle, hle'⟩ := skipRecord_bounds hp'
      obtain ⟨hge, hbound⟩ := ih h
      exact ⟨Nat.le_trans hle hge, fun _ => hbound hle'⟩

theorem skipRecords_add (msg : List UInt8) (sec m n p : ℕ) : skipRecords msg sec (m + n) p =
    (skipRecords msg sec m p).bind (skipRecords msg sec n) := by
  induction m generalizing p with
  | zero => simp [skipRecords]
  | succ m ih =>
    rw [Nat.add_right_comm, skipRecords, skipRecords]
    cases skipRecord msg sec p with
    | none => rfl
    | some p => exact ih p

/-- The number of the cursor's record and its position, behind a parse of record `m` at `q`. -/
def rest (m q : ℕ) : Parsed → ℕ × ℕ
  | .unnamed => (m, q)
  | .short ptr => (m, ptr)
  | .ok ptr _ => (m + 1, ptr)

def Parsed.result : Parsed → Except Errno Rr
  | .unnamed => .error .EMSGSIZE
  | .short _ => .error .EMSGSIZE
  | .ok _ rr => .ok rr

def outcome (msg : List UInt8) (sec p n : ℕ) : Except Errno Rr :=
  match skipRecords msg sec n p with
  | none => .error .EMSGSIZE
  | some q => (parseAt msg sec q).result

/-- Where the cursor can come to rest in a section of `count` records: it is moved forward by
skipping some records and then parsing one. -/
inductive Cursor (msg : List UInt8) (sec count start : ℕ) : ℕ → ℕ → Prop where
  | start : Cursor msg sec count start 0 start
  | next {k p m q : ℕ} : Cursor msg sec count start k p → k ≤ m → m < count →
      skipRecords msg sec (m - k) p = some q →
      Cursor msg sec count start (rest m q (parseAt msg sec q)).1 (rest m q (parseAt msg sec q)).2

theorem finish_eq {h : Handle} (parsed : Parsed) (hnum : h.rrnum = m) (hptr : h.msg_ptr = some q)
    (hm : m < h.counts sec) :
    finish h sec parsed = ({ h with
      rrnum := ((rest m q parsed).1 : ℤ)
      msg_ptr := some (rest m q parsed).2 }, parsed.result) := by
  cases parsed with
  | unnamed | short =>
    cases h
    simp_all [finish, rest, Parsed.result]
  | ok ptr rr =>
    have hnot : ¬((h.counts sec : ℤ) < m + 1) := by omega
    simp only [finish, hnum, if_neg hnot, rest]
    rfl

theorem findRecord_forward {h : Handle} (hnum : h.rrnum = k) (hptr : h.msg_ptr = some p)
    (hkm : k ≤ m) (hm : m < h.counts sec) :
    (findRecord h sec m).2 = outcome h.msg sec p (m - k) ∧
      (findRecord h sec m).1 = match skipRecords h.msg sec (m - k) p with
        | none => h
        | some q => { h with
          rrnum := ((rest m q (parseAt h.msg sec q)).1 : ℤ)
          msg_ptr := some (rest m q (parseAt h.msg sec q)).2 } := by
  have hback : ¬((m : ℤ) < h.rrnum) := by omega
  simp only [findRecord, if_neg hback, hptr, getD_some]
  by_cases hlt : k < m
  · have hforward : h.rrnum < (m : ℤ) := by omega
    have hcount : ((m : ℤ) - h.rrnum).toNat = m - k := by omega
    rw [if_pos hforward, hcount, ns_skiprr, outcome]
    cases hskip : skipRecords h.msg sec (m - k) p with
    | none => exact ⟨rfl, rfl⟩
    | some q =>
      have hq : p + (q - p) = q := Nat.add_sub_cancel' (skipRecords_bounds hskip).1
      simp only [map_some, hq]
      have hfinish := finish_eq (h := { h with rrnum := (m : ℤ), msg_ptr := some q })
        (parseAt h.msg sec q) rfl rfl hm
      rw [hfinish]
      exact ⟨rfl, rfl⟩
  · have hkm' : k = m := by omega
    subst hkm'
    have hforward : ¬h.rrnum < (k : ℤ) := by omega
    rw [if_neg hforward, finish_eq _ hnum hptr hm, Nat.sub_self]
    exact ⟨rfl, rfl⟩

theorem findRecord_back (hlt : rrnum < h.rrnum) (hnonneg : 0 ≤ rrnum) :
    findRecord h sec rrnum = findRecord (rewind h sec) sec rrnum := by
  have hnot : ¬rrnum < (rewind h sec).rrnum := by
    simp only [rewind]
    omega
  rw [findRecord, if_pos hlt, findRecord, if_neg hnot]

/-- What `ns_initparse` makes sure of. -/
structure Accepted (h : Handle) : Prop where
  fresh : h.sect = ns_s_max
  empty : ∀ i < ns_s_max, h.sections i = none → h.counts i = 0
  placed : ∀ i < ns_s_max, ∀ start, h.sections i = some start → start ≤ h.msg.length ∧
    ∃ q, skipRecords h.msg i (h.counts i) start = some q

structure Follows (h₀ h : Handle) : Prop where
  msg : h.msg = h₀.msg
  counts : h.counts = h₀.counts
  sections : h.sections = h₀.sections
  cursor : h.sect < ns_s_max → ∀ start, h₀.sections h.sect = some start → ∃ k p : ℕ,
    h.rrnum = k ∧ h.msg_ptr = some p ∧ Cursor h₀.msg h.sect (h₀.counts h.sect) start k p

theorem Accepted.follows (ha : Accepted h₀) : Follows h₀ h₀ := by
  refine ⟨rfl, rfl, rfl, fun hlt => ?_⟩
  rw [ha.fresh] at hlt
  exact absurd hlt (Nat.lt_irrefl _)

theorem Accepted.start (ha : Accepted h₀) (hsec : sec < ns_s_max) (hm : m < h₀.counts sec) :
    ∃ start, h₀.sections sec = some start := by
  cases hstart : h₀.sections sec with
  | none =>
    have hempty := ha.empty sec hsec hstart
    omega
  | some start => exact ⟨start, rfl⟩

theorem Follows.rewind (hf : Follows h₀ h) (sec : ℕ) : Follows h₀ (rewind h sec) := by
  refine ⟨hf.msg, hf.counts, hf.sections, fun _ start hstart => ⟨0, start, rfl, ?_, .start⟩⟩
  change h.sections sec = some start
  rw [hf.sections]
  exact hstart

theorem findRecord_follows (ha : Accepted h₀) (hf : Follows h₀ h) (hsect : h.sect = sec)
    (hsec : sec < ns_s_max) (hm : m < h₀.counts sec) :
    Follows h₀ (findRecord h sec m).1 ∧ ∃ start k p, h₀.sections sec = some start ∧
      Cursor h₀.msg sec (h₀.counts sec) start k p ∧ k ≤ m ∧
      (findRecord h sec m).2 = outcome h₀.msg sec p (m - k) := by
  subst hsect
  obtain ⟨start, hstart⟩ := ha.start hsec hm
  -- forward from where a cursor is at rest
  have hforward : ∀ g : Handle, Follows h₀ g → g.sect = h.sect → ∀ k p : ℕ, g.rrnum = k →
      g.msg_ptr = some p → Cursor h₀.msg h.sect (h₀.counts h.sect) start k p → k ≤ m →
      Follows h₀ (findRecord g h.sect m).1 ∧ ∃ start k p, h₀.sections h.sect = some start ∧
        Cursor h₀.msg h.sect (h₀.counts h.sect) start k p ∧ k ≤ m ∧
        (findRecord g h.sect m).2 = outcome h₀.msg h.sect p (m - k) := by
    intro g hg hsect k p hnum hptr hcursor hkm
    have hm' : m < g.counts h.sect := by rwa [hg.counts]
    obtain ⟨hresult, hstate⟩ := findRecord_forward hnum hptr hkm hm'
    rw [hg.msg] at hresult hstate
    refine ⟨?_, start, k, p, hstart, hcursor, hkm, hresult⟩
    rw [hstate]
    cases hq : skipRecords h₀.msg h.sect (m - k) p with
    | none => exact hg
    | some q =>
      refine ⟨rfl, hg.counts, hg.sections, fun _ start' hstart' => ?_⟩
      rw [hsect, hstart] at hstart'
      cases hstart'
      refine ⟨_, _, rfl, rfl, ?_⟩
      rw [hsect]
      exact hcursor.next hkm hm hq
  obtain ⟨k, p, hnum, hptr, hcursor⟩ := hf.cursor hsec start hstart
  by_cases hkm : k ≤ m
  · exact hforward h hf rfl k p hnum hptr hcursor hkm
  · have hptr' : (NsParse.rewind h h.sect).msg_ptr = some start := by
      change h.sections h.sect = some start
      rw [hf.sections, hstart]
    rw [findRecord_back (by omega) (by omega)]
    exact hforward _ (hf.rewind h.sect) rfl 0 start rfl hptr' .start (Nat.zero_le m)

def located (h : Handle) (sec : ℕ) : Handle := if sec ≠ h.sect then rewind h sec else h

theorem located_sect : (located h sec).sect = sec := by
  unfold located
  split_ifs with hne
  · rfl
  · exact (not_not.mp hne).symm

theorem Follows.located (hf : Follows h₀ h) (sec : ℕ) : Follows h₀ (located h sec) := by
  unfold NsParse.located
  split_ifs
  · exact hf.rewind sec
  · exact hf

theorem parserr_located {sec : ℤ} (h : Handle) (hvalid : ¬(sec < 0 ∨ (ns_s_max : ℤ) ≤ sec))
    (rrnum : ℤ) : ns_parserr h sec rrnum =
      let h := located h sec.toNat
      let rrnum := if rrnum = -1 then h.rrnum else rrnum
      if rrnum < 0 ∨ (h.counts sec.toNat : ℤ) ≤ rrnum then (h, .error .ENODEV)
      else findRecord h sec.toNat rrnum := by
  rw [ns_parserr, if_neg hvalid]
  rfl

theorem parserr_valid (hf : Follows h₀ h) (hsec : sec < ns_s_max) (hm : m < h₀.counts sec) :
    ns_parserr h sec m = findRecord (located h sec) sec m := by
  have hother : ¬(m : ℤ) = -1 := by omega
  rw [parserr_located h (by omega), Int.toNat_natCast]
  simp only [(hf.located sec).counts]
  exact if_neg (by omega)

theorem parserr_result (ha : Accepted h₀) (hf : Follows h₀ h) (hsec : sec < ns_s_max)
    (hm : m < h₀.counts sec) : ∃ start k p, h₀.sections sec = some start ∧
      Cursor h₀.msg sec (h₀.counts sec) start k p ∧ k ≤ m ∧
      (ns_parserr h sec m).2 = outcome h₀.msg sec p (m - k) := by
  rw [parserr_valid hf hsec hm]
  exact (findRecord_follows ha (hf.located sec) located_sect hsec hm).2

theorem parserr_follows (ha : Accepted h₀) (hf : Follows h₀ h) (sec rrnum : ℤ) :
    Follows h₀ (ns_parserr h sec rrnum).1 := by
  by_cases hvalid : sec < 0 ∨ (ns_s_max : ℤ) ≤ sec
  · rw [ns_parserr, if_pos hvalid]
    exact hf
  have hloc := hf.located sec.toNat
  rw [parserr_located h hvalid]
  dsimp only
  generalize (if rrnum = -1 then (located h sec.toNat).rrnum else rrnum) = r
  split_ifs with hbad
  · exact hloc
  · obtain ⟨m, rfl⟩ : ∃ m : ℕ, r = m := ⟨r.toNat, by omega⟩
    rw [hloc.counts] at hbad
    exact (findRecord_follows ha hloc located_sect (by omega) (by omega)).1

def after (h : Handle) (calls : List (ℤ × ℤ)) : Handle :=
  calls.foldl (fun h call => (ns_parserr h call.1 call.2).1) h

theorem after_follows (ha : Accepted h₀) (hf : Follows h₀ h) (calls : List (ℤ × ℤ)) :
    Follows h₀ (after h calls) := by
  induction calls generalizing h with
  | nil => exact hf
  | cons call calls ih => exact ih (parserr_follows ha hf call.1 call.2)

/-- The names of the records in section `sec`, up to number `rrnum`, have no length byte between 64
and 191 before their end or first pointer, or cannot be expanded. -/
def PlainUpTo (h : Handle) (sec rrnum : ℕ) : Prop :=
  ∀ start, h.sections sec = some start → rrnum < h.counts sec → ∀ k ≤ rrnum, ∀ q,
    skipRecords h.msg sec k start = some q → Plain h.msg q ∨ dn_expand h.msg q NS_MAXDNAME = none

theorem parseAt_plain (hplain : Plain msg p ∨ dn_expand msg p NS_MAXDNAME = none)
    (hle : p ≤ msg.length) (hskip : skipRecord msg sec p = some q) :
    parseAt msg sec p = .unnamed ∨ ∃ rr, parseAt msg sec p = .ok q rr := by
  unfold parseAt
  cases hexpand : dn_expand msg p NS_MAXDNAME with
  | none => exact Or.inl rfl
  | some x =>
    have hname : Plain msg p := hplain.resolve_right (by simp [hexpand])
    rw [skipRecord, dn_expand_length hname hle hexpand] at hskip
    dsimp only at hskip ⊢
    split_ifs at hskip with hshort hquestion hheader hdata
    · cases hskip
      rw [if_neg (by omega), if_pos hquestion]
      exact Or.inr ⟨_, rfl⟩
    · cases hskip
      rw [if_neg (by omega), if_neg hquestion, if_neg hheader, if_neg hdata]
      exact Or.inr ⟨_, rfl⟩

theorem rest_ge (m q : ℕ) (parsed : Parsed) : m ≤ (rest m q parsed).1 := by
  cases parsed with
  | unnamed | short => exact Nat.le_refl m
  | ok => exact Nat.le_succ m

/-- A cursor that has not passed record `rrnum` rests where skipping would have led it. -/
theorem cursor_plain (ha : Accepted h₀) (hplain : PlainUpTo h₀ sec rrnum) (hsec : sec < ns_s_max)
    (hstart : h₀.sections sec = some start) (hlt : rrnum < h₀.counts sec)
    (hc : Cursor h₀.msg sec (h₀.counts sec) start k p) (hk : k ≤ rrnum) :
    skipRecords h₀.msg sec k start = some p := by
  induction hc with
  | start => rfl
  | @next k p m q _ hkm hm hq ih =>
    have hmk := rest_ge m q (parseAt h₀.msg sec q)
    obtain ⟨hle, last, hlast⟩ := ha.placed sec hsec start hstart
    have hat : skipRecords h₀.msg sec m start = some q := by
      have hsplit : m = k + (m - k) := by omega
      rw [hsplit, skipRecords_add, ih (by omega)]
      exact hq
    obtain ⟨q', hq'⟩ : ∃ q', skipRecord h₀.msg sec q = some q' := by
      have hsplit : h₀.counts sec = m + ((h₀.counts sec - m - 1) + 1) := by omega
      rw [hsplit, skipRecords_add, hat, bind_some, skipRecords] at hlast
      cases hrecord : skipRecord h₀.msg sec q with
      | none =>
        rw [hrecord] at hlast
        cases hlast
      | some q' => exact ⟨q', rfl⟩
    have hname := hplain start hstart hlt m (by omega) q hat
    rcases parseAt_plain hname ((skipRecords_bounds hat).2 hle) hq' with hp | ⟨rr, hp⟩
    · rw [hp]
      exact hat
    · rw [hp]
      change skipRecords h₀.msg sec (m + 1) start = some q'
      rw [skipRecords_add, hat, bind_some, skipRecords, hq']
      rfl

theorem parserr_plain (ha : Accepted h₀) (hf : Follows h₀ h) (hsec : sec < ns_s_max)
    (hlt : rrnum < h₀.counts sec) (hplain : PlainUpTo h₀ sec rrnum) :
    ∃ start, h₀.sections sec = some start ∧
      (ns_parserr h sec rrnum).2 = outcome h₀.msg sec start rrnum := by
  obtain ⟨start, k, p, hstart, hcursor, hk, hresult⟩ := parserr_result ha hf hsec hlt
  have hat := cursor_plain ha hplain hsec hstart hlt hcursor hk
  have hsplit : rrnum = k + (rrnum - k) := by omega
  refine ⟨start, hstart, ?_⟩
  rw [hresult, outcome, outcome]
  conv_rhs => rw [hsplit, skipRecords_add, hat, bind_some]

theorem parserr_absent (hf : Follows h₀ h) (hbad : ns_s_max ≤ sec ∨ h₀.counts sec ≤ rrnum) :
    (ns_parserr h sec (rrnum : ℕ)).2 = .error .ENODEV := by
  by_cases hvalid : (sec : ℤ) < 0 ∨ (ns_s_max : ℤ) ≤ sec
  · rw [ns_parserr, if_pos hvalid]
  · have hloc := hf.located sec
    have hother : ¬(rrnum : ℤ) = -1 := by omega
    rw [parserr_located _ hvalid, Int.toNat_natCast]
    simp only [hloc.counts]
    rw [if_pos (by omega)]

def Placed (msg : List UInt8) (counts : ℕ → ℕ) (i : ℕ) (place : Option ℕ) : Prop :=
  (place = none → counts i = 0) ∧ ∀ start, place = some start → start ≤ msg.length ∧
    ∃ q, skipRecords msg i (counts i) start = some q

theorem placeSections_spec (hnodup : is.Nodup) (hp : p ≤ msg.length)
    (h : placeSections msg counts is p places = some (q, places')) :
    (∀ i ∉ is, places' i = places i) ∧ ∀ i ∈ is, Placed msg counts i (places' i) := by
  induction is generalizing p places with
  | nil =>
    cases h
    exact ⟨fun _ _ => rfl, by simp⟩
  | cons j is ih =>
    obtain ⟨hj, hnodup⟩ := nodup_cons.mp hnodup
    rw [placeSections] at h
    -- what is known of the sections behind, and of this one
    have hstep : ∀ (p' : ℕ) (place : Option ℕ), p' ≤ msg.length →
        placeSections msg counts is p' (update places j place) = some (q, places') →
        Placed msg counts j place →
        (∀ i ∉ j :: is, places' i = places i) ∧
          ∀ i ∈ j :: is, Placed msg counts i (places' i) := by
      intro p' place hp' hrest hplace
      obtain ⟨hout, hin⟩ := ih hnodup hp' hrest
      have hself : places' j = place := by rw [hout j hj, update_self]
      refine ⟨fun i hi => ?_, fun i hi => ?_⟩
      · rw [mem_cons, not_or] at hi
        rw [hout i hi.2, update_of_ne hi.1]
      · rcases mem_cons.mp hi with rfl | hi
        · rwa [hself]
        · exact hin i hi
    split_ifs at h with hcount
    · cases hskip : skipRecords msg j (counts j) p with
      | none =>
        rw [ns_skiprr, hskip] at h
        cases h
      | some p' =>
        obtain ⟨hle, hbound⟩ := skipRecords_bounds hskip
        rw [ns_skiprr, hskip] at h
        refine hstep (p + (p' - p)) (some p) (by omega) h ⟨nofun, ?_⟩
        rintro _ ⟨⟩
        exact ⟨hp, p', hskip⟩
    · exact hstep p none hp h ⟨fun _ => not_not.mp hcount, nofun⟩

theorem initparse_accepted (h : ns_initparse msg = some h₀) : Accepted h₀ := by
  unfold ns_initparse at h
  split_ifs at h with hshort
  dsimp only at h
  split at h
  · cases h
  · next p places hplaces =>
    split_ifs at h with hend
    cases h
    have hlen : 12 ≤ msg.length := by
      simp only [ns_s_max] at hshort
      omega
    obtain ⟨-, hin⟩ := placeSections_spec nodup_range hlen hplaces
    exact ⟨rfl, fun i hi => (hin i (mem_range.mpr hi)).1, fun i hi => (hin i (mem_range.mpr hi)).2⟩

/-- Two answers. The name of the second ends in a pointer to that of the first. -/
def linked : List UInt8 :=
  [0, 0, 0, 0, 0, 0, 0, 2, 0, 0, 0, 0] ++ [1, 97, 0, 0, 1, 0, 1, 0, 0, 0, 9, 0, 2, 7, 8] ++
    [1, 98, 192, 12, 0, 2, 0, 1, 0, 0, 0, 0, 0, 0]

/-- Two records. The name of the first begins with the byte 64, and 75 bytes behind it are zero; the
second is of type 1. -/
def twoRecords : List UInt8 :=
  [0, 0, 0, 0, 0, 0, 0, 2, 0, 0, 0, 0] ++ 64 :: List.replicate 75 0 ++
    [0, 0, 1, 0, 1, 0, 0, 0, 0, 0, 0]

end NsParse
