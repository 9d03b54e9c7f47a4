import GcompatMusl.DnsParse
import Mathlib.Algebra.Group.Nat.Defs

/-! # Well-formed responses

Which responses `__dns_parse` hands to its callback as they are. The parser looks for the end of a
name by the class of its bytes, wants one byte more than a name without a pointer needs, and takes
the type of a record from its second byte. -/
namespace DnsParse

open List UInt8

structure Label where
  bytes : List UInt8
  nonempty : bytes ≠ []
  short : bytes.length ≤ 63

structure Name where
  labels : List Label
  pointer : Option (Fin (2 ^ 14))

def be16 (v : ℕ) : List UInt8 := [UInt8.ofNat (v / 256), UInt8.ofNat v]

def be32 (v : ℕ) : List UInt8 := be16 (v / 2 ^ 16) ++ be16 v

def Label.encode (l : Label) : List UInt8 := UInt8.ofNat l.bytes.length :: l.bytes

def Name.ending (name : Name) : List UInt8 :=
  match name.pointer with
  | none => [0]
  | some offset => be16 (0xc000 + offset)

def Name.encode (name : Name) : List UInt8 := name.labels.flatMap Label.encode ++ name.ending

structure Question where
  name : Name
  qtype : UInt16
  qclass : UInt16

def Question.encode (q : Question) : List UInt8 :=
  q.name.encode ++ (be16 q.qtype.toNat ++ be16 q.qclass.toNat)

structure Record where
  name : Name
  type : UInt16
  rr_class : UInt16
  ttl : UInt32
  rdata : List UInt8
  short : rdata.length < 2 ^ 16

def Record.fixed (a : Record) : List UInt8 :=
  be16 a.type.toNat ++ (be16 a.rr_class.toNat ++ (be32 a.ttl.toNat ++ be16 a.rdata.length))

def Record.encode (a : Record) : List UInt8 := a.name.encode ++ (a.fixed ++ a.rdata)

structure Response where
  id : UInt16
  flags : UInt16
  questions : List Question
  answers : List Record
  authority : List Record
  additional : List Record
  qdcount : questions.length < 2 ^ 16
  ancount : answers.length < 2 ^ 16
  nscount : authority.length < 2 ^ 16
  arcount : additional.length < 2 ^ 16

section

variable (m : Response)

def Response.rcode : ℕ := m.flags.toNat % 16

def Response.header : List UInt8 :=
  be16 m.id.toNat ++ (be16 m.flags.toNat ++ (be16 m.questions.length ++ (be16 m.answers.length ++
    (be16 m.authority.length ++ be16 m.additional.length))))

def Response.asked : List UInt8 := m.questions.flatMap Question.encode

def Response.tail : List UInt8 := (m.authority ++ m.additional).flatMap Record.encode

def Response.encode : List UInt8 :=
  m.header ++ (m.asked ++ (m.answers.flatMap Record.encode ++ m.tail))

def callsFrom : ℕ → List Record → List Call
  | _, [] => []
  | p, a :: as => ⟨a.type.toNat, p + a.name.encode.length + 10, a.rdata.length⟩ ::
      callsFrom (p + a.encode.length) as

def Response.start : ℕ := 12 + m.asked.length

def Response.calls : List Call := callsFrom m.start m.answers

end

variable {κ : Type}

def runCalls (callback : Callback κ) : List Call → κ → ℤ × κ
  | [], ctx => (0, ctx)
  | c :: cs, ctx =>
    if (callback ctx c).1 < 0 then (-1, (callback ctx c).2)
    else runCalls callback cs (callback ctx c).2

def Delivers (r : List UInt8) (calls : List Call) : Prop :=
  ∀ (κ : Type) (callback : Callback κ) (ctx : κ),
    dns_parse r callback ctx = some (runCalls callback calls ctx)

inductive Walk (r : List UInt8) : ℕ → ℕ → ℕ → Prop where
  | done {x : ℕ} : Walk r 0 x x
  | next {n x e y : ℕ} : Finds r 6 x e → Walk r n (e + 4) y → Walk r (n + 1) x y

theorem Walk.unique (h : Walk r n x y) (h' : Walk r n x y') :
    y = y' := by
  induction h with
  | done =>
    cases h'
    rfl
  | next hfinds _ ih =>
    cases h' with
    | next hfinds' hrest =>
      cases hfinds.unique (by decide) hfinds'
      exact ih hrest

/-- From `x`, the scan finds the ends of the names of the records at `p`, with eight-bit types. -/
def Found (r : List UInt8) : ℕ → ℕ → List Record → Prop
  | _, _, [] => True
  | x, p, a :: as => Finds r 12 x (p + a.name.encode.length) ∧ a.type.toNat < 256 ∧
      Found r (p + a.encode.length) (p + a.encode.length) as

def Readable (m : Response) : Prop :=
  ∃ x, Walk m.encode m.questions.length 12 x ∧ Found m.encode x m.start m.answers

variable {r : List UInt8} {a : Record}

theorem getElem?_of_drop (h : r.drop p = rest) (k : ℕ) : r[p + k]? = rest[k]? := by
  rw [← h, getElem?_drop]

theorem be16_value (h : v < 2 ^ 16) :
    (ofNat (v / 256)).toNat * 256 + (ofNat v).toNat = v := by
  rw [toNat_ofNat', toNat_ofNat']
  omega

theorem fixed_length (a : Record) : a.fixed.length = 10 := rfl

theorem record_behind (h : r.drop p = a.encode ++ rest) : r.drop (p + a.encode.length) = rest := by
  rw [← drop_drop, h, drop_left]

theorem record_fixed (h : r.drop p = a.encode ++ rest) :
    r.drop (p + a.name.encode.length) = a.fixed ++ (a.rdata ++ rest) := by
  rw [← drop_drop, h, Record.encode, append_assoc, append_assoc, drop_left]

theorem record_length (a : Record) :
    a.encode.length = a.name.encode.length + 10 + a.rdata.length := by
  rw [Record.encode, length_append, length_append, fixed_length, Nat.add_assoc]

theorem record_fits (h : r.drop p = a.encode ++ rest) (hp : p ≤ r.length) :
    p + a.encode.length + rest.length = r.length := by
  have hlength := congrArg length h
  rw [length_drop, length_append] at hlength
  omega

theorem record_reads (h : r.drop p = a.encode ++ rest) :
    r[p + a.name.encode.length + 1]? = some (ofNat a.type.toNat) ∧
      r[p + a.name.encode.length + 8]? = some (ofNat (a.rdata.length / 256)) ∧
      r[p + a.name.encode.length + 9]? = some (ofNat a.rdata.length) := by
  have hfixed := getElem?_of_drop (record_fixed h)
  exact ⟨hfixed 1, hfixed 8, hfixed 9⟩

theorem parseAnswers_record (h : r.drop p = a.encode ++ rest) (hp : p ≤ r.length)
    (hfinds : Finds r 12 x (p + a.name.encode.length)) (callback : Callback κ) (n : ℕ) (ctx : κ) :
    parseAnswers r callback (n + 1) x ctx = proceed r callback n
      ⟨(ofNat a.type.toNat).toNat, p + a.name.encode.length + 10, a.rdata.length⟩ ctx := by
  rcases parseAnswers_succ r callback n x ctx with ⟨hlost, -⟩ |
    ⟨e, t, hi, lo, he, ht, hhi, hlo, heq⟩
  · exact absurd hfinds (hlost _)
  · obtain ⟨htype, hhigh, hlow⟩ := record_reads h
    have hfits := record_fits h hp
    have hlength := record_length a
    cases he.unique (by decide) hfinds
    cases ht.symm.trans htype
    cases hhi.symm.trans hhigh
    cases hlo.symm.trans hlow
    rw [be16_value a.short] at heq
    rw [heq, if_neg (by omega)]

theorem parseAnswers_found (h : r.drop p = as.flatMap Record.encode ++ rest) (hp : p ≤ r.length)
    (hfound : Found r x p as) (callback : Callback κ) (ctx : κ) :
    parseAnswers r callback as.length x ctx = some (runCalls callback (callsFrom p as) ctx) := by
  induction as generalizing x p ctx with
  | nil => rfl
  | cons a as ih =>
    obtain ⟨hfinds, htype, hfound⟩ := hfound
    rw [flatMap_cons, append_assoc] at h
    have hfits := record_fits h hp
    have hlow : (ofNat a.type.toNat).toNat = a.type.toNat := by
      rw [toNat_ofNat', Nat.mod_eq_of_lt htype]
    have hnext : p + a.name.encode.length + 10 + a.rdata.length = p + a.encode.length := by
      rw [record_length]
      omega
    rw [length_cons, parseAnswers_record h hp hfinds, hlow, proceed, callsFrom, runCalls, hnext]
    split_ifs
    · rfl
    · exact ih (record_behind h) (by omega) hfound _

def record : Callback (List Call) := fun calls c => (0, calls ++ [c])

theorem runCalls_record (cs calls : List Call) : runCalls record cs calls = (0, calls ++ cs) := by
  induction cs generalizing calls with
  | nil => rw [runCalls, append_nil]
  | cons c cs ih =>
    change runCalls record cs (calls ++ [c]) = _
    rw [ih, append_assoc]
    rfl

theorem proceed_record (call : Call) (calls : List Call) : proceed r record n call calls =
    parseAnswers r record n (call.data + call.len) (calls ++ [call]) :=
  if_neg (show ¬ (0 : ℤ) < 0 by decide)

theorem parseAnswers_recorded (h : parseAnswers r record n x calls = some (0, out)) :
    ∃ cs, out = calls ++ cs := by
  induction n generalizing x calls with
  | zero =>
    cases h
    exact ⟨[], (append_nil _).symm⟩
  | succ n ih =>
    rcases parseAnswers_succ r record n x calls with ⟨-, heq⟩ | ⟨e, t, hi, lo, -, -, -, -, heq⟩
    · cases heq.symm.trans h
    · rw [heq] at h
      split_ifs at h
      · cases h
      · obtain ⟨cs, hcs⟩ := ih h
        exact ⟨_ :: cs, by rw [hcs]; exact append_assoc _ _ _⟩

theorem found_of_recorded (h : r.drop p = as.flatMap Record.encode ++ rest) (hp : p ≤ r.length)
    (hrun : parseAnswers r record as.length x calls = some (0, calls ++ callsFrom p as)) :
    Found r x p as := by
  induction as generalizing x p calls with
  | nil => trivial
  | cons a as ih =>
    rw [flatMap_cons, append_assoc] at h
    rcases parseAnswers_succ r record as.length x calls with ⟨-, heq⟩ |
      ⟨e, t, hi, lo, hfinds, -, -, -, heq⟩
    · cases heq.symm.trans hrun
    · -- the first call of the run is the one for this record
      rw [length_cons, heq] at hrun
      split_ifs at hrun
      · cases hrun
      · rw [proceed_record] at hrun
        obtain ⟨cs, hcs⟩ := parseAnswers_recorded hrun
        rw [append_assoc, append_cancel_left_eq] at hcs
        obtain ⟨hcall, -⟩ := cons.inj hcs
        rw [callsFrom, hcall] at hrun
        injection hcall with htype hdata hlen
        have he : e = p + a.name.encode.length := by omega
        have hlt := t.toNat_lt
        have hnext : e + 10 + (hi.toNat * 256 + lo.toNat) = p + a.encode.length := by
          rw [record_length]
          omega
        rw [hnext, append_cons calls _ (callsFrom _ _)] at hrun
        rw [he] at hfinds
        exact ⟨hfinds, by omega, ih (record_behind h) (by omega) hrun⟩

theorem skipQuestions_walk (r : List UInt8) (n x : ℕ) :
    (∃ y, Walk r n x y ∧ skipQuestions r n x = some (some y)) ∨
      ((∀ y, ¬ Walk r n x y) ∧ skipQuestions r n x = some none) := by
  induction n generalizing x with
  | zero => exact .inl ⟨x, .done, rfl⟩
  | succ n ih =>
    by_cases h : ∃ e, Finds r 6 x e
    · obtain ⟨e, he⟩ := h
      rw [skipQuestions_found he]
      rcases ih (e + 4) with ⟨y, hwalk, heq⟩ | ⟨hnone, heq⟩
      · exact .inl ⟨y, .next he hwalk, heq⟩
      · refine .inr ⟨fun y hwalk => ?_, heq⟩
        cases hwalk with
        | next hfinds hrest =>
          cases hfinds.unique (by decide) he
          exact hnone y hrest
    · refine .inr ⟨fun y hwalk => ?_, skipQuestions_lost (not_exists.1 h)⟩
      cases hwalk with
      | next hfinds _ => exact h ⟨_, hfinds⟩

variable (m : Response)

theorem header_length : m.header.length = 12 := rfl

theorem header_le : 12 ≤ m.encode.length := by
  rw [Response.encode, length_append]
  exact Nat.le_add_right _ _

theorem low_nibble (h : m.rcode = 0) : UInt8.ofNat m.flags.toNat &&& 15 = 0 := by
  rw [Response.rcode] at h
  rw [← UInt8.toNat_inj, UInt8.toNat_and]
  have hmask : m.flags.toNat % 2 ^ 8 &&& 15 = m.flags.toNat % 2 ^ 8 % 2 ^ 4 :=
    Nat.and_two_pow_sub_one_eq_mod _ 4
  have hmod : m.flags.toNat % 2 ^ 8 % 2 ^ 4 = 0 := by omega
  exact hmask.trans hmod

theorem dns_parse_response (h : m.rcode = 0) (callback : Callback κ) (ctx : κ) :
    dns_parse m.encode callback ctx = (skipQuestions m.encode m.questions.length 12).bind
      (answersBehind m.encode callback m.answers.length ctx) := by
  obtain ⟨flags, q1, q0, a1, a0, hflags, hq1, hq0, ha1, ha0, heq⟩ := dns_parse_header (header_le m)
  cases hflags
  cases hq1
  cases hq0
  cases ha1
  cases ha0
  rw [heq, be16_value m.qdcount, be16_value m.ancount, if_neg (not_not.2 (low_nibble m h))]

theorem answers_start : m.encode.drop m.start = m.answers.flatMap Record.encode ++ m.tail := by
  rw [Response.start, ← drop_drop, Response.encode, drop_left' (header_length m), drop_left]

theorem start_le : m.start ≤ m.encode.length := by
  rw [Response.start, Response.encode, length_append, length_append, header_length]
  omega

/-- No byte outside is read. The answers are delivered just when the ends of their names are found
and the types have eight bits. -/
theorem dns_parse_delivers_iff (r : List UInt8) (m : Response) :
    (∀ (κ : Type) (callback : Callback κ) (ctx : κ), (dns_parse r callback ctx).isSome = true) ∧
    (m.rcode = 0 → (Delivers m.encode m.calls ↔ Readable m)) := by
  refine ⟨fun κ callback ctx => dns_parse_reads r callback ctx, fun hrcode => ?_⟩
  constructor
  · intro h
    have hrun := h _ record []
    rw [dns_parse_response m hrcode, runCalls_record] at hrun
    rcases skipQuestions_walk m.encode m.questions.length 12 with ⟨x, hwalk, heq⟩ | ⟨-, heq⟩
    · rw [heq] at hrun
      exact ⟨x, hwalk, found_of_recorded (answers_start m) (start_le m) hrun⟩
    · rw [heq] at hrun
      cases hrun
  · rintro ⟨x, hwalk, hfound⟩ κ callback ctx
    rw [dns_parse_response m hrcode]
    rcases skipQuestions_walk m.encode m.questions.length 12 with ⟨y, hwalk', heq⟩ | ⟨hnone, -⟩
    · cases hwalk.unique hwalk'
      rw [heq]
      exact parseAnswers_found (answers_start m) (start_le m) hfound callback ctx
    · exact absurd hwalk (hnone x)

def Name.Plain (name : Name) : Prop := ∀ l ∈ name.labels, ∀ b ∈ l.bytes, inName b = true

theorem label_length_inName (l : Label) : inName (UInt8.ofNat l.bytes.length) = true := by
  have hall : ∀ n < 64, 0 < n → inName (ofNat n) = true := by decide
  exact hall _ (Nat.lt_succ_of_le l.short) (length_pos_of_ne_nil l.nonempty)

theorem labels_inName {name : Name} (h : name.Plain) :
    ∀ b ∈ name.labels.flatMap Label.encode, inName b = true := by
  intro b hb
  obtain ⟨l, hl, hb⟩ := mem_flatMap.1 hb
  rcases mem_cons.1 hb with rfl | hb
  · exact label_length_inName l
  · exact h l hl b hb

theorem ending_head (name : Name) : ∃ b, name.ending[0]? = some b ∧ inName b = false ∧
    name.ending.length = 1 + (b != 0).toNat := by
  rw [Name.ending]
  cases name.pointer with
  | none => exact ⟨0, rfl, rfl, rfl⟩
  | some offset =>
    have hhigh : ∀ k < 64, inName (ofNat (192 + k)) = false ∧
        (ofNat (192 + k) != 0) = true := by decide
    have hk := hhigh (offset.val / 256) (by omega)
    have hbyte : (0xc000 + offset.val) / 256 = 192 + offset.val / 256 := by omega
    rw [← hbyte] at hk
    exact ⟨_, rfl, hk.1, by rw [hk.2]; rfl⟩

theorem Name.finds {name : Name} {room : ℕ} (hplain : name.Plain)
    (h : r.drop p = name.encode ++ rest) (hp : p ≤ r.length)
    (hroom : room ≤ name.ending.length + rest.length) :
    Finds r room p (p + name.encode.length) := by
  obtain ⟨b, hb, hname, hending⟩ := ending_head name
  have hlength := congrArg length h
  rw [Name.encode, append_assoc] at h
  rw [length_drop, length_append, Name.encode, length_append] at hlength
  refine ⟨p + (name.labels.flatMap Label.encode).length, b, Nat.le_add_right _ _, by omega,
    fun j c hj hlt hc => ?_, ?_, hname, ?_⟩
  · obtain ⟨k, rfl⟩ := Nat.exists_eq_add_of_le hj
    rw [getElem?_of_drop h, getElem?_append_left (by omega)] at hc
    exact labels_inName hplain c (mem_of_getElem? hc)
  · rw [getElem?_of_drop h, getElem?_append_right (Nat.le_refl _), Nat.sub_self,
      getElem?_append_left (by omega), hb]
  · rw [Name.encode, length_append]
    omega

theorem walk_of_plain {qs : List Question} (h : r.drop p = qs.flatMap Question.encode ++ rest)
    (hp : p ≤ r.length) (hplain : ∀ q ∈ qs, q.name.Plain) (hrest : rest ≠ []) :
    Walk r qs.length p (p + (qs.flatMap Question.encode).length) := by
  induction qs generalizing p with
  | nil => exact .done
  | cons q qs ih =>
    rw [flatMap_cons, append_assoc] at h
    have hpos := length_pos_of_ne_nil hrest
    have hq : q.encode.length = q.name.encode.length + 4 := by
      rw [Question.encode, length_append]
      rfl
    have hfinds : Finds r 6 p (p + q.name.encode.length) := by
      rw [Question.encode, append_assoc] at h
      obtain ⟨b, -, -, hending⟩ := ending_head q.name
      refine Name.finds (hplain q mem_cons_self) h hp ?_
      rw [length_append, length_append, length_append]
      change 6 ≤ _ + (2 + 2 + _)
      omega
    have hlength := congrArg length h
    rw [length_drop, length_append] at hlength
    have hbehind : r.drop (p + q.encode.length) = qs.flatMap Question.encode ++ rest := by
      rw [← drop_drop, h, drop_left]
    have hwalk := ih hbehind (by omega) fun q hq => hplain q (mem_cons_of_mem _ hq)
    rw [flatMap_cons, length_append, ← Nat.add_assoc]
    rw [hq] at hwalk ⊢
    exact .next hfinds hwalk

theorem found_of_plain (h : r.drop p = as.flatMap Record.encode ++ rest) (hp : p ≤ r.length)
    (hplain : ∀ a ∈ as, a.name.Plain ∧ a.type.toNat < 256 ∧ a.rdata ≠ []) : Found r p p as := by
  induction as generalizing p with
  | nil => trivial
  | cons a as ih =>
    obtain ⟨hname, htype, hdata⟩ := hplain a mem_cons_self
    rw [flatMap_cons, append_assoc] at h
    have hfits := record_fits h hp
    refine ⟨?_, htype, ih (record_behind h) (by omega) fun a ha => hplain a (mem_cons_of_mem _ ha)⟩
    have hpos := length_pos_of_ne_nil hdata
    obtain ⟨b, -, -, hending⟩ := ending_head a.name
    rw [Record.encode, append_assoc] at h
    refine Name.finds hname h hp ?_
    rw [length_append, length_append, fixed_length]
    omega

/-- It is enough that labels have bytes from 1 to 127, answers have data and types below 256, and
something follows on the questions. -/
theorem readable_of_plain (hasked : ∀ q ∈ m.questions, q.name.Plain)
    (hanswers : ∀ a ∈ m.answers, a.name.Plain ∧ a.type.toNat < 256 ∧ a.rdata ≠ [])
    (hmore : m.answers.flatMap Record.encode ++ m.tail ≠ []) : Readable m := by
  have hstart : m.encode.drop 12 =
      m.questions.flatMap Question.encode ++ (m.answers.flatMap Record.encode ++ m.tail) := by
    rfl
  exact ⟨m.start, walk_of_plain hstart (header_le m) hasked hmore,
    found_of_plain (answers_start m) (start_le m) hanswers⟩

def oneAnswer (type : UInt16) : Response where
  id := 0
  flags := 0x8180
  questions := [⟨⟨[⟨[97], by decide, by decide⟩], none⟩, type, 1⟩]
  answers := [⟨⟨[], some 12⟩, type, 1, 60, [7, 9], by decide⟩]
  authority := []
  additional := []
  qdcount := show 1 < 2 ^ 16 by decide
  ancount := show 1 < 2 ^ 16 by decide
  nscount := show 0 < 2 ^ 16 by decide
  arcount := show 0 < 2 ^ 16 by decide

theorem dns_parse_delivers_oneAnswer : Delivers (oneAnswer 1).encode [⟨1, 31, 2⟩] := by
  have hdelivers := (dns_parse_delivers_iff [] (oneAnswer 1)).2 rfl
  refine hdelivers.2 (readable_of_plain _ ?_ ?_ ?_)
  · intro q hq l hl b hb
    cases mem_singleton.1 hq
    cases mem_singleton.1 hl
    cases mem_singleton.1 hb
    rfl
  · intro a ha
    rw [mem_singleton.1 ha]
    exact ⟨fun l hl => absurd hl not_mem_nil, by decide, by decide⟩
  · exact cons_ne_nil _ _

/-- A record of type 257 is handed on as one of type 1. -/
theorem dns_parse_truncates_type : (oneAnswer 257).rcode = 0 ∧
    (oneAnswer 257).calls = [⟨257, 31, 2⟩] ∧
    dns_parse (oneAnswer 257).encode record [] = some (0, [⟨1, 31, 2⟩]) := by
  refine ⟨rfl, rfl, ?_⟩
  decide +kernel

end DnsParse
