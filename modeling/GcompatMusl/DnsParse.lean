import Mathlib.Data.Int.Init
import Mathlib.Data.List.Basic

/-! # Answers of the resolver

`__dns_parse` on a response. Pointers into the response are positions; a read outside of it is
`none`. -/
namespace DnsParse

open List Option

variable {κ : Type} {x e s n room : ℕ}

def inName (b : UInt8) : Bool := b.toUInt32 - 1 < 127

def scan (r : List UInt8) : ℕ → ℕ → Option ℕ
  | 0, p => some p
  | turns + 1, p =>
    if p < r.length then do
      let b ← r[p]?
      if inName b then scan r turns (p + 1) else some p
    else some p

/-- The position behind the questions, or nothing inside if the parser returns `-1`. -/
def skipQuestions (r : List UInt8) : ℕ → ℕ → Option (Option ℕ)
  | 0, p => some (some p)
  | qdcount + 1, p => do
    let p ← scan r (r.length - p) p
    if r.length < p + 6 then some none
    else
      let b ← r[p]?
      skipQuestions r qdcount (p + 5 + (b != 0).toNat)

structure Call where
  type : ℕ
  data : ℕ
  len : ℕ
  deriving DecidableEq

abbrev Callback (κ : Type) := κ → Call → ℤ × κ

def parseAnswers (r : List UInt8) (callback : Callback κ) : ℕ → ℕ → κ → Option (ℤ × κ)
  | 0, _, ctx => some (0, ctx)
  | ancount + 1, p, ctx => do
    let p ← scan r (r.length - p) p
    if r.length < p + 12 then some (-1, ctx)
    else
      let b ← r[p]?
      let p := p + 1 + (b != 0).toNat
      let hi ← r[p + 8]?
      let lo ← r[p + 9]?
      let len := hi.toNat * 256 + lo.toNat
      if r.length - p < len + 10 then some (-1, ctx)
      else
        let type ← r[p + 1]?
        let (ret, ctx) := callback ctx ⟨type.toNat, p + 10, len⟩
        if ret < 0 then some (-1, ctx)
        else parseAnswers r callback ancount (p + 10 + len) ctx

def answersBehind (r : List UInt8) (callback : Callback κ) (ancount : ℕ) (ctx : κ) :
    Option ℕ → Option (ℤ × κ)
  | none => some (-1, ctx)
  | some p => parseAnswers r callback ancount p ctx

def dns_parse (r : List UInt8) (callback : Callback κ) (ctx : κ) : Option (ℤ × κ) :=
  if r.length < 12 then some (-1, ctx)
  else do
    let flags ← r[3]?
    if flags &&& 15 ≠ 0 then some (0, ctx)
    else
      let q₁ ← r[4]?
      let q₀ ← r[5]?
      let a₁ ← r[6]?
      let a₀ ← r[7]?
      let p ← skipQuestions r (q₁.toNat * 256 + q₀.toNat) 12
      answersBehind r callback (a₁.toNat * 256 + a₀.toNat) ctx p

/-- From `x` on, the bytes are in the class of the scan up to one with `room` bytes behind it, and
the name ends at `e` if that byte ends it or is the first of two. -/
def Finds (r : List UInt8) (room x e : ℕ) : Prop :=
  ∃ s b, x ≤ s ∧ s + room ≤ r.length ∧ (∀ j b, x ≤ j → j < s → r[j]? = some b → inName b = true) ∧
    r[s]? = some b ∧ inName b = false ∧ e = s + 1 + (b != 0).toNat

theorem scan_spec (turns : ℕ) : ∀ x, x + turns = r.length ∨ turns = 0 ∧ r.length ≤ x →
    ∃ s, scan r turns x = some s ∧ x ≤ s ∧
      (∀ j b, x ≤ j → j < s → r[j]? = some b → inName b = true) ∧
      ∀ b, r[s]? = some b → inName b = false := by
  induction turns with
  | zero =>
    intro x hx
    refine ⟨x, rfl, Nat.le_refl _, fun j b hj hlt => by omega, fun b hb => ?_⟩
    rw [getElem?_eq_none (by omega)] at hb
    cases hb
  | succ turns ih =>
    intro x hx
    have hlt : x < r.length := by omega
    have hget : r[x]? = some r[x] := getElem?_eq_getElem hlt
    rw [scan, if_pos hlt, hget]
    by_cases hname : inName r[x] = true
    · obtain ⟨s, hs, hle, hbytes, hstop⟩ := ih (x + 1) (by omega)
      refine ⟨s, by rw [← hs]; exact if_pos hname, by omega, fun j b hj hjs hb => ?_, hstop⟩
      rcases Nat.eq_or_lt_of_le hj with rfl | hj
      · cases hget.symm.trans hb
        exact hname
      · exact hbytes j b hj hjs hb
    · refine ⟨x, if_neg hname, Nat.le_refl _, fun j b hj hjs => by omega, fun b hb => ?_⟩
      cases hget.symm.trans hb
      exact (Bool.not_eq_true _).mp hname

theorem scan_finishes (r : List UInt8) (x : ℕ) :
    ∃ s, scan r (r.length - x) x = some s ∧ x ≤ s ∧
      (∀ j b, x ≤ j → j < s → r[j]? = some b → inName b = true) ∧
      ∀ b, r[s]? = some b → inName b = false :=
  scan_spec _ x (by omega)

theorem finds_iff (hroom : 0 < room) : Finds r room x e ↔
    ∃ s b, scan r (r.length - x) x = some s ∧ s + room ≤ r.length ∧ r[s]? = some b ∧
      e = s + 1 + (b != 0).toNat := by
  obtain ⟨t, ht, hle, hbytes, hstop⟩ := scan_finishes r x
  constructor
  · rintro ⟨s, b, hxs, hlength, hbefore, hb, hname, he⟩
    have hst : s = t := by
      rcases Nat.lt_trichotomy s t with hlt | heq | hlt
      · rw [hbytes s b hxs hlt hb] at hname
        cases hname
      · exact heq
      · have htlt : t < r.length := by omega
        have hget : r[t]? = some r[t] := getElem?_eq_getElem htlt
        have hin := hbefore t _ hle hlt hget
        rw [hstop _ hget] at hin
        cases hin
    rw [hst] at hlength hb he
    exact ⟨t, b, ht, hlength, hb, he⟩
  · rintro ⟨s, b, hs, hlength, hb, he⟩
    cases ht.symm.trans hs
    exact ⟨t, b, hle, hlength, hbytes, hb, hstop b hb, he⟩

theorem Finds.unique (hroom : 0 < room) (h : Finds r room x e) (h' : Finds r room x e') :
    e = e' := by
  obtain ⟨s, b, hs, -, hb, rfl⟩ := (finds_iff hroom).1 h
  obtain ⟨s', b', hs', -, hb', rfl⟩ := (finds_iff hroom).1 h'
  cases hs.symm.trans hs'
  cases hb.symm.trans hb'
  rfl

theorem skipQuestions_found (h : Finds r 6 x e) :
    skipQuestions r (n + 1) x = skipQuestions r n (e + 4) := by
  obtain ⟨s, b, hs, hlength, hb, rfl⟩ := (finds_iff (by decide)).1 h
  have harith : s + 1 + (b != 0).toNat + 4 = s + 5 + (b != 0).toNat := by omega
  rw [skipQuestions, hs, harith]
  simp only [bind_eq_bind, bind_some]
  rw [if_neg (by omega), hb]
  rfl

theorem skipQuestions_lost (h : ∀ e, ¬ Finds r 6 x e) : skipQuestions r (n + 1) x = some none := by
  obtain ⟨s, hs, -⟩ := scan_finishes r x
  rw [skipQuestions, hs]
  refine if_pos (Nat.lt_of_not_le fun hlength => ?_)
  have hget : r[s]? = some r[s] := getElem?_eq_getElem (by omega)
  exact h _ ((finds_iff (by decide)).2 ⟨s, _, hs, hlength, hget, rfl⟩)

section

variable (r : List UInt8) (callback : Callback κ)

def proceed (n : ℕ) (call : Call) (ctx : κ) : Option (ℤ × κ) :=
  if (callback ctx call).1 < 0 then some (-1, (callback ctx call).2)
  else parseAnswers r callback n (call.data + call.len) (callback ctx call).2

theorem parseAnswers_succ (n x : ℕ) (ctx : κ) :
    ((∀ e, ¬ Finds r 12 x e) ∧ parseAnswers r callback (n + 1) x ctx = some (-1, ctx)) ∨
      ∃ e t hi lo, Finds r 12 x e ∧ r[e + 1]? = some t ∧ r[e + 8]? = some hi ∧
        r[e + 9]? = some lo ∧ parseAnswers r callback (n + 1) x ctx =
          if r.length - e < hi.toNat * 256 + lo.toNat + 10 then some (-1, ctx)
          else proceed r callback n ⟨t.toNat, e + 10, hi.toNat * 256 + lo.toNat⟩ ctx := by
  obtain ⟨s, hs, -⟩ := scan_finishes r x
  rw [parseAnswers, hs]
  simp only [bind_eq_bind, bind_some]
  by_cases hlength : r.length < s + 12
  · refine .inl ⟨fun e he => ?_, if_pos hlength⟩
    obtain ⟨s', b, hs', hroom, -, -⟩ := (finds_iff (by decide)).1 he
    cases hs.symm.trans hs'
    omega
  · have hget : r[s]? = some r[s] := getElem?_eq_getElem (by omega)
    have hbit : (r[s] != 0).toNat ≤ 1 := Bool.toNat_le _
    have hread : ∀ k ≤ 9, ∃ b, r[s + 1 + (r[s] != 0).toNat + k]? = some b := fun k hk =>
      ⟨_, getElem?_eq_getElem (by omega)⟩
    obtain ⟨t, ht⟩ := hread 1 (by decide)
    obtain ⟨hi, hhi⟩ := hread 8 (by decide)
    obtain ⟨lo, hlo⟩ := hread 9 (by decide)
    refine .inr ⟨_, t, hi, lo, (finds_iff (by decide)).2 ⟨s, _, hs, by omega, hget, rfl⟩, ht, hhi,
      hlo, ?_⟩
    rw [if_neg hlength, hget]
    simp only [bind_some, hhi, hlo, ht]
    rfl

theorem skipQuestions_reads (r : List UInt8) (n x : ℕ) : (skipQuestions r n x).isSome = true := by
  induction n generalizing x with
  | zero => rfl
  | succ n ih =>
    by_cases h : ∃ e, Finds r 6 x e
    · obtain ⟨e, he⟩ := h
      rw [skipQuestions_found he]
      exact ih _
    · rw [skipQuestions_lost (not_exists.1 h)]
      rfl

theorem parseAnswers_reads (n x : ℕ) (ctx : κ) :
    (parseAnswers r callback n x ctx).isSome = true := by
  induction n generalizing x ctx with
  | zero => rfl
  | succ n ih =>
    rcases parseAnswers_succ r callback n x ctx with ⟨-, h⟩ | ⟨e, t, hi, lo, -, -, -, -, h⟩
    · rw [h]
      rfl
    · rw [h]
      split_ifs
      · rfl
      · rw [proceed]
        split_ifs
        · rfl
        · exact ih _ _

end

theorem dns_parse_header (h : 12 ≤ r.length) : ∃ flags q₁ q₀ a₁ a₀ : UInt8,
    r[3]? = some flags ∧ r[4]? = some q₁ ∧ r[5]? = some q₀ ∧ r[6]? = some a₁ ∧ r[7]? = some a₀ ∧
      ∀ (κ : Type) (callback : Callback κ) (ctx : κ), dns_parse r callback ctx =
        if flags &&& 15 ≠ 0 then some (0, ctx)
        else (skipQuestions r (q₁.toNat * 256 + q₀.toNat) 12).bind
          (answersBehind r callback (a₁.toNat * 256 + a₀.toNat) ctx) := by
  have hread : ∀ k < 12, ∃ b, r[k]? = some b := fun k hk =>
    ⟨_, getElem?_eq_getElem (by omega)⟩
  obtain ⟨flags, hflags⟩ := hread 3 (by decide)
  obtain ⟨q₁, hq1⟩ := hread 4 (by decide)
  obtain ⟨q₀, hq0⟩ := hread 5 (by decide)
  obtain ⟨a₁, ha1⟩ := hread 6 (by decide)
  obtain ⟨a₀, ha0⟩ := hread 7 (by decide)
  refine ⟨flags, q₁, q₀, a₁, a₀, hflags, hq1, hq0, ha1, ha0, fun κ callback ctx => ?_⟩
  rw [dns_parse, if_neg (by omega), hflags]
  simp only [bind_eq_bind, bind_some, hq1, hq0, ha1, ha0]

theorem dns_parse_reads (r : List UInt8) (callback : Callback κ) (ctx : κ) :
    (dns_parse r callback ctx).isSome = true := by
  by_cases hlength : r.length < 12
  · rw [dns_parse, if_pos hlength]
    rfl
  · obtain ⟨flags, q₁, q₀, a₁, a₀, -, -, -, -, -, heq⟩ :=
      dns_parse_header (Nat.le_of_not_lt hlength)
    rw [heq]
    split_ifs
    · rfl
    · obtain ⟨found, hfound⟩ := isSome_iff_exists.1
        (skipQuestions_reads r (q₁.toNat * 256 + q₀.toNat) 12)
      rw [hfound]
      cases found with
      | none => rfl
      | some p => exact parseAnswers_reads r callback _ p ctx

end DnsParse
