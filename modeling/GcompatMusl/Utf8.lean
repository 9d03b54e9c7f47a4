import Mathlib.Data.List.Basic
import Mathlib.Order.Nat

/-! # UTF-8

The encoding of scalar values, and a machine that reads it one octet at a time. Octets are natural
numbers. -/
namespace Utf8

open List

def Scalar (v : ℕ) : Prop := v < 0xd800 ∨ 0xdfff < v ∧ v < 0x110000

instance (v : ℕ) : Decidable (Scalar v) := inferInstanceAs (Decidable (_ ∨ _))

def encode (v : ℕ) : List ℕ :=
  if v < 0x80 then [v]
  else if v < 0x800 then [0xc0 + v / 64, 0x80 + v % 64]
  else if v < 0x10000 then [0xe0 + v / 4096, 0x80 + v / 64 % 64, 0x80 + v % 64]
  else [0xf0 + v / 262144, 0x80 + v / 4096 % 64, 0x80 + v / 64 % 64, 0x80 + v % 64]

def Splits (l vs rest : List ℕ) : Prop := (∀ v ∈ vs, Scalar v) ∧ l = vs.flatMap encode ++ rest

def Offends (l : List ℕ) : Prop := ∀ v more rest, Scalar v → l ++ more ≠ encode v ++ rest

def Unfinished (l : List ℕ) : Prop := l ≠ [] ∧ ∃ v more, Scalar v ∧ more ≠ [] ∧ encode v = l ++ more

theorem encode_ne_nil (v : ℕ) : encode v ≠ [] := by
  rw [encode]
  split_ifs <;> simp

/-- A character that has been begun: how many octets are owed, the bounds of the next one, and the
bits so far. -/
structure Pending where
  owed : ℕ
  lo : ℕ
  hi : ℕ
  value : ℕ
  deriving DecidableEq

inductive Outcome where
  | done (v : ℕ)
  | more (p : Pending)
  | bad
  deriving DecidableEq

/-- The least octet behind `b`; behind `lead` a lesser one would give an overlong form. -/
def least (b lead bound : ℕ) : ℕ := if b = lead then bound else 0x80

/-- The limit of the octets behind `b`; behind `lead` others would not give a scalar value. -/
def limit (b lead bound : ℕ) : ℕ := if b = lead then bound else 0xc0

def first (b : ℕ) : Outcome :=
  if b < 0x80 then .done b
  else if b < 0xc2 then .bad
  else if b < 0xe0 then .more ⟨1, 0x80, 0xc0, b - 0xc0⟩
  else if b < 0xf0 then
    .more ⟨2, least b 0xe0 0xa0, limit b 0xed 0xa0, b - 0xe0⟩
  else if b < 0xf5 then
    .more ⟨3, least b 0xf0 0x90, limit b 0xf4 0x90, b - 0xf0⟩
  else .bad

def next (p : Pending) (b : ℕ) : Outcome :=
  if p.lo ≤ b ∧ b < p.hi then
    if p.owed = 1 then .done (p.value * 64 + (b - 0x80))
    else .more ⟨p.owed - 1, 0x80, 0xc0, p.value * 64 + (b - 0x80)⟩
  else .bad

def read : Option Pending → ℕ → Outcome
  | none, b => first b
  | some p, b => next p b

def Leads : Option Pending → List ℕ → ℕ → Prop
  | _, [], _ => False
  | o, b :: l, v =>
    match read o b with
    | .done w => l = [] ∧ w = v
    | .more p => Leads (some p) l v
    | .bad => False

variable (lo hi value : ℕ) (l : List ℕ)

theorem leads_last (v : ℕ) :
    Leads (some ⟨1, lo, hi, value⟩) l v ↔
      ∃ c, l = [c] ∧ lo ≤ c ∧ c < hi ∧ value * 64 + (c - 0x80) = v := by
  cases l with
  | nil => simp [Leads]
  | cons c l =>
    simp only [Leads, read, next]
    split_ifs with hc
    · simp [hc]
    · grind

theorem leads_succ (k lo hi value : ℕ) (l : List ℕ) (v : ℕ) :
    Leads (some ⟨k + 2, lo, hi, value⟩) l v ↔
      ∃ c l', l = c :: l' ∧ lo ≤ c ∧ c < hi ∧
        Leads (some ⟨k + 1, 0x80, 0xc0, value * 64 + (c - 0x80)⟩) l' v := by
  cases l with
  | nil => simp [Leads]
  | cons c l =>
    simp only [Leads, read, next]
    split_ifs with hc hk
    · omega
    · simp [hc]
    · grind

theorem leads_two (v : ℕ) :
    Leads (some ⟨2, lo, hi, value⟩) l v ↔
      ∃ c d, l = [c, d] ∧ lo ≤ c ∧ c < hi ∧ 0x80 ≤ d ∧ d < 0xc0 ∧
        (value * 64 + (c - 0x80)) * 64 + (d - 0x80) = v := by
  simp only [leads_succ 0, Nat.zero_add, leads_last]
  constructor
  · rintro ⟨c, l', rfl, hlo, hhi, d, rfl, hlo', hhi', hv⟩
    exact ⟨c, d, rfl, hlo, hhi, hlo', hhi', hv⟩
  · rintro ⟨c, d, rfl, hlo, hhi, hlo', hhi', hv⟩
    exact ⟨c, [d], rfl, hlo, hhi, d, rfl, hlo', hhi', hv⟩

theorem leads_three (v : ℕ) :
    Leads (some ⟨3, lo, hi, value⟩) l v ↔
      ∃ c d e, l = [c, d, e] ∧ lo ≤ c ∧ c < hi ∧ 0x80 ≤ d ∧ d < 0xc0 ∧ 0x80 ≤ e ∧ e < 0xc0 ∧
        ((value * 64 + (c - 0x80)) * 64 + (d - 0x80)) * 64 + (e - 0x80) = v := by
  simp only [leads_succ 1, Nat.reduceAdd, leads_two]
  constructor
  · rintro ⟨c, l', rfl, hlo, hhi, d, e, rfl, hrest⟩
    exact ⟨c, d, e, rfl, hlo, hhi, hrest⟩
  · rintro ⟨c, d, e, rfl, hlo, hhi, hrest⟩
    exact ⟨c, [d, e], rfl, hlo, hhi, d, e, rfl, hrest⟩

variable {o : Option Pending} {b v : ℕ} {l seen rest : List ℕ} {k : Verdict}

theorem leads_cons :
    Leads o (b :: l) v ↔ (∃ w, read o b = .done w ∧ l = [] ∧ w = v) ∨
      ∃ p, read o b = .more p ∧ Leads (some p) l v := by
  rw [Leads]
  cases read o b <;> simp [and_comm]

theorem encode_of_leads (h : Leads none l v) : Scalar v ∧ encode v = l := by
  cases l with
  | nil => cases h
  | cons b l =>
    simp only [Leads, read, first] at h
    split_ifs at h with h1 h2 h3 h4 h5
    · obtain ⟨rfl, rfl⟩ := h
      exact ⟨.inl (by omega), by rw [encode, if_pos h1]⟩
    · cases h
    · obtain ⟨c, rfl, hlo, hhi, rfl⟩ := (leads_last _ _ _ _ _).mp h
      refine ⟨.inl (by omega), ?_⟩
      rw [encode, if_neg (by omega), if_pos (by omega)]
      simp only [cons.injEq, and_true]
      omega
    · obtain ⟨c, d, rfl, hlo, hhi, hlo', hhi', rfl⟩ := (leads_two _ _ _ _ _).mp h
      have hbounds : 0x80 ≤ c ∧ c < 0xc0 ∧ (b = 0xe0 → 0xa0 ≤ c) ∧ (b = 0xed → c < 0xa0) := by
        rw [least] at hlo
        rw [limit] at hhi
        split_ifs at hlo hhi <;> omega
      refine ⟨by rw [Scalar]; omega, ?_⟩
      rw [encode, if_neg (by omega), if_neg (by omega), if_pos (by omega)]
      simp only [cons.injEq, and_true]
      omega
    · obtain ⟨c, d, e, rfl, hlo, hhi, hlo', hhi', hlo'', hhi'', rfl⟩ := (leads_three _ _ _ _ _).mp h
      have hbounds : 0x80 ≤ c ∧ c < 0xc0 ∧ (b = 0xf0 → 0x90 ≤ c) ∧ (b = 0xf4 → c < 0x90) := by
        rw [least] at hlo
        rw [limit] at hhi
        split_ifs at hlo hhi <;> omega
      refine ⟨by rw [Scalar]; omega, ?_⟩
      rw [encode, if_neg (by omega), if_neg (by omega), if_neg (by omega)]
      simp only [cons.injEq, and_true]
      omega
    · cases h

theorem leads_encode (h : Scalar v) : Leads none (encode v) v := by
  rw [Scalar] at h
  rw [encode]
  split_ifs with h1 h2 h3
  · simp [Leads, read, first, h1]
  · have hfirst : first (0xc0 + v / 64) = .more ⟨1, 0x80, 0xc0, v / 64⟩ := by
      rw [first, if_neg (by omega), if_neg (by omega), if_pos (by omega), Nat.add_sub_cancel_left]
    refine leads_cons.mpr (.inr ⟨_, hfirst, ?_⟩)
    rw [leads_last]
    exact ⟨_, rfl, by omega, by omega, by omega⟩
  · have hfirst : first (0xe0 + v / 4096) = .more ⟨2, least (0xe0 + v / 4096) 0xe0 0xa0,
        limit (0xe0 + v / 4096) 0xed 0xa0, v / 4096⟩ := by
      rw [first, if_neg (by omega), if_neg (by omega), if_neg (by omega), if_pos (by omega),
        Nat.add_sub_cancel_left]
    refine leads_cons.mpr (.inr ⟨_, hfirst, ?_⟩)
    rw [leads_two]
    exact ⟨_, _, rfl, by rw [least]; split_ifs <;> omega,
      by rw [limit]; split_ifs <;> omega, by omega, by omega, by omega⟩
  · have hfirst : first (0xf0 + v / 262144) = .more ⟨3, least (0xf0 + v / 262144) 0xf0 0x90,
        limit (0xf0 + v / 262144) 0xf4 0x90, v / 262144⟩ := by
      rw [first, if_neg (by omega), if_neg (by omega), if_neg (by omega), if_neg (by omega),
        if_pos (by omega), Nat.add_sub_cancel_left]
    refine leads_cons.mpr (.inr ⟨_, hfirst, ?_⟩)
    rw [leads_three]
    exact ⟨_, _, _, rfl, by rw [least]; split_ifs <;> omega,
      by rw [limit]; split_ifs <;> omega, by omega, by omega,
      by omega, by omega, by omega⟩

theorem leads_start (l : List ℕ) (v : ℕ) : Leads none l v ↔ Scalar v ∧ encode v = l := by
  constructor
  · exact encode_of_leads
  · rintro ⟨hv, rfl⟩
    exact leads_encode hv

theorem leads_append (h : Leads o l v) (h' : Leads o (l ++ t) w) : t = [] ∧ v = w := by
  induction l generalizing o with
  | nil => cases h
  | cons b l ih =>
    rw [cons_append, leads_cons] at h'
    rcases leads_cons.mp h with ⟨x, hx, rfl, rfl⟩ | ⟨p, hp, hrest⟩
    · rcases h' with ⟨y, hy, ht, rfl⟩ | ⟨q, hq, -⟩
      · rw [hx] at hy
        cases hy
        exact ⟨ht, rfl⟩
      · rw [hx] at hq
        cases hq
    · rcases h' with ⟨y, hy, -, -⟩ | ⟨q, hq, hrest'⟩
      · rw [hp] at hy
        cases hy
      · rw [hp] at hq
        cases hq
        exact ih hrest hrest'

theorem encode_append (hv : Scalar v) (hw : Scalar w) (h : encode v ++ l = encode w ++ l') :
    v = w ∧ l = l' := by
  rcases append_eq_append_iff.mp h with ⟨t, ht, hl⟩ | ⟨t, ht, hl⟩
  · have hw' := leads_encode hw
    rw [ht] at hw'
    obtain ⟨rfl, rfl⟩ := leads_append (leads_encode hv) hw'
    exact ⟨rfl, hl⟩
  · have hv' := leads_encode hv
    rw [ht] at hv'
    obtain ⟨rfl, rfl⟩ := leads_append (leads_encode hw) hv'
    exact ⟨rfl, hl.symm⟩

def run : Option Pending → List ℕ → List ℕ × Option (Option Pending)
  | o, [] => ([], some o)
  | o, b :: l =>
    match read o b with
    | .done v => (v :: (run none l).1, (run none l).2)
    | .more p => run (some p) l
    | .bad => ([], none)

theorem run_done (h : read o b = .done v) (l : List ℕ) :
    run o (b :: l) = (v :: (run none l).1, (run none l).2) := by
  rw [run, h]

theorem run_more (h : read o b = .more p) (l : List ℕ) : run o (b :: l) = run (some p) l := by
  rw [run, h]

theorem run_bad (h : read o b = .bad) (l : List ℕ) : run o (b :: l) = ([], none) := by
  rw [run, h]

theorem run_append (o : Option Pending) (l l' : List ℕ) :
    run o (l ++ l') = (run o l).2.elim ((run o l).1, none)
      fun o' => ((run o l).1 ++ (run o' l').1, (run o' l').2) := by
  induction l generalizing o with
  | nil => simp [run]
  | cons b l ih =>
    rw [cons_append]
    cases hread : read o b with
    | done v =>
      rw [run_done hread, run_done hread, ih]
      cases (run none l).2 <;> rfl
    | more p => rw [run_more hread, run_more hread, ih]
    | bad => rw [run_bad hread, run_bad hread]; rfl

def Pending.Valid (p : Pending) : Prop := 0 < p.owed ∧ 0x80 ≤ p.lo ∧ p.lo < p.hi ∧ p.hi ≤ 0xc0

theorem read_valid (ho : ∀ q ∈ o, q.Valid) (h : read o b = .more p) : p.Valid := by
  cases o with
  | none =>
    simp only [read, first, least, limit] at h
    split_ifs at h <;> cases h <;> simp only [Pending.Valid] <;> omega
  | some q =>
    have hq := ho q rfl
    simp only [read, next] at h
    split_ifs at h
    cases h
    simp only [Pending.Valid] at hq ⊢
    omega

theorem Pending.Valid.completable (h : p.Valid) : ∃ l v, Leads (some p) l v := by
  obtain ⟨owed, lo, hi, value⟩ := p
  obtain ⟨hpos, hlo, hlt, hhi⟩ := h
  dsimp only at hpos hlo hlt hhi
  obtain ⟨k, rfl⟩ : ∃ k, owed = k + 1 := ⟨owed - 1, by omega⟩
  induction k generalizing lo hi value with
  | zero => exact ⟨[lo], _, (leads_last _ _ _ _ _).mpr ⟨lo, rfl, le_rfl, hlt, rfl⟩⟩
  | succ k ih =>
    obtain ⟨l, v, hl⟩ := ih 0x80 0xc0 (value * 64 + (lo - 0x80)) le_rfl (by omega) le_rfl (by omega)
    exact ⟨lo :: l, v, (leads_succ _ _ _ _ _ _).mpr ⟨lo, l, rfl, le_rfl, hlt, hl⟩⟩

structure Stands (o : Option Pending) (seen : List ℕ) : Prop where
  expects : ∀ l v, Leads o l v ↔ Scalar v ∧ encode v = seen ++ l
  valid : ∀ p ∈ o, p.Valid
  start : o = none ↔ seen = []

theorem stands_start : Stands none [] := ⟨leads_start, by simp, by simp⟩

theorem Stands.more (h : Stands o seen) (hread : read o b = .more p) :
    Stands (some p) (seen ++ [b]) := by
  refine ⟨?_, ?_, by simp⟩
  · intro l v
    rw [append_assoc, singleton_append, ← h.expects, leads_cons, hread]
    simp
  · intro q hq
    cases hq
    exact read_valid h.valid hread

theorem Stands.done (h : Stands o seen) (hread : read o b = .done v) :
    Scalar v ∧ encode v = seen ++ [b] := by
  rw [← h.expects, leads_cons, hread]
  simp

theorem Stands.unfinished (h : Stands (some p) seen) : Unfinished seen := by
  obtain ⟨l, v, hl⟩ := (h.valid p rfl).completable
  have hne : l ≠ [] := by
    rintro rfl
    cases hl
  obtain ⟨hv, hencode⟩ := (h.expects l v).mp hl
  refine ⟨?_, v, l, hv, hne, hencode⟩
  intro hnil
  cases h.start.mpr hnil

theorem Unfinished.not_encode (h : Unfinished seen) (hv : Scalar v) (t : List ℕ) :
    seen ≠ encode v ++ t := by
  rintro rfl
  obtain ⟨-, w, more, hw, hne, hencode⟩ := h
  rw [append_assoc, ← append_nil (encode w)] at hencode
  obtain ⟨-, hnil⟩ := encode_append hw hv hencode
  exact hne (append_eq_nil_iff.mp hnil.symm).2

theorem Stands.offends (h : Stands o seen) (hread : read o b = .bad) (l : List ℕ) :
    Offends (seen ++ b :: l) := by
  intro v more rest hv heq
  rw [append_assoc] at heq
  rcases append_eq_append_iff.mp heq with ⟨t, ht, hl⟩ | ⟨t, ht, hl⟩
  · cases t with
    | nil =>
      -- the octets before would have been a character already
      rw [append_nil] at ht
      cases o with
      | none => exact encode_ne_nil v (ht.trans (h.start.mp rfl))
      | some p => exact h.unfinished.not_encode hv [] (by rw [append_nil, ht])
    | cons c t =>
      obtain rfl : b = c := (cons.inj hl).1
      have hleads := (h.expects (b :: t) v).mpr ⟨hv, ht⟩
      rw [leads_cons, hread] at hleads
      simp at hleads
  · cases o with
    | none =>
      rw [h.start.mp rfl] at ht
      exact encode_ne_nil v (append_eq_nil_iff.mp ht.symm).1
    | some p => exact h.unfinished.not_encode hv t ht

inductive Verdict where
  | complete
  | unfinished
  | offends

def Verdict.Of : Verdict → List ℕ → Prop
  | .complete, rest => rest = []
  | .unfinished, rest => Unfinished rest
  | .offends, rest => Offends rest

def verdict : Option (Option Pending) → Verdict
  | none => .offends
  | some none => .complete
  | some (some _) => .unfinished

theorem Splits.cons (h : Splits l vs rest) (hv : Scalar v) :
    Splits (encode v ++ l) (v :: vs) rest := by
  obtain ⟨hvs, rfl⟩ := h
  exact ⟨forall_mem_cons.mpr ⟨hv, hvs⟩, by rw [flatMap_cons, append_assoc]⟩

theorem run_splits (h : Stands o seen) :
    ∃ rest, Splits (seen ++ l) (run o l).1 rest ∧ (verdict (run o l).2).Of rest := by
  induction l generalizing o seen with
  | nil =>
    refine ⟨seen, ⟨by simp [run], by simp [run]⟩, ?_⟩
    cases o with
    | none => exact h.start.mp rfl
    | some p => exact h.unfinished
  | cons b l ih =>
    cases hread : read o b with
    | done v =>
      rw [run_done hread]
      obtain ⟨hv, hencode⟩ := h.done hread
      obtain ⟨rest, hsplits, hverdict⟩ := ih stands_start
      refine ⟨rest, ?_, hverdict⟩
      have hcons := hsplits.cons hv
      rwa [hencode, nil_append, append_assoc] at hcons
    | more p =>
      rw [run_more hread]
      obtain ⟨rest, hsplits, hverdict⟩ := ih (h.more hread)
      refine ⟨rest, ?_, hverdict⟩
      rwa [append_assoc] at hsplits
    | bad =>
      rw [run_bad hread]
      exact ⟨_, ⟨by simp, rfl⟩, h.offends hread l⟩

theorem Verdict.Of.not_encode (h : k.Of rest) (hv : Scalar v) (t : List ℕ) :
    rest ≠ encode v ++ t := by
  cases k with
  | complete =>
    intro heq
    rw [h] at heq
    exact encode_ne_nil v (append_eq_nil_iff.mp heq.symm).1
  | unfinished => exact Unfinished.not_encode h hv t
  | offends =>
    intro heq
    exact h v [] t hv (by rw [append_nil, heq])

theorem Unfinished.not_offends (h : Unfinished l) : ¬ Offends l := by
  intro hoff
  obtain ⟨-, v, more, hv, -, hencode⟩ := h
  exact hoff v more [] hv (by rw [append_nil, hencode])

theorem Verdict.Of.unique (h : k.Of rest) (h' : k'.Of rest) : k = k' := by
  have hunfinished : ¬ (Unfinished rest ∧ rest = []) := fun hu => hu.1.1 hu.2
  have hoffends : ¬ (Offends rest ∧ rest = []) := by
    rintro ⟨hoff, rfl⟩
    exact hoff 0 (encode 0) [] (by decide) (by simp)
  cases k <;> cases k'
  case complete.complete | unfinished.unfinished | offends.offends => rfl
  case complete.unfinished => exact absurd ⟨h', h⟩ hunfinished
  case complete.offends => exact absurd ⟨h', h⟩ hoffends
  case unfinished.complete => exact absurd ⟨h, h'⟩ hunfinished
  case offends.complete => exact absurd ⟨h, h'⟩ hoffends
  case unfinished.offends => exact absurd h' (Unfinished.not_offends h)
  case offends.unfinished => exact absurd h (Unfinished.not_offends h')

theorem Splits.unique (h : Splits l vs rest) (hk : k.Of rest) (h' : Splits l vs' rest')
    (hk' : k'.Of rest') : vs = vs' ∧ rest = rest' ∧ k = k' := by
  induction vs generalizing l vs' with
  | nil =>
    obtain ⟨-, rfl⟩ := h
    obtain ⟨hvs', hl⟩ := h'
    cases vs' with
    | nil =>
      obtain rfl : l = rest' := hl
      exact ⟨rfl, rfl, hk.unique hk'⟩
    | cons v vs' =>
      rw [flatMap_cons, append_assoc] at hl
      exact absurd hl (hk.not_encode (hvs' v (by simp)) _)
  | cons v vs ih =>
    obtain ⟨hvs, rfl⟩ := h
    obtain ⟨hvs', hl⟩ := h'
    rw [flatMap_cons, append_assoc] at hl
    cases vs' with
    | nil => exact absurd hl.symm (hk'.not_encode (hvs v (by simp)) _)
    | cons w vs' =>
      rw [flatMap_cons, append_assoc] at hl
      obtain ⟨rfl, htail⟩ := encode_append (hvs v (by simp)) (hvs' w (by simp)) hl
      obtain ⟨rfl, hrest⟩ := ih ⟨fun x hx => hvs x (mem_cons_of_mem _ hx), rfl⟩
        ⟨fun x hx => hvs' x (mem_cons_of_mem _ hx), htail⟩
      exact ⟨rfl, hrest⟩

theorem run_iff :
    (run none l).1 = vs ∧ verdict (run none l).2 = k ↔ ∃ rest, Splits l vs rest ∧ k.Of rest := by
  obtain ⟨rest, hsplits, hverdict⟩ := run_splits (l := l) stands_start
  constructor
  · rintro ⟨rfl, rfl⟩
    exact ⟨rest, hsplits, hverdict⟩
  · rintro ⟨rest', hsplits', hk⟩
    obtain ⟨hvs, -, hkind⟩ := hsplits.unique hverdict hsplits' hk
    exact ⟨hvs, hkind⟩

theorem offends_of_run (h : run none l = ([], none)) : Offends l := by
  have hrun : (run none l).1 = [] ∧ verdict (run none l).2 = .offends := by
    rw [h]
    exact ⟨rfl, rfl⟩
  obtain ⟨rest, ⟨-, rfl⟩, hoff⟩ := run_iff.mp hrun
  exact hoff

theorem run_valid (h : ∀ p ∈ o, p.Valid) (hrun : (run o l).2 = some (some q)) : q.Valid := by
  induction l generalizing o with
  | nil => exact h q (Option.some.inj hrun)
  | cons b l ih =>
    cases hread : read o b with
    | done v =>
      rw [run_done hread] at hrun
      exact ih (by simp) hrun
    | more p =>
      rw [run_more hread] at hrun
      refine ih ?_ hrun
      intro p' hp'
      cases hp'
      exact read_valid h hread
    | bad =>
      rw [run_bad hread] at hrun
      cases hrun

theorem Unfinished.offends (h : Unfinished l) (hb : b < 0x80) : Offends (l ++ [b]) := by
  have hsplits : Splits l [] l := ⟨by simp, rfl⟩
  have hof : Verdict.unfinished.Of l := h
  obtain ⟨hnone, hopen⟩ := run_iff.mpr ⟨l, hsplits, hof⟩
  cases hstate : (run none l).2 with
  | none =>
    rw [hstate] at hopen
    cases hopen
  | some o =>
    cases o with
    | none =>
      rw [hstate] at hopen
      cases hopen
    | some p =>
      have hvalid := run_valid (by simp) hstate
      have hbad : read (some p) b = .bad := if_neg fun hin => by
        have hlo := hvalid.2.1
        omega
      refine offends_of_run ?_
      rw [run_append, hstate, hnone, Option.elim_some, run_bad hbad]
      rfl

end Utf8
