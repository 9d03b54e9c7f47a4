import GcompatMusl.StrtoReads

/-! # The numbers that a string starts with

The subject sequence of the `strto*` functions as a grammar: blanks, a sign, a base prefix and
digits. `__intscan` converts the longest prefix of the string that has this form. -/
namespace Strto

open FlatMemory IntScan MuslString List

inductive Sign : List UInt8 → Bool → Prop
  | none : Sign [] false
  | plus : Sign [43] false
  | minus : Sign [45] true

/-- The radix in which the digits `ds` are read behind the base prefix `pre`. -/
inductive Radix (base : ℕ) : List UInt8 → List UInt8 → ℕ → Prop
  | given {ds : List UInt8} (hbase : base ≠ 0) : Radix base [] ds base
  | hex {x : UInt8} {ds : List UInt8} (hbase : base = 0 ∨ base = 16) (hx : x = 120 ∨ x = 88) :
      Radix base [48, x] ds 16
  | octal {ds : List UInt8} (hbase : base = 0) : Radix base [] (48 :: ds) 8
  | decimal {d : UInt8} {ds : List UInt8} (hbase : base = 0) (hd : d ≠ 48) :
      Radix base [] (d :: ds) 10

def Body (base : ℕ) (q : List UInt8) (n : ℕ) : Prop :=
  ∃ pre ds radix, q = pre ++ ds ∧ Radix base pre ds radix ∧ ds ≠ [] ∧
    (∀ c ∈ ds, isDigit radix c) ∧ n = valueFrom radix 0 ds

def Form (base : ℕ) (p : List UInt8) (neg : Bool) (n : ℕ) : Prop :=
  ∃ blanks sign q, p = blanks ++ (sign ++ q) ∧ (∀ c ∈ blanks, isspace c) ∧ Sign sign neg ∧
    Body base q n

structure Longest (base : ℕ) (str p : List UInt8) (neg : Bool) (n : ℕ) : Prop where
  isPre : p <+: str
  form : Form base p neg n
  longest : ∀ p' neg' n', p' <+: str → Form base p' neg' n' → p'.length ≤ p.length

structure LongestBody (base : ℕ) (u q : List UInt8) (n : ℕ) : Prop where
  isPre : q <+: u
  body : Body base q n
  longest : ∀ q' n', q' <+: u → Body base q' n' → q'.length ≤ q.length

def ValidBase (base : ℕ) : Prop := base = 0 ∨ 2 ≤ base ∧ base ≤ 36

variable {c : UInt8} {p : UInt8 → Bool} {cur sign : List UInt8}

theorem digit_byte : val c < 36 → isspace c = false ∧ c ≠ 43 ∧ c ≠ 45 := by
  cases c with
  | ofBitVec b =>
    cases b with
    | ofFin i =>
      revert i
      decide +kernel

variable {x : UInt8} {radix n : ℕ} {u ds : List UInt8}

theorem hexMark_iff : x ||| 32 = 120 ↔ x = 120 ∨ x = 88 := by
  cases x with
  | ofBitVec b =>
    cases b with
    | ofFin i =>
      revert i
      decide +kernel

theorem hexMark_val (hx : x = 120 ∨ x = 88) : val x = 33 := by
  rcases hx with rfl | rfl <;> decide

theorem isDigit_zero (h : 0 < radix) : isDigit radix 48 = true := by
  simpa [isDigit, val] using h

theorem exists_cons_of_digit (hr : radix ≤ 36) (h : isDigit radix (current u)) :
    ∃ c rest, u = c :: rest ∧ isDigit radix c := by
  cases u with
  | nil =>
    have hlt : val 0 < radix := by simpa [isDigit, current] using h
    rw [show val 0 = 255 by decide] at hlt
    omega
  | cons c rest => exact ⟨c, rest, rfl, h⟩

theorem exists_cons_of_current (hc : c ≠ 0) (h : current u = c) : ∃ rest, u = c :: rest := by
  cases u with
  | nil => exact absurd h.symm hc
  | cons d rest => exact ⟨rest, by rw [← h]; rfl⟩

theorem digits_le (hpre : ds <+: u) (hds : ∀ c ∈ ds, isDigit radix c) :
    ds.length ≤ (u.takeWhile (isDigit radix)).length := by
  obtain ⟨r, rfl⟩ := hpre
  rw [takeWhile_append_of_pos hds, length_append]
  exact Nat.le_add_right _ _

theorem current_digit (hpre : ds <+: u) (hne : ds ≠ []) (hds : ∀ c ∈ ds, isDigit radix c) :
    isDigit radix (current u) := by
  obtain ⟨r, rfl⟩ := hpre
  cases ds with
  | nil => exact absurd rfl hne
  | cons c ds => exact hds c (mem_cons_self ..)

theorem Body.cases (h : Body base q n) (hpre : q <+: u) :
    (base ≠ 0 ∧ isDigit base (current u) ∧ q.length ≤ (u.takeWhile (isDigit base)).length) ∨
    ((base = 0 ∨ base = 16) ∧ ∃ x w, u = 48 :: x :: w ∧ (x = 120 ∨ x = 88) ∧
      isDigit 16 (current w) ∧ q.length ≤ 2 + (w.takeWhile (isDigit 16)).length) ∨
    (base = 0 ∧ current u = 48 ∧ q.length ≤ (u.takeWhile (isDigit 8)).length) ∨
    (base = 0 ∧ current u ≠ 48 ∧ isDigit 10 (current u) ∧
      q.length ≤ (u.takeWhile (isDigit 10)).length) := by
  obtain ⟨pre, ds, radix, rfl, hradix, hne, hds, -⟩ := h
  cases hradix with
  | given hbase => exact .inl ⟨hbase, current_digit hpre hne hds, digits_le hpre hds⟩
  | hex hbase hx =>
    rename_i x
    obtain ⟨r, rfl⟩ := hpre
    refine .inr (.inl ⟨hbase, x, ds ++ r, rfl, hx, ?_, ?_⟩)
    · exact current_digit (prefix_append ds r) hne hds
    · have hle := digits_le (prefix_append ds r) hds
      change ds.length + 1 + 1 ≤ _
      omega
  | octal hbase =>
    refine .inr (.inr (.inl ⟨hbase, ?_, digits_le hpre hds⟩))
    obtain ⟨r, rfl⟩ := hpre
    rfl
  | decimal hbase hd =>
    refine .inr (.inr (.inr ⟨hbase, ?_, current_digit hpre hne hds, digits_le hpre hds⟩))
    obtain ⟨r, rfl⟩ := hpre
    exact hd

theorem Body.head (hbase : ValidBase base) (h : Body base q n) :
    ∃ c rest, q = c :: rest ∧ val c < 36 := by
  have hcurrent : ∀ {radix : ℕ}, radix ≤ 36 → isDigit radix (current q) →
      ∃ c rest, q = c :: rest ∧ val c < 36 := by
    intro radix hr hd
    obtain ⟨c, rest, hq, hc⟩ := exists_cons_of_digit hr hd
    have hlt : val c < radix := by simpa [isDigit] using hc
    exact ⟨c, rest, hq, by omega⟩
  have hzero : val 48 < 36 := by decide
  rcases h.cases prefix_rfl with ⟨hne, hd, -⟩ | ⟨-, x, w, rfl, -⟩ | ⟨-, hc, -⟩ | ⟨-, -, hd, -⟩
  · rw [ValidBase] at hbase
    exact hcurrent (by omega) hd
  · exact ⟨48, x :: w, rfl, hzero⟩
  · obtain ⟨rest, rfl⟩ := exists_cons_of_current (by decide) hc
    exact ⟨48, rest, rfl, hzero⟩
  · exact hcurrent (by omega) hd

def bodyValue (base : ℕ) (q : List UInt8) : ℕ :=
  if (base = 0 ∨ base = 16) ∧ current q = 48 ∧ val (current q.tail) = 33 then
    valueFrom 16 0 q.tail.tail
  else if base ≠ 0 then valueFrom base 0 q
  else if current q = 48 then valueFrom 8 0 q
  else valueFrom 10 0 q

theorem no_mark_nil : val (current []) ≠ 33 := by decide

theorem no_mark (hr : radix ≤ 16) (hds : ∀ c ∈ ds, isDigit radix c) :
    val (current ds.tail) ≠ 33 := by
  match ds, hds with
  | [], _ => exact no_mark_nil
  | [_], _ => exact no_mark_nil
  | _ :: x :: _, hds =>
    have hx : val x < radix := by simpa [isDigit] using hds x (by simp)
    change val x ≠ 33
    omega

theorem Body.value (h : Body base q n) : n = bodyValue base q := by
  obtain ⟨pre, ds, radix, rfl, hradix, hne, hds, rfl⟩ := h
  rw [bodyValue]
  cases hradix with
  | given hbase =>
    rw [if_neg, if_pos hbase]
    · rfl
    · rintro ⟨hb, -, hmark⟩
      exact no_mark (by omega) hds hmark
  | hex hbase hx => rw [if_pos ⟨hbase, rfl, hexMark_val hx⟩]; rfl
  | octal hbase =>
    rw [if_neg, if_neg (not_not.mpr hbase), if_pos]
    · rfl
    · rfl
    · rintro ⟨-, -, hmark⟩
      exact no_mark (by omega) hds hmark
  | decimal hbase hd =>
    rw [if_neg, if_neg (not_not.mpr hbase), if_neg]
    · rfl
    · exact hd
    · rintro ⟨-, hzero, -⟩
      exact hd hzero

/-- What the scan of the base prefix hands on, `u` being the bytes behind the sign. -/
inductive Prefixed (base : ℕ) (neg : Bool) (str u : List UInt8) :
    Except Conversion (ℕ × Bool × List UInt8) → Prop
  | nothing (hnone : ∀ q n, q <+: u → ¬ Body base q n) :
      Prefixed base neg str u (.error ⟨0, 0, some .EINVAL⟩)
  | zero {w : List UInt8} (hu : u = 48 :: w) (hlongest : LongestBody base u [48] 0) :
      Prefixed base neg str u (.error ⟨0, offset str w, none⟩)
  | digits {radix : ℕ} {pre cur : List UInt8} (hu : u = pre ++ cur) (hlo : 2 ≤ radix)
      (hhi : radix ≤ 36)
      (hlongest : LongestBody base u (pre ++ cur.takeWhile (isDigit radix)) (magnitude radix cur)) :
      Prefixed base neg str u (.ok (radix, neg, cur))

theorem takeWhile_mem : ∀ c ∈ cur.takeWhile p, p c = true := fun _ hc => mem_takeWhile_imp hc

theorem prefix_takeWhile (pre cur : List UInt8) (p : UInt8 → Bool) :
    pre ++ cur.takeWhile p <+: pre ++ cur :=
  (prefix_append_right_inj pre).mpr <| takeWhile_prefix p

theorem mark_stops (hx : x = 120 ∨ x = 88) (w : List UInt8) (hr : radix ≤ 16) :
    ((48 :: x :: w).takeWhile (isDigit radix)).length ≤ 1 := by
  have hstop : ¬ isDigit radix x = true := by
    rw [isDigit, hexMark_val hx, decide_eq_true_eq]
    omega
  rw [takeWhile_cons]
  split
  · rw [takeWhile_cons_of_neg hstop]
    exact Nat.le_refl 1
  · exact Nat.zero_le 1

theorem radix_zero (base : ℕ) (ds : List UInt8) :
    Radix base [] (48 :: ds) (if base = 0 then 8 else base) := by
  split_ifs with hzero
  · exact .octal hzero
  · exact .given hzero

theorem zero_longest (hbase : base = 0 ∨ base = 16) (hx : x = 120 ∨ x = 88)
    (hw : 16 ≤ val (current w)) : LongestBody base (48 :: x :: w) [48] 0 := by
  refine ⟨⟨x :: w, rfl⟩, ⟨[], [48], _, rfl, radix_zero base [], by simp, ?_, ?_⟩, ?_⟩
  · exact forall_mem_singleton.mpr (isDigit_zero (by split <;> omega))
  · change 0 = 0 * _ + 0
    omega
  · intro q n hpre hbody
    rcases hbody.cases hpre with ⟨hne, -, hle⟩ | ⟨-, y, v, hu, -, hd, -⟩ | ⟨-, -, hle⟩ | ⟨-, hc, -⟩
    · exact hle.trans (mark_stops hx w (by omega))
    · obtain ⟨-, rfl⟩ : y = x ∧ v = w := by simpa [eq_comm] using hu
      have hlt : val (current v) < 16 := by simpa [isDigit] using hd
      omega
    · exact hle.trans (mark_stops hx w (by omega))
    · exact absurd rfl hc

theorem hex_longest (hbase : base = 0 ∨ base = 16) (hx : x = 120 ∨ x = 88)
    (hw : isDigit 16 (current w)) :
    LongestBody base (48 :: x :: w) ([48, x] ++ w.takeWhile (isDigit 16)) (magnitude 16 w) := by
  obtain ⟨c, rest, rfl, hc⟩ := exists_cons_of_digit (by decide) hw
  have hne : (c :: rest).takeWhile (isDigit 16) ≠ [] := by
    rw [takeWhile_cons_of_pos hc]
    exact cons_ne_nil _ _
  have hbody : Body base ([48, x] ++ (c :: rest).takeWhile (isDigit 16))
      (magnitude 16 (c :: rest)) :=
    ⟨[48, x], _, 16, rfl, .hex hbase hx, hne, takeWhile_mem, rfl⟩
  refine ⟨prefix_takeWhile [48, x] _ _, hbody, ?_⟩
  intro q n hpre hq
  have hlen : ([48, x] ++ (c :: rest).takeWhile (isDigit 16)).length =
      2 + ((c :: rest).takeWhile (isDigit 16)).length := by
    rw [length_append]
    rfl
  rw [hlen]
  rcases hq.cases hpre with ⟨hne, -, hle⟩ | ⟨-, y, v, hu, -, hd, hle⟩ | ⟨-, -, hle⟩ | ⟨-, hzero, -⟩
  · have hone := mark_stops hx (c :: rest) (show base ≤ 16 by omega)
    omega
  · obtain ⟨-, rfl⟩ : y = x ∧ v = c :: rest := by simpa [eq_comm] using hu
    exact hle
  · have hone := mark_stops hx (c :: rest) (show 8 ≤ 16 by decide)
    omega
  · exact absurd rfl hzero

theorem octal_longest (hw : ¬ current w ||| 32 = 120)
    (hradix : radix = if base = 0 then 8 else base) :
    LongestBody base (48 :: w) ([48] ++ w.takeWhile (isDigit radix)) (magnitude radix w) := by
  have hpos : isDigit radix 48 = true := isDigit_zero (by split at hradix <;> omega)
  have hall : (48 :: w).takeWhile (isDigit radix) = [48] ++ w.takeWhile (isDigit radix) :=
    takeWhile_cons_of_pos hpos
  have hvalue : magnitude radix w = valueFrom radix 0 (48 :: w.takeWhile (isDigit radix)) := by
    change _ = valueFrom radix (0 * radix + 0) _
    rw [Nat.zero_mul]
    rfl
  refine ⟨prefix_takeWhile [48] _ _, ?_, ?_⟩
  · refine ⟨[], 48 :: w.takeWhile (isDigit radix), radix, rfl, ?_, cons_ne_nil _ _, ?_, hvalue⟩
    · rw [hradix]
      exact radix_zero base _
    · exact forall_mem_cons.mpr ⟨hpos, takeWhile_mem⟩
  · intro q n hpre hq
    rcases hq.cases hpre with ⟨hne, -, hle⟩ | ⟨-, x, v, hu, hx, -⟩ | ⟨hzero, -, hle⟩ | ⟨-, hzero, -⟩
    · rw [if_neg hne] at hradix
      rwa [← hradix, hall] at hle
    · obtain rfl : w = x :: v := by simpa using hu
      exact absurd (hexMark_iff.mpr hx) hw
    · rw [if_pos hzero] at hradix
      rwa [← hradix, hall] at hle
    · exact absurd rfl hzero

theorem leadingZero_iff : ((base = 0 || base = 16) && current u = 48) = true ↔
    (base = 0 ∨ base = 16) ∧ current u = 48 := by
  simp

theorem plain_longest (hbase : ValidBase base)
    (hu : ¬ ((base = 0 || base = 16) && current u = 48) = true)
    (hradix : radix = if base = 0 then 10 else base) (hdigit : isDigit radix (current u)) :
    LongestBody base u ([] ++ u.takeWhile (isDigit radix)) (magnitude radix u) := by
  rw [leadingZero_iff] at hu
  have hr : radix ≤ 36 := by
    rw [ValidBase] at hbase
    split at hradix <;> omega
  obtain ⟨c, rest, rfl, hc⟩ := exists_cons_of_digit hr hdigit
  have hcons := takeWhile_cons_of_pos (l := rest) hc
  refine ⟨prefix_takeWhile [] _ _, ⟨[], _, radix, rfl, ?_, ?_, takeWhile_mem, rfl⟩, ?_⟩
  · rw [hcons, hradix]
    split_ifs with hzero
    · exact .decimal hzero fun h => hu ⟨.inl hzero, h⟩
    · exact .given hzero
  · rw [hcons]
    exact cons_ne_nil _ _
  · intro q n hpre hq
    rcases hq.cases hpre with
      ⟨hne, -, hle⟩ | ⟨hb, x, v, heq, -⟩ | ⟨hzero, hc, -⟩ | ⟨hzero, -, -, hle⟩
    · rw [if_neg hne] at hradix
      rwa [hradix]
    · refine absurd ⟨hb, ?_⟩ hu
      rw [heq]
      rfl
    · exact absurd ⟨.inl hzero, hc⟩ hu
    · rw [if_pos hzero] at hradix
      rwa [hradix]

theorem plain_nothing (hu : ¬ ((base = 0 || base = 16) && current u = 48) = true)
    (hnone : (if base = 0 then 10 else base) ≤ val (current u)) :
    ∀ q n, q <+: u → ¬ Body base q n := by
  rw [leadingZero_iff] at hu
  intro q n hpre hq
  rcases hq.cases hpre with
    ⟨hne, hd, -⟩ | ⟨hb, x, v, rfl, -⟩ | ⟨hzero, hc, -⟩ | ⟨hzero, -, hd, -⟩
  · rw [isDigit, decide_eq_true_eq] at hd
    rw [if_neg hne] at hnone
    omega
  · exact hu ⟨hb, rfl⟩
  · exact hu ⟨.inl hzero, hc⟩
  · rw [isDigit, decide_eq_true_eq] at hd
    rw [if_pos hzero] at hnone
    omega

theorem prefixAt_prefixed (hbase : ValidBase base) (neg : Bool) (str u : List UInt8) :
    Prefixed base neg str u (prefixAt base true neg str u) := by
  rw [prefixAt]
  by_cases hzero : ((base = 0 || base = 16) && current u = 48) = true
  · rw [if_pos hzero]
    rw [leadingZero_iff] at hzero
    obtain ⟨w, rfl⟩ := exists_cons_of_current (by decide) hzero.2
    change Prefixed base neg str _ (if current w ||| 32 = 120 then _ else _)
    by_cases hmark : current w ||| 32 = 120
    · rw [if_pos hmark]
      have hx := hexMark_iff.mp hmark
      obtain ⟨v, hv⟩ := exists_cons_of_current (by rcases hx with h | h <;> rw [h] <;> decide) rfl
      rw [hv] at ⊢
      change Prefixed base neg str _ (if 16 ≤ val (current v) then _ else .ok (16, neg, v))
      by_cases hdigit : 16 ≤ val (current v)
      · rw [if_pos hdigit]
        exact .zero rfl (zero_longest hzero.1 hx hdigit)
      · rw [if_neg hdigit]
        refine .digits (rfl) (by decide) (by decide)
          (hex_longest hzero.1 hx ?_)
        rw [isDigit, decide_eq_true_eq]
        omega
    · rw [if_neg hmark]
      exact .digits rfl (by split <;> omega) (by split <;> omega) (octal_longest hmark rfl)
  · rw [if_neg hzero]
    by_cases hnone : (if base = 0 then 10 else base) ≤ val (current u)
    · rw [if_pos hnone]
      exact .nothing (plain_nothing hzero hnone)
    · rw [if_neg hnone]
      rw [ValidBase] at hbase
      refine .digits rfl ?_ ?_ (plain_longest hbase hzero rfl ?_)
      · split <;> omega
      · split <;> omega
      · rw [isDigit, decide_eq_true_eq]
        omega

def signBytes (t : List UInt8) : List UInt8 :=
  if current t = 43 || current t = 45 then [current t] else []

def behindSign (t : List UInt8) : List UInt8 :=
  if current t = 43 || current t = 45 then t.tail else t

theorem signBytes_append (t : List UInt8) : signBytes t ++ behindSign t = t := by
  rw [signBytes, behindSign]
  split
  · rename_i h
    cases t with
    | nil => exact absurd h (by decide)
    | cons c t => rfl
  · rfl

theorem signBytes_sign (t : List UInt8) : Sign (signBytes t) (current t = 45) := by
  rw [signBytes]
  by_cases hminus : current t = 45
  · rw [hminus]
    exact .minus
  · by_cases hplus : current t = 43
    · rw [hplus]
      exact .plus
    · simp only [hplus, hminus, decide_false, Bool.or_false]
      exact .none

theorem sign_unique (h : Sign sign neg) (hv : val (current v) < 36) :
    sign = signBytes (sign ++ v) ∧ v = behindSign (sign ++ v) ∧
      neg = decide (current (sign ++ v) = 45) := by
  cases h with
  | none =>
    obtain ⟨-, hplus, hminus⟩ := digit_byte hv
    simp [signBytes, behindSign, hplus, hminus]
  | plus | minus => simp [signBytes, behindSign, current]

theorem sign_head_not_space (h : Sign sign neg) (hv : val (current v) < 36) :
    isspace (current (sign ++ v)) = false := by
  cases h with
  | none => exact (digit_byte hv).1
  | plus | minus => rfl

theorem blanks_unique (hblanks : ∀ c ∈ blanks, isspace c) (ht : isspace (current t) = false)
    (hne : t ≠ []) :
    (blanks ++ t).takeWhile isspace = blanks ∧ (blanks ++ t).dropWhile isspace = t := by
  cases t with
  | nil => exact absurd rfl hne
  | cons c t =>
    have hc : ¬ isspace c = true := by
      rw [show isspace c = false from ht]
      exact Bool.false_ne_true
    rw [takeWhile_append_of_pos hblanks, dropWhile_append_of_pos hblanks,
      takeWhile_cons_of_neg hc, dropWhile_cons_of_neg hc, append_nil]
    exact ⟨rfl, rfl⟩

section Numbers

variable (hbase : ValidBase base)

include hbase

variable {n : ℕ} {p : List UInt8}

theorem Form.split {neg : Bool} (h : Form base p neg n) (hpre : p <+: str) :
    neg = decide (current (str.dropWhile isspace) = 45) ∧
      ∃ q, p = str.takeWhile isspace ++ (signBytes (str.dropWhile isspace) ++ q) ∧
        q <+: behindSign (str.dropWhile isspace) ∧ Body base q n := by
  obtain ⟨blanks, sign, q, rfl, hblanks, hsign, hbody⟩ := h
  obtain ⟨r, rfl⟩ := hpre
  obtain ⟨c, rest, rfl, hc⟩ := hbody.head hbase
  have hv : val (current (c :: rest ++ r)) < 36 := hc
  have hne : sign ++ (c :: rest ++ r) ≠ [] := by simp
  rw [append_assoc, append_assoc]
  obtain ⟨htake, hdrop⟩ := blanks_unique hblanks (sign_head_not_space hsign hv) hne
  obtain ⟨hbytes, hbehind, hneg⟩ := sign_unique hsign hv
  rw [htake, hdrop]
  refine ⟨hneg, c :: rest, ?_, ?_, hbody⟩
  · rw [← hbytes]
  · rw [← hbehind]
    exact prefix_append _ _

/-- The longest body behind the sign makes the longest number, and the only one of its length. -/
theorem longest_of_body {q : List UInt8}
    (h : LongestBody base (behindSign (str.dropWhile isspace)) q n) :
    Longest base str (str.takeWhile isspace ++ (signBytes (str.dropWhile isspace) ++ q))
      (current (str.dropWhile isspace) = 45) n := by
  refine ⟨?_, ⟨_, _, q, rfl, takeWhile_mem, signBytes_sign _, h.body⟩, ?_⟩
  · obtain ⟨r, hr⟩ := h.isPre
    refine ⟨r, ?_⟩
    rw [append_assoc, append_assoc, hr, signBytes_append, takeWhile_append_dropWhile]
  · intro p' neg' n' hpre' hform'
    obtain ⟨-, q', rfl, hq', hbody'⟩ := hform'.split hbase hpre'
    have hle := h.longest q' n' hq' hbody'
    simp only [length_append]
    omega

theorem Longest.unique {neg neg' : Bool} (h : Longest base str p neg n)
    (h' : Longest base str p' neg' n') : p' = p ∧ neg' = neg ∧ n' = n := by
  have hlen : p'.length = p.length :=
    Nat.le_antisymm (h.longest p' neg' n' h'.isPre h'.form) (h'.longest p neg n h.isPre h.form)
  have hp : p' = p := (prefix_of_prefix_length_le h'.isPre h.isPre hlen.le).eq_of_length hlen
  subst hp
  obtain ⟨hneg, q, hq, -, hbody⟩ := h.form.split hbase h.isPre
  obtain ⟨hneg', q', hq', -, hbody'⟩ := h'.form.split hbase h'.isPre
  have heq : q' = q := by
    rw [hq] at hq'
    exact (append_cancel_left (append_cancel_left hq')).symm
  rw [hneg, hneg', hbody.value, hbody'.value, heq]
  exact ⟨rfl, rfl, rfl⟩

end Numbers

def signed (neg : Bool) (n : ℕ) : ℤ := if neg then -(n : ℤ) else n

structure LongAnswer (neg : Bool) (n stop : ℕ) (r : Conversion) : Prop where
  value : r.value.toInt = max (-2 ^ 63) (min (signed neg n) (2 ^ 63 - 1))
  stops : r.stop = stop
  errno : r.errno = if -2 ^ 63 ≤ signed neg n ∧ signed neg n < 2 ^ 63 then none else some .ERANGE

structure UnsignedAnswer (neg : Bool) (n stop : ℕ) (r : Conversion) : Prop where
  value : r.value = if n < 2 ^ 64 then BitVec.ofInt 64 (signed neg n)
    else BitVec.ofNat 64 (2 ^ 64 - 1)
  stops : r.stop = stop
  errno : r.errno = if n < 2 ^ 64 then none else some .ERANGE

/-- What a conversion of the string `str` leaves behind. -/
inductive Converts (Answer : Bool → ℕ → ℕ → Conversion → Prop) (base : ℤ) (str : List UInt8) :
    Conversion → Prop
  | badBase (hbase : ¬ (base = 0 ∨ 2 ≤ base ∧ base ≤ 36)) :
      Converts Answer base str ⟨0, 0, some .EINVAL⟩
  | nothing (hbase : base = 0 ∨ 2 ≤ base ∧ base ≤ 36)
      (hnone : ∀ p neg n, p <+: str → ¬ Form base.toNat p neg n) :
      Converts Answer base str ⟨0, 0, some .EINVAL⟩
  | number {p : List UInt8} {neg : Bool} {n : ℕ} {r : Conversion}
      (hbase : base = 0 ∨ 2 ≤ base ∧ base ≤ 36) (hlongest : Longest base.toNat str p neg n)
      (honly : ∀ p' neg' n', Longest base.toNat str p' neg' n' → p' = p ∧ neg' = neg ∧ n' = n)
      (hanswer : Answer neg n p.length r) : Converts Answer base str r

/-- The limit `lim` makes `intscanDone` give the answers `Answer`. -/
structure Limits (lim : ℕ) (Answer : Bool → ℕ → ℕ → Conversion → Prop) : Prop where
  fits : ∀ {n : ℕ}, n < 2 ^ 64 → ∀ neg stop, Answer neg n stop (intscanDone lim n neg stop none)
  large : ∀ {n : ℕ}, ¬ n < 2 ^ 64 → ∀ neg stop, Answer neg n stop
    (intscanDone lim lim (if lim % 2 = 1 then false else neg) stop (some .ERANGE))
  zero : ∀ neg stop, Answer neg 0 stop ⟨0, stop, none⟩

theorem applySign_ofInt (n : ℕ) (neg : Bool) :
    applySign n neg = BitVec.ofInt 64 (signed neg n) := by
  cases neg
  · rw [applySign_false]
    rfl
  · rw [applySign_true, signed, if_pos rfl, BitVec.ofInt_neg]
    rfl

theorem unsigned_limits : Limits ULLONG_MAX UnsignedAnswer := by
  refine ⟨?_, ?_, ?_⟩
  · intro n hn neg stop
    rw [intscanDone_unsigned (by rw [ULLONG_MAX]; omega), applySign_ofInt]
    exact ⟨(if_pos hn).symm, rfl, (if_pos hn).symm⟩
  · intro n hn neg stop
    have hodd : ULLONG_MAX % 2 = 1 := by decide
    rw [if_pos hodd, intscanDone_unsigned (Nat.le_refl _)]
    exact ⟨(if_neg hn).symm, rfl, (if_neg hn).symm⟩
  · intro neg stop
    exact ⟨by cases neg <;> rfl, rfl, rfl⟩

theorem longRange_iff (neg : Bool) (n : ℕ) :
    LongRange neg n ↔ -2 ^ 63 ≤ signed neg n ∧ signed neg n < 2 ^ 63 := by
  cases neg <;> simp [LongRange, LONG_MIN, signed]
  omega

theorem long_inside (h : LongRange neg n) (stop : ℕ) :
    LongAnswer neg n stop ⟨applySign n neg, stop, none⟩ := by
  obtain ⟨hlo, hhi⟩ := (longRange_iff neg n).mp h
  refine ⟨?_, rfl, (if_pos ⟨hlo, hhi⟩).symm⟩
  rw [applySign_ofInt, BitVec.toInt_ofInt_eq_self (by decide) hlo hhi]
  omega

theorem long_outside (h : ¬ LongRange neg n) (stop : ℕ) :
    LongAnswer neg n stop
      ⟨BitVec.ofNat 64 (if neg then LONG_MIN else LONG_MIN - 1), stop, some .ERANGE⟩ := by
  rw [longRange_iff] at h
  refine ⟨?_, rfl, (if_neg h).symm⟩
  cases neg
  · change (BitVec.ofNat 64 (LONG_MIN - 1)).toInt = max _ (min (n : ℤ) _)
    have hvalue : (BitVec.ofNat 64 (LONG_MIN - 1)).toInt = 2 ^ 63 - 1 := by decide
    simp only [signed] at h
    omega
  · change (BitVec.ofNat 64 LONG_MIN).toInt = max _ (min (-(n : ℤ)) _)
    have hvalue : (BitVec.ofNat 64 LONG_MIN).toInt = -2 ^ 63 := by decide
    simp only [signed] at h
    omega

theorem long_limits : Limits LONG_MIN LongAnswer := by
  refine ⟨?_, ?_, ?_⟩
  · intro n hn neg stop
    rw [intscanDone_signed]
    split
    · exact long_inside ‹_› stop
    · exact long_outside ‹_› stop
  · intro n hn neg stop
    have heven : ¬ LONG_MIN % 2 = 1 := by decide
    have hout : ¬ LongRange neg n := by
      simp only [LongRange, LONG_MIN]
      omega
    have hsame : intscanDone LONG_MIN LONG_MIN neg stop (some .ERANGE) =
        ⟨BitVec.ofNat 64 (if neg then LONG_MIN else LONG_MIN - 1), stop, some .ERANGE⟩ := by
      rw [intscanDone_signed]
      split
      · have hminus : neg = true := by
          rename_i h
          exact (h.resolve_left (Nat.lt_irrefl _)).1
        rw [hminus]
        have hvalue : applySign LONG_MIN true = BitVec.ofNat 64 LONG_MIN := by decide
        rfl
      · rfl
    rw [if_neg heven, hsame]
    exact long_outside hout stop
  · intro neg stop
    have hzero : applySign 0 neg = 0 := by cases neg <;> decide
    have hinside : LongAnswer neg 0 stop ⟨applySign 0 neg, stop, none⟩ :=
      long_inside (.inl (by decide)) stop
    rwa [hzero] at hinside

theorem validBase_iff (hlo : -2 ^ 31 ≤ base) (hhi : base < 2 ^ 31) :
    (36 < (base % 2 ^ 32).toNat || (base % 2 ^ 32).toNat = 1) = false ↔
      base = 0 ∨ 2 ≤ base ∧ base ≤ 36 := by
  rw [Bool.or_eq_false_iff, decide_eq_false_iff_not, decide_eq_false_iff_not]
  omega

theorem length_before (h : str = front ++ cur) :
    (front ++ cur.takeWhile p).length = offset str (cur.dropWhile p) := by
  have hlen := congrArg length (takeWhile_append_dropWhile (p := p) (l := cur))
  rw [length_append] at hlen
  rw [offset, h, length_append, length_append]
  omega

theorem prefixed_converts (hlim : Limits lim Answer)
    (hint : base = 0 ∨ 2 ≤ base ∧ base ≤ 36) (hbase : ValidBase base.toNat)
    (hp : intscanPrefix base.toNat true str = found)
    (hfound : Prefixed base.toNat (current (str.dropWhile isspace) = 45) str
      (behindSign (str.dropWhile isspace)) found) :
    Converts Answer base str (IntScan.intscan base.toNat true lim str) := by
  have hsplit : str = str.takeWhile isspace ++ (signBytes (str.dropWhile isspace) ++
      behindSign (str.dropWhile isspace)) := by
    rw [signBytes_append, takeWhile_append_dropWhile]
  rw [intscan_list_eq, hp]
  cases hfound with
  | nothing hnone =>
    refine .nothing hint ?_
    intro p neg n hpre hform
    obtain ⟨-, q, -, hq, hbody⟩ := hform.split hbase hpre
    exact hnone q n hq hbody
  | zero hu hlongest =>
    rename_i w
    have hnumber := longest_of_body hbase hlongest
    refine .number hint hnumber (fun _ _ _ => hnumber.unique hbase) ?_
    have hlen : (str.takeWhile isspace ++ (signBytes (str.dropWhile isspace) ++ [48])).length =
        offset str w := by
      have htotal := congrArg length hsplit
      rw [hu] at htotal
      simp only [length_append, length_cons, length_nil, offset] at htotal ⊢
      omega
    rw [hlen]
    exact hlim.zero _ _
  | digits hu hlo hhi hlongest =>
    rename_i radix pre cur
    have hnumber := longest_of_body hbase hlongest
    refine .number hint hnumber (fun _ _ _ => hnumber.unique hbase) ?_
    rw [← hp, ← intscan_list_eq, intscan_of_prefix hp]
    have hfront : str = str.takeWhile isspace ++ (signBytes (str.dropWhile isspace) ++ pre) ++
        cur := by
      rw [append_assoc, append_assoc, ← hu, ← hsplit]
    have hlen := length_before (p := isDigit radix) hfront
    rw [append_assoc, append_assoc] at hlen
    rw [hlen]
    split
    · exact hlim.fits ‹_› _ _
    · exact hlim.large ‹_› _ _

theorem strtox_converts (hlim : Limits lim Answer) (hlo : -2 ^ 31 ≤ base)
    (hhi : base < 2 ^ 31) (str : List UInt8) :
    Converts Answer base str (IntScan.strtox str base lim) := by
  by_cases hint : base = 0 ∨ 2 ≤ base ∧ base ≤ 36
  · have hbad : ¬ (36 < (base % 2 ^ 32).toNat || (base % 2 ^ 32).toNat = 1) = true := by
      rw [(validBase_iff hlo hhi).mpr hint]
      exact Bool.false_ne_true
    have hnat : (base % 2 ^ 32).toNat = base.toNat := by omega
    have hbase : ValidBase base.toNat := by
      rw [ValidBase]
      omega
    rw [hnat] at hbad
    rw [IntScan.strtox, hnat]
    exact prefixed_converts hlim hint hbase (intscanPrefix_eq hbad true str)
      (prefixAt_prefixed hbase _ str _)
  · have hbad : (36 < (base % 2 ^ 32).toNat || (base % 2 ^ 32).toNat = 1) = true := by
      rw [← Bool.not_eq_false, validBase_iff hlo hhi]
      exact hint
    have hr : IntScan.strtox str base lim = ⟨0, 0, some .EINVAL⟩ := by
      rw [IntScan.strtox, IntScan.intscan, intscanPrefix, if_pos hbad]
    rw [hr]
    exact .badBase hint

/-- The four functions convert the longest number that the string starts with, and read no byte
behind its terminator. -/
theorem strto_functions {mem : ByteMem} {s n : ℕ} (hs : StringAt mem s n)
    (hend : s + n < 2 ^ 64 - 1) {base : ℤ} (hlo : -2 ^ 31 ≤ base) (hhi : base < 2 ^ 31) :
    (∃ r, strtol ⟨mem, s + n⟩ s base = some r ∧ Converts LongAnswer base (readList mem s n) r) ∧
    (∃ r, strtoll ⟨mem, s + n⟩ s base = some r ∧ Converts LongAnswer base (readList mem s n) r) ∧
    (∃ r, strtoul ⟨mem, s + n⟩ s base = some r ∧
      Converts UnsignedAnswer base (readList mem s n) r) ∧
    (∃ r, strtoull ⟨mem, s + n⟩ s base = some r ∧
      Converts UnsignedAnswer base (readList mem s n) r) := by
  have hlong := strtox_converts long_limits hlo hhi (readList mem s n)
  have hunsigned := strtox_converts unsigned_limits hlo hhi (readList mem s n)
  exact ⟨⟨_, strtox_eq hs hend base _, hlong⟩, ⟨_, strtox_eq hs hend base _, hlong⟩,
    ⟨_, strtox_eq hs hend base _, hunsigned⟩, ⟨_, strtox_eq hs hend base _, hunsigned⟩⟩

def markText : ByteMem := fun a => [45, 48, 120, 90].getD a 0

theorem strto_functions_mark : StringAt markText 0 4 ∧
    strtol ⟨markText, 4⟩ 0 16 = some ⟨0, 2, none⟩ ∧
    Converts LongAnswer 16 [45, 48, 120, 90] ⟨0, 2, none⟩ := by
  have hs : StringAt markText 0 4 := ⟨by decide, by decide⟩
  have hr : strtol ⟨markText, 4⟩ 0 16 = some ⟨0, 2, none⟩ := by decide +kernel
  refine ⟨hs, hr, ?_⟩
  obtain ⟨r, hstrtol, hconverts⟩ :=
    (strto_functions hs (by decide) (show -2 ^ 31 ≤ (16 : ℤ) by decide) (by decide)).1
  rw [hr, Option.some.injEq] at hstrtol
  rw [← hstrtol] at hconverts
  exact hconverts

end Strto
