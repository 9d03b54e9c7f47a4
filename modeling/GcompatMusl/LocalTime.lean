import GcompatMusl.TimeZone

/-! # Local time and back

`mktime` looks the zone up by local time and `localtime_r` by universal time. The offset that is
subtracted in the end is the one of the daylight saving status in the structure. -/
namespace TimeZone

open CalendarTime FuelLoop Option

theorem yearSecs_bounds (y : ℤ) : 31556952 * (y - 70) - 259200 ≤ yearSecs y ∧
    yearSecs y ≤ 31556952 * (y - 70) + 259200 := by
  rw [yearSecs, Gregorian.yearStart_eq, Gregorian.leaps]
  omega

variable {t : ℤ} {z : Zone} {a : Answer} {s : List UInt8} {st : TzState}

theorem down_returns (hlo : -2 ^ 38 ≤ y) (hhi : y < 2 ^ 38)
    (hy : 31556952 * (y - 72) + 259200 ≤ t) :
    ∃ y', (loop (downTurn t) 4 y).result = some y' ∧ y - 2 ≤ y' ∧ y' ≤ y := by
  have hturn : ∀ n s, (s = y - (n : ℕ) ∧ n ≤ 2) →
      Outcome (fun s => s = y - (n + 1 : ℕ) ∧ n + 1 ≤ 2) (fun r => y - 2 ≤ r ∧ r ≤ y)
        (downTurn t s) := by
    rintro n s ⟨rfl, hn⟩
    rw [downTurn, year_to_secs_eq (by omega) (by omega)]
    have hbounds := yearSecs_bounds (y - n)
    split
    · change y - n - 1 = y - (n + 1 : ℕ) ∧ n + 1 ≤ 2
      omega
    · change y - 2 ≤ y - n ∧ y - n ≤ y
      omega
  have hloop := loop_counted (downTurn t) (fun n s => s = y - (n : ℕ) ∧ n ≤ 2) _ hturn 4 0 y
    ⟨(Int.sub_zero y).symm, by omega⟩
  cases hr : loop (downTurn t) 4 y with
  | ret y' =>
    rw [hr] at hloop
    exact ⟨y', rfl, hloop⟩
  | again s =>
    rw [hr] at hloop
    exact absurd hloop.2 (by omega)

theorem up_returns (hlo : -2 ^ 38 ≤ y) (hhi : y < 2 ^ 38) (hy : t ≤ 31556952 * (y - 66) - 259200) :
    ∃ y', (loop (upTurn t) 4 y).result = some y' := by
  have hturn : ∀ n s, (s = y + (n : ℕ) ∧ n ≤ 3) →
      Outcome (fun s => s = y + (n + 1 : ℕ) ∧ n + 1 ≤ 3) (fun _ => True) (upTurn t s) := by
    rintro n s ⟨rfl, hn⟩
    rw [upTurn, year_to_secs_eq (by omega) (by omega)]
    have hbounds := yearSecs_bounds (y + n + 1)
    split
    · change y + n + 1 = y + (n + 1 : ℕ) ∧ n + 1 ≤ 3
      omega
    · trivial
  have hloop := loop_counted (upTurn t) (fun n s => s = y + (n : ℕ) ∧ n ≤ 3) _ hturn 4 0 y
    ⟨(Int.add_zero y).symm, by omega⟩
  cases hr : loop (upTurn t) 4 y with
  | ret y' => exact ⟨y', rfl⟩
  | again s =>
    rw [hr] at hloop
    exact absurd hloop.2 (by omega)

theorem yearOf_returns (hlo : -2 ^ 57 ≤ t) (hhi : t ≤ 2 ^ 57) : ∃ y, yearOf t = some y := by
  have hsum := Int.tmod_add_mul_tdiv t 31556952
  have hlt := Int.tmod_lt_of_pos t (show (0 : ℤ) < 31556952 by decide)
  have hgt := Int.lt_tmod_of_pos t (show (0 : ℤ) < 31556952 by decide)
  obtain ⟨y, hdown, hy⟩ := down_returns (t := t) (y := t.tdiv 31556952 + 70) (by omega) (by omega)
    (by omega)
  obtain ⟨y', hup⟩ := up_returns (t := t) (y := y) (by omega) (by omega) (by omega)
  refine ⟨y', ?_⟩
  rw [yearOf, hdown]
  exact hup

def Rule.Valid (r : Rule) : Prop := r.kind = 77 → 1 ≤ r.number ∧ r.number ≤ 12

theorem rule_to_secs_ne_none (r : Rule) (y : ℤ) : rule_to_secs r y ≠ none ↔ r.Valid := by
  rw [rule_to_secs, Rule.Valid]
  split
  · exact ⟨fun _ h => by omega, fun _ => some_ne_none _⟩
  split
  · exact ⟨fun h => absurd rfl h, fun h => by omega⟩
  · exact ⟨fun _ _ => by omega, fun _ => some_ne_none _⟩

structure Zone.Valid (z : Zone) : Prop where
  r0 : z.r0.Valid
  r1 : z.r1.Valid
  timezone : -2 ^ 31 ≤ z.timezone ∧ z.timezone < 2 ^ 31
  dst_off : -2 ^ 31 ≤ z.dst_off ∧ z.dst_off < 2 ^ 31

theorem lookup_returns (h : z.Valid) (hlo : -2 ^ 57 ≤ t) (hhi : t ≤ 2 ^ 57) (isLocal : Bool) :
    z.lookup t isLocal = some z.std ∨ z.lookup t isLocal = some z.dst := by
  rw [Zone.lookup]
  split
  · exact .inl rfl
  obtain ⟨y, hy⟩ := yearOf_returns hlo hhi
  obtain ⟨t0, h0⟩ := ne_none_iff_exists'.mp ((rule_to_secs_ne_none z.r0 y).mpr h.r0)
  obtain ⟨t1, h1⟩ := ne_none_iff_exists'.mp ((rule_to_secs_ne_none z.r1 y).mpr h.r1)
  have hchoice : ∀ t0 t1 : ℤ,
      (if t0 < t1 then if t0 ≤ t ∧ t < t1 then z.dst else z.std
        else if t1 ≤ t ∧ t < t0 then z.std else z.dst) = z.std ∨
      (if t0 < t1 then if t0 ≤ t ∧ t < t1 then z.dst else z.std
        else if t1 ≤ t ∧ t < t0 then z.std else z.dst) = z.dst := by
    intro t0 t1
    split
    · exact (ite_eq_or_eq _ _ _).symm
    · exact ite_eq_or_eq _ _ _
  rw [hy, bind_eq_bind, bind_some, h0, h1, bind_some]
  exact (hchoice _ _).imp (congrArg some) (congrArg some)

theorem correction (ha : a = z.std ∨ a = z.dst) (hb : b = z.std ∨ b = z.dst) (t : ℤ) :
    (if 0 ≤ a.isdst ∧ b.isdst ≠ a.isdst then t + a.offset - (b.oppoff - b.offset)
      else t + a.offset) - b.offset = t := by
  rcases ha with rfl | rfl <;> rcases hb with rfl | rfl
  · rw [if_neg fun h => h.2 rfl]
    omega
  · change t + -z.timezone - (-z.timezone - -z.dst_off) - -z.dst_off = t
    omega
  · change t + -z.dst_off - (-z.dst_off - -z.timezone) - -z.timezone = t
    omega
  · rw [if_neg fun h => h.2 rfl]
    omega

theorem secs_to_tm_store (h : secs_to_tm t (a.store tm) = some (0, tm')) (new : Tm) :
    secs_to_tm t (a.store new) = some (0, tm') ∧ tm'.tm_isdst = a.isdst := by
  rw [secs_to_tm] at h ⊢
  split at h
  · exact absurd (Prod.mk.inj (some.inj h)).1 (by decide)
  rename_i hrange
  rw [if_neg hrange]
  dsimp only at ⊢
  obtain ⟨m, hm, hfill⟩ := map_eq_some_iff.mp h
  rw [hm, map_some]
  rw [fillTm] at hfill ⊢
  generalize (if 10 ≤ m.1 then _ else _) = year at hfill
  split at hfill
  · exact absurd (Prod.mk.inj hfill).1 (by decide)
  rename_i hfits
  rw [if_neg hfits]
  have htm := (Prod.mk.inj hfill).2
  refine ⟨?_, ?_⟩
  all_goals
    rw [← htm]
    rfl

theorem secs_to_tm_status (h : secs_to_tm t tm = some (status, tm')) (hstatus : ¬ status < 0) :
    status = 0 := by
  rw [secs_to_tm] at h
  split at h
  · rw [← (Prod.mk.inj (some.inj h)).1] at hstatus
    exact absurd (by decide) hstatus
  obtain ⟨m, hm, hfill⟩ := map_eq_some_iff.mp h
  rw [fillTm] at hfill
  generalize (if 10 ≤ m.1 then _ else _) = year at hfill
  split at hfill
  · rw [← (Prod.mk.inj hfill).1] at hstatus
    exact absurd (by decide) hstatus
  · exact (Prod.mk.inj hfill).1.symm

structure Posix (s : List UInt8) (z : Zone) : Prop where
  form : posixForm s = true
  read : readZone s = some z
  valid : z.Valid

theorem Rule.zero_valid : Rule.zero.Valid := fun h => absurd h (by decide)

def utcZone : Zone := ⟨0, 0, false, utc, [], .zero, .zero⟩

theorem readZone_utc : readZone utc = some utcZone := by decide

def effective (s : List UInt8) (z : Zone) : Zone := if PATH_MAX + 1 < s.length then utcZone else z

theorem Posix.effective_valid (h : Posix s z) : (effective s z).Valid := by
  rw [effective]
  split
  · exact ⟨Rule.zero_valid, Rule.zero_valid, by decide, by decide⟩
  · exact h.valid

def Consistent (st : TzState) : Prop :=
  ∀ s, st.old_tz = some s → s.length ≤ PATH_MAX + 1 ∧
    (posixForm s = true → st.zi = false ∧ readZone s = some st.zone)

/-- The states between the calls; `TZ` may change in any way. -/
inductive Reached : TzState → Prop where
  | initial : Reached .initial
  | tzset {st st' : TzState} {tz : Option (List UInt8)} {o : Supply} :
      Reached st → do_tzset st tz o = some st' → Reached st'

theorem cache_eq (h : (st.cache s allocated).1 = some s') : s' = s := by
  rw [TzState.cache] at h
  split at h
  · dsimp only at h
    split at h
    · exact (some.inj h).symm
    · cases h
  · obtain ⟨_, _, hs⟩ := map_eq_some_iff.mp h
    exact hs.symm

theorem do_tzset_consistent (hst : Consistent st) (h : do_tzset st tz o = some st') :
    Consistent st' := by
  rw [do_tzset] at h
  dsimp only at h
  split at h
  · rw [← some.inj h]
    exact hst
  have hlength : (if PATH_MAX + 1 < (chosen tz).length then utc else chosen tz).length ≤
      PATH_MAX + 1 := by
    split
    · decide
    · omega
  generalize (if PATH_MAX + 1 < (chosen tz).length then utc else chosen tz) = s at h hlength
  intro s' hs'
  split_ifs at h with hform
  · obtain ⟨zone, hread, rfl⟩ := map_eq_some_iff.mp h
    rw [cache_eq hs']
    exact ⟨hlength, fun _ => ⟨rfl, hread⟩⟩
  · split at h
    · rw [← some.inj h] at hs'
      rw [cache_eq hs']
      exact ⟨hlength, fun hform' => absurd hform' hform⟩
    · obtain ⟨zone, hread, rfl⟩ := map_eq_some_iff.mp h
      rw [cache_eq hs']
      exact ⟨hlength, fun hform' => absurd hform' hform⟩

theorem Reached.consistent (h : Reached st) : Consistent st := by
  induction h with
  | initial =>
    intro s hs
    rw [← some.inj hs]
    exact ⟨by decide, fun hform => absurd hform (by decide)⟩
  | tzset _ hset ih => exact do_tzset_consistent ih hset

theorem do_tzset_posix (hform : posixForm s = true) (hst : Consistent st) (o : Supply) :
    (do_tzset st (some s) o).map (fun st' => (st'.zi, st'.zone)) =
      (readZone (if PATH_MAX + 1 < s.length then utc else s)).map (false, ·) := by
  have hchosen : chosen (some s) = s := by
    refine if_neg fun hnil => ?_
    rw [getD_some] at hnil
    exact absurd hform (by rw [hnil]; decide)
  rw [do_tzset, hchosen]
  dsimp only
  split
  · rename_i hcached
    obtain ⟨hlength, hzone⟩ := hst _ hcached
    obtain ⟨hzi, hread⟩ := hzone hform
    rw [if_neg (by omega), hread, map_some, map_some, hzi]
  · have hform' : posixForm (if PATH_MAX + 1 < s.length then utc else s) = true := by
      split
      · decide
      · exact hform
    rw [if_pos hform', if_pos hform', Option.map_map]
    rfl

theorem Posix.do_tzset (h : Posix s z) (hst : Consistent st) (o : Supply) :
    ∃ st', do_tzset st (some s) o = some st' ∧ st'.zi = false ∧ st'.zone = effective s z := by
  have hread : readZone (if PATH_MAX + 1 < s.length then utc else s) = some (effective s z) := by
    rw [effective]
    split
    · exact readZone_utc
    · exact h.read
  have hset := do_tzset_posix h.form hst o
  rw [hread, map_some, map_eq_some_iff] at hset
  obtain ⟨st', hset, hzone⟩ := hset
  exact ⟨st', hset, Prod.mk.inj hzone⟩

/-- A call answers for one of the two states of the zone, the same in every call for the same
time. -/
theorem Posix.secs_to_zone (hs : Posix s z) (h : Reached st) (o : Supply) (hlo : -2 ^ 57 ≤ t)
    (hhi : t ≤ 2 ^ 57) (isLocal : Bool) :
    ∃ a st', secs_to_zone st (some s) o t isLocal = some (a, st') ∧ Reached st' ∧
      (effective s z).lookup t isLocal = some a ∧
      (a = (effective s z).std ∨ a = (effective s z).dst) := by
  obtain ⟨st', hset, hzi, hzone⟩ := hs.do_tzset h.consistent o
  obtain ⟨a, hlookup, ha⟩ : ∃ a, (effective s z).lookup t isLocal = some a ∧
      (a = (effective s z).std ∨ a = (effective s z).dst) := by
    rcases lookup_returns hs.effective_valid hlo hhi isLocal with hstd | hdst
    · exact ⟨_, hstd, .inl rfl⟩
    · exact ⟨_, hdst, .inr rfl⟩
  refine ⟨a, st', ?_, h.tzset hset, hlookup, ha⟩
  rw [TimeZone.secs_to_zone, hset, bind_eq_bind, bind_some, hzi, hzone, hlookup]
  rfl

theorem offset_bounds (h : z.Valid) (ha : a = z.std ∨ a = z.dst) :
    -2 ^ 31 ≤ a.offset ∧ a.offset ≤ 2 ^ 31 := by
  have htimezone := h.timezone
  have hdst := h.dst_off
  rcases ha with rfl | rfl
  · change _ ≤ -z.timezone ∧ -z.timezone ≤ _
    omega
  · change _ ≤ -z.dst_off ∧ -z.dst_off ≤ _
    omega

structure Converted (z : Zone) (t : ℤ) (a : Answer) (tm₀ tm : Tm) : Prop where
  range : -2 ^ 56 ≤ t ∧ t ≤ 2 ^ 56
  found : z.lookup t false = some a
  kind : a = z.std ∨ a = z.dst
  stored : secs_to_tm (t + a.offset) (a.store tm₀) = some (0, tm)

theorem Posix.localtime_r (hs : Posix s z) (h : Reached st) (o : Supply) (t : ℤ) (tm₀ : Tm) :
    ∃ r st', localtime_r st (some s) o t tm₀ = some (r, st') ∧ Reached st' ∧
      ∀ tm, r = some tm → ∃ a, Converted (effective s z) t a tm₀ tm := by
  rw [TimeZone.localtime_r]
  split
  · exact ⟨none, st, rfl, h, fun tm hnone => nomatch hnone⟩
  rename_i hrange
  rw [INT_MIN, INT_MAX] at hrange
  obtain ⟨a, st', hcall, hst', hlookup, ha⟩ :=
    hs.secs_to_zone h o (t := t) (by omega) (by omega) false
  rw [hcall, bind_eq_bind, bind_some]
  dsimp only
  cases htm : secs_to_tm (t + a.offset) (a.store tm₀) with
  | none => exact absurd htm (secs_to_tm_ne_none _ _)
  | some r =>
    obtain ⟨status, tm'⟩ := r
    refine ⟨_, st', rfl, hst', ?_⟩
    intro tm hr
    split at hr
    · cases hr
    · rename_i hstatus
      rw [secs_to_tm_status htm hstatus, show tm' = tm from some.inj hr] at htm
      exact ⟨a, ⟨by omega, by omega⟩, hlookup, ha, htm⟩

theorem Posix.mktime (hs : Posix s z) (h : Converted (effective s z) t a tm₀ tm) (hst : Reached st)
    (o₁ o₂ : Supply) (new : Tm) :
    ∃ st', mktime st (some s) o₁ o₂ tm new = some (t, tm, false, st') := by
  have hrange := h.range
  have hoff := offset_bounds hs.effective_valid h.kind
  obtain ⟨hstored, hisdst⟩ := secs_to_tm_store h.stored new
  obtain ⟨b, st1, hfirst, hst1, -, hb⟩ :=
    hs.secs_to_zone hst o₁ (t := t + a.offset) (by omega) (by omega) true
  obtain ⟨a', st2, hsecond, -, hfound, -⟩ :=
    hs.secs_to_zone hst1 o₂ (t := t) (by omega) (by omega) false
  obtain rfl : a = a' := some.inj (h.found.symm.trans hfound)
  have hback := correction h.kind hb t
  refine ⟨st2, ?_⟩
  rw [TimeZone.mktime, (secs_to_tm_brokenDown h.stored).tm_to_secs, hisdst]
  dsimp only
  rw [hfirst, bind_eq_bind, bind_some]
  dsimp only
  rw [hback, hsecond, bind_some]
  dsimp only
  rw [hstored, bind_eq_bind, bind_some]
  exact congrArg some (if_neg (Int.lt_irrefl 0))

/-- For every string of the POSIX form `localtime_r` comes back, and `mktime` takes what it has
stored to the time it was given and leaves the structure as it is. -/
theorem mktime_inverts_localtime_r {s : List UInt8} {z : Zone} (hs : Posix s z) {st : TzState}
    (h : Reached st) (t : ℤ) (o o₁ o₂ : Supply) (tm₀ new : Tm) :
    (∃ r, localtime_r st (some s) o t tm₀ = some r) ∧
      ∀ tm st', localtime_r st (some s) o t tm₀ = some (some tm, st') →
        ∃ st'', mktime st' (some s) o₁ o₂ tm new = some (t, tm, false, st'') := by
  obtain ⟨r, st1, hcall, hst1, hconverted⟩ := hs.localtime_r h o t tm₀
  refine ⟨⟨_, hcall⟩, ?_⟩
  intro tm st' hsome
  obtain ⟨rfl, rfl⟩ := Prod.mk.inj (some.inj (hcall.symm.trans hsome))
  obtain ⟨a, ha⟩ := hconverted tm rfl
  exact hs.mktime ha hst1 o₁ o₂ new

def newYork : List UInt8 :=
  [69, 83, 84, 53, 69, 68, 84, 44, 77, 51, 46, 50, 46, 48, 44, 77, 49, 49, 46, 49, 46, 48]

def newYorkZone : Zone :=
  ⟨18000, 14400, true, [69, 83, 84], [69, 68, 84], ⟨77, 3, 2, 0, 7200⟩, ⟨77, 11, 1, 0, 7200⟩⟩

def noTm : Tm := ⟨0, 0, 0, 0, 0, 0, 0, 0, 0, 0, []⟩

/-- The second time that it is 1:30 on 1 November 2020 -/
theorem mktime_inverts_newYork :
    ∃ tm st' st'', localtime_r .initial (some newYork) ⟨true, fun _ => none⟩ 1604212200 noTm =
        some (some tm, st') ∧ tm.tm_hour = 1 ∧ tm.tm_isdst = 0 ∧
      mktime st' (some newYork) ⟨true, fun _ => none⟩ ⟨true, fun _ => none⟩ tm noTm =
        some (1604212200, tm, false, st'') := by
  have hposix : Posix newYork newYorkZone :=
    ⟨by decide, by decide, fun _ => by decide, fun _ => by decide, by decide, by decide⟩
  obtain ⟨tm, st', hcall, hhour, hdst⟩ : ∃ tm st', localtime_r .initial (some newYork)
      ⟨true, fun _ => none⟩ 1604212200 noTm = some (some tm, st') ∧ tm.tm_hour = 1 ∧
        tm.tm_isdst = 0 :=
    ⟨_, _, rfl, by decide, by decide⟩
  obtain ⟨st'', hback⟩ := (mktime_inverts_localtime_r hposix .initial 1604212200
    ⟨true, fun _ => none⟩ ⟨true, fun _ => none⟩ ⟨true, fun _ => none⟩ noTm noTm).2 tm st' hcall
  exact ⟨tm, st', st'', hcall, hhour, hdst, hback⟩

def pastNumber (p : List UInt8) : List UInt8 := p.dropWhile isDigit

/-- The value of the digits at the front -/
def number (p : List UInt8) : ℕ := (p.takeWhile isDigit).foldl (fun x c => c.toNat - 48 + 10 * x) 0

def pastName : List UInt8 → List UInt8
  | 60 :: p => (p.dropWhile (· ≠ 62)).tail
  | p => p.dropWhile isLetter

/-- There is a name at the front, in brackets or not. -/
def named : List UInt8 → Bool
  | 60 :: c :: _ => c ≠ 62
  | c :: _ => isLetter c
  | [] => false

def pastSign (p : List UInt8) : List UInt8 := if p.headD 0 = 45 ∨ p.headD 0 = 43 then p.tail else p

def pastPart : List UInt8 → List UInt8
  | 58 :: p => pastNumber p
  | p => p

def pastOffset (p : List UInt8) : List UInt8 := pastPart (pastPart (pastNumber (pastSign p)))

def pastTime : List UInt8 → List UInt8
  | 47 :: p => pastOffset p
  | p => p

/-- The rest behind a rule, with the comma in front of it -/
def pastRule : List UInt8 → List UInt8
  | 44 :: 77 :: p => pastTime (pastNumber (pastNumber (pastNumber p).tail).tail)
  | 44 :: 74 :: p => pastTime (pastNumber p)
  | 44 :: p => pastTime (pastNumber p)
  | p => p

/-- What follows the name and the offset of standard time -/
def dstPart (s : List UInt8) : List UInt8 := pastOffset (pastName s)

def rulePart (s : List UInt8) : List UInt8 :=
  if named (dstPart s) && startsOffset (pastName (dstPart s)) then pastOffset (pastName (dstPart s))
  else pastName (dstPart s)

/-- A rule that ends before the separator behind its month or its week -/
def Truncated (p : List UInt8) : Prop :=
  ∃ rule, p = 44 :: 77 :: rule ∧ (pastNumber rule = [] ∨ pastNumber (pastNumber rule).tail = [])

/-- A month of the calendar, in the 32 bits of the number -/
def MonthOk (p : List UInt8) : Prop :=
  ∀ rule, p = 44 :: 77 :: rule → 1 ≤ number rule % 2 ^ 32 ∧ number rule % 2 ^ 32 ≤ 12

theorem getint_eq (p : List UInt8) : getint p = (int32 (number p % 2 ^ 32 : ℕ), pastNumber p) := by
  have hfold : ∀ (l : List UInt8) (x y : ℕ), x = y % 2 ^ 32 →
      l.foldl (fun x c => (c.toNat - 48 + 10 * x) % 2 ^ 32) x =
        l.foldl (fun x c => c.toNat - 48 + 10 * x) y % 2 ^ 32 := by
    intro l
    induction l with
    | nil => exact fun x y h => h
    | cons c l ih =>
      intro x y h
      refine ih _ _ ?_
      dsimp only
      omega
  rw [getint, hfold _ 0 0 rfl]
  rfl

theorem getname_rest (p : List UInt8) : (getname p).2 = pastName p := by
  by_cases h : ∃ q, p = 60 :: q
  · obtain ⟨q, rfl⟩ := h
    rfl
  · have hp : ∀ q, p = 60 :: q → False := fun q hq => h ⟨q, hq⟩
    rw [getname.eq_2 p hp, pastName.eq_2 p hp]

theorem getname_named (p : List UInt8) : (getname p).1 ≠ [] ↔ named p = true := by
  by_cases h : ∃ q, p = 60 :: q
  · obtain ⟨q, rfl⟩ := h
    cases q with
    | nil => decide
    | cons c q => by_cases hc : c = 62 <;> simp [getname, named, hc, TZNAME_MAX]
  · have hp : ∀ q, p = 60 :: q → False := fun q hq => h ⟨q, hq⟩
    rw [getname.eq_2 p hp]
    cases p with
    | nil => decide
    | cons c q =>
      rw [named.eq_2 c q fun c' q' hc hq => h ⟨q, by rw [hc]⟩]
      by_cases hc : isLetter c = true <;> simp [hc, TZNAME_MAX]

theorem getseconds_rest (off : ℤ) (p : List UInt8) : (getseconds off p).2 = pastPart p := by
  by_cases h : ∃ q, p = 58 :: q
  · obtain ⟨q, rfl⟩ := h
    rw [getseconds, getint_eq]
    rfl
  · have hp : ∀ q, p = 58 :: q → False := fun q hq => h ⟨q, hq⟩
    rw [getseconds.eq_2 off p hp, pastPart.eq_2 p hp]

theorem getminutes_rest (off : ℤ) (p : List UInt8) :
    (getminutes off p).2 = pastPart (pastPart p) := by
  by_cases h : ∃ q, p = 58 :: q
  · obtain ⟨q, rfl⟩ := h
    rw [getminutes, getint_eq]
    exact getseconds_rest _ _
  · have hp : ∀ q, p = 58 :: q → False := fun q hq => h ⟨q, hq⟩
    rw [getminutes.eq_2 off p hp, pastPart.eq_2 p hp, pastPart.eq_2 p hp]

theorem getoff_rest (p : List UInt8) : (getoff p).2 = pastOffset p := by
  rw [getoff]
  dsimp only
  rw [getminutes_rest, getint_eq]
  rfl

theorem gettime_spec (rule : Rule) (p : List UInt8) : (gettime rule p).2 = pastTime p ∧
    ((gettime rule p).1.Valid ↔ rule.Valid) := by
  by_cases h : ∃ q, p = 47 :: q
  · obtain ⟨q, rfl⟩ := h
    exact ⟨getoff_rest q, Iff.rfl⟩
  · have hp : ∀ q, p = 47 :: q → False := fun q hq => h ⟨q, hq⟩
    rw [gettime.eq_2 rule p hp, pastTime.eq_2 p hp]
    exact ⟨rfl, Iff.rfl⟩

theorem month_iff (x : ℕ) : (1 ≤ int32 (x % 2 ^ 32 : ℕ) ∧ int32 (x % 2 ^ 32 : ℕ) ≤ 12) ↔
    1 ≤ x % 2 ^ 32 ∧ x % 2 ^ 32 ≤ 12 := by
  rw [int32]
  omega

theorem nextRule_truncated (h : Truncated p) : nextRule p = none := by
  obtain ⟨rule, rfl, h⟩ := h
  simp only [nextRule, getrule, getint_eq]
  rcases h with h | h
  · simp [h, advance]
  · cases hr : pastNumber rule with
    | nil => simp [advance]
    | cons c rest =>
      rw [hr, List.tail_cons] at h
      simp [advance, h]

theorem nextRule_month (h : ¬Truncated (44 :: 77 :: rule)) :
    ∃ r, nextRule (44 :: 77 :: rule) = some (r, pastRule (44 :: 77 :: rule)) ∧
      (r.Valid ↔ MonthOk (44 :: 77 :: rule)) := by
  obtain ⟨c, p, hp⟩ := List.exists_cons_of_ne_nil fun hnil => h ⟨rule, rfl, .inl hnil⟩
  obtain ⟨d, q, hq⟩ := List.exists_cons_of_ne_nil fun hnil => h ⟨rule, rfl, .inr hnil⟩
  rw [hp, List.tail_cons] at hq
  obtain ⟨hrest, hvalid⟩ := gettime_spec ⟨77, int32 (number rule % 2 ^ 32 : ℕ),
    int32 (number p % 2 ^ 32 : ℕ), int32 (number q % 2 ^ 32 : ℕ), 0⟩ (pastNumber q)
  refine ⟨_, ?_, hvalid.trans ?_⟩
  · rw [pastRule, hp, List.tail_cons, hq, List.tail_cons, ← hrest]
    simp only [nextRule, getrule, getint_eq, hp, hq, advance, bind_eq_bind, bind_some]
    rfl
  · rw [Rule.Valid, MonthOk]
    dsimp only
    rw [month_iff]
    simp

/-- A rule without a month -/
theorem gettime_read (rule : Rule) {p q : List UInt8} (hkind : rule.kind ≠ 77)
    (hp : ∀ r, p ≠ 44 :: 77 :: r) (hnext : nextRule p = some (gettime rule q))
    (hpast : pastRule p = pastTime q) :
    ∃ r, nextRule p = some (r, pastRule p) ∧ (r.Valid ↔ MonthOk p) := by
  obtain ⟨hrest, hvalid⟩ := gettime_spec rule q
  refine ⟨_, by rw [hnext, hpast, ← hrest], hvalid.trans ?_⟩
  exact iff_of_true (fun h => absurd h hkind) fun q hq => absurd hq (hp q)

theorem nextRule_read (h : ¬Truncated p) :
    ∃ r, nextRule p = some (r, pastRule p) ∧ (r.Valid ↔ MonthOk p) := by
  by_cases hM : ∃ rule, p = 44 :: 77 :: rule
  · obtain ⟨rule, rfl⟩ := hM
    exact nextRule_month h
  have hne : ∀ r, p ≠ 44 :: 77 :: r := fun r hr => hM ⟨r, hr⟩
  by_cases hcomma : ∃ q, p = 44 :: q
  · obtain ⟨q, rfl⟩ := hcomma
    by_cases hJ : ∃ r, q = 74 :: r
    · obtain ⟨r, rfl⟩ := hJ
      refine gettime_read ⟨74, int32 (number r % 2 ^ 32 : ℕ), 0, 0, 0⟩ (by simp) hne
        (q := pastNumber r) ?_ rfl
      simp only [nextRule, getrule, getint_eq]
      rfl
    · have hq : ∀ r, q = 77 :: r → False := fun r hr => hM ⟨r, by rw [hr]⟩
      have hq' : ∀ r, q = 74 :: r → False := fun r hr => hJ ⟨r, hr⟩
      refine gettime_read ⟨0, int32 (number q % 2 ^ 32 : ℕ), 0, 0, 0⟩ (by simp) hne
        (q := pastNumber q) ?_ (pastRule.eq_3 q hq hq')
      rw [nextRule, getrule.eq_3 q _ hq hq', getint_eq]
      rfl
  · have hp : ∀ q, p = 44 :: q → False := fun q hq => hcomma ⟨q, hq⟩
    refine ⟨.zero, ?_, iff_of_true Rule.zero_valid fun q hq => absurd hq (hne q)⟩
    rw [nextRule.eq_2 p hp, pastRule.eq_4 p (fun q => hne q) (fun q hq => hp _ hq) hp]

theorem readZone_eq (s : List UInt8) : ∃ timezone off std dst,
    readZone s = (nextRule (rulePart s)).bind fun r0 => (nextRule r0.2).bind fun r1 =>
      some ⟨timezone, off, named (dstPart s), std, dst, r0.1, r1.1⟩ := by
  have hdst : decide ((getname (dstPart s)).1 ≠ []) = named (dstPart s) := by
    rw [Bool.eq_iff_iff, decide_eq_true_iff, getname_named]
  refine ⟨(getoff (pastName s)).1, if named (dstPart s) then
    if startsOffset (pastName (dstPart s)) then (getoff (pastName (dstPart s))).1
    else int32 ((getoff (pastName s)).1 - 3600) else (getoff (pastName s)).1,
    (getname s).1, (getname (dstPart s)).1, ?_⟩
  rw [readZone]
  simp only [getname_rest, getoff_rest, show pastOffset (pastName s) = dstPart s from rfl, hdst,
    rulePart]
  cases named (dstPart s) with
  | false =>
    simp only [Bool.false_and]
    rfl
  | true =>
    simp only [Bool.true_and, if_true]
    split_ifs with h
    · rw [getoff_rest]
      rfl
    · rfl

/-- The string is read up to the end of its rules, and the months are good. -/
theorem readZone_valid_iff (s : List UInt8) : (∃ z, readZone s = some z ∧
      (z.daylight = true → z.r0.Valid ∧ z.r1.Valid)) ↔
    ¬Truncated (rulePart s) ∧ ¬Truncated (pastRule (rulePart s)) ∧
      (named (dstPart s) = true → MonthOk (rulePart s) ∧ MonthOk (pastRule (rulePart s))) := by
  obtain ⟨timezone, off, std, dst, hread⟩ := readZone_eq s
  rw [hread]
  by_cases h0 : Truncated (rulePart s)
  · simp [nextRule_truncated h0, h0]
  obtain ⟨r0, hr0, hvalid0⟩ := nextRule_read h0
  by_cases h1 : Truncated (pastRule (rulePart s))
  · simp [hr0, nextRule_truncated h1, h1]
  obtain ⟨r1, hr1, hvalid1⟩ := nextRule_read h1
  simp [hr0, hr1, h0, h1, hvalid0, hvalid1]

/-- The string is read up to its terminator, and the table of months only where it has entries. -/
def InBounds (st : TzState) (s : List UInt8) (o : Supply) (t : ℤ) : Prop :=
  ∃ st', do_tzset st (some s) o = some st' ∧ (st'.zone.daylight = true → ∀ y, yearOf t = some y →
    rule_to_secs st'.zone.r0 y ≠ none ∧ rule_to_secs st'.zone.r1 y ≠ none)

/-- A string that is not too long must not have a truncated rule, and for daylight saving time the
months of its rules have to be those of the calendar. -/
theorem tz_inBounds_iff {st : TzState} (hst : Reached st) {s : List UInt8} (hs : posixForm s = true)
    (o : Supply) : (∀ t, InBounds st s o t) ↔ PATH_MAX + 1 < s.length ∨
      ¬Truncated (rulePart s) ∧ ¬Truncated (pastRule (rulePart s)) ∧
        (named (dstPart s) = true → MonthOk (rulePart s) ∧ MonthOk (pastRule (rulePart s))) := by
  rw [← readZone_valid_iff]
  have hset := do_tzset_posix hs hst.consistent o
  simp only [InBounds, rule_to_secs_ne_none]
  constructor
  · intro h
    split_ifs at hset with hlong
    · exact .inl hlong
    obtain ⟨st', hst', hvalid⟩ := h 0
    rw [hst', map_some] at hset
    obtain ⟨z, hz, hpair⟩ := map_eq_some_iff.mp hset.symm
    obtain rfl := (Prod.mk.inj hpair).2
    exact .inr ⟨_, hz, fun hdst => hvalid hdst 70 rfl⟩
  · intro h t
    obtain ⟨z, hz, hvalid⟩ : ∃ z, readZone (if PATH_MAX + 1 < s.length then utc else s) = some z ∧
        (z.daylight = true → z.r0.Valid ∧ z.r1.Valid) := by
      split
      · exact ⟨utcZone, readZone_utc, fun hdst => Bool.noConfusion hdst⟩
      · exact h.resolve_left (by assumption)
    rw [hz, map_some, map_eq_some_iff] at hset
    obtain ⟨st', hset, hpair⟩ := hset
    obtain rfl := (Prod.mk.inj hpair).2
    exact ⟨st', hset, fun hdst _ _ => hvalid hdst⟩

theorem tz_inBounds_newYork : posixForm newYork = true ∧ rulePart newYork =
      [44, 77, 51, 46, 50, 46, 48, 44, 77, 49, 49, 46, 49, 46, 48] ∧
    ∀ t, InBounds .initial newYork ⟨true, fun _ => none⟩ t := by
  have hpart : rulePart newYork = [44, 77, 51, 46, 50, 46, 48, 44, 77, 49, 49, 46, 49, 46, 48] := by
    decide
  have hpast : pastRule (rulePart newYork) = [44, 77, 49, 49, 46, 49, 46, 48] := by decide
  refine ⟨by decide, hpart, (tz_inBounds_iff .initial (by decide) _).mpr (.inr ?_)⟩
  rw [hpast, hpart]
  refine ⟨?_, ?_, fun _ => ⟨?_, ?_⟩⟩
  · rintro ⟨rule, ⟨⟩, h⟩
    revert h
    decide
  · rintro ⟨rule, ⟨⟩, h⟩
    revert h
    decide
  · rintro rule ⟨⟩
    decide
  · rintro rule ⟨⟩
    decide

/-- `A1B,M0.1.0` converts month 0, and in `A1B,M` the parser passes the terminator. -/
theorem tz_out_of_bounds :
    (∀ o, ∃ st', do_tzset .initial (some [65, 49, 66, 44, 77, 48, 46, 49, 46, 48]) o = some st' ∧
      st'.zone.daylight = true ∧ ∀ y, rule_to_secs st'.zone.r0 y = none) ∧
    ∀ o, do_tzset .initial (some [65, 49, 66, 44, 77]) o = none :=
  ⟨fun _ => ⟨_, rfl, rfl, fun _ => rfl⟩, fun _ => rfl⟩

end TimeZone
