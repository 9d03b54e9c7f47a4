import GcompatMusl.CalendarTime
import GcompatMusl.FuelLoop

/-! # Local time

`__tz.c` for zones that `TZ` spells out, and `localtime_r` and `mktime` over it. A string is read
from its front, and a pointer into it is the rest of it. `none` stands for a read behind a
terminator or a table and for a loop that is given up. A pointer to the name of a zone is that
name. -/
namespace TimeZone

open CalendarTime FuelLoop

def isDigit (c : UInt8) : Bool := 48 ≤ c ∧ c ≤ 57

def isLetter (c : UInt8) : Bool := 97 ≤ c ||| 32 ∧ c ||| 32 ≤ 122

/-- The number is collected in an `unsigned` and returned as an `int`. -/
def getint (p : List UInt8) : ℤ × List UInt8 :=
  let x : ℕ := (p.takeWhile isDigit).foldl (fun x c => (c.toNat - 48 + 10 * x) % 2 ^ 32) 0
  (int32 x, p.dropWhile isDigit)

def getseconds (off : ℤ) (p : List UInt8) : ℤ × List UInt8 :=
  match p with
  | 58 :: p =>  -- ':'
    let s := getint p
    (int32 (off + s.1), s.2)
  | p => (off, p)

def getminutes (off : ℤ) (p : List UInt8) : ℤ × List UInt8 :=
  match p with
  | 58 :: p =>
    let m := getint p
    getseconds (int32 (off + int32 (60 * m.1))) m.2
  | p => (off, p)

def getoff (p : List UInt8) : ℤ × List UInt8 :=
  let neg := p.headD 0 = 45  -- '-'
  let h := getint (if neg ∨ p.headD 0 = 43 then p.tail else p)
  let off := getminutes (int32 (3600 * h.1)) h.2
  (if neg then int32 (-off.1) else off.1, off.2)

structure Rule where
  kind : ℤ
  number : ℤ
  week : ℤ
  day : ℤ
  time : ℤ
  deriving DecidableEq

def Rule.zero : Rule := ⟨0, 0, 0, 0, 0⟩

/-- `++*p` where the code has not looked at the character before -/
def advance : List UInt8 → Option (List UInt8)
  | [] => none
  | _ :: p => some p

def gettime (rule : Rule) (p : List UInt8) : Rule × List UInt8 :=
  match p with
  | 47 :: p =>  -- '/'
    let off := getoff p
    ({ rule with time := off.1 }, off.2)
  | p => ({ rule with time := 7200 }, p)

def getrule (p : List UInt8) (rule : Rule) : Option (Rule × List UInt8) :=
  match p with
  | 77 :: p => do  -- 'M'
    let m := getint p
    let p ← advance m.2
    let n := getint p
    let p ← advance n.2
    let d := getint p
    return gettime { rule with kind := 77, number := m.1, week := n.1, day := d.1 } d.2
  | 74 :: p =>  -- 'J'
    let n := getint p
    some (gettime { rule with kind := 74, number := n.1 } n.2)
  | p =>
    let n := getint p
    some (gettime { rule with kind := 0, number := n.1 } n.2)

def TZNAME_MAX : ℕ := 6

def getname (p : List UInt8) : List UInt8 × List UInt8 :=
  match p with
  | 60 :: p =>  -- '<'
    ((p.takeWhile (· ≠ 62)).take TZNAME_MAX, (p.dropWhile (· ≠ 62)).tail)
  | p => ((p.takeWhile isLetter).take TZNAME_MAX, p.dropWhile isLetter)

def PATH_MAX : ℕ := 4096

def utc : List UInt8 := [85, 84, 67]

def gmt : List UInt8 := [71, 77, 84]

def localtimeFile : List UInt8 := [47, 101, 116, 99, 47, 108, 111, 99, 97, 108, 116, 105, 109, 101]

def startsOffset (p : List UInt8) : Bool := p.headD 0 = 43 ∨ p.headD 0 = 45 ∨ isDigit (p.headD 0)

def posixForm (s : List UInt8) : Bool :=
  let n := getname s
  s.headD 0 ≠ 58 ∧ n.2.length ≠ s.length ∧ (startsOffset n.2 ∨ n.1 = utc ∨ n.1 = gmt)

structure Zone where
  timezone : ℤ
  dst_off : ℤ
  daylight : Bool
  std_name : List UInt8
  dst_name : List UInt8
  r0 : Rule
  r1 : Rule
  deriving DecidableEq

def nextRule (p : List UInt8) : Option (Rule × List UInt8) :=
  match p with
  | 44 :: p => getrule p .zero
  | p => some (.zero, p)

/-- The end of `do_tzset`, which reads the zone from the string -/
def readZone (s : List UInt8) : Option Zone := do
  let std := getname s
  let timezone := getoff std.2
  let dst := getname timezone.2
  let daylight : Bool := dst.1 ≠ []
  let off :=
    if daylight then
      if startsOffset dst.2 then getoff dst.2 else (int32 (timezone.1 - 3600), dst.2)
    else (timezone.1, dst.2)
  let r0 ← nextRule off.2
  let r1 ← nextRule r0.2
  return ⟨timezone.1, off.1, daylight, std.1, dst.1, r0.1, r1.1⟩

structure TzState where
  old_tz : Option (List UInt8)
  old_tz_size : ℕ
  /-- A zoneinfo file is mapped. -/
  zi : Bool
  zone : Zone

def TzState.initial : TzState := ⟨some [], 32, false, ⟨0, 0, false, [], [], .zero, .zero⟩⟩

/-- What the surroundings answer in a call: the allocation of `old_tz`, and the zone that a zoneinfo
file gives, if there is one -/
structure Supply where
  allocated : Bool
  file : List UInt8 → Option Zone

def chosen (tz : Option (List UInt8)) : List UInt8 :=
  let s := tz.getD localtimeFile
  if s = [] then utc else s

/-- `old_tz` after the copy of the new value -/
def TzState.cache (st : TzState) (s : List UInt8) (allocated : Bool) : Option (List UInt8) × ℕ :=
  if st.old_tz_size ≤ s.length then
    let size := if 2 * st.old_tz_size ≤ s.length then s.length + 1 else 2 * st.old_tz_size
    (if allocated then some s else none, min size (PATH_MAX + 2))
  else (st.old_tz.map fun _ => s, st.old_tz_size)

def do_tzset (st : TzState) (tz : Option (List UInt8)) (o : Supply) : Option TzState :=
  let s := chosen tz
  if st.old_tz = some s then some st
  else
    let s := if PATH_MAX + 1 < s.length then utc else s
    let kept := st.cache s o.allocated
    match if posixForm s then none else o.file s with
    | some zone => some ⟨kept.1, kept.2, true, zone⟩
    | none =>
      (readZone (if posixForm s then s else utc)).map fun zone => ⟨kept.1, kept.2, false, zone⟩

def days_in_month (m : ℕ) (is_leap : Bool) : ℤ :=
  if m = 2 then 28 + is_leap.toNat else 30 + (0xad5 >>> (m - 1) % 2 : ℕ)

def rule_to_secs (rule : Rule) (year : ℤ) : Option ℤ :=
  let y := year_to_secs (int32 year)
  if rule.kind ≠ 77 then
    let x := if rule.kind = 74 ∧ (rule.number < 60 ∨ y.2 = false) then rule.number - 1
      else rule.number
    some (y.1 + int32 (86400 * x) + rule.time)
  else if rule.number < 1 ∨ 12 < rule.number then none
  else
    let t := y.1 + month_to_secs (rule.number - 1) y.2
    let wday := (int32 ((t + 4 * 86400).tmod (7 * 86400))).tdiv 86400
    let days := if rule.day - wday < 0 then rule.day - wday + 7 else rule.day - wday
    let n := if rule.week = 5 ∧ days_in_month rule.number.toNat y.2 ≤ days + 28 then 4
      else rule.week
    some (t + int32 (86400 * (days + 7 * (n - 1))) + rule.time)

def downTurn (t y : ℤ) : Turn ℤ ℤ := if t < (year_to_secs y).1 then .again (y - 1) else .ret y

def upTurn (t y : ℤ) : Turn ℤ ℤ := if (year_to_secs (y + 1)).1 < t then .again (y + 1) else .ret y

def yearOf (t : ℤ) : Option ℤ := do
  let y ← (loop (downTurn t) 4 (t.tdiv 31556952 + 70)).result
  (loop (upTurn t) 4 y).result

structure Answer where
  isdst : Int32
  offset : ℤ
  oppoff : ℤ
  zonename : List UInt8
  deriving DecidableEq

def Zone.std (z : Zone) : Answer := ⟨0, -z.timezone, -z.dst_off, z.std_name⟩

def Zone.dst (z : Zone) : Answer := ⟨1, -z.dst_off, -z.timezone, z.dst_name⟩

/-- `t` is local time or universal time. -/
def Zone.lookup (z : Zone) (t : ℤ) (isLocal : Bool) : Option Answer :=
  if z.daylight = false then some z.std
  else do
    let y ← yearOf t
    let t0 ← rule_to_secs z.r0 y
    let t1 ← rule_to_secs z.r1 y
    let t0 := if isLocal then t0 else t0 + z.timezone
    let t1 := if isLocal then t1 else t1 + z.dst_off
    return if t0 < t1 then
        if t0 ≤ t ∧ t < t1 then z.dst else z.std
      else
        if t1 ≤ t ∧ t < t0 then z.std else z.dst

def secs_to_zone (st : TzState) (tz : Option (List UInt8)) (o : Supply) (t : ℤ) (isLocal : Bool) :
    Option (Answer × TzState) := do
  let st ← do_tzset st tz o
  if st.zi then none
  else
    let a ← st.zone.lookup t isLocal
    return (a, st)

/-- The fields that `__secs_to_zone` is given the addresses of -/
def Answer.store (a : Answer) (tm : Tm) : Tm :=
  { tm with tm_isdst := a.isdst, tm_gmtoff := a.offset, tm_zone := a.zonename }

/-- The null pointer is an inner `none`. -/
def localtime_r (st : TzState) (tz : Option (List UInt8)) (o : Supply) (t : ℤ) (tm : Tm) :
    Option (Option Tm × TzState) :=
  if t < INT_MIN * 31622400 ∨ INT_MAX * 31622400 < t then some (none, st)
  else do
    let (a, st) ← secs_to_zone st tz o t false
    let (status, tm) ← secs_to_tm (t + a.offset) (a.store tm)
    return (if status < 0 then none else some tm, st)

/-- The value returned, the structure afterwards and whether `errno` is set. `new` is the
uninitialised local structure, and there are two lookups of the zone. -/
def mktime (st : TzState) (tz : Option (List UInt8)) (o₁ o₂ : Supply) (tm new : Tm) :
    Option (ℤ × Tm × Bool × TzState) := do
  let t := tm_to_secs tm
  let (a, st) ← secs_to_zone st tz o₁ t true
  let t := if 0 ≤ tm.tm_isdst ∧ a.isdst ≠ tm.tm_isdst then t - (a.oppoff - a.offset) else t
  let t := t - a.offset
  let (a, st) ← secs_to_zone st tz o₂ t false
  let (status, new) ← secs_to_tm (t + a.offset) (a.store new)
  return if status < 0 then (-1, tm, true, st) else (t, new, false, st)

end TimeZone
