import Mathlib.Data.Finset.Basic

/-! # The environment

`setenv`, `putenv` and `unsetenv` share the array `environ`, the vector `oldenv` that `__putenv` has
allocated last, and the table `env_alloced` of the strings that `setenv` has allocated. Strings and
vectors are named by their addresses. `none` is an access outside of a vector or to a freed string,
or a `free` of something that was not allocated. -/
namespace Environ

open Function

structure Vec where
  cells : List (Option ℕ)
  malloced : Bool

structure State where
  text : ℕ → List UInt8
  /-- Strings that belong to the caller -/
  owned : Finset ℕ
  /-- Strings that `setenv` has allocated and nobody has freed -/
  live : Finset ℕ
  vecs : ℕ → Option Vec
  environ : Option ℕ
  oldenv : Option ℕ
  env_alloced : List (Option ℕ)
  /-- The strings freed so far, each with the entries of `environ` at that moment -/
  freed : List (ℕ × List ℕ)

/-- The string that `malloc` returns in `setenv`, the vector in `__putenv` and the value of its new
cells, and whether the table can grow -/
structure Oracle where
  str : Option ℕ
  vec : Option ℕ
  fill : Option ℕ
  table : Bool

/-- The value 0, -1 with `EINVAL`, or -1 because there is no memory -/
inductive Status where
  | done
  | EINVAL
  | oom
  deriving DecidableEq

section

variable (st : State)

def State.read (p : ℕ) : Option (List UInt8) :=
  if p ∈ st.live ∨ p ∈ st.owned then some (st.text p) else none

def State.cells : List (Option ℕ) := ((st.environ.bind st.vecs).map (·.cells)).getD []

def entriesIn : List (Option ℕ) → List ℕ
  | some p :: rest => p :: entriesIn rest
  | _ => []

def State.entries : List ℕ := entriesIn st.cells

def State.free : Option ℕ → Option State
  | none => some st
  | some p =>
    if p ∈ st.live then
      some { st with live := st.live.erase p, freed := st.freed ++ [(p, st.entries)] }
    else none

def State.withVecs (vecs : ℕ → Option Vec) : State := { st with vecs := vecs }

def State.storeCell (v i : ℕ) (x : Option ℕ) : Option State :=
  (st.vecs v).bind fun vec =>
    if i < vec.cells.length then
      some (st.withVecs (update st.vecs v (some ⟨vec.cells.set i x, vec.malloced⟩)))
    else none

def State.freeVec : Option ℕ → Option State
  | none => some st
  | some v => (st.vecs v).bind fun vec =>
    if vec.malloced then some (st.withVecs (update st.vecs v none)) else none

end

/-- Whether `strncmp(s, t, n)` is 0. A string is its bytes before the terminator. -/
def strncmp : List UInt8 → List UInt8 → ℕ → Bool
  | _, _, 0 => true
  | [], [], _ + 1 => true
  | [], _ :: _, _ + 1 => false
  | _ :: _, [], _ + 1 => false
  | a :: s, b :: t, n + 1 => a = b && strncmp s t n

def nameLength (s : List UInt8) : ℕ := (s.takeWhile (· ≠ 61)).length

/-- The loop of `__env_rm_add`: the new table, what is left of `new`, and whether `old` was
found. -/
def rmAddLoop (old : Option ℕ) : Option ℕ → List (Option ℕ) → List (Option ℕ) × Option ℕ × Bool
  | new, [] => ([], new, false)
  | new, a :: rest =>
    if a = old then (new :: rest, none, true)
    else if a = none ∧ new ≠ none then
      let r := rmAddLoop old none rest
      (new :: r.1, r.2)
    else
      let r := rmAddLoop old new rest
      (a :: r.1, r.2)

def recordNew (st : State) (table : Bool) : Option ℕ → State
  | none => st
  | some new => if table then { st with env_alloced := st.env_alloced ++ [some new] } else st

def env_rm_add (st : State) (old new : Option ℕ) (table : Bool) : Option State :=
  let r := rmAddLoop old new st.env_alloced
  let st := { st with env_alloced := r.1 }
  if r.2.2 then st.free old else some (recordNew st table r.2.1)

def scanEntries (st : State) (hit : List UInt8 → Bool) : List (Option ℕ) → ℕ → Option (ℕ × Option ℕ)
  | [], _ => none
  | none :: _, i => some (i, none)
  | some p :: rest, i =>
    (st.read p).bind fun t => if hit t then some (i, some p) else scanEntries st hit rest (i + 1)

section

variable (st : State)

def findEntry (hit : List UInt8 → Bool) : Option (ℕ × Option ℕ) :=
  match st.environ with
  | none => some (0, none)
  | some v => (st.vecs v).bind fun vec => scanEntries st hit vec.cells 0

/-- `realloc(oldenv, ...)`, which may leave the vector where it is. -/
def reallocVec (n : ℕ) (fill : Option ℕ) (w : ℕ) : Option State :=
  match st.oldenv with
  | none => some (st.withVecs (update st.vecs w (some ⟨List.replicate n fill, true⟩)))
  | some v => (st.vecs v).bind fun vec =>
    if vec.malloced then
      some (st.withVecs (update (update st.vecs v none) w
        (some ⟨(vec.cells ++ List.replicate n fill).take n, true⟩)))
    else none

def copyVec (i : ℕ) (fill : Option ℕ) (w : ℕ) : Option State :=
  if i ≤ st.cells.length then
    (st.withVecs (update st.vecs w
      (some ⟨st.cells.take i ++ List.replicate 2 fill, true⟩))).freeVec st.oldenv
  else none

def newVec (i : ℕ) (fill : Option ℕ) (w : ℕ) : Option State :=
  if st.environ = st.oldenv then reallocVec st (i + 2) fill w else copyVec st i fill w

def appendEntry (s i : ℕ) (r : Option ℕ) (table : Bool) (w : ℕ) : Option (Status × State) :=
  (st.storeCell w i (some s)).bind fun st =>
  (st.storeCell w (i + 1) none).bind fun st =>
    let st := { st with environ := some w, oldenv := some w }
    (if r = none then some st else env_rm_add st none r table).map fun st => (.done, st)

def replaceEntry (s i old : ℕ) (r : Option ℕ) (table : Bool) : Option (Status × State) :=
  st.environ.bind fun v =>
  (st.storeCell v i (some s)).bind fun st =>
  (env_rm_add st (some old) r table).map fun st => (.done, st)

def putAt (s : ℕ) (r : Option ℕ) (o : Oracle) : ℕ × Option ℕ → Option (Status × State)
  | (i, some old) => replaceEntry st s i old r o.table
  | (i, none) =>
    match o.vec with
    | none => (st.free r).map fun st => (.oom, st)
    | some w => (newVec st i o.fill w).bind fun st => appendEntry st s i r o.table w

def libc_putenv (s l : ℕ) (r : Option ℕ) (o : Oracle) : Option (Status × State) :=
  (st.read s).bind fun t =>
  (findEntry st fun e => strncmp t e (l + 1)).bind (putAt st s r o)

def hits (name : List UInt8) (e : List UInt8) : Bool :=
  strncmp name e (nameLength name) && e.getD (nameLength name) 0 = 61

def getenv (name : List UInt8) : Option (Option (ℕ × ℕ)) :=
  if nameLength name ≠ 0 ∧ nameLength name = name.length then
    (findEntry st (hits name)).map fun found => found.2.map fun p => (p, nameLength name + 1)
  else some none

def State.alloc (s : ℕ) (t : List UInt8) : State :=
  { st with text := update st.text s t, live := insert s st.live }

def setenvStore (var value : List UInt8) (o : Oracle) : Option (Status × State) :=
  match o.str with
  | none => some (.oom, st)
  | some s =>
    libc_putenv (st.alloc s (var.take (nameLength var) ++ 61 :: value)) s (nameLength var)
      (some s) o

def setenv (var : Option (List UInt8)) (value : List UInt8) (overwrite : Bool)
    (o : Oracle) : Option (Status × State) :=
  match var with
  | none => some (.EINVAL, st)
  | some var =>
    if nameLength var = 0 ∨ nameLength var ≠ var.length then some (.EINVAL, st)
    else if overwrite then setenvStore st var value o
    else (getenv st var).bind fun found =>
      if found.isSome then some (.done, st) else setenvStore st var value o

/-- The loop of `unsetenv` from cell `e` on, with `eo` cells kept so far. -/
def unsetLoop (hit : List UInt8 → Bool) (v : ℕ) : ℕ → ℕ → ℕ → State → Option State
  | 0, _, _, _ => none
  | fuel + 1, e, eo, st =>
    (st.vecs v).bind fun vec =>
    vec.cells[e]?.bind fun cell =>
    match cell with
    | none => if eo ≠ e then st.storeCell v eo none else some st
    | some p =>
      (st.read p).bind fun t =>
      if hit t then (env_rm_add st (some p) none true).bind (unsetLoop hit v fuel (e + 1) eo)
      else if eo ≠ e then (st.storeCell v eo (some p)).bind (unsetLoop hit v fuel (e + 1) (eo + 1))
      else unsetLoop hit v fuel (e + 1) (eo + 1) st

def unsetenv (name : List UInt8) : Option (Status × State) :=
  if nameLength name = 0 ∨ nameLength name ≠ name.length then some (.EINVAL, st)
  else match st.environ with
    | none => some (.done, st)
    | some v => (unsetLoop (hits name) v (st.cells.length + 1) 0 0 st).map fun st => (.done, st)

def putenv (s : ℕ) (o : Oracle) : Option (Status × State) :=
  (st.read s).bind fun t =>
  if nameLength t = 0 ∨ nameLength t = t.length then unsetenv st t
  else libc_putenv st s (nameLength t) none o

inductive Call where
  | getenv (name : List UInt8)
  | setenv (var : Option (List UInt8)) (value : List UInt8) (overwrite : Bool)
  | putenv (s : ℕ) (text : List UInt8)
  | unsetenv (name : List UInt8)
  /-- The caller gives up a string of its own. -/
  | release (s : ℕ)

def State.hold (s : ℕ) (t : List UInt8) : State :=
  { st with text := update st.text s t, owned := insert s st.owned }

def State.letGo (s : ℕ) : State := { st with owned := st.owned.erase s }

def exec (o : Oracle) : Call → Option (Status × State)
  | .getenv name => (getenv st name).map fun _ => (.done, st)
  | .setenv var value overwrite => setenv st var value overwrite o
  | .putenv s t => putenv (st.hold s t) s o
  | .unsetenv name => unsetenv st name
  | .release s => some (.done, st.letGo s)

/-- The string of a `putenv` is none that `setenv` has allocated, and the caller does not change or
give up a string that is in the environment. -/
def Polite : Call → Prop
  | .putenv s t => s ∉ st.live ∧ (s ∈ st.entries → st.text s = t)
  | .release s => s ∉ st.entries
  | _ => True

def Fresh (o : Oracle) : Prop := ∀ s, o.str = some s → s ∉ st.live ∧ s ∉ st.owned

abbrev Map := List UInt8 → Option (List UInt8)

def parse (t : List UInt8) : Option (List UInt8 × List UInt8) :=
  if nameLength t ≠ 0 ∧ nameLength t < t.length then
    some (t.take (nameLength t), t.drop (nameLength t + 1))
  else none

def State.pairs : List (List UInt8 × List UInt8) :=
  st.entries.filterMap fun p => parse (st.text p)

def State.map : Map := fun name => st.pairs.lookup name

end

def effect (m : Map) : Call → Map
  | .getenv _ => m
  | .setenv none _ _ => m
  | .setenv (some var) value overwrite =>
    if overwrite = true ∨ m var = none then update m var (some value) else m
  | .putenv _ t =>
    match parse t with
    | some (name, value) => update m name (some value)
    | none => update m t none
  | .unsetenv name => update m name none
  | .release _ => m

inductive Run : State → Map → State → Map → Prop where
  | refl (st : State) (m : Map) : Run st m st m
  | step {st₀ st st' : State} {m₀ m : Map} {c : Call} {o : Oracle} {status : Status}
      (h : Run st₀ m₀ st m) (hc : Polite st c) (ho : Fresh st o)
      (he : exec st o c = some (status, st')) :
      Run st₀ m₀ st' (if status = .done then effect m c else m)

/-- The environment that the program is started with: its strings are not allocated, its names are
different, and it has a terminator. -/
structure Initial (st : State) : Prop where
  live : st.live = ∅
  oldenv : st.oldenv = none
  env_alloced : st.env_alloced = []
  owned : ∀ p ∈ st.entries, p ∈ st.owned
  names : (st.pairs.map Prod.fst).Nodup
  terminated : ∀ v, st.environ = some v → ∃ vec, st.vecs v = some vec ∧ none ∈ vec.cells

end Environ
