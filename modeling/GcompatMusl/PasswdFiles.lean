import GcompatMusl.MuslString

/-! # Lines of the group and passwd files

musl's `__getgrent_a` and `__getpwent_a`. A stream is the list of lines that `getline` will
deliver, each with its newline if it has one. A line is parsed in place: a pointer into it
is an offset, and the separators are overwritten with zeros. -/
namespace PasswdFiles

open FlatMemory MuslString List

/-- What one successful `getline` stores, never empty. -/
abbrev Line := { l : List UInt8 // l ≠ [] }

def linesOf : List UInt8 → List Line
  | [] => []
  | b :: rest =>
    if b = 10 then ⟨[b], by simp⟩ :: linesOf rest
    else match linesOf rest with
    | [] => [⟨[b], by simp⟩]
    | l :: ls => ⟨b :: l.val, by simp⟩ :: ls

/-- The buffer `*line`: `size` bytes, of which the last is zero. Nothing after it is read,
so it is kept zero too. -/
structure Block where
  bytes : ByteMem
  size : ℕ
  zeros : ∀ i, size ≤ i + 1 → bytes i = 0

/-- `line[0][l-1] = 0` after `getline`, which has put a zero at `l` itself. -/
def Block.ofLine (l : Line) : Block where
  bytes i := if i + 1 < l.val.length then l.val.getD i 0 else 0
  size := l.val.length + 1
  zeros i hi := by
    rw [if_neg (by omega)]

section

variable (b : Block) (s : ℕ)

def Block.cut : Block where
  bytes := store b.bytes s 0
  size := b.size
  zeros i hi := by
    by_cases h : i = s
    · subst h
      exact store_self _ _ _
    · rw [store_ne _ _ h]
      exact b.zeros i hi

def Block.strlen : ℕ := strlenLoop b.bytes b.size s - s

def Block.string : List UInt8 :=
  (List.range (b.strlen s)).map fun i => b.bytes (s + i)

def strchrnulLoop (m : ByteMem) (c : UInt8) : ℕ → ℕ → ℕ
  | 0, s => s
  | fuel + 1, s => if m s ≠ 0 ∧ m s ≠ c then strchrnulLoop m c fuel (s + 1) else s

def Block.strchr (c : UInt8) : Option ℕ :=
  let r := strchrnulLoop b.bytes c b.size s
  if b.bytes r = c then some r else none

def atouLoop (m : ByteMem) : ℕ → BitVec 32 → ℕ → BitVec 32 × ℕ
  | 0, x, s => (x, s)
  | fuel + 1, x, s =>
    if 48 ≤ (m s).toNat ∧ (m s).toNat < 58 then
      atouLoop m fuel (10 * x + BitVec.ofNat 32 ((m s).toNat - 48)) (s + 1)
    else (x, s)

def Block.atou : BitVec 32 × ℕ := atouLoop b.bytes b.size 0 s

def Block.field : Option (Block × ℕ) :=
  match b.strchr s 58 with
  | none => none
  | some r => some (b.cut r, r + 1)

def Block.number : Option (BitVec 32 × Block × ℕ) :=
  let (x, r) := b.atou s
  if b.bytes r = 58 then some (x, b.cut r, r + 1) else none

end

structure Header where
  line : Block
  name : ℕ
  passwd : ℕ
  gid : BitVec 32
  mems : ℕ

def groupHeader (l : Line) : Option Header := do
  let line := Block.ofLine l
  let (line, passwd) ← line.field 1
  let (line, s) ← line.field passwd
  let (gid, line, mems) ← line.number s
  return ⟨line, 0, passwd, gid, mems⟩

def countCommas (m : ByteMem) : ℕ → ℕ → ℕ
  | 0, _ => 0
  | fuel + 1, s => if m s = 0 then 0 else (if m s = 44 then 1 else 0) + countCommas m fuel (s + 1)

def memberCount (b : Block) (s : ℕ) : ℕ :=
  (if b.bytes s ≠ 0 then 1 else 0) + countCommas b.bytes b.size s

def storeAt (mem : List (Option ℕ)) (i : ℕ) (p : Option ℕ) : Option (List (Option ℕ)) :=
  if i < mem.length then some (mem.set i p) else none

/-- The splitting loop. The byte after a comma is stepped over; a store outside the array is
`none`. -/
def splitLoop : ℕ → Block → ℕ → ℕ → List (Option ℕ) → Option (Block × ℕ × List (Option ℕ))
  | 0, b, _, i, mem => some (b, i, mem)
  | fuel + 1, b, s, i, mem =>
    if b.bytes s = 0 then some (b, i, mem)
    else if b.bytes s = 44 then
      match storeAt mem (i + 1) (some (s + 1)) with
      | none => none
      | some mem' => splitLoop fuel (b.cut s) (s + 2) (i + 1) mem'
    else splitLoop fuel b (s + 1) i mem

structure Group where
  line : Block
  name : ℕ
  passwd : ℕ
  gid : BitVec 32
  mem : List (Option ℕ)

def groupMembers (h : Header) : Option Group :=
  let mem := List.replicate (memberCount h.line h.mems + 1) none
  if h.line.bytes h.mems ≠ 0 then
    match storeAt mem 0 (some h.mems) with
    | none => none
    | some mem =>
      match splitLoop h.line.size h.line h.mems 0 mem with
      | none => none
      | some (line, i, mem) =>
        (storeAt mem (i + 1) none).map fun mem => ⟨line, h.name, h.passwd, h.gid, mem⟩
  else (storeAt mem 0 none).map fun mem => ⟨h.line, h.name, h.passwd, h.gid, mem⟩

/-- What can fail in a call: the `k`th `getline`, for want of memory or on a read error after
it has taken `getline k` bytes of the line, and the allocation of the member array. -/
structure Env where
  getline : ℕ → Option ℕ
  calloc : Bool

def noFailure : Env := ⟨fun _ => none, true⟩

def leftover (n : ℕ) (l : Line) (rest : List Line) : List Line :=
  if h : l.val.drop n ≠ [] then ⟨l.val.drop n, h⟩ :: rest else rest

def readLoop {α : Type} (parse : Line → Option α) (fails : ℕ → Option ℕ) :
    ℕ → List Line → Option α × List Line
  | _, [] => (none, [])
  | k, l :: rest =>
    match fails k with
    | some n => (none, leftover n l rest)
    | none =>
      match parse l with
      | none => readLoop parse fails (k + 1) rest
      | some a => (some a, rest)

inductive GroupRead where
  | noLine
  | noArray
  | entry (g : Group)

/-- The result with the lines left; `none` if a store goes outside the member array. -/
def getgrentA (env : Env) (lines : List Line) : Option (GroupRead × List Line) :=
  match readLoop groupHeader env.getline 0 lines with
  | (none, rest) => some (.noLine, rest)
  | (some h, rest) =>
    if !env.calloc then some (.noArray, rest)
    else (groupMembers h).map fun g => (.entry g, rest)

structure Passwd where
  line : Block
  name : ℕ
  passwd : ℕ
  uid : BitVec 32
  gid : BitVec 32
  gecos : ℕ
  dir : ℕ
  shell : ℕ

def passwdLine (l : Line) : Option Passwd := do
  let line := Block.ofLine l
  let (line, passwd) ← line.field 1
  let (line, s) ← line.field passwd
  let (uid, line, s) ← line.number s
  let (gid, line, gecos) ← line.number s
  let (line, dir) ← line.field gecos
  let (line, shell) ← line.field dir
  return ⟨line, 0, passwd, uid, gid, gecos, dir, shell⟩

def getpwentA (env : Env) (lines : List Line) : Option Passwd × List Line :=
  readLoop passwdLine env.getline 0 lines

/-- The lines that the open streams still have. `database` is the static `f`, null until it is first
used, and `file` what `fopen` would open there. -/
structure Files where
  stream : ℕ → List Line
  database : Option (List Line)
  file : Option (List Line)

def Files.lines (F : Files) : Option ℕ → Option (List Line)
  | some i => some (F.stream i)
  | none =>
    match F.database with
    | some lines => some lines
    | none => F.file

def Files.advance (F : Files) (rest : List Line) : Option ℕ → Files
  | some i => { F with stream := Function.update F.stream i rest }
  | none => { F with database := some rest }

def filesOf (bytes : List UInt8) : Files := ⟨fun _ => linesOf bytes, none, some (linesOf bytes)⟩

@[simp]
theorem Files.lines_advance (F : Files) (rest : List Line) (stream : Option ℕ) :
    (F.advance rest stream).lines stream = some rest := by
  cases stream with
  | none => rfl
  | some i => simp [Files.lines, Files.advance]

def Files.entries {β : Type} (F : Files) (stream : Option ℕ) (entry : Line → Option β) : List β :=
  match F.lines stream with
  | none => []
  | some lines => lines.filterMap entry

section ReadLoop

variable {α : Type}

/-- A call that finds an entry has stepped over lines that do not parse, and nothing else. -/
theorem readLoop_found (h : readLoop parse fails k lines = (some a, rest)) :
    ∃ skipped l, lines = skipped ++ l :: rest ∧ (∀ x ∈ skipped, parse x = none) ∧
      parse l = some a := by
  induction lines generalizing k with
  | nil => simp [readLoop] at h
  | cons l lines ih =>
    rw [readLoop] at h
    cases hf : fails k with
    | some n => simp [hf] at h
    | none =>
      cases hp : parse l with
      | none =>
        simp only [hf, hp] at h
        obtain ⟨skipped, l', rfl, hskip, hl'⟩ := ih h
        exact ⟨l :: skipped, l', rfl, forall_mem_cons.mpr ⟨hp, hskip⟩, hl'⟩
      | some b =>
        simp only [hf, hp] at h
        obtain ⟨rfl, rfl⟩ := h
        exact ⟨[], l, rfl, by simp, hp⟩

theorem filterMap_of_found {β : Type} (entry : Line → Option β)
    (h : readLoop parse fails k lines = (some a, rest))
    (hnone : ∀ l, parse l = none → entry l = none) :
    ∃ l, parse l = some a ∧ lines.filterMap entry = (entry l).toList ++ rest.filterMap entry := by
  obtain ⟨skipped, l, rfl, hskip, hl⟩ := readLoop_found h
  have hnil : skipped.filterMap entry = [] :=
    filterMap_eq_nil_iff.mpr fun x hx => hnone x (hskip x hx)
  refine ⟨l, hl, ?_⟩
  rw [filterMap_append, hnil, filterMap_cons]
  cases entry l <;> rfl

/-- Without a failure the end is reported only if no line parses. -/
theorem readLoop_none (hf : ∀ k, fails k = none)
    (h : readLoop parse fails k lines = ((none : Option α), rest)) :
    rest = [] ∧ ∀ l ∈ lines, parse l = none := by
  induction lines generalizing k with
  | nil =>
    cases h
    exact ⟨rfl, by simp⟩
  | cons l lines ih =>
    rw [readLoop, hf k] at h
    cases hp : parse l with
    | none =>
      simp only [hp] at h
      obtain ⟨hrest, hlines⟩ := ih h
      exact ⟨hrest, forall_mem_cons.mpr ⟨hp, hlines⟩⟩
    | some b => simp [hp] at h

end ReadLoop

section Members

theorem le_strchrnulLoop (m : ByteMem) (c : UInt8) (fuel s : ℕ) : s ≤ strchrnulLoop m c fuel s := by
  fun_induction strchrnulLoop m c fuel s with
  | case2 fuel s hs ih => omega
  | _ => omega

theorem le_atouLoop (m : ByteMem) (fuel : ℕ) (x : BitVec 32) (s : ℕ) :
    s ≤ (atouLoop m fuel x s).2 := by
  fun_induction atouLoop m fuel x s with
  | case2 fuel x s hs ih => omega
  | _ => exact Nat.le_refl _

/-- What follows a parsed field has not been changed. -/
structure Parsed (b : Block) (s : ℕ) (b' : Block) (r : ℕ) : Prop where
  le : s ≤ r
  size : b'.size = b.size
  bytes : ∀ j, r ≤ j → b'.bytes j = b.bytes j

theorem Parsed.trans (h : Parsed b s b' r) (h' : Parsed b' r b'' t) : Parsed b s b'' t where
  le := Nat.le_trans h.le h'.le
  size := h'.size.trans h.size
  bytes j hj := (h'.bytes j hj).trans (h.bytes j (Nat.le_trans h'.le hj))

theorem parsed_cut {b : Block} (h : s ≤ r) : Parsed b s (b.cut r) (r + 1) where
  le := Nat.le_succ_of_le h
  size := rfl
  bytes j hj := store_ne _ _ (by omega)

theorem parsed_field {b : Block} (h : b.field s = some (b', r)) : Parsed b s b' r := by
  rw [Block.field, Block.strchr] at h
  have hle := le_strchrnulLoop b.bytes 58 b.size s
  by_cases hc : b.bytes (strchrnulLoop b.bytes 58 b.size s) = 58
  · rw [if_pos hc] at h
    cases h
    exact parsed_cut hle
  · rw [if_neg hc] at h
    cases h

theorem parsed_number {b : Block} (h : b.number s = some (x, b', r)) : Parsed b s b' r := by
  have hle := le_atouLoop b.bytes b.size 0 s
  rw [Block.number, Block.atou] at h
  rcases hatou : atouLoop b.bytes b.size 0 s with ⟨x', r'⟩
  rw [hatou] at h hle
  dsimp only at h
  split_ifs at h
  cases h
  exact parsed_cut hle

theorem parsed_groupHeader (h : groupHeader l = some hd) :
    Parsed (Block.ofLine l) 1 hd.line hd.mems := by
  obtain ⟨⟨b1, p1⟩, h1, h⟩ := Option.bind_eq_some_iff.mp h
  obtain ⟨⟨b2, p2⟩, h2, h⟩ := Option.bind_eq_some_iff.mp h
  obtain ⟨⟨gid, b3, p3⟩, h3, h⟩ := Option.bind_eq_some_iff.mp h
  cases h
  exact ((parsed_field h1).trans (parsed_field h2)).trans (parsed_number h3)

/-- Text `m` that ends at `n`: a byte after the comma is stepped over, so no more members are stored
than there are commas. -/
theorem splitLoop_inside {m : ByteMem} (hend : ∀ j, n ≤ j → m j = 0)
    (htext : ∀ j, s ≤ j → j < n → m j ≠ 0) (hb : ∀ j, s ≤ j → b.bytes j = m j)
    (hn : n ≤ s + k) (hroom : i + countCommas m k s + 1 < mem.length) :
    ∃ b' i' mem', splitLoop fuel b s i mem = some (b', i', mem') ∧ i' + 1 < mem'.length := by
  induction fuel generalizing b s i mem k with
  | zero => exact ⟨b, i, mem, rfl, by omega⟩
  | succ fuel ih =>
    rw [splitLoop, hb s (Nat.le_refl s)]
    by_cases hzero : m s = 0
    · exact ⟨b, i, mem, if_pos hzero, by omega⟩
    have hlt : s < n := by
      by_contra hle
      exact hzero (hend s (Nat.le_of_not_lt hle))
    obtain ⟨k, rfl⟩ : ∃ k', k = k' + 1 := ⟨k - 1, by omega⟩
    rw [countCommas, if_neg hzero] at hroom
    rw [if_neg hzero]
    by_cases hcomma : m s = 44
    · rw [if_pos hcomma] at hroom
      rw [if_pos hcomma, storeAt, if_pos (by omega)]
      have hcut : ∀ j, s + 2 ≤ j → (b.cut s).bytes j = m j := by
        intro j hj
        rw [← hb j (by omega)]
        exact store_ne _ _ (by omega)
      by_cases hlast : s + 1 < n
      · obtain ⟨k, rfl⟩ : ∃ k', k = k' + 1 := ⟨k - 1, by omega⟩
        rw [countCommas, if_neg (htext (s + 1) (by omega) hlast),
          show s + 1 + 1 = s + 2 from rfl] at hroom
        exact ih (fun j hj => htext j (by omega)) hcut (k := k) (by omega)
          (by rw [length_set]; omega)
      · exact ih (fun j hj => htext j (by omega)) hcut (k := 0) (by omega)
          (by rw [length_set, countCommas]; omega)
    · rw [if_neg hcomma, Nat.zero_add] at hroom
      rw [if_neg hcomma]
      exact ih (fun j hj => htext j (by omega)) (fun j hj => hb j (by omega)) (by omega) hroom

/-- In a line without a null byte the members fit into their array. -/
theorem groupMembers_text (hl : 0 ∉ l.val) (h : groupHeader l = some hd) :
    ∃ g, groupMembers hd = some g := by
  have hparsed := parsed_groupHeader h
  have hbytes : ∀ j, hd.mems ≤ j →
      hd.line.bytes j = if j + 1 < l.val.length then l.val.getD j 0 else 0 := hparsed.bytes
  have hsize : hd.line.size = l.val.length + 1 := hparsed.size
  rw [groupMembers]
  by_cases hfirst : hd.line.bytes hd.mems = 0
  · rw [if_neg (not_not.mpr hfirst), storeAt, if_pos (by simp)]
    exact ⟨_, rfl⟩
  have hmems : hd.mems + 1 < l.val.length := by
    by_contra hlong
    exact hfirst (by rw [hbytes _ (Nat.le_refl _), if_neg hlong])
  have hend : ∀ j, l.val.length - 1 ≤ j → hd.line.bytes j = 0 := by
    intro j hj
    rw [hbytes j (by omega), if_neg (by omega)]
  have htext : ∀ j, hd.mems ≤ j → j < l.val.length - 1 → hd.line.bytes j ≠ 0 := by
    intro j hj hlt hzero
    rw [hbytes j hj, if_pos (by omega), getD_eq_getElem?_getD, getElem?_eq_getElem (by omega),
      Option.getD_some] at hzero
    exact hl (hzero ▸ getElem_mem (by omega))
  have hcount : memberCount hd.line hd.mems =
      1 + countCommas hd.line.bytes hd.line.size hd.mems := by
    rw [memberCount, if_pos hfirst]
  obtain ⟨b', i', mem', hsplit, hlast⟩ : ∃ b' i' mem', splitLoop hd.line.size hd.line hd.mems 0
      ((replicate (memberCount hd.line hd.mems + 1) none).set 0 (some hd.mems)) =
        some (b', i', mem') ∧ i' + 1 < mem'.length :=
    splitLoop_inside hend htext (fun j _ => rfl) (k := hd.line.size) (by omega)
      (by rw [length_set, length_replicate]; omega)
  rw [if_pos hfirst, storeAt, if_pos (by simp)]
  dsimp only
  rw [hsplit]
  dsimp only
  rw [storeAt, if_pos hlast]
  exact ⟨_, rfl⟩

end Members

variable (b : Block)

variable (s : ℕ)

theorem Block.strlen_spec : StringAt b.bytes s (b.strlen s) := by
  rcases string_or_nonzero b.bytes s b.size with ⟨n, hn, hstr⟩ | hnz
  · rw [Block.strlen, strlenLoop_of_string hstr hn, Nat.add_sub_cancel_left]
    exact hstr
  · -- Every byte from `size` on is zero, so a block without a terminator has no byte at all.
    have hsize : b.size = 0 := by
      by_contra hpos
      exact hnz (b.size - 1) (by omega) (b.zeros _ (by omega))
    have hz : b.bytes s = 0 := b.zeros s (by omega)
    have hlen : b.strlen s = 0 := by
      rw [Block.strlen, hsize]
      exact Nat.sub_self s
    rw [hlen]
    exact .zero hz

theorem Block.strlen_le_size : b.strlen s ≤ b.size := by
  by_contra h
  exact (b.strlen_spec s).nonzero b.size (by omega) (b.zeros _ (by omega))

@[simp]
theorem Block.string_length : (b.string s).length = b.strlen s := by
  simp [Block.string]

theorem Block.string_ne_zero : ∀ x ∈ b.string s, x ≠ 0 := by
  intro x hx
  obtain ⟨i, hi, rfl⟩ := mem_map.mp hx
  exact (b.strlen_spec s).nonzero i (mem_range.mp hi)

theorem Block.string_getElem (h : i < (b.string s).length) : (b.string s)[i] = b.bytes (s + i) := by
  simp [Block.string]

end PasswdFiles
