import GcompatMusl.EntryBuffer
import GcompatMusl.LossyReader

/-! # The reentrant group reader

`__fgetgrent_r` of `libgcompat/grp.c` over musl's `fgetgrent` and `getgrent`, whose static storage
every further call frees or replaces. The storage is numbered by generation, and a pointer into it
is good only in its own one. -/
namespace GroupReader

open FlatMemory MuslString PasswdFiles EntryBuffer LossyReader Function List Option

structure Storage where
  lineGen : ℕ
  memGen : ℕ
  line : Block
  mem : List Ptr

structure World where
  files : Files
  storage : Bool → Storage

structure GroupStruct where
  name : Ptr
  passwd : Ptr
  gid : BitVec 32
  mem : Ptr

def World.put (w : World) (own : Bool) (files : Files) (st : Storage) : World :=
  ⟨files, Function.update w.storage own st⟩

def memberPtr (own : Bool) (gen : ℕ) : Option ℕ → Ptr
  | none => .null
  | some off => .line own gen off

def fgetgrent (stream : Option ℕ) (env : Env) (w : World) : Option (Option Group × World) :=
  match w.files.lines stream with
  | none => some (none, w)
  | some lines =>
    match getgrentA env lines with
    | none => none
    | some (read, rest) =>
      let own := stream.isSome
      let st := w.storage own
      let files := w.files.advance rest stream
      match read with
      | .noLine => some (none, w.put own files { st with lineGen := st.lineGen + 1 })
      | .noArray =>
        some (none, w.put own files { st with lineGen := st.lineGen + 1, memGen := st.memGen + 1 })
      | .entry g =>
        some (some g, w.put own files
          ⟨st.lineGen + 1, st.memGen + 1, g.line, g.mem.map (memberPtr own (st.lineGen + 1))⟩)

def grtmp (own : Bool) (st : Storage) (g : Group) : GroupStruct :=
  ⟨.line own st.lineGen g.name, .line own st.lineGen g.passwd, g.gid, .mem own st.memGen 0⟩

def alignPtr (base cursor : ℕ) : ℕ := (base + cursor + 7) / 8 * 8 - base

/-- The loop that finds `nmem`, the null included, and `nameslen`; `none` if it would read
past the array or follow something that is no string. -/
def scanMembers (line : Block) : List Ptr → Option (ℕ × ℕ)
  | .null :: _ => some (1, 0)
  | .line _ _ off :: ps => (scanMembers line ps).map fun r => (r.1 + 1, line.strlen off + 1 + r.2)
  | _ => none

def copyPointers : List Ptr → Mem Ptr → ℕ → Mem Ptr
  | [], cells, _ => cells
  | p :: ps, cells, o => copyPointers ps (store cells o p) (o + 8)

def copyNames (line : Block) (cells : Mem Ptr) : ℕ → ℕ → ByteMem → ℕ → Option ByteMem
  | 0, _, m, _ => some m
  | n + 1, o, m, cursor =>
    match cells o with
    | .line _ _ off =>
      let r := stpcpy m cursor line off
      copyNames line cells n (o + 8) r.1 (r.2 + 1)
    | _ => none

/-- The part after the two strings, for the array `mem` of the static entry. The struct keeps
the pointer to that array. -/
def copyMembers (line : Block) (mem : List Ptr) (B : Buffer) (c : Copied) (grp : GroupStruct) :
    Option (Status GroupStruct × Buffer) :=
  match scanMembers line mem with
  | none => none
  | some (nmem, nameslen) =>
    let members := alignPtr B.base c.cursor
    if members + (nameslen + nmem * 8) > B.len then some (.range, { B with bytes := c.bytes })
    else
      let cells := copyPointers (mem.take nmem) B.cells members
      match copyNames line cells (nmem - 1) members c.bytes (members + nmem * 8) with
      | none => none
      | some bytes => some (.ok grp, { B with bytes := bytes, cells := cells })

def fgetgrentRBody (stream : Option ℕ) (env : Env) (w : World) (B : Buffer) :
    Option (Status GroupStruct × World × Buffer) :=
  match fgetgrent stream env w with
  | none => none
  | some (none, w') => some (.noent, w', B)
  | some (some g, w') =>
    let st := w'.storage stream.isSome
    let grp := grtmp stream.isSome st g
    let c := copyFields g.line B.len [some g.name, some g.passwd] B.bytes 0
    if !c.ok then some (.range, w', { B with bytes := c.bytes })
    else
      let grp := { grp with name := c.ptrs.getD 0 grp.name, passwd := c.ptrs.getD 1 grp.passwd }
      (copyMembers g.line st.mem B c grp).map fun r => (r.1, w', r.2)

def fgetgrentR (stream : ℕ) := fgetgrentRBody (some stream)

def getgrentR := fgetgrentRBody none

structure GroupEntry where
  name : List UInt8
  passwd : List UInt8
  gid : BitVec 32
  members : List (List UInt8)
  deriving DecidableEq

def memberOffsets : List (Option ℕ) → List ℕ
  | some off :: mem => off :: memberOffsets mem
  | _ => []

def groupEntryOf (g : Group) : GroupEntry :=
  ⟨g.line.string g.name, g.line.string g.passwd, g.gid, (memberOffsets g.mem).map g.line.string⟩

def headSize (e : GroupEntry) : ℕ := e.name.length + 1 + (e.passwd.length + 1)

def membersSize (e : GroupEntry) : ℕ :=
  (e.members.map fun m => m.length + 1).sum + (e.members.length + 1) * 8

def Fits (B : Buffer) (e : GroupEntry) : Prop :=
  headSize e ≤ B.len ∧ alignPtr B.base (headSize e) + membersSize e ≤ B.len

def World.string (w : World) (B : Buffer) : Ptr → Option (List UInt8)
  | .line own gen off =>
    if gen = (w.storage own).lineGen then some ((w.storage own).line.string off) else none
  | p => B.read p

def untilNull : List Ptr → Option (List Ptr)
  | [] => none
  | .null :: _ => some []
  | p :: ps => (untilNull ps).map (p :: ·)

def World.array (w : World) (B : Buffer) : Ptr → Option (List Ptr)
  | .mem own gen idx =>
    if gen = (w.storage own).memGen then untilNull ((w.storage own).mem.drop idx) else none
  | .buf o => untilNull ((List.range ((B.len - o) / 8)).map fun i => B.cells (o + i * 8))
  | _ => none

/-- Everything that is reached from the struct; `none` if a pointer dangles. -/
def readGroup (w : World) (B : Buffer) (grp : GroupStruct) : Option GroupEntry :=
  (w.string B grp.name).bind fun name =>
  (w.string B grp.passwd).bind fun passwd =>
  (w.array B grp.mem).bind fun ps =>
  (ps.mapM (w.string B)).map fun members => ⟨name, passwd, grp.gid, members⟩

variable {mem : List (Option ℕ)} {g : Group} {stream : Option ℕ} {u : World}

theorem memberOffsets_append (h : none ∈ mem) :
    ∃ tail, mem = (memberOffsets mem).map some ++ none :: tail := by
  induction mem with
  | nil => simp at h
  | cons p mem ih =>
    cases p with
    | none => exact ⟨mem, rfl⟩
    | some off =>
      obtain ⟨tail, htail⟩ := ih (by simpa using h)
      exact ⟨tail, congrArg (some off :: ·) htail⟩

theorem none_mem_of_storeAt (h : storeAt mem i none = some mem') : none ∈ mem' := by
  rw [storeAt] at h
  split at h
  · next hi =>
    cases h
    exact mem_set hi none
  · cases h

theorem groupMembers_null (hg : groupMembers h = some g) : none ∈ g.mem := by
  rw [groupMembers] at hg
  split at hg
  · split at hg
    · cases hg
    · split at hg
      · cases hg
      · obtain ⟨mem, hmem, rfl⟩ := map_eq_some_iff.mp hg
        exact none_mem_of_storeAt hmem
  · obtain ⟨mem, hmem, rfl⟩ := map_eq_some_iff.mp hg
    exact none_mem_of_storeAt hmem

section Array

variable (own : Bool) (gen : ℕ)

theorem scanMembers_eq (line : Block) (offs : List ℕ) (tail : List Ptr) :
    scanMembers line (offs.map (Ptr.line own gen) ++ .null :: tail) =
      some (offs.length + 1, need line offs) := by
  induction offs with
  | nil => rfl
  | cons off offs ih =>
    rw [map_cons, cons_append, scanMembers, ih]
    rfl

end Array

theorem untilNull_append (h : .null ∉ ps) (tail : List Ptr) :
    untilNull (ps ++ .null :: tail) = some ps := by
  induction ps with
  | nil => rfl
  | cons p ps ih =>
    rw [mem_cons, not_or] at h
    rw [cons_append, untilNull, ih h.2]
    · rfl
    · exact Ne.symm h.1

theorem copyPointers_before (ps : List Ptr) (cells : Mem Ptr) (o : ℕ) (ha : a < o) :
    copyPointers ps cells o a = cells a := by
  induction ps generalizing cells o with
  | nil => rfl
  | cons p ps ih =>
    rw [copyPointers, ih _ _ (by omega)]
    exact store_ne _ _ (by omega)

theorem copyPointers_get (ps : List Ptr) (cells : Mem Ptr) (o : ℕ) (hi : i < ps.length) :
    copyPointers ps cells o (o + i * 8) = ps[i] := by
  induction ps generalizing cells o i with
  | nil => simp at hi
  | cons p ps ih =>
    rw [copyPointers]
    cases i with
    | zero =>
      rw [Nat.add_zero, copyPointers_before _ _ _ (by omega)]
      exact store_self _ _ _
    | succ i =>
      rw [show o + (i + 1) * 8 = o + 8 + i * 8 by omega, ih _ _ (by simpa using hi)]
      rfl

theorem copyNames_eq (line : Block) (cells : Mem Ptr) (own : Bool) (gen : ℕ) (offs : List ℕ)
    (o : ℕ) (m : ByteMem) (cursor : ℕ)
    (h : ∀ i (hi : i < offs.length), cells (o + i * 8) = .line own gen offs[i]) :
    ∃ m', copyNames line cells offs.length o m cursor = some m' ∧ ∀ a < cursor, m' a = m a := by
  induction offs generalizing o m cursor with
  | nil => exact ⟨m, rfl, fun _ _ => rfl⟩
  | cons off offs ih =>
    have hhead : cells o = .line own gen off := by
      have := h 0 (by simp)
      exact this
    obtain ⟨hend, hcopy⟩ := stpcpy_spec m cursor line off
    obtain ⟨m', heq, hbefore⟩ := ih (o + 8) (stpcpy m cursor line off).1
      ((stpcpy m cursor line off).2 + 1) fun i hi => by
        have := h (i + 1) (by simpa using hi)
        rwa [show o + (i + 1) * 8 = o + 8 + i * 8 by omega] at this
    refine ⟨m', ?_, fun a ha => ?_⟩
    · rw [length_cons, copyNames, hhead]
      exact heq
    · rw [hbefore a (by omega)]
      exact hcopy.outside a (.inl ha)

section CopyMembers

variable (own : Bool) (gen : ℕ) (line : Block) (offs : List ℕ) (tail : List Ptr) (B : Buffer)
  (c : Copied) (grp : GroupStruct)

theorem copyMembers_fits
    (hfit : alignPtr B.base c.cursor + (need line offs + (offs.length + 1) * 8) ≤ B.len) :
    ∃ B', copyMembers line (offs.map (Ptr.line own gen) ++ .null :: tail) B c grp =
        some (.ok grp, B') ∧ B'.len = B.len ∧ ∀ a < c.cursor, B'.bytes a = c.bytes a := by
  have htake : (offs.map (Ptr.line own gen) ++ .null :: tail).take (offs.length + 1) =
      offs.map (Ptr.line own gen) ++ [.null] := by
    rw [take_append]
    simp
  have hcells : ∀ i (hi : i < offs.length),
      copyPointers (offs.map (Ptr.line own gen) ++ [.null]) B.cells (alignPtr B.base c.cursor)
        (alignPtr B.base c.cursor + i * 8) = .line own gen offs[i] := by
    intro i hi
    rw [copyPointers_get _ _ _ (by simp; omega), getElem_append_left (by simpa using hi),
      getElem_map]
  obtain ⟨m, hm, hbefore⟩ := copyNames_eq line _ own gen offs _ c.bytes
    (alignPtr B.base c.cursor + (offs.length + 1) * 8) hcells
  refine ⟨⟨B.base, B.len, m, copyPointers (offs.map (Ptr.line own gen) ++ [.null]) B.cells
    (alignPtr B.base c.cursor)⟩, ?_, rfl, fun a ha => hbefore a ?_⟩
  · rw [copyMembers, scanMembers_eq]
    dsimp only
    rw [if_neg (by omega), htake, Nat.add_sub_cancel, hm]
  · rw [alignPtr]
    omega

theorem copyMembers_small
    (hsmall : ¬ alignPtr B.base c.cursor + (need line offs + (offs.length + 1) * 8) ≤ B.len) :
    ∃ B', copyMembers line (offs.map (Ptr.line own gen) ++ .null :: tail) B c grp =
      some (.range, B') := by
  rw [copyMembers, scanMembers_eq]
  dsimp only
  rw [if_pos (by omega)]
  exact ⟨_, rfl⟩

end CopyMembers

structure Found (stream : Option ℕ) (env : Env) (w : World) (g : Group) (w' : World) : Prop where
  lines : ∃ lines header rest, w.files.lines stream = some lines ∧
    readLoop groupHeader env.getline 0 lines = (some header, rest) ∧
    groupMembers header = some g ∧ w'.files.lines stream = some rest
  storage : w'.storage stream.isSome =
    ⟨(w.storage stream.isSome).lineGen + 1, (w.storage stream.isSome).memGen + 1, g.line,
      g.mem.map (memberPtr stream.isSome ((w.storage stream.isSome).lineGen + 1))⟩

theorem fgetgrent_found (h : fgetgrent stream env w = some (some g, w')) :
    Found stream env w g w' := by
  rw [fgetgrent] at h
  cases hlines : w.files.lines stream with
  | none => simp [hlines] at h
  | some lines =>
    simp only [hlines] at h
    rw [getgrentA] at h
    rcases hread : readLoop groupHeader env.getline 0 lines with ⟨header | header, rest⟩
    · simp [hread] at h
    · simp only [hread] at h
      cases hcalloc : env.calloc with
      | false => simp [hcalloc] at h
      | true =>
        cases hg : groupMembers header with
        | none => simp [hcalloc, hg] at h
        | some g' =>
          simp only [hcalloc, hg, Bool.not_true, Bool.false_eq_true, if_false, map_some] at h
          obtain ⟨rfl, rfl⟩ := h
          refine ⟨⟨lines, header, rest, hlines, hread, hg, ?_⟩, ?_⟩ <;> simp [World.put]

theorem mapM_string {w : World} {B : Buffer} {own : Bool} {gen : ℕ} {line : Block}
    (hgen : (w.storage own).lineGen = gen) (hline : (w.storage own).line = line)
    (offs : List ℕ) :
    (offs.map (Ptr.line own gen)).mapM (w.string B) = some (offs.map line.string) := by
  induction offs with
  | nil => rfl
  | cons off offs ih => simp [mapM_cons, ih, World.string, hgen, hline]

theorem Found.array (h : Found stream env w g w') :
    ∃ tail, (w'.storage stream.isSome).mem = (memberOffsets g.mem).map
      (Ptr.line stream.isSome (w'.storage stream.isSome).lineGen) ++ .null :: tail := by
  obtain ⟨-, header, -, -, -, hg, -⟩ := h.lines
  obtain ⟨tail, htail⟩ := memberOffsets_append (groupMembers_null hg)
  refine ⟨tail.map (memberPtr stream.isSome ((w.storage stream.isSome).lineGen + 1)), ?_⟩
  rw [h.storage]
  conv_lhs => rw [htail]
  simp [memberPtr]

theorem Found.readGroup {w w' : World} (h : Found stream env w g w') {B : Buffer}
    {grp : GroupStruct} (hname : w'.string B grp.name = some (g.line.string g.name))
    (hpasswd : w'.string B grp.passwd = some (g.line.string g.passwd)) (hgid : grp.gid = g.gid)
    (hmem : grp.mem = .mem stream.isSome (w'.storage stream.isSome).memGen 0) :
    readGroup w' B grp = some (groupEntryOf g) := by
  obtain ⟨tail, htail⟩ := h.array
  have harray : w'.array B grp.mem = some ((memberOffsets g.mem).map
      (Ptr.line stream.isSome (w'.storage stream.isSome).lineGen)) := by
    rw [hmem, World.array, if_pos rfl, drop_zero, htail]
    exact untilNull_append (by simp) tail
  rw [GroupReader.readGroup, hname, hpasswd, harray, hgid]
  simp only [bind_some]
  rw [mapM_string rfl (by rw [h.storage])]
  rfl

theorem fits_iff (B : Buffer) (g : Group) :
    Fits B (groupEntryOf g) ↔ 0 + need g.line [g.name, g.passwd] ≤ B.len ∧
      alignPtr B.base (0 + need g.line [g.name, g.passwd]) +
        (need g.line (memberOffsets g.mem) + ((memberOffsets g.mem).length + 1) * 8) ≤ B.len := by
  have hhead : headSize (groupEntryOf g) = 0 + need g.line [g.name, g.passwd] := by
    simp [headSize, groupEntryOf, need]
  have hmem : membersSize (groupEntryOf g) =
      need g.line (memberOffsets g.mem) + ((memberOffsets g.mem).length + 1) * 8 := by
    simp [membersSize, groupEntryOf, need, comp_def]
  rw [Fits, hhead, hmem]

theorem fgetgrentRBody_fits (h : fgetgrent stream env w = some (some g, w'))
    (hfit : Fits B (groupEntryOf g)) :
    ∃ grp B', fgetgrentRBody stream env w B = some (.ok grp, w', B') ∧
      grp.mem = .mem stream.isSome (w'.storage stream.isSome).memGen 0 ∧
      readGroup w' B' grp = some (groupEntryOf g) := by
  have hfound := fgetgrent_found h
  obtain ⟨tail, hmem⟩ := hfound.array
  obtain ⟨hhead, hmembers⟩ := (fits_iff B g).mp hfit
  have hok := (copyFields_ok_iff g.line B.len [g.name, g.passwd] B.bytes (Nat.zero_le _)).mpr hhead
  have hcopied := copyFields_copied (m := B.bytes) hhead
  generalize hc : copyFields g.line B.len ([g.name, g.passwd].map some) B.bytes 0 = c
    at hok hcopied
  let tmp := grtmp stream.isSome (w'.storage stream.isSome) g
  let grp := { tmp with name := c.ptrs.getD 0 tmp.name, passwd := c.ptrs.getD 1 tmp.passwd }
  rw [← hcopied.cursor_eq] at hmembers
  obtain ⟨B', hB', hlen, hbefore⟩ := copyMembers_fits stream.isSome
    (w'.storage stream.isSome).lineGen g.line (memberOffsets g.mem) tail B c grp hmembers
  have hread : ∀ r s, Placed g.line c.bytes 0 c.cursor r s →
      w'.string B' r = some (g.line.string s) := by
    intro r s hr
    have hr' := (hr.of_agree hbefore).read (by rw [hlen, hcopied.cursor_eq]; exact hhead)
    obtain ⟨o, rfl, -⟩ := hr
    exact hr'
  refine ⟨grp, B', ?_, rfl, hfound.readGroup (hread _ _ (hcopied.getD 0 (by simp) _))
    (hread _ _ (hcopied.getD 1 (by simp) _)) rfl rfl⟩
  rw [fgetgrentRBody, h]
  dsimp only
  rw [show [some g.name, some g.passwd] = [g.name, g.passwd].map some from rfl, hc, hok, hmem]
  exact congrArg (Option.map _) hB'

theorem fgetgrentRBody_small (h : fgetgrent stream env w = some (some g, w'))
    (hsmall : ¬ Fits B (groupEntryOf g)) :
    ∃ B', fgetgrentRBody stream env w B = some (.range, w', B') := by
  obtain ⟨tail, hmem⟩ := (fgetgrent_found h).array
  rw [fits_iff, ← copyFields_ok_iff g.line B.len _ B.bytes (Nat.zero_le _)] at hsmall
  rw [fgetgrentRBody, h]
  dsimp only
  rw [show [some g.name, some g.passwd] = [g.name, g.passwd].map some from rfl, hmem]
  cases hok : (copyFields g.line B.len ([g.name, g.passwd].map some) B.bytes 0).ok with
  | false => exact ⟨_, rfl⟩
  | true =>
    have hhead := (copyFields_ok_iff g.line B.len _ B.bytes (Nat.zero_le _)).mp hok
    rw [← (copyFields_copied hhead).cursor_eq] at hsmall
    obtain ⟨B', hB'⟩ := copyMembers_small stream.isSome (w'.storage stream.isSome).lineGen
      g.line (memberOffsets g.mem) tail B _ _ (not_and.mp hsmall hok)
    exact ⟨B', congrArg (Option.map _) hB'⟩

theorem fgetgrentRBody_cases (h : fgetgrentRBody stream env w B = some (st, w', B')) :
    (∃ grp g, st = .ok grp ∧ fgetgrent stream env w = some (some g, w') ∧
      Fits B (groupEntryOf g) ∧ readGroup w' B' grp = some (groupEntryOf g) ∧
      grp.mem = .mem stream.isSome (w'.storage stream.isSome).memGen 0) ∨
    (∃ g, st = .range ∧ fgetgrent stream env w = some (some g, w') ∧ ¬ Fits B (groupEntryOf g)) ∨
    (st = .noent ∧ fgetgrent stream env w = some (none, w')) := by
  cases hr : fgetgrent stream env w with
  | none => simp [fgetgrentRBody, hr] at h
  | some r =>
    obtain ⟨_ | g, w1⟩ := r
    · rw [fgetgrentRBody, hr] at h
      cases h
      exact .inr (.inr ⟨rfl, rfl⟩)
    · by_cases hfit : Fits B (groupEntryOf g)
      · obtain ⟨grp, B1, heq, hmem, hread⟩ := fgetgrentRBody_fits hr hfit
        rw [h] at heq
        cases heq
        exact .inl ⟨grp, g, rfl, rfl, hfit, hread, hmem⟩
      · obtain ⟨B1, heq⟩ := fgetgrentRBody_small hr hfit
        rw [h] at heq
        cases heq
        exact .inr (.inl ⟨g, rfl, rfl, hfit⟩)

theorem fgetgrentRBody_plain (h : fgetgrentRBody stream env w B = some (st, w', B')) :
    ∃ r, fgetgrent stream env w = some (r, w') := by
  rcases fgetgrentRBody_cases h with ⟨-, g, -, hg, -⟩ | ⟨g, -, hg, -⟩ | ⟨-, hnone⟩
  · exact ⟨some g, hg⟩
  · exact ⟨some g, hg⟩
  · exact ⟨none, hnone⟩

def regions (e : GroupEntry) (n p a : ℕ) (ms : List ℕ) : List (ℕ × ℕ) :=
  (n, e.name.length + 1) :: (p, e.passwd.length + 1) :: (a, (ms.length + 1) * 8) ::
    ms.zip (e.members.map fun m => m.length + 1)

/-- In the buffer there are the name at `n`, the password at `p`, the pointer array at `a` and the
member strings at `ms`. -/
structure Layout (B : Buffer) (grp : GroupStruct) (e : GroupEntry) (n p a : ℕ) (ms : List ℕ) :
    Prop where
  pointers : grp = ⟨.buf n, .buf p, e.gid, .buf a⟩
  name : B.string n = some e.name
  passwd : B.string p = some e.passwd
  array : ∀ i (h : i < ms.length), B.cells (a + i * 8) = .buf ms[i]
  null : B.cells (a + ms.length * 8) = .null
  members : ms.map B.string = e.members.map some
  inside : ∀ r ∈ regions e n p a ms, r.1 + r.2 ≤ B.len
  disjoint : (regions e n p a ms).Pairwise fun r t => ¬ Overlap r.1 r.2 t.1 t.2

def SelfContained (B : Buffer) (grp : GroupStruct) (e : GroupEntry) : Prop :=
  ∃ n p a ms, Layout B grp e n p a ms

example : SelfContained ⟨0, 25, fun _ => 0, fun o => if o = 8 then .buf 24 else .null⟩
    ⟨.buf 0, .buf 1, 0, .buf 8⟩ ⟨[], [], 0, [[]]⟩ := by
  refine ⟨0, 1, 8, [24], rfl, rfl, rfl, ?_, rfl, rfl, by decide, ?_⟩
  · simp
  · simp [regions, overlap_iff]

theorem not_selfContained_of_mem {B : Buffer} {grp : GroupStruct} {own : Bool} {gen idx : ℕ}
    (hmem : grp.mem = .mem own gen idx) : ¬ SelfContained B grp e := by
  rintro ⟨n, p, a, ms, hl⟩
  rw [hl.pointers] at hmem
  cases hmem

/-- Any further calls of `fgetgrent`, `getgrent` and their reentrant forms, on any stream. -/
inductive Later : World → World → Prop where
  | refl (w) : Later w w
  | plain {w w' u stream env r} : fgetgrent stream env w = some (r, w') → Later w' u → Later w u
  | reentrant {w w' u stream env B B' st} : fgetgrentRBody stream env w B = some (st, w', B') →
      Later w' u → Later w u

theorem fgetgrent_memGen (h : fgetgrent stream env w = some (r, w')) (own : Bool) :
    (w.storage own).memGen ≤ (w'.storage own).memGen := by
  rw [fgetgrent] at h
  split at h
  · cases h
    exact le_rfl
  · split at h
    · cases h
    · have hput : ∀ files st, (w.storage stream.isSome).memGen ≤ st.memGen →
          (w.storage own).memGen ≤ ((w.put stream.isSome files st).storage own).memGen := by
        intro files st hle
        by_cases hown : own = stream.isSome
        · subst hown
          simpa [World.put] using hle
        · simp [World.put, update_of_ne hown]
      split at h <;> cases h <;> exact hput _ _ (by simp)

theorem Later.memGen (h : Later w u) (own : Bool) :
    (w.storage own).memGen ≤ (u.storage own).memGen := by
  induction h with
  | refl => exact le_rfl
  | plain hcall _ ih => exact (fgetgrent_memGen hcall own).trans ih
  | reentrant hcall _ ih =>
    obtain ⟨r, hr⟩ := fgetgrentRBody_plain hcall
    exact (fgetgrent_memGen hr own).trans ih

theorem members_dangle
    (hok : fgetgrentRBody stream env w B = some (.ok grp, w', B')) (hv : Later w' v)
    (hown : stream'.isSome = stream.isSome) (hnext : fgetgrent stream' env' v = some (some g', v'))
    (hu : Later v' u) : readGroup u B' grp = none := by
  rcases fgetgrentRBody_cases hok with ⟨grp, g, hst, -, -, -, hmem⟩ | ⟨-, hst, -⟩ | ⟨hst, -⟩
  · cases hst
    have hfresh : (v'.storage stream.isSome).memGen = (v.storage stream.isSome).memGen + 1 := by
      rw [← hown, (fgetgrent_found hnext).storage]
    have hbefore := hv.memGen stream.isSome
    have hafter := hu.memGen stream.isSome
    have harray : u.array B' grp.mem = none := by
      rw [hmem, World.array, if_neg (by omega)]
    simp [readGroup, harray]
  · cases hst
  · cases hst

def ReturnsSelfContained (stream : Option ℕ) (env : Env) (w : World) (B : Buffer) : Prop :=
  ∀ grp w' B', fgetgrentRBody stream env w B = some (.ok grp, w', B') →
    ∃ g, fgetgrent stream env w = some (some g, w') ∧ SelfContained B' grp (groupEntryOf g) ∧
      ∀ u, Later w' u → readGroup u B' grp = readGroup w' B' grp

/-- The struct keeps the pointer to the static member array, so the only calls that keep the
promise are those that return no entry. -/
theorem returnsSelfContained_iff (stream : Option ℕ) (env : Env) (w : World) (B : Buffer) :
    ReturnsSelfContained stream env w B ↔
      ¬ ∃ g w', fgetgrent stream env w = some (some g, w') ∧ Fits B (groupEntryOf g) := by
  constructor
  · rintro hret ⟨g, w', hg, hfit⟩
    obtain ⟨grp, B', heq, hmem, -⟩ := fgetgrentRBody_fits hg hfit
    obtain ⟨_, -, hself, -⟩ := hret grp w' B' heq
    exact not_selfContained_of_mem hmem hself
  · intro hno grp w' B' heq
    rcases fgetgrentRBody_cases heq with ⟨grp, g, -, hg, hfit, -⟩ | ⟨-, hst, -⟩ | ⟨hst, -⟩
    · exact absurd ⟨g, w', hg, hfit⟩ hno
    · cases hst
    · cases hst

/-- A world with the file `bytes` open as every stream and as the database. -/
def worldOf (bytes : List UInt8) : World where
  files := filesOf bytes
  storage _ := ⟨0, 0, ⟨fun _ => 0, 0, fun _ _ => rfl⟩, []⟩

def twoGroups : List UInt8 := [103, 58, 120, 58, 49, 58, 97, 10, 104, 58, 120, 58, 50, 58, 98, 10]

/-- The first entry is returned into a buffer of 64 bytes, and is lost by the next call. -/
theorem returned_members_freed_by_next_call :
    ¬ ReturnsSelfContained (some 0) noFailure (worldOf twoGroups) (emptyBuffer 64) ∧
    ∃ grp w' B' g w'',
      fgetgrentR 0 noFailure (worldOf twoGroups) (emptyBuffer 64) = some (.ok grp, w', B') ∧
      readGroup w' B' grp = some ⟨[103], [120], 1, [[97]]⟩ ∧ grp.mem = .mem true 1 0 ∧
      fgetgrent (some 0) noFailure w' = some (some g, w'') ∧ readGroup w'' B' grp = none := by
  have hfirst : (fgetgrent (some 0) noFailure (worldOf twoGroups)).bind (fun r =>
      (fgetgrent (some 0) noFailure r.2).bind fun r' =>
        r.1.bind fun g => r'.1.map fun g' => (groupEntryOf g, groupEntryOf g')) =
      some (⟨[103], [120], 1, [[97]]⟩, ⟨[104], [120], 2, [[98]]⟩) := by decide +kernel
  obtain ⟨⟨r, w'⟩, hg, hrest⟩ := bind_eq_some_iff.mp hfirst
  obtain ⟨⟨r', w''⟩, hg', hboth⟩ := bind_eq_some_iff.mp hrest
  obtain ⟨g, rfl, hpair⟩ := bind_eq_some_iff.mp hboth
  obtain ⟨g', rfl, heq⟩ := map_eq_some_iff.mp hpair
  have hentry : groupEntryOf g = ⟨[103], [120], 1, [[97]]⟩ := congrArg Prod.fst heq
  have hfit : Fits (emptyBuffer 64) (groupEntryOf g) := by
    rw [hentry]
    exact ⟨by decide, by decide⟩
  obtain ⟨grp, B', hcall, hmem, hread⟩ := fgetgrentRBody_fits hg hfit
  refine ⟨fun hret => ?_, grp, w', B', g', w'', hcall, by rw [hread, hentry], ?_, hg',
    members_dangle hcall (.refl _) rfl hg' (.refl _)⟩
  · obtain ⟨_, -, hself, -⟩ := hret grp w' B' hcall
    exact not_selfContained_of_mem hmem hself
  · rw [hmem, (fgetgrent_found hg).storage]
    rfl

end GroupReader
