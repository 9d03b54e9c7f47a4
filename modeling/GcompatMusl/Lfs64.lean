import GcompatMusl.CtorQueue

/-! # The `64` aliases

`get_lfs64` byte by byte. The result `none` is an access outside of `buf` or of a string, or a call
with an array that has no null byte as a string. -/
namespace Lfs64

open LoaderState List
open SymbolLookup (Name)

def ascii (s : String) : List UInt8 := s.toList.map fun c => UInt8.ofNat c.toNat

def find_sym (s : Loader) (name : Name) (need_def : Bool) : ℕ → Option Id → Option (Option Id)
  | _, none => some none
  | 0, some _ => none
  | fuel + 1, some p =>
    if (s.dso p).defines name need_def then some (some p)
    else find_sym s name need_def fuel (s.dso p).syms_next

def lfs64_list : List (List UInt8) :=
  ["aio_cancel", "aio_error", "aio_fsync", "aio_read", "aio_return",
    "aio_suspend", "aio_write", "alphasort", "creat", "fallocate",
    "fgetpos", "fopen", "freopen", "fseeko", "fsetpos", "fstat",
    "fstatat", "fstatfs", "fstatvfs", "ftello", "ftruncate", "ftw",
    "getdents", "getrlimit", "glob", "globfree", "lio_listio",
    "lockf", "lseek", "lstat", "mkostemp", "mkostemps", "mkstemp",
    "mkstemps", "mmap", "nftw", "open", "openat", "posix_fadvise",
    "posix_fallocate", "pread", "preadv", "prlimit", "pwrite",
    "pwritev", "readdir", "scandir", "sendfile", "setrlimit",
    "stat", "statfs", "statvfs", "tmpfile", "truncate", "versionsort",
    "__fxstat", "__fxstatat", "__lxstat", "__xstat"].map ascii

theorem not_mem_take (name : Name) : 0 ∉ name.1.take n := fun h => name.2 (mem_of_mem_take h)

/-- The name that `get_lfs64` looks up in place of `name`. -/
def lfs64Name (name : Name) : Option Name :=
  let l := name.1.length
  if 16 < l then none
  else if name.1 = ascii "readdir64_r" then some ⟨ascii "readdir_r", by decide⟩
  else if l < 2 || name.1.drop (l - 2) ≠ ascii "64" then none
  else if name.1.take (l - 2) ∈ lfs64_list then some ⟨name.1.take (l - 2), not_mem_take name⟩
  else none

def get_lfs64 (s : Loader) (fuel : ℕ) (name : Name) : Option (Option Id) :=
  match lfs64Name name with
  | none => some none
  | some plain => find_sym s plain true fuel (some s.ldso)

/-- `buf[i] = b`, where the list is the part of `buf` that has been stored to. -/
def store (buf : List UInt8) (i : ℕ) (b : UInt8) : Option (List UInt8) :=
  if i < 16 then some (buf.take i ++ b :: buf.drop (i + 1)) else none

/-- The copy to `buf`; its result `some none` is the jump to `nomatch`. -/
def copyName : List UInt8 → List UInt8 → Option (Option (List UInt8))
  | [], _ => none
  | b :: name, buf =>
    if b = 0 then some (some buf)
    else if buf.length ≥ 16 then some none
    else (store buf buf.length b).bind (copyName name)

/-- The string that an array holds -/
def string (l : List UInt8) : Option (List UInt8) :=
  if 0 ∈ l then some (l.takeWhile (· ≠ 0)) else none

/-- The loop over the list from `p` on, for the string `s` in `buf`. With `entry` it is at a test of
the outer loop, else at one of the inner loop. -/
def walk (s : List UInt8) : Bool → List UInt8 → Option Bool
  | _, [] => none
  | entry, b :: p =>
    if b = 0 then if entry then some false else walk s true p
    else if entry then (string (b :: p)).bind fun e => if s = e then some true else walk s false p
    else walk s false p

def packed (l : List (List UInt8)) : List UInt8 := l.flatMap (· ++ [0]) ++ [0]

/-- The name that is given to `find_sym`, if any -/
def lookedUp (name : List UInt8) : Option (Option (List UInt8)) := do
  match ← copyName name [] with
  | none => some none
  | some buf =>
    let l := buf.length
    if (← string name) = ascii "readdir64_r" then some (some (ascii "readdir_r"))
    else if l < 2 then some none
    else if (← name[l - 2]?) ≠ 54 then some none
    else if (← name[l - 1]?) ≠ 52 then some none
    else
      let s ← string (← store buf (l - 2) 0)
      if ← walk s true (packed lfs64_list) then some (some s) else some none

variable {a b r : List UInt8}

theorem string_eq (ha : 0 ∉ a) : string (a ++ 0 :: r) = some a := by
  rw [string, takeWhile_append_of_pos fun x hx => by
    simpa using ne_of_mem_of_not_mem hx ha]
  simp

theorem copyName_eq (ha : 0 ∉ a) (hb : b.length ≤ 16) :
    copyName (a ++ [0]) b = some (if b.length + a.length ≤ 16 then some (b ++ a) else none) := by
  induction a generalizing b with
  | nil => simp [copyName, hb]
  | cons x a ih =>
    obtain ⟨hx, ha⟩ := not_or.mp (mt mem_cons.mpr ha)
    rw [cons_append, copyName, if_neg (Ne.symm hx), length_cons]
    split
    · rw [if_neg (by omega)]
    · have hrest := ih (b := b ++ [x]) ha (by simp; omega)
      rw [store, if_pos (by omega), take_length, drop_eq_nil_of_le (by omega), Option.bind_some,
        hrest, length_append, length_singleton, append_assoc, singleton_append,
        Nat.add_right_comm, Nat.add_assoc]

theorem walk_skip (s : List UInt8) (hb : 0 ∉ b) : walk s false (b ++ 0 :: r) = walk s true r := by
  induction b with
  | nil => simp [walk]
  | cons y b ih => simp_all [walk, eq_comm]

theorem walk_eq (s : List UInt8) {l : List (List UInt8)} (hl : ∀ e ∈ l, e ≠ [] ∧ 0 ∉ e) :
    walk s true (packed l) = some (decide (s ∈ l)) := by
  induction l with
  | nil => simp [packed, walk]
  | cons e l ih =>
    obtain ⟨⟨hne, he⟩, hrest⟩ := forall_mem_cons.mp hl
    obtain ⟨y, e, rfl⟩ := exists_cons_of_ne_nil hne
    have hpacked : packed ((y :: e) :: l) = y :: (e ++ 0 :: packed l) := by simp [packed]
    have hstring : string (y :: (e ++ 0 :: packed l)) = _ := string_eq he
    obtain ⟨hy, he⟩ := not_or.mp (mt mem_cons.mpr he)
    rw [hpacked, walk, if_neg (Ne.symm hy), hstring, walk_skip s he, ih hrest]
    by_cases h : s = y :: e <;> simp [h]

theorem lfs64_list_entries : ∀ e ∈ lfs64_list, e ≠ [] ∧ 0 ∉ e := by decide

theorem lookedUp_eq (name : Name) :
    lookedUp (name.1 ++ [0]) = some ((lfs64Name name).map Subtype.val) := by
  obtain ⟨s, hs⟩ := name
  rw [lookedUp, copyName_eq hs (Nat.zero_le _), lfs64Name]
  simp only [length_nil, Nat.zero_add, string_eq hs, Option.bind_eq_bind,
    Option.bind_some]
  by_cases hlen : s.length ≤ 16
  swap
  · rw [if_neg hlen, if_pos (Nat.lt_of_not_le hlen)]
    rfl
  rw [if_pos hlen, if_neg (Nat.not_lt.mpr hlen)]
  by_cases hr : s = ascii "readdir64_r"
  · simp [hr]
  by_cases htwo : s.length < 2
  · simp [hr, htwo]
  obtain ⟨a, c, d, rfl⟩ : ∃ a c d, s = a ++ [c, d] := by
    obtain ⟨c, d, hcd⟩ := length_eq_two.mp (show (s.drop (s.length - 2)).length = 2 by simp; omega)
    exact ⟨s.take (s.length - 2), c, d, by rw [← hcd, take_append_drop]⟩
  have ha : 0 ∉ a := fun h => hs (mem_append_left _ h)
  have hstore : store (a ++ [c, d]) a.length 0 = some (a ++ [0, d]) := by
    have hlt : a.length < 16 := by simp at hlen; omega
    simp [store, hlt]
  have hlong : ¬ a.length + 2 < 2 := by omega
  rcases eq_or_ne c 54 with rfl | hc <;>
    rcases eq_or_ne d 52 with rfl | hd <;>
    by_cases hmem : a ∈ lfs64_list <;>
    simp [*, string_eq ha, walk_eq a lfs64_list_entries, show ascii "64" = [54, 52] from rfl]

/-- The name is one of the aliases, and `base` what it stands for. -/
def Alias (name base : Name) : Prop :=
  base.1 ∈ lfs64_list ∧ name.1 = base.1 ++ ascii "64" ∨
    name.1 = ascii "readdir64_r" ∧ base.1 = ascii "readdir_r"

theorem lfs64Name_eq_some :
    lfs64Name name = some base ↔ name.1.length ≤ 16 ∧ Alias name base := by
  unfold lfs64Name
  dsimp only
  rw [← Nat.not_lt]
  constructor
  · intro h
    split_ifs at h with hlen hr hend hmem <;> cases h
    · exact ⟨hlen, .inr ⟨hr, rfl⟩⟩
    · refine ⟨hlen, .inl ⟨hmem, ?_⟩⟩
      rw [Bool.or_eq_true, not_or, decide_eq_true_eq, decide_eq_true_eq, not_not] at hend
      rw [← hend.2, take_append_drop]
  · rintro ⟨hlen, ⟨hmem, hname⟩ | ⟨hname, hbase⟩⟩
    · have hlist : ∀ e ∈ lfs64_list, e ++ ascii "64" ≠ ascii "readdir64_r" := by decide
      rw [if_neg hlen]
      simp [hname, hlist _ hmem, hmem, show (ascii "64").length = 2 from rfl]
    · rw [if_neg hlen, if_pos hname]
      exact congrArg some (Subtype.ext hbase.symm)

structure Resolved (s : Loader) (fuel : ℕ) (name : Name) : Prop where
  base : ∀ base, Alias name base → get_lfs64 s fuel name = find_sym s base true fuel (some s.ldso)
  other : (∀ base, ¬ Alias name base) → get_lfs64 s fuel name = some none
  inside : lookedUp (name.1 ++ [0]) = some ((lfs64Name name).map Subtype.val)

def posix_fallocate : Name := ⟨ascii "posix_fallocate", by decide⟩

def posix_fallocate64 : Name := ⟨ascii "posix_fallocate64", by decide⟩

theorem long_alias (h : Alias name base) (hlen : ¬ name.1.length ≤ 16) :
    name = posix_fallocate64 ∧ base = posix_fallocate := by
  have hlist : ∀ e ∈ lfs64_list, e.length ≤ 14 ∨ e = ascii "posix_fallocate" := by decide
  rcases h with ⟨hmem, hname⟩ | ⟨hname, -⟩
  · rcases hlist _ hmem with hshort | hbase
    · rw [hname, length_append] at hlen
      exact absurd (Nat.add_le_add_right hshort 2) hlen
    · rw [hbase] at hname
      exact ⟨Subtype.ext hname, Subtype.ext hbase⟩
  · rw [hname] at hlen
    exact absurd (by decide) hlen

/-- The buffer has no room for the longest alias. -/
theorem resolved_iff (s : Loader) (fuel : ℕ) (name : Name) : Resolved s fuel name ↔
    (name = posix_fallocate64 →
      find_sym s posix_fallocate true fuel (some s.ldso) = some none) := by
  have hmiss : ∀ name, lfs64Name name = none → get_lfs64 s fuel name = some none := by
    intro name h
    rw [get_lfs64, h]
  constructor
  · rintro h rfl
    exact (h.base posix_fallocate (.inl ⟨by decide, rfl⟩)).symm.trans (hmiss _ rfl)
  · refine fun h => ⟨fun base hbase => ?_, fun hno => hmiss name ?_, lookedUp_eq name⟩
    · by_cases hlen : name.1.length ≤ 16
      · rw [get_lfs64, lfs64Name_eq_some.mpr ⟨hlen, hbase⟩]
      · obtain ⟨rfl, rfl⟩ := long_alias hbase hlen
        exact (hmiss _ rfl).trans (h rfl).symm
    · exact Option.eq_none_iff_forall_ne_some.mpr fun base h => hno base (lfs64Name_eq_some.mp h).2

def everyName : Loader :=
  { CtorQueue.noDsos with dso := fun _ => { CtorQueue.blankDso with defines := fun _ _ => true } }

theorem posix_fallocate64_missed : get_lfs64 everyName 1 posix_fallocate64 = some none ∧
    find_sym everyName posix_fallocate true 1 (some everyName.ldso) = some (some 0) :=
  ⟨rfl, rfl⟩

end Lfs64
