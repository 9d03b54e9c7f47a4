import GcompatMusl.EntryBuffer
import GcompatMusl.LossyReader

/-! # The reentrant passwd reader

`__fgetpwent_r` of `libgcompat/pwd.c` over musl's `fgetpwent` and `getpwent`. The static line is
gone from the result and is not kept here. -/
namespace PasswdReader

open MuslString PasswdFiles EntryBuffer LossyReader

structure PasswdStruct where
  name : Ptr
  passwd : Ptr
  uid : BitVec 32
  gid : BitVec 32
  gecos : Ptr
  dir : Ptr
  shell : Ptr

def fgetpwent (stream : Option ℕ) (env : Env) (F : Files) : Option Passwd × Files :=
  match F.lines stream with
  | none => (none, F)
  | some lines =>
    let r := getpwentA env lines
    (r.1, F.advance r.2 stream)

def stringFields (p : Passwd) : List ℕ := [p.name, p.passwd, p.gecos, p.dir, p.shell]

def fgetpwentRBody (stream : Option ℕ) (env : Env) (F : Files) (B : Buffer) :
    Status PasswdStruct × Files × Buffer :=
  match fgetpwent stream env F with
  | (none, F') => (.noent, F', B)
  | (some p, F') =>
    let c := copyFields p.line B.len ((stringFields p).map some) B.bytes 0
    let B' := { B with bytes := c.bytes }
    if !c.ok then (.range, F', B')
    else
      (.ok ⟨c.ptrs.getD 0 .null, c.ptrs.getD 1 .null, p.uid, p.gid, c.ptrs.getD 2 .null,
        c.ptrs.getD 3 .null, c.ptrs.getD 4 .null⟩, F', B')

def fgetpwentR (stream : ℕ) := fgetpwentRBody (some stream)

def getpwentR := fgetpwentRBody none

structure PasswdEntry where
  name : List UInt8
  passwd : List UInt8
  uid : BitVec 32
  gid : BitVec 32
  gecos : List UInt8
  dir : List UInt8
  shell : List UInt8
  deriving DecidableEq

def passwdEntryOf (p : Passwd) : PasswdEntry :=
  ⟨p.line.string p.name, p.line.string p.passwd, p.uid, p.gid, p.line.string p.gecos,
    p.line.string p.dir, p.line.string p.shell⟩

def Fits (B : Buffer) (e : PasswdEntry) : Prop :=
  ([e.name, e.passwd, e.gecos, e.dir, e.shell].map fun f => f.length + 1).sum ≤ B.len

/-- Everything that is reached from the struct; `none` if a pointer leads out of the buffer. -/
def readPasswd (B : Buffer) (pwd : PasswdStruct) : Option PasswdEntry :=
  (B.read pwd.name).bind fun name =>
  (B.read pwd.passwd).bind fun passwd =>
  (B.read pwd.gecos).bind fun gecos =>
  (B.read pwd.dir).bind fun dir =>
  (B.read pwd.shell).map fun shell => ⟨name, passwd, pwd.uid, pwd.gid, gecos, dir, shell⟩

theorem fits_iff (B : Buffer) (p : Passwd) :
    Fits B (passwdEntryOf p) ↔ 0 + need p.line (stringFields p) ≤ B.len := by
  simp [Fits, passwdEntryOf, need, stringFields]

theorem fgetpwent_found (h : fgetpwent stream env F = (some p, F')) :
    ∃ lines rest, F.lines stream = some lines ∧
      readLoop passwdLine env.getline 0 lines = (some p, rest) ∧ F'.lines stream = some rest := by
  rw [fgetpwent] at h
  cases hlines : F.lines stream with
  | none => simp [hlines] at h
  | some lines =>
    simp only [hlines, Prod.mk.injEq] at h
    obtain ⟨hp, rfl⟩ := h
    exact ⟨lines, _, rfl, Prod.ext hp rfl, Files.lines_advance _ _ _⟩

theorem fgetpwentRBody_cases (h : fgetpwentRBody stream env F B = (st, F', B')) :
    (∃ pwd p, st = .ok pwd ∧ fgetpwent stream env F = (some p, F') ∧
      Fits B (passwdEntryOf p) ∧ readPasswd B' pwd = some (passwdEntryOf p)) ∨
    (∃ p, st = .range ∧ fgetpwent stream env F = (some p, F') ∧ ¬ Fits B (passwdEntryOf p)) ∨
    (st = .noent ∧ fgetpwent stream env F = (none, F')) := by
  rcases hr : fgetpwent stream env F with ⟨_ | p, F1⟩
  · rw [fgetpwentRBody, hr] at h
    cases h
    exact .inr (.inr ⟨rfl, rfl⟩)
  · have hok := copyFields_ok_iff p.line B.len (stringFields p) B.bytes (Nat.zero_le _)
    rw [← fits_iff] at hok
    rw [fgetpwentRBody, hr] at h
    dsimp only at h
    by_cases hfit : Fits B (passwdEntryOf p)
    · rw [hok.mpr hfit] at h
      cases h
      refine .inl ⟨_, p, rfl, rfl, hfit, ?_⟩
      have hneed := (fits_iff B p).mp hfit
      have hcopied := copyFields_copied (m := B.bytes) hneed
      generalize copyFields p.line B.len ((stringFields p).map some) B.bytes 0 = c at hcopied
      have hread : ∀ i (hi : i < 5), ({ B with bytes := c.bytes } : Buffer).read
          (c.ptrs.getD i .null) = some (p.line.string (stringFields p)[i]) := fun i hi =>
        (hcopied.getD i hi .null).read (by rw [hcopied.cursor_eq]; exact hneed)
      rw [readPasswd, hread 0 (by omega), hread 1 (by omega), hread 2 (by omega),
        hread 3 (by omega), hread 4 (by omega)]
      rfl
    · rw [Bool.not_eq_true _ |>.mp (mt hok.mp hfit)] at h
      cases h
      exact .inr (.inl ⟨p, rfl, rfl, hfit⟩)

end PasswdReader
