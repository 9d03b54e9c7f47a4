import Mathlib.Data.List.Basic

/-! # Domain names in messages

`dn_skipname` and `dn_expand` on a message. Pointers into the message are positions. -/
namespace DomainName

def byte (msg : List UInt8) (p : ℕ) : UInt8 := msg.getD p 0

/-- The position behind the name at `p`. Every turn moves forward, so that the turns suffice. -/
def skipLoop (msg : List UInt8) : ℕ → ℕ → Option ℕ
  | 0, _ => none
  | turns + 1, p =>
    if p < msg.length then
      if byte msg p = 0 then some (p + 1)
      else if 192 ≤ (byte msg p).toNat then
        if p + 1 < msg.length then some (p + 2) else none
      else if msg.length - p < (byte msg p).toNat + 1 then none
      else skipLoop msg turns (p + (byte msg p).toNat + 1)
    else none

def dn_skipname (msg : List UInt8) (s : ℕ) : Option ℕ :=
  (skipLoop msg (msg.length + 1) s).map (· - s)

def dot : UInt8 := 46

def target (msg : List UInt8) (p : ℕ) : ℕ :=
  ((byte msg p &&& 0x3f).toNat <<< 8) ||| (byte msg (p + 1)).toNat

def label (msg : List UInt8) (p : ℕ) : List UInt8 := (msg.drop (p + 1)).take (byte msg p).toNat

def separated (dest : List UInt8) : List UInt8 := if dest = [] then dest else dest ++ [dot]

/-- A turn costs two from the length of the message. `len` is the length of the name at `src`, once
it is known, and `dest` what has been written. -/
def expandLoop (msg : List UInt8) (src room : ℕ) :
    ℕ → ℕ → List UInt8 → Option ℕ → Option (ℕ × List UInt8)
  | 0, _, _, _ => none
  | turns + 1, p, dest, len =>
    if byte msg p &&& 0xc0 ≠ 0 then
      if p + 1 = msg.length then none
      else if msg.length ≤ target msg p then none
      else expandLoop msg src room turns (target msg p) dest (some (len.getD (p + 2 - src)))
    else if byte msg p ≠ 0 then
      if msg.length - (p + 1) ≤ (byte msg p).toNat ∨
          room - (separated dest).length ≤ (byte msg p).toNat then none
      else expandLoop msg src room turns (p + 1 + (byte msg p).toNat)
        (separated dest ++ label msg p) len
    else some (len.getD (p + 1 - src), dest)

def dn_expand (msg : List UInt8) (src space : ℕ) : Option (ℕ × List UInt8) :=
  if src = msg.length ∨ space = 0 then none
  else expandLoop msg src (min space 254) ((msg.length + 1) / 2) src [] none

theorem skipLoop_bounds (h : skipLoop msg turns p = some q) : p < q ∧ q ≤ msg.length := by
  induction turns generalizing p with
  | zero => cases h
  | succ turns ih =>
    rw [skipLoop] at h
    split_ifs at h with hp hzero hpointer hnext hlabel
    · cases h
      omega
    · cases h
      omega
    · obtain ⟨hlt, hle⟩ := ih h
      omega

/-- The labels at `p` are no longer than 63 bytes, up to the end or the first pointer. -/
inductive Plain (msg : List UInt8) : ℕ → Prop where
  | root {p : ℕ} : byte msg p = 0 → Plain msg p
  | pointer {p : ℕ} : 192 ≤ (byte msg p).toNat → Plain msg p
  | label {p : ℕ} : byte msg p ≠ 0 → (byte msg p).toNat < 64 →
      Plain msg (p + (byte msg p).toNat + 1) → Plain msg p

theorem flags_eq_zero_iff (b : UInt8) : b &&& 0xc0 = 0 ↔ b.toNat < 64 := by
  have hall : ∀ n < 256, n &&& 192 = 0 ↔ n < 64 := by decide +kernel
  rw [← hall b.toNat b.toNat_lt, ← UInt8.toNat_inj]
  rfl

theorem expandLoop_fixed (h : expandLoop msg src room turns p text (some r) = some (len, name)) :
    len = r := by
  induction turns generalizing p text with
  | zero => cases h
  | succ turns ih =>
    rw [expandLoop] at h
    split_ifs at h with hpointer hlast htarget hlabel hroom
    · exact ih h
    · exact ih h
    · cases h
      rfl

theorem expandLoop_length (hp : Plain msg p)
    (h : expandLoop msg src room turns p text none = some (len, name)) (hlt : p < msg.length)
    (hn : msg.length < p + n) : ∃ q, skipLoop msg n p = some q ∧ len = q - src := by
  induction turns generalizing p text n with
  | zero => cases h
  | succ turns ih =>
    cases n with
    | zero => omega
    | succ n =>
      rw [expandLoop] at h
      rw [skipLoop, if_pos hlt]
      cases hp with
      | root hzero =>
        rw [if_neg (by simp [hzero]), if_neg (by simp [hzero])] at h
        cases h
        exact ⟨p + 1, if_pos hzero, rfl⟩
      | pointer hbig =>
        have hflags : byte msg p &&& 0xc0 ≠ 0 := by
          rw [Ne, flags_eq_zero_iff]
          omega
        have hzero : byte msg p ≠ 0 := by
          intro hzero
          simp [hzero] at hflags
        split_ifs at h with hlast htarget
        exact ⟨p + 2, by rw [if_neg hzero, if_pos hbig, if_pos (by omega)], expandLoop_fixed h⟩
      | label hzero hsmall hrest =>
        have hflags : byte msg p &&& 0xc0 = 0 := (flags_eq_zero_iff _).mpr hsmall
        rw [if_neg (by simp [hflags])] at h
        split_ifs at h with hroom
        have hnext : p + 1 + (byte msg p).toNat = p + (byte msg p).toNat + 1 := by omega
        rw [hnext] at h
        rw [if_neg hzero, if_neg (by omega), if_neg (by omega)]
        exact ih hrest h (by omega) (by omega)

theorem dn_expand_length (hp : Plain msg p) (hle : p ≤ msg.length)
    (h : dn_expand msg p space = some (len, name)) : dn_skipname msg p = some len := by
  unfold dn_expand at h
  split_ifs at h with hstart
  obtain ⟨q, hq, rfl⟩ := expandLoop_length (n := msg.length + 1) hp h (by omega) (by omega)
  rw [dn_skipname, hq]
  rfl

theorem dn_expand_inside (hp : Plain msg p) (hle : p ≤ msg.length)
    (h : dn_expand msg p space = some (len, name)) :
    dn_skipname msg p = some len ∧ 0 < len ∧ p + len ≤ msg.length := by
  have hskip := dn_expand_length hp hle h
  obtain ⟨q, hq, rfl⟩ := Option.map_eq_some_iff.mp hskip
  have hbounds := skipLoop_bounds hq
  exact ⟨hskip, by omega⟩

def pointing : List UInt8 := [1, 97, 0, 1, 98, 192, 0]

theorem dn_expand_inside_pointing :
    dn_expand pointing 3 254 = some (4, [98, dot, 97]) ∧
      dn_skipname pointing 3 = some 4 ∧ 0 < 4 ∧ 3 + 4 ≤ pointing.length := by
  have hplain : Plain pointing 3 := .label (by decide) (by decide) (.pointer (by decide))
  have hexpand : dn_expand pointing 3 254 = some (4, [98, dot, 97]) := by decide
  exact ⟨hexpand, dn_expand_inside hplain (by decide) hexpand⟩

end DomainName
