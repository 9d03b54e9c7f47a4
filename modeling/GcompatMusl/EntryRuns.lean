import GcompatMusl.GroupReader
import GcompatMusl.PasswdReader

/-! # Runs of the reentrant readers

One reader is called again and again, with any buffers, and each entry is read through the struct
before the next call. A call that ends in `ERANGE` has already taken its entry from the stream. -/
namespace EntryRuns

open PasswdFiles EntryBuffer LossyReader GroupReader PasswdReader List

/-- One call of `fgetgrent_r`, or of `getgrent_r` if there is no stream; the entry is `none`
if the caller cannot read it. -/
def groupCall (stream : Option ℕ) (w : World) (k : Env × Buffer) :
    Option (Status (Option GroupEntry) × World) :=
  (fgetgrentRBody stream k.1 w k.2).map fun (st, w', B') => (st.map (readGroup w' B'), w')

def groupLine (l : Line) : Option GroupEntry :=
  (groupHeader l).bind fun h => (groupMembers h).map groupEntryOf

def groupEntries (stream : Option ℕ) (w : World) : List (Option GroupEntry) :=
  (w.files.entries stream groupLine).map some

def groupRoom (k : Env × Buffer) (e : Option GroupEntry) : Prop := ∃ x ∈ e, GroupReader.Fits k.2 x

def passwdCall (stream : Option ℕ) (F : Files) (k : Env × Buffer) :
    Option (Status (Option PasswdEntry) × Files) :=
  let (st, F', B') := fgetpwentRBody stream k.1 F k.2
  some (st.map (readPasswd B'), F')

def passwdEntries (stream : Option ℕ) (F : Files) : List (Option PasswdEntry) :=
  (F.entries stream fun l => (passwdLine l).map passwdEntryOf).map some

def passwdRoom (k : Env × Buffer) (e : Option PasswdEntry) : Prop :=
  ∃ x ∈ e, PasswdReader.Fits k.2 x

/-- Neither `getline` nor the allocation of the member array fails. -/
def Quiet (k : Env × Buffer) : Prop := (∀ i, k.1.getline i = none) ∧ k.1.calloc = true

/-- The lines that are left have no null byte. -/
def Text (stream : Option ℕ) (F : Files) : Prop :=
  ∀ lines, F.lines stream = some lines → ∀ l ∈ lines, 0 ∉ l.val

variable {F F' : Files}

theorem groupEntries_of_found (h : fgetgrent stream env w = some (some g, w')) :
    groupEntries stream w = some (groupEntryOf g) :: groupEntries stream w' := by
  obtain ⟨lines, header, rest, hlines, hread, hg, hrest⟩ := (fgetgrent_found h).lines
  obtain ⟨l, hl, htake⟩ := filterMap_of_found groupLine hread fun l hl => by
    simp [groupLine, hl]
  have hentry : groupLine l = some (groupEntryOf g) := by
    simp [groupLine, hl, hg]
  rw [hentry] at htake
  simp [groupEntries, Files.entries, hlines, hrest, htake]

theorem groupEntries_of_none (hk : Quiet k) (h : fgetgrent stream k.1 w = some (none, w')) :
    groupEntries stream w = [] ∧ groupEntries stream w' = [] := by
  rw [fgetgrent] at h
  cases hlines : w.files.lines stream with
  | none =>
    rw [hlines] at h
    cases h
    simp [groupEntries, Files.entries, hlines]
  | some lines =>
    rw [hlines] at h
    rcases hread : readLoop groupHeader k.1.getline 0 lines with ⟨_ | header, rest⟩
    · simp only [getgrentA, hread] at h
      cases h
      obtain ⟨rfl, hnone⟩ := readLoop_none hk.1 hread
      have hentries : lines.filterMap groupLine = [] :=
        filterMap_eq_nil_iff.mpr fun l hl => by simp [groupLine, hnone l hl]
      simp [groupEntries, Files.entries, hlines, hentries, World.put]
    · simp only [getgrentA, hread, hk.2] at h
      cases hg : groupMembers header with
      | none => simp [hg] at h
      | some g => simp [hg] at h

theorem groupCall_accounts (stream : Option ℕ) (w : World) (k : Env × Buffer)
    (st : Status (Option GroupEntry)) (w' : World) (hk : Quiet k)
    (h : groupCall stream w k = some (st, w')) :
    Accounts (groupEntries stream) groupRoom w k w' st := by
  obtain ⟨⟨st1, w1, B1⟩, hcall, heq⟩ := Option.map_eq_some_iff.mp h
  cases heq
  rcases fgetgrentRBody_cases hcall with
    ⟨grp, g, rfl, hg, hfit, hread, -⟩ | ⟨g, rfl, hg, hfit⟩ | ⟨rfl, hnone⟩
  · exact .inr ⟨_, groupEntries_of_found hg, .inl ⟨⟨_, rfl, hfit⟩, congrArg Status.ok hread⟩⟩
  · refine .inr ⟨_, groupEntries_of_found hg, .inr ⟨?_, rfl⟩⟩
    rintro ⟨x, ⟨⟩, hroom⟩
    exact hfit hroom
  · obtain ⟨he, he'⟩ := groupEntries_of_none hk hnone
    exact .inl ⟨he, he', rfl⟩

theorem fgetgrent_text (hk : Quiet k) (ht : Text stream w.files) :
    ∃ r w', fgetgrent stream k.1 w = some (r, w') ∧ Text stream w'.files := by
  rw [fgetgrent]
  cases hlines : w.files.lines stream with
  | none => exact ⟨none, w, rfl, ht⟩
  | some lines =>
    have hput : ∀ rest st, rest ⊆ lines →
        Text stream (w.put stream.isSome (w.files.advance rest stream) st).files := by
      intro rest st hsub lines' hlines' l hl
      rw [World.put, Files.lines_advance] at hlines'
      cases hlines'
      exact ht lines hlines l (hsub hl)
    rcases hread : readLoop groupHeader k.1.getline 0 lines with ⟨_ | header, rest⟩
    · obtain ⟨rfl, -⟩ := readLoop_none hk.1 hread
      simp only [getgrentA, hread]
      exact ⟨none, _, rfl, hput _ _ (nil_subset _)⟩
    · obtain ⟨skipped, l, rfl, -, hl⟩ := readLoop_found hread
      obtain ⟨g, hg⟩ := groupMembers_text (ht _ hlines l (by simp)) hl
      simp only [getgrentA, hread, hk.2, hg]
      exact ⟨some g, _, rfl, hput _ _ fun x hx => by simp [hx]⟩

theorem groupCall_text (hk : Quiet k) (ht : Text stream w.files) :
    ∃ st w', groupCall stream w k = some (st, w') ∧ Text stream w'.files := by
  obtain ⟨r, w', hr, ht'⟩ := fgetgrent_text hk ht
  obtain ⟨st, B', hbody⟩ : ∃ st B', fgetgrentRBody stream k.1 w k.2 = some (st, w', B') := by
    cases r with
    | none => exact ⟨.noent, k.2, by rw [fgetgrentRBody, hr]⟩
    | some g =>
      by_cases hfit : GroupReader.Fits k.2 (groupEntryOf g)
      · obtain ⟨grp, B', hbody, -⟩ := fgetgrentRBody_fits hr hfit
        exact ⟨.ok grp, B', hbody⟩
      · obtain ⟨B', hbody⟩ := fgetgrentRBody_small hr hfit
        exact ⟨.range, B', hbody⟩
  exact ⟨st.map (readGroup w' B'), w', by rw [groupCall, hbody]; rfl, ht'⟩

theorem replay_text (hq : ∀ k ∈ ks, Quiet k) (ht : Text stream w.files) :
    ∃ t, replay (groupCall stream) w ks = some t := by
  induction ks generalizing w with
  | nil => exact ⟨[], rfl⟩
  | cons k ks ih =>
    obtain ⟨st, w', hcall, ht'⟩ := groupCall_text (hq k mem_cons_self) ht
    obtain ⟨t, hrest⟩ := ih (fun k hk => hq k (mem_cons_of_mem _ hk)) ht'
    exact ⟨st :: t, by simp [replay, hcall, hrest]⟩

theorem passwdEntries_of_found (h : fgetpwent stream env F = (some p, F')) :
    passwdEntries stream F = some (passwdEntryOf p) :: passwdEntries stream F' := by
  obtain ⟨lines, rest, hlines, hread, hrest⟩ := fgetpwent_found h
  obtain ⟨l, hl, htake⟩ := filterMap_of_found
    (fun l => (passwdLine l).map passwdEntryOf) hread fun l hl => by simp [hl]
  rw [hl] at htake
  simp [passwdEntries, Files.entries, hlines, hrest, htake]

theorem passwdEntries_of_none (hk : Quiet k) (h : fgetpwent stream k.1 F = (none, F')) :
    passwdEntries stream F = [] ∧ passwdEntries stream F' = [] := by
  rw [fgetpwent] at h
  cases hlines : F.lines stream with
  | none =>
    rw [hlines] at h
    cases h
    simp [passwdEntries, Files.entries, hlines]
  | some lines =>
    rw [hlines] at h
    obtain ⟨hread, rfl⟩ := Prod.mk.inj h
    obtain ⟨hrest, hnone⟩ := readLoop_none hk.1 (Prod.ext hread rfl)
    have hentries : lines.filterMap (fun l => (passwdLine l).map passwdEntryOf) = [] :=
      filterMap_eq_nil_iff.mpr fun l hl => by simp [hnone l hl]
    simp [passwdEntries, Files.entries, hlines, hentries, getpwentA, hrest]

theorem passwdCall_accounts (stream : Option ℕ) (F : Files) (k : Env × Buffer)
    (st : Status (Option PasswdEntry)) (F' : Files) (hk : Quiet k)
    (h : passwdCall stream F k = some (st, F')) :
    Accounts (passwdEntries stream) passwdRoom F k F' st := by
  rcases hbody : fgetpwentRBody stream k.1 F k.2 with ⟨st', F1, B'⟩
  rw [passwdCall, hbody] at h
  cases h
  rcases fgetpwentRBody_cases hbody with
    ⟨pwd, p, rfl, hp, hfit, hread⟩ | ⟨p, rfl, hp, hfit⟩ | ⟨rfl, hnone⟩
  · exact .inr ⟨_, passwdEntries_of_found hp, .inl ⟨⟨_, rfl, hfit⟩, congrArg Status.ok hread⟩⟩
  · refine .inr ⟨_, passwdEntries_of_found hp, .inr ⟨?_, rfl⟩⟩
    rintro ⟨x, ⟨⟩, hroom⟩
    exact hfit hroom
  · obtain ⟨he, he'⟩ := passwdEntries_of_none hk hnone
    exact .inl ⟨he, he', rfl⟩

theorem replay_passwd (stream : Option ℕ) (F : Files) (ks : List (Env × Buffer)) :
    ∃ t, replay (passwdCall stream) F ks = some t := by
  induction ks generalizing F with
  | nil => exact ⟨[], rfl⟩
  | cons k ks ih =>
    obtain ⟨t, hrest⟩ := ih (fgetpwentRBody stream k.1 F k.2).2.1
    simp [replay, passwdCall, hrest]

/-- If no `getline` and no allocation fails, the calls return the entries of the file in order, and
`ENOENT` only after the last, exactly when each entry meets a call with room for it. In text the
calls of the group reader all return, those of the passwd reader always do. -/
theorem entries_exact_iff_room (stream : Option ℕ) (ks : List (Env × Buffer))
    (hq : ∀ k ∈ ks, Quiet k) :
    (∀ w, (Text stream w.files → ∃ t, replay (groupCall stream) w ks = some t) ∧
      ∀ t, replay (groupCall stream) w ks = some t →
        (Exact (groupEntries stream w) t ↔ Room groupRoom (groupEntries stream w) ks)) ∧
    ∀ F, ∃ t, replay (passwdCall stream) F ks = some t ∧
      (Exact (passwdEntries stream F) t ↔ Room passwdRoom (passwdEntries stream F) ks) := by
  refine ⟨fun w => ⟨replay_text hq, fun t ht => ?_⟩, fun F => ?_⟩
  · exact exact_iff_room (groupCall_accounts stream) hq ht
  · obtain ⟨t, ht⟩ := replay_passwd stream F ks
    exact ⟨t, ht, exact_iff_room (passwdCall_accounts stream) hq ht⟩

def roomy : Env × Buffer := (noFailure, emptyBuffer 64)

def tight : Env × Buffer := (noFailure, emptyBuffer 1)

def twoUsers : List UInt8 :=
  [97, 58, 120, 58, 48, 58, 48, 58, 58, 58, 10, 98, 58, 120, 58, 49, 58, 49, 58, 58, 58, 10]

/-- With room all entries of `twoGroups` and of `twoUsers` are returned. -/
theorem entries_exact_iff_room_two :
    (∃ t, replay (groupCall (some 0)) (worldOf twoGroups) [roomy, roomy, roomy] = some t ∧
      Exact (groupEntries (some 0) (worldOf twoGroups)) t) ∧
    ∃ t, replay (passwdCall none) (filesOf twoUsers) [roomy, roomy, roomy] = some t ∧
      Exact (passwdEntries none (filesOf twoUsers)) t := by
  have hquiet : ∀ k ∈ [roomy, roomy, roomy], Quiet k := by
    simp [roomy, Quiet, noFailure]
  have htext : Text (some 0) (worldOf twoGroups).files := by
    rintro _ ⟨⟩
    decide +kernel
  have hgroups : groupEntries (some 0) (worldOf twoGroups) =
      [some ⟨[103], [120], 1, [[97]]⟩, some ⟨[104], [120], 2, [[98]]⟩] := by decide +kernel
  have husers : passwdEntries none (filesOf twoUsers) =
      [some ⟨[97], [120], 0, 0, [], [], []⟩, some ⟨[98], [120], 1, 1, [], [], []⟩] := by
    decide +kernel
  constructor
  · obtain ⟨hruns, hexact⟩ := (entries_exact_iff_room (some 0) _ hquiet).1 (worldOf twoGroups)
    obtain ⟨t, ht⟩ := hruns htext
    refine ⟨t, ht, (hexact t ht).mpr ?_⟩
    rw [hgroups]
    refine ⟨⟨_, rfl, ?_⟩, ⟨_, rfl, ?_⟩, trivial⟩ <;> exact ⟨by decide, by decide⟩
  · obtain ⟨t, ht, hexact⟩ := (entries_exact_iff_room none _ hquiet).2 (filesOf twoUsers)
    refine ⟨t, ht, hexact.mpr ?_⟩
    rw [husers]
    refine ⟨⟨_, rfl, ?_⟩, ⟨_, rfl, ?_⟩, trivial⟩ <;> rw [PasswdReader.Fits] <;> decide

/-- One `ERANGE`, answered with a larger buffer, and the first entry of the file is never
returned. -/
theorem retried_entry_is_skipped :
    (replay (groupCall (some 0)) (worldOf twoGroups) [tight, roomy, roomy] =
        some [.range, .ok (some ⟨[104], [120], 2, [[98]]⟩), .noent] ∧
      ¬ Exact (groupEntries (some 0) (worldOf twoGroups))
        [.range, .ok (some ⟨[104], [120], 2, [[98]]⟩), .noent]) ∧
    replay (passwdCall none) (filesOf twoUsers) [tight, roomy, roomy] =
        some [.range, .ok (some ⟨[98], [120], 1, 1, [], [], []⟩), .noent] ∧
      ¬ Exact (passwdEntries none (filesOf twoUsers))
        [.range, .ok (some ⟨[98], [120], 1, 1, [], [], []⟩), .noent] := by
  refine ⟨⟨by decide +kernel, ?_⟩, by decide +kernel, ?_⟩
  · rintro ⟨hall, -⟩
    exact absurd hall (by decide +kernel)
  · rintro ⟨hall, -⟩
    exact absurd hall (by decide +kernel)

end EntryRuns
