import GcompatMusl.ResMsend
import Mathlib.Data.List.GetD

/-! # The answer slots

What holds of the slots over every run of the loop, whatever the network delivers. -/
namespace ResMsend

open Function List Nat

variable {c : Config α}

theorem scanFrom_spec (p : ℕ → Bool) (k : ℕ) : ∀ i, i ≤ scanFrom p k i ∧ scanFrom p k i ≤ i + k ∧
    (∀ j, i ≤ j → j < scanFrom p k i → p j = true) ∧
    (scanFrom p k i < i + k → p (scanFrom p k i) = false) := by
  induction k with
  | zero =>
    intro i
    exact ⟨le_refl i, le_refl i, fun j hj hj' => absurd hj' (not_lt.mpr hj),
      fun h => absurd h (lt_irrefl i)⟩
  | succ k ih =>
    intro i
    by_cases hp : p i = true
    · rw [scanFrom, if_pos hp]
      obtain ⟨hle, hhi, hpass, hstop⟩ := ih (i + 1)
      refine ⟨by omega, by omega, ?_, fun h => hstop (by omega)⟩
      intro j hj hj'
      rcases eq_or_lt_of_le hj with rfl | hlt
      · exact hp
      · exact hpass j hlt hj'
    · rw [scanFrom, if_neg hp]
      exact ⟨le_refl i, le_add_right i _, fun j hj hj' => absurd hj' (not_lt.mpr hj),
        fun _ => Bool.eq_false_iff.mpr hp⟩

theorem scan_spec {i n : ℕ} (h : i ≤ n) : i ≤ scan p i n ∧ scan p i n ≤ n ∧
    (∀ j, i ≤ j → j < scan p i n → p j = true) ∧ (scan p i n < n → p (scan p i n) = false) := by
  have hspec := scanFrom_spec p (n - i) i
  rwa [Nat.add_sub_cancel' h] at hspec

theorem overwrite_take (buf data : List UInt8) : (overwrite buf data).take data.length = data :=
  take_left

theorem overwrite_getD {buf data : List UInt8} {k : ℕ} (h : k < data.length) :
    (overwrite buf data).getD k 0 = data.getD k 0 := by
  rw [overwrite, getD_append _ _ _ _ h]

theorem take_getD {data : List UInt8} {k m : ℕ} (h : k < m) :
    (data.take m).getD k 0 = data.getD k 0 := by
  rw [getD_eq_getElem?_getD, getD_eq_getElem?_getD, getElem?_take_of_lt h]

theorem rlen_eq (c : Config α) (d : Datagram α) : rlen c d = (d.payload.take c.asize).length := by
  rw [rlen, length_take, min_comm]

structure Answers (c : Config α) (i : ℕ) (d : Datagram α) : Prop where
  sender : d.sender ∈ c.ns
  id : d.payload.getD 0 0 = (c.query i).getD 0 0 ∧ d.payload.getD 1 0 = (c.query i).getD 1 0
  rcode : rcode d.payload = 0 ∨ rcode d.payload = 3

structure Holds (s : State) (i : ℕ) (d : Datagram α) : Prop where
  length : s.alens i = d.payload.length
  bytes : (s.answers i).take d.payload.length = d.payload

section Received

variable (s : State) (d : Datagram α)

theorem recvmsg_answers_next : (recvmsg c s d).answers s.next =
    overwrite (s.answers s.next) (d.payload.take c.asize) :=
  update_self ..

theorem recvmsg_answers_of_ne (h : k ≠ s.next) : (recvmsg c s d).answers k = s.answers k :=
  update_of_ne h ..

theorem received_getD {k : ℕ} (h : k < rlen c d) :
    ((recvmsg c s d).answers s.next).getD k 0 = d.payload.getD k 0 := by
  have hk : k < c.asize := lt_of_lt_of_le h (min_le_right _ _)
  rw [recvmsg_answers_next, overwrite_getD (by rwa [← rlen_eq]), take_getD hk]

theorem received_take :
    ((recvmsg c s d).answers s.next).take (rlen c d) = d.payload.take c.asize := by
  rw [recvmsg_answers_next, rlen_eq, overwrite_take]

end Received

structure Least (c : Config α) (s : State) : Prop where
  le : s.next ≤ c.nqueries
  before : ∀ i < s.next, s.alens i ≠ 0
  free : s.next < c.nqueries → s.alens s.next = 0

structure SameSlots (s s' : State) : Prop where
  phase : s'.phase = s.phase
  alens : s'.alens = s.alens
  answers : s'.answers = s.answers
  next : s'.next = s.next
  fd : s'.fd = s.fd
  revents : s'.revents = s.revents

/-- What becomes of the state `s` when the datagram `d` in the free slot is accepted for `i`. -/
structure Accepted (c : Config α) (s : State) (i : ℕ) (d : Datagram α) (s' : State) : Prop where
  phase : s'.phase = s.phase
  revents : s'.revents = s.revents
  others : ∀ k ≠ i, s'.alens k = s.alens k ∧ s'.answers k = s.answers k ∧ s'.fd k = s.fd k
  slot : s'.alens i = -1 ∨ (s'.alens i = rlen c d ∧ s'.fd i = s.fd i ∧
    (s'.answers i).take (rlen c d) = (s.answers s.next).take (rlen c d) ∧
    d.payload.length ≤ c.asize)
  least : Least c s'

section Accept

theorem Least.scan (h : Least c s) (alens : ℕ → ℤ) (halens : ∀ k < s.next, alens k ≠ 0) :
    (∀ k < ResMsend.scan (fun k => alens k ≠ 0) s.next c.nqueries, alens k ≠ 0) ∧
    ResMsend.scan (fun k => alens k ≠ 0) s.next c.nqueries ≤ c.nqueries ∧
    (ResMsend.scan (fun k => alens k ≠ 0) s.next c.nqueries < c.nqueries →
      alens (ResMsend.scan (fun k => alens k ≠ 0) s.next c.nqueries) = 0) := by
  obtain ⟨-, hhi, hpass, hstop⟩ := scan_spec h.le
  refine ⟨?_, hhi, ?_⟩
  · intro k hk
    rcases lt_or_ge k s.next with hlt | hge
    · exact halens k hlt
    · exact of_decide_eq_true (hpass k hge hk)
  · intro hlt
    exact not_not.mp (of_decide_eq_false (hstop hlt))

theorem update_ne_zero {alens : ℕ → ℤ} {v : ℤ} (hv : v ≠ 0) {k : ℕ} (h : alens k ≠ 0 ∨ k = i) :
    Function.update alens i v k ≠ 0 := by
  rw [update_apply]
  split
  · exact hv
  · exact h.resolve_right ‹_›

theorem store_least (h : Least c s) {r : ℕ} (hr : r ≠ 0) :
    Least c (store c s i r) := by
  have hr' : (r : ℤ) ≠ 0 := Int.natCast_ne_zero.mpr hr
  rw [store]
  split
  · obtain ⟨hbefore, hle, hfree⟩ :=
      h.scan (update s.alens i (r : ℤ)) fun k hk => update_ne_zero hr' (.inl (h.before k hk))
    exact ⟨hle, hbefore, hfree⟩
  · refine ⟨h.le, fun k hk => update_ne_zero hr' (.inl (h.before k hk)), fun hlt => ?_⟩
    have hne : s.next ≠ i := fun heq => absurd heq.symm ‹_›
    exact (update_of_ne hne ..).trans (h.free hlt)

theorem store_alens (r : ℕ) : (store c s i r).alens = Function.update s.alens i (r : ℤ) := by
  rw [store]
  split <;> rfl

theorem store_answers_of_ne (r : ℕ) (hk : k ≠ i) : (store c s i r).answers k = s.answers k := by
  rw [store]
  split
  · rfl
  · exact update_of_ne hk ..

theorem store_answers_take (hr : r ≤ (s.answers s.next).length) :
    ((store c s i r).answers i).take r = (s.answers s.next).take r := by
  rw [store]
  split
  · rename_i hi
    rw [hi]
  · have hlen : ((s.answers s.next).take r).length = r := by rw [length_take, min_eq_left hr]
    change (update s.answers i _ i).take r = _
    rw [update_self]
    nth_rewrite 1 [← hlen]
    exact overwrite_take _ _

theorem store_keeps (r : ℕ) : (store c s i r).phase = s.phase ∧ (store c s i r).fd = s.fd ∧
    (store c s i r).revents = s.revents := by
  rw [store]
  split <;> exact ⟨rfl, rfl, rfl⟩

theorem ignoreUdp_same (c : Config α) (s : State) : SameSlots s (ignoreUdp c s) := by
  rw [ignoreUdp]
  split <;> exact ⟨rfl, rfl, rfl, rfl, rfl, rfl⟩

theorem Least.of_eq (h : Least c s) (hnext : s'.next = s.next) (halens : s'.alens = s.alens) :
    Least c s' :=
  ⟨hnext ▸ h.le, by rw [hnext, halens]; exact h.before, by rw [hnext, halens]; exact h.free⟩

theorem fallback_least (h : Least c s) (hi : s.alens i ≠ 0) (calls : TcpCalls) :
    Least c (fallback c s i calls) := by
  have hminus : (-1 : ℤ) ≠ 0 := by decide
  refine ⟨h.le, fun k hk => update_ne_zero hminus (.inl (h.before k hk)), fun hlt => ?_⟩
  have hne : s.next ≠ i := fun heq => hi (heq ▸ h.free hlt)
  exact (update_of_ne hne ..).trans (h.free hlt)

theorem accept_accepted (h : Least c s) (hr : rlen c d ≠ 0)
    (hlen : rlen c d ≤ (s.answers s.next).length) (calls : TcpCalls) :
    Accepted c s i d (accept c s i d calls) := by
  obtain ⟨hphase, hfd, hrevents⟩ := store_keeps (rlen c d)
  have hsame := ignoreUdp_same c (store c s i (rlen c d))
  have hleast := (store_least h hr).of_eq hsame.next hsame.alens
  rw [accept]
  generalize ignoreUdp c (store c s i (rlen c d)) = t at hsame hleast
  have halens : t.alens i = rlen c d := by
    rw [hsame.alens, store_alens, update_self]
  have hothers : ∀ k ≠ i, t.alens k = s.alens k ∧ t.answers k = s.answers k ∧ t.fd k = s.fd k := by
    intro k hk
    rw [hsame.alens, hsame.answers, hsame.fd, store_alens, update_of_ne hk,
      store_answers_of_ne _ hk, hfd]
    exact ⟨rfl, rfl, rfl⟩
  split
  · -- the answer was cut off, and its slot waits for a connection
    have hne : t.alens i ≠ 0 := by
      rw [halens]
      exact Int.natCast_ne_zero.mpr hr
    refine ⟨hsame.phase.trans hphase, hsame.revents.trans hrevents, ?_, .inl ?_,
      fallback_least hleast hne calls⟩
    · intro k hk
      obtain ⟨ha, hb, hc⟩ := hothers k hk
      exact ⟨(update_of_ne hk ..).trans ha, hb, (update_of_ne hk ..).trans hc⟩
    · exact update_self ..
  · rename_i hwhole
    rw [truncated, Bool.or_eq_true, not_or, decide_eq_true_eq, decide_eq_true_eq] at hwhole
    refine ⟨hsame.phase.trans hphase, hsame.revents.trans hrevents, hothers, .inr ?_, hleast⟩
    rw [hsame.answers, hsame.fd, hfd]
    exact ⟨halens, rfl, store_answers_take hlen, not_lt.mp hwhole.2⟩

end Accept

variable {s : State}

theorem queryOf_spec (hnext : s.next ≤ c.nqueries) (h : queryOf c s ≠ c.nqueries) :
    queryOf c s < c.nqueries ∧
    (s.answers s.next).getD 0 0 = (c.query (queryOf c s)).getD 0 0 ∧
    (s.answers s.next).getD 1 0 = (c.query (queryOf c s)).getD 1 0 := by
  obtain ⟨-, hhi, -, hstop⟩ := scan_spec hnext
  have hlt : queryOf c s < c.nqueries := lt_of_le_of_ne hhi h
  have hfound := hstop hlt
  rw [Bool.or_eq_false_iff, decide_eq_false_iff_not, decide_eq_false_iff_not] at hfound
  exact ⟨hlt, not_not.mp hfound.1, not_not.mp hfound.2⟩

section Handle

variable [DecidableEq α]

theorem sender_of_serverOf {d : Datagram α} (h : serverOf c d ≠ c.ns.length) : d.sender ∈ c.ns := by
  obtain ⟨-, hhi, -, hstop⟩ :=
    scan_spec (zero_le c.ns.length)
  have hfound := hstop (lt_of_le_of_ne hhi h)
  exact mem_of_getElem? (not_not.mp (of_decide_eq_false hfound))

/-- A datagram changes no slot beyond the free one, or it answers the query whose slot it fills. -/
theorem handle_cases (h : Least c s) (d : Datagram α) (calls : TcpCalls) :
    SameSlots (recvmsg c s d) (handle c (recvmsg c s d) d calls) ∨
    ∃ i < c.nqueries, s.alens i = 0 ∧ Answers c i d ∧ 4 ≤ rlen c d ∧
      Accepted c (recvmsg c s d) i d (handle c (recvmsg c s d) d calls) := by
  have hleast : Least c (recvmsg c s d) := ⟨h.le, h.before, h.free⟩
  rw [handle]
  split_ifs with hlen hserver hquery hopen hcode
  on_goal 5 =>
    obtain ⟨hlt, hid0, hid1⟩ := queryOf_spec hleast.le hquery
    have hbyte : ∀ k < 4, ((recvmsg c s d).answers (recvmsg c s d).next).getD k 0 =
        d.payload.getD k 0 := fun k hk => received_getD s d (by omega)
    rw [hbyte 0 (by decide)] at hid0
    rw [hbyte 1 (by decide)] at hid1
    rw [rcode, hbyte 3 (by decide)] at hcode
    refine .inr ⟨_, hlt, not_not.mp hopen, ⟨sender_of_serverOf hserver, ⟨hid0, hid1⟩, hcode⟩,
      by omega, accept_accepted hleast (by omega) ?_ calls⟩
    change rlen c d ≤ ((recvmsg c s d).answers s.next).length
    rw [recvmsg_answers_next, overwrite, length_append, rlen_eq]
    exact le_add_right _ _
  all_goals exact .inl ⟨rfl, rfl, rfl, rfl, rfl, rfl⟩

end Handle

/-- The entry of query `i` in the result of the last `poll` is still to be looked at. -/
def Pending : Phase → ℕ → Prop
  | .receive, _ => True
  | .write _, _ => True
  | .read k, i => k ≤ i
  | .head, _ => False
  | .out, _ => False

/-- A connection is open, or reported by `poll`, only for a slot that waits for it. -/
structure Inv (c : Config α) (s : State) : Prop where
  least : Least c s
  connected : ∀ i < c.nqueries, 0 ≤ s.fd i → s.alens i = -1
  polled : ∀ i < c.nqueries, Pending s.phase i → s.revents i ≠ ⟨false, false⟩ → s.alens i = -1

def Keeps (s s' : State) : Prop :=
  ∀ i, 0 < s.alens i → s'.alens i = s.alens i ∧ s'.answers i = s.answers i

/-- A slot that the action `a` gives an answer holds the datagram, if the action was one. -/
def Fills (c : Config α) (s : State) (a : Action α) (s' : State) : Prop :=
  ∀ d calls, a = .datagram d calls → ∀ i, s.alens i ≤ 0 → 0 < s'.alens i →
    i < c.nqueries ∧ Answers c i d ∧ Holds s' i d

theorem Inv.of_same (h : Inv c s) (halens : s'.alens = s.alens)
    (hnext : s'.next = s.next) (hfd : s'.fd = s.fd) (hrevents : s'.revents = s.revents)
    (hphase : ∀ i, Pending s'.phase i → Pending s.phase i) : Inv c s' := by
  refine ⟨h.least.of_eq hnext halens, ?_, ?_⟩
  · rw [hfd, halens]
    exact h.connected
  · rw [hrevents, halens]
    exact fun i hi hp => h.polled i hi (hphase i hp)

theorem Inv.of_sameSlots (h : Inv c s) (hs : SameSlots s s') : Inv c s' :=
  h.of_same hs.alens hs.next hs.fd hs.revents (hs.phase ▸ fun _ hp => hp)

theorem keeps_of_eq (halens : s'.alens = s.alens) (hanswers : s'.answers = s.answers) :
    Keeps s s' := by
  intro i _
  rw [halens, hanswers]
  exact ⟨rfl, rfl⟩

theorem leave_keeps (s : State) : Keeps s (leave s) := by
  intro i hi
  exact ⟨if_neg (by omega), rfl⟩

theorem resend_same (c : Config α) (s : State) : SameSlots s (resend c s) := by
  rw [resend]
  split <;> exact ⟨rfl, rfl, rfl, rfl, rfl, rfl⟩

theorem recvmsg_keeps (h : Least c s) (hnext : s.next < c.nqueries) (d : Datagram α) :
    Keeps s (recvmsg c s d) := by
  intro i hi
  have hfree := h.free hnext
  have hne : i ≠ s.next := by
    rintro rfl
    omega
  exact ⟨rfl, recvmsg_answers_of_ne s d hne⟩

section

theorem Accepted.inv (h : Accepted c s i d s') (hinv : Inv c s) (hi : s.alens i = 0)
    (hlt : i < c.nqueries) : Inv c s' := by
  have hother : ∀ {k}, s.alens k = -1 → k ≠ i := by
    rintro k hk rfl
    omega
  refine ⟨h.least, ?_, ?_⟩
  · intro k hk hfd
    by_cases heq : k = i
    · subst heq
      rcases h.slot with hminus | ⟨-, hsame, -⟩
      · exact hminus
      · rw [hsame] at hfd
        exact absurd rfl (hother (hinv.connected k hlt hfd))
    · obtain ⟨ha, -, hc⟩ := h.others k heq
      rw [hc] at hfd
      rw [ha]
      exact hinv.connected k hk hfd
  · intro k hk hp hr
    rw [h.phase] at hp
    rw [h.revents] at hr
    have hminus := hinv.polled k hk hp hr
    rw [(h.others k (hother hminus)).1]
    exact hminus

theorem Accepted.keeps (h : Accepted c s i d s') (hi : s.alens i = 0) : Keeps s s' := by
  intro k hk
  have hne : k ≠ i := by
    rintro rfl
    omega
  obtain ⟨ha, hb, -⟩ := h.others k hne
  exact ⟨ha, hb⟩

theorem Accepted.holds (h : Accepted c (recvmsg c s d) i d s')
    (hpos : 0 < s'.alens i) : Holds s' i d := by
  rcases h.slot with hminus | ⟨hlen, -, hbytes, hfits⟩
  · rw [hminus] at hpos
    exact absurd hpos (by decide)
  · have hr : rlen c d = d.payload.length := min_eq_left hfits
    change _ = take _ ((recvmsg c s d).answers s.next) at hbytes
    rw [received_take, hr, take_of_length_le hfits] at hbytes
    rw [hr] at hlen
    exact ⟨hlen, hbytes⟩

end

theorem tcpStored_keeps {i : ℕ} (hi : s.alens i = -1) (data : List UInt8) :
    Keeps s (tcpStored c s i data) := by
  intro k hk
  have hne : k ≠ i := by
    rintro rfl
    omega
  exact ⟨rfl, update_of_ne hne ..⟩

theorem Keeps.trans {s s' s'' : State} (h : Keeps s s') (h' : Keeps s' s'') : Keeps s s'' := by
  intro i hi
  obtain ⟨ha, hb⟩ := h i hi
  obtain ⟨ha', hb'⟩ := h' i (by rwa [ha])
  exact ⟨ha'.trans ha, hb'.trans hb⟩

theorem tcpCommit_keeps {i : ℕ} (hi : s.alens i = -1) : Keeps s (tcpCommit s i) := by
  intro k hk
  have hne : k ≠ i := by
    rintro rfl
    omega
  exact ⟨update_of_ne hne .., rfl⟩

section

variable (h : Inv c s)
include h

/-- The slot of a finished connection has an answer, and its entry was the last to be looked at. -/
theorem tcpCommit_inv (hi : s.alens i = -1) (hphase : s.phase = .read (i + 1))
    (hlen : alenOf s i ≠ 0) : Inv c (tcpCommit s i) := by
  have hlen' : (alenOf s i : ℤ) ≠ 0 := Int.natCast_ne_zero.mpr hlen
  refine ⟨⟨h.least.le, fun k hk => update_ne_zero hlen' (.inl (h.least.before k hk)), ?_⟩, ?_, ?_⟩
  · intro hlt
    have hfree := h.least.free hlt
    have hne : s.next ≠ i := by
      rintro rfl
      omega
    exact (update_of_ne hne ..).trans hfree
  · intro k hk hfd
    change 0 ≤ update s.fd i (-1) k at hfd
    by_cases heq : k = i
    · rw [heq, update_self] at hfd
      exact absurd hfd (by decide)
    · rw [update_of_ne heq] at hfd
      exact (update_of_ne heq ..).trans (h.connected k hk hfd)
  · intro k hk hp hr
    have hp' : Pending s.phase k := hp
    have hne : k ≠ i := by
      rw [hphase] at hp'
      exact ne_of_gt hp'
    exact (update_of_ne hne ..).trans (h.polled k hk hp' hr)

theorem tcpStored_inv (hphase : s.phase = .read i)
    (data : List UInt8) : Inv c (tcpStored c s i data) := by
  refine h.of_same rfl rfl rfl rfl ?_
  intro k hk
  rw [hphase]
  exact le_of_succ_le hk

theorem tcpRead_step (hphase : s.phase = .read i) (hi : s.alens i = -1) (data : List UInt8) :
    ((tcpRead c s i data).phase ≠ .out → Inv c (tcpRead c s i data)) ∧
      Keeps s (tcpRead c s i data) := by
  have hinv := tcpStored_inv h hphase data
  have hkeeps := tcpStored_keeps (c := c) hi data
  have hleave : ∀ {t : State}, Keeps s t → ((leave t).phase ≠ .out → Inv c (leave t)) ∧
      Keeps s (leave t) :=
    fun ht => ⟨fun hout => absurd rfl hout, ht.trans (leave_keeps _)⟩
  rw [tcpRead]
  split
  · exact hleave (keeps_of_eq rfl rfl)
  dsimp only
  split
  · exact ⟨fun _ => hinv, hkeeps⟩
  split
  · exact hleave hkeeps
  split
  · exact ⟨fun _ => hinv, hkeeps⟩
  split
  · exact hleave hkeeps
  · exact ⟨fun _ => tcpCommit_inv hinv hi rfl (by omega), hkeeps.trans (tcpCommit_keeps hi)⟩

theorem tcpWrite_step (hphase : s.phase = .write i) (r : ℤ) :
    ((tcpWrite c s i r).phase ≠ .out → Inv c (tcpWrite c s i r)) ∧ Keeps s (tcpWrite c s i r) := by
  rw [tcpWrite]
  split
  · exact ⟨fun hout => absurd rfl hout, leave_keeps s⟩
  · refine ⟨fun _ => h.of_same rfl rfl rfl rfl ?_, keeps_of_eq rfl rfl⟩
    intro k _
    rw [hphase]
    trivial

end

theorem inv_of_initial (h : Initial c s) : Inv c s := by
  refine ⟨⟨by simp [h.next], by simp [h.next], fun _ => h.alens _⟩, ?_, ?_⟩
  · intro i hi hfd
    rw [h.fd i hi] at hfd
    exact absurd hfd (by decide)
  · intro i _ hp
    rw [h.phase] at hp
    exact absurd hp id

variable [DecidableEq α]

theorem datagram_step (h : Inv c s) (hnext : s.next < c.nqueries) (d : Datagram α)
    (calls : TcpCalls) : Inv c (handle c (recvmsg c s d) d calls) ∧
      Keeps s (handle c (recvmsg c s d) d calls) ∧
      ∀ i, s.alens i ≤ 0 → 0 < (handle c (recvmsg c s d) d calls).alens i →
        i < c.nqueries ∧ Answers c i d ∧ Holds (handle c (recvmsg c s d) d calls) i d := by
  have hrecv : Inv c (recvmsg c s d) := h.of_same rfl rfl rfl rfl fun _ hp => hp
  have hkeeps := recvmsg_keeps h.least hnext d
  rcases handle_cases h.least d calls with hsame | ⟨i, hlt, hi, hanswers, -, haccepted⟩
  · refine ⟨hrecv.of_sameSlots hsame, hkeeps.trans (keeps_of_eq hsame.alens hsame.answers), ?_⟩
    intro k hk hpos
    rw [hsame.alens] at hpos
    exact absurd hpos (Int.not_lt.mpr hk)
  · refine ⟨haccepted.inv hrecv hi hlt, hkeeps.trans (haccepted.keeps hi), ?_⟩
    intro k hk hpos
    by_cases heq : k = i
    · subst heq
      exact ⟨hlt, hanswers, haccepted.holds hpos⟩
    · rw [(haccepted.others k heq).1] at hpos
      exact absurd hpos (Int.not_lt.mpr hk)

/-- What one step does: the invariant stays, answers stay, and a datagram fills the right slot. -/
theorem step_slots (h : Inv c s) (hstep : Step c s a s') :
    (s'.phase ≠ .out → Inv c s') ∧ Keeps s s' ∧ Fills c s a s' := by
  cases hstep with
  | close hs hc => exact ⟨fun hout => absurd rfl hout, leave_keeps s, nofun⟩
  | wait hs ho now =>
    have hsame := resend_same c s
    refine ⟨fun _ => ?_, keeps_of_eq hsame.alens hsame.answers, nofun⟩
    exact (h.of_sameSlots hsame).of_same rfl rfl rfl rfl fun _ hp => hp
  | wake hs ho hp =>
    have hsame := resend_same c s
    refine ⟨fun _ => ?_, keeps_of_eq hsame.alens hsame.answers, nofun⟩
    have hinv := h.of_sameSlots hsame
    refine ⟨⟨hinv.least.le, hinv.least.before, hinv.least.free⟩, hinv.connected, ?_⟩
    -- only an open connection is reported
    intro i hi _ hr
    have hfd : 0 ≤ s.fd i := by
      by_contra hneg
      exact hr (hp i (le_of_lt hi) (Int.not_le.mp hneg))
    exact (congrFun hsame.alens i).trans (h.connected i hi hfd)
  | datagram hs hn d calls =>
    obtain ⟨hinv, hkeeps, hfills⟩ := datagram_step h hn d calls
    refine ⟨fun _ => hinv, hkeeps, ?_⟩
    intro d' calls' heq
    obtain ⟨rfl, rfl⟩ := Action.datagram.inj heq
    exact hfills
  | noDatagram hs | skipWrite hs | written hs =>
    refine ⟨fun _ => h.of_same rfl rfl rfl rfl fun i _ => ?_, keeps_of_eq rfl rfl, nofun⟩
    rw [hs]
    trivial
  | write hs hi hr r =>
    obtain ⟨hinv, hkeeps⟩ := tcpWrite_step h hs r
    exact ⟨hinv, hkeeps, nofun⟩
  | skipRead hs hi hr =>
    refine ⟨fun _ => h.of_same rfl rfl rfl rfl fun i hp => ?_, keeps_of_eq rfl rfl, nofun⟩
    rw [hs]
    exact le_of_succ_le hp
  | read hs hi hr data =>
    rename_i i
    have hne : s.revents i ≠ ⟨false, false⟩ := by
      intro heq
      rw [heq] at hr
      exact Bool.false_ne_true hr
    have hpending : Pending s.phase i := by
      rw [hs]
      exact le_refl i
    obtain ⟨hinv, hkeeps⟩ := tcpRead_step h hs (h.polled i hi hpending hne) data
    exact ⟨hinv, hkeeps, nofun⟩
  | turn hs now =>
    refine ⟨fun _ => h.of_same rfl rfl rfl rfl fun i hp => ?_, keeps_of_eq rfl rfl, nofun⟩
    exact absurd hp id

theorem step_phase (h : Step c s a s') : s.phase ≠ .out := by
  intro hout
  cases h <;> rename_i hs <;> simp_all

theorem run_inv (h : s.phase ≠ .out → Inv c s) (hrun : Run c s as s') :
    s'.phase ≠ .out → Inv c s' := by
  induction hrun with
  | nil => exact h
  | snoc _ hstep ih => exact (step_slots (ih (step_phase hstep)) hstep).1

theorem run_keeps (h : s.phase ≠ .out → Inv c s) (hrun : Run c s as s') :
    Keeps s s' := by
  induction hrun with
  | nil => exact keeps_of_eq rfl rfl
  | snoc hrun hstep ih => exact ih.trans (step_slots (run_inv h hrun (step_phase hstep)) hstep).2.1

theorem datagram_writes (h : Least c s) (d : Datagram α) (calls : TcpCalls)
    (hk : k ≠ s.next) (hc : (handle c (recvmsg c s d) d calls).answers k ≠ s.answers k) :
    s.alens k = 0 ∧ Answers c k d := by
  have hrecv := recvmsg_answers_of_ne (c := c) s d hk
  rcases handle_cases h d calls with hsame | ⟨i, hlt, hi, hanswers, -, haccepted⟩
  · rw [hsame.answers] at hc
    exact absurd hrecv hc
  · by_cases heq : k = i
    · rw [heq]
      exact ⟨hi, hanswers⟩
    · rw [(haccepted.others k heq).2.1] at hc
      exact absurd hrecv hc

/-- The free slot is the first one without an answer, a datagram is received into it, an answer is
never overwritten, and one that came in a datagram answers its query, from a nameserver that was
asked. -/
theorem answer_slots {s₀ s : State} (h₀ : Initial c s₀) {as : List (Action α)}
    (hrun : Run c s₀ as s) :
    (s.phase ≠ .out → Least c s) ∧
    (∀ bs s', Run c s bs s' → Keeps s s') ∧
    ∀ d calls s', Step c s (.datagram d calls) s' →
      s.next < c.nqueries ∧ s.alens s.next = 0 ∧
      (∀ k ≠ s.next, s'.answers k ≠ s.answers k → s.alens k = 0 ∧ Answers c k d) ∧
      ∀ i, s.alens i ≤ 0 → 0 < s'.alens i → i < c.nqueries ∧ Answers c i d ∧
        ∀ bs s'', Run c s' bs s'' → Holds s'' i d := by
  have hinit : s₀.phase ≠ .out → Inv c s₀ := fun _ => inv_of_initial h₀
  have hinv := run_inv hinit hrun
  refine ⟨fun hout => (hinv hout).least, fun bs s' hrun' => run_keeps hinv hrun', ?_⟩
  intro d calls s' hstep
  have hs := hinv (step_phase hstep)
  obtain ⟨hnext, -, hfills⟩ := step_slots hs hstep
  cases hstep with
  | datagram hphase hn =>
    refine ⟨hn, hs.least.free hn, fun k => datagram_writes hs.least d calls, ?_⟩
    intro i hi hpos
    obtain ⟨hlt, hanswers, hholds⟩ := hfills d calls rfl i hi hpos
    refine ⟨hlt, hanswers, ?_⟩
    intro bs s'' hrun'
    obtain ⟨halens, hbytes⟩ := run_keeps hnext hrun' i hpos
    exact ⟨halens.trans hholds.length, by rw [hbytes]; exact hholds.bytes⟩

def twoQueries : Config ℕ := ⟨[[1, 2, 1, 0], [3, 4, 1, 0]], [7], 512, 5, 2⟩

def atStart : State where
  phase := .head
  alens := fun _ => 0
  answers := fun _ => []
  next := 0
  fd := fun _ => -1
  events := fun _ => .none
  revents := fun _ => ⟨false, false⟩
  qpos := fun _ => 0
  apos := fun _ => 0
  alen_buf := fun _ => []
  servfail_retry := 0
  t0 := 10000
  t1 := 7500
  t2 := 10000
  sent := []

def secondAnswer : Datagram ℕ := ⟨7, [3, 4, 128, 0]⟩

def atReceive : State :=
  { resend twoQueries atStart with revents := fun _ => ⟨false, false⟩, phase := .receive }

def atSecond : State :=
  handle twoQueries (recvmsg twoQueries atReceive secondAnswer) secondAnswer
    ⟨3, 0, 0, false, 0, false⟩

theorem answer_slots_second : Initial twoQueries atStart ∧ atSecond.next = 0 ∧
    atSecond.alens 0 = 0 ∧ atSecond.alens 1 = 4 ∧ Answers twoQueries 1 secondAnswer ∧
    Holds atSecond 1 secondAnswer := by
  have hinit : Initial twoQueries atStart :=
    ⟨rfl, fun _ => rfl, rfl, fun _ _ => rfl, rfl, by decide, rfl⟩
  have hopen : Open twoQueries atStart := ⟨by decide, by decide⟩
  have hrun : Run twoQueries atStart ([] ++ [.wake fun _ => ⟨false, false⟩]) atReceive :=
    .snoc (.nil _) (.wake rfl hopen fun _ _ _ => rfl)
  have hstep : Step twoQueries atReceive (.datagram secondAnswer ⟨3, 0, 0, false, 0, false⟩)
      atSecond :=
    .datagram rfl (by decide) _ _
  obtain ⟨-, -, -, hfills⟩ := (answer_slots hinit hrun).2.2 _ _ _ hstep
  obtain ⟨-, hanswers, hholds⟩ := hfills 1 (by decide) (by decide)
  exact ⟨hinit, by decide, by decide, by decide, hanswers, hholds [] _ (.nil _)⟩

end ResMsend
