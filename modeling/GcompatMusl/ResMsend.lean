import Mathlib.Data.BitVec

/-! # Queries to nameservers

`__res_msend_rc` sends every query to every nameserver and collects the answers. The first slot
without an answer is also the buffer in which a datagram is received. An answer that was cut off is
fetched again over a connection of its own, and its slot has length -1 meanwhile. The loop moves
from one call of the kernel to the next, and what the kernel gives back is the action. An address
stands for the `sl` bytes that `memcmp` compares. -/
namespace ResMsend

open Function

structure Datagram (α : Type*) where
  sender : α
  payload : List UInt8

structure Config (α : Type*) where
  queries : List (List UInt8)
  ns : List α
  asize : ℕ
  /-- The fields of `conf` -/
  timeout : ℤ
  attempts : ℤ

inductive Events where
  | none
  | POLLIN
  | POLLOUT
  deriving DecidableEq

structure Revents where
  pollin : Bool
  pollout : Bool

inductive Phase where
  | head
  | receive
  | write (i : ℕ)
  | read (i : ℕ)
  | out
  deriving DecidableEq

structure State where
  phase : Phase
  alens : ℕ → ℤ
  answers : ℕ → List UInt8
  next : ℕ
  fd : ℕ → ℤ
  events : ℕ → Events
  revents : ℕ → Revents
  qpos : ℕ → ℤ
  apos : ℕ → ℤ
  alen_buf : ℕ → List UInt8
  servfail_retry : ℕ
  t0 : BitVec 64
  t1 : BitVec 64
  t2 : BitVec 64
  /-- The datagrams sent, a query and a nameserver each -/
  sent : List (ℕ × ℕ)

structure TcpCalls where
  socket : ℤ
  setsockopt : ℤ
  sendmsg : ℤ
  sendInProgress : Bool
  connect : ℤ
  connectInProgress : Bool

structure TcpStart where
  fd : ℤ
  events : Events
  result : ℤ

variable {α : Type*} [DecidableEq α]

def Config.nqueries (c : Config α) : ℕ := c.queries.length

def Config.query (c : Config α) (i : ℕ) : List UInt8 := c.queries.getD i []

/-- The `int` timeout in milliseconds, as the comparison of `unsigned long`s takes it. -/
def Config.limit (c : Config α) : BitVec 64 := BitVec.ofInt 64 (1000 * c.timeout)

def Config.retry_interval (c : Config α) : BitVec 64 :=
  BitVec.ofInt 64 ((1000 * c.timeout).tdiv c.attempts)

def scanFrom (p : ℕ → Bool) : ℕ → ℕ → ℕ
  | 0, i => i
  | k + 1, i => if p i then scanFrom p k (i + 1) else i

def scan (p : ℕ → Bool) (i n : ℕ) : ℕ := scanFrom p (n - i) i

def overwrite (buf data : List UInt8) : List UInt8 := data ++ buf.drop data.length

def start_tcp (ql : ℕ) (calls : TcpCalls) : TcpStart :=
  if calls.setsockopt = 0 ∧ 0 ≤ calls.sendmsg then
    ⟨calls.socket, if calls.sendmsg = ql + 2 then .POLLIN else .POLLOUT, calls.sendmsg⟩
  else if calls.setsockopt = 0 ∧ calls.sendInProgress = true then ⟨calls.socket, .POLLOUT, 0⟩
  else if calls.connect = 0 ∨ calls.connectInProgress = true then ⟨calls.socket, .POLLOUT, 0⟩
  else ⟨-1, .POLLOUT, -1⟩

def rlen (c : Config α) (d : Datagram α) : ℕ := min d.payload.length c.asize

section

variable (c : Config α) (s : State)

def recvmsg (d : Datagram α) : State :=
  { s with
    answers := update s.answers s.next
      (overwrite (s.answers s.next) (d.payload.take c.asize)) }

def fallback (i : ℕ) (calls : TcpCalls) : State :=
  let start := start_tcp (c.query i).length calls
  { s with
    alens := update s.alens i (-1)
    fd := update s.fd i start.fd
    events := update s.events i start.events
    qpos := if 0 ≤ start.result then update s.qpos i start.result else s.qpos
    apos := if 0 ≤ start.result then update s.apos i 0 else s.apos }

def store (i rlen : ℕ) : State :=
  let alens := update s.alens i (rlen : ℤ)
  if i = s.next then
    { s with alens := alens, next := scan (fun k => alens k ≠ 0) s.next c.nqueries }
  else
    { s with
      alens := alens
      answers := update s.answers i (overwrite (s.answers i) ((s.answers s.next).take rlen)) }

def ignoreUdp : State :=
  if s.next = c.nqueries then { s with events := update s.events c.nqueries .none } else s

def truncated (i : ℕ) (d : Datagram α) : Bool :=
  (s.answers i).getD 2 0 &&& 2 ≠ 0 || c.asize < d.payload.length

def accept (i : ℕ) (d : Datagram α) (calls : TcpCalls) : State :=
  let s := ignoreUdp c (store c s i (rlen c d))
  if truncated c s i d then fallback c s i calls else s

def serverOf (c : Config α) (d : Datagram α) : ℕ :=
  scan (fun j => c.ns[j]? ≠ some d.sender) 0 c.ns.length

def queryOf : ℕ :=
  scan (fun i => (s.answers s.next).getD 0 0 ≠ (c.query i).getD 0 0 ||
    (s.answers s.next).getD 1 0 ≠ (c.query i).getD 1 0) s.next c.nqueries

def rcode (buf : List UInt8) : UInt8 := buf.getD 3 0 &&& 15

/-- One turn of the loop `while (next < nqueries)` behind a `recvmsg` that succeeds. -/
def handle (d : Datagram α) (calls : TcpCalls) : State :=
  if rlen c d < 4 then s
  else if serverOf c d = c.ns.length then s
  else if queryOf c s = c.nqueries then s
  else if s.alens (queryOf c s) ≠ 0 then s
  else if rcode (s.answers s.next) = 0 ∨ rcode (s.answers s.next) = 3 then
    accept c s (queryOf c s) d calls
  else if rcode (s.answers s.next) = 2 ∧ s.servfail_retry ≠ 0 then
    { s with
      servfail_retry := s.servfail_retry - 1
      sent := s.sent ++ [(queryOf c s, serverOf c d)] }
  else s

end

inductive Buffer where
  | lengthBytes
  | answer
  deriving DecidableEq

structure Iovec where
  buf : Buffer
  base : ℕ
  len : ℕ

def step_mh : List Iovec → ℕ → List Iovec
  | [], _ => []
  | v :: vs, n => if v.len ≤ n then step_mh vs (n - v.len) else ⟨v.buf, v.base + n, v.len - n⟩ :: vs

/-- What a `recvmsg` writes: the bytes of the length and of the answer. -/
def scatter : List Iovec → List UInt8 → List UInt8 × List UInt8 → List UInt8 × List UInt8
  | [], _, bufs => bufs
  | v :: vs, data, (lengthBytes, answer) =>
    let part := data.take v.len
    scatter vs (data.drop v.len) <| match v.buf with
      | .lengthBytes =>
        (lengthBytes.take v.base ++ overwrite (lengthBytes.drop v.base) part, answer)
      | .answer => (lengthBytes, answer.take v.base ++ overwrite (answer.drop v.base) part)

def leave (s : State) : State :=
  { s with phase := .out, alens := fun i => if s.alens i < 0 then 0 else s.alens i }

section

variable (c : Config α) (s : State)

def tcpWrite (i : ℕ) (r : ℤ) : State :=
  if r < 0 then leave s
  else { s with
    phase := .write (i + 1)
    qpos := update s.qpos i (s.qpos i + r)
    events := if s.qpos i + r = (c.query i).length + 2 then update s.events i .POLLIN
      else s.events }

def tcpStored (i : ℕ) (data : List UInt8) : State :=
  let bufs := scatter (step_mh [⟨.lengthBytes, 0, 2⟩, ⟨.answer, 0, c.asize⟩] (s.apos i).toNat) data
    (s.alen_buf i, s.answers i)
  { s with
    phase := .read (i + 1)
    alen_buf := update s.alen_buf i bufs.1
    answers := update s.answers i bufs.2
    apos := update s.apos i (s.apos i + data.length) }

def alenOf (s : State) (i : ℕ) : ℕ :=
  ((s.alen_buf i).getD 0 0).toNat * 256 + ((s.alen_buf i).getD 1 0).toNat

def tcpCommit (s : State) (i : ℕ) : State :=
  { s with
    alens := update s.alens i (alenOf s i : ℤ)
    fd := update s.fd i (-1) }

def tcpRead (i : ℕ) (data : List UInt8) : State :=
  if data = [] then leave s
  else
    let s := tcpStored c s i data
    if s.apos i < 2 then s
    else if alenOf s i < 13 then leave s
    else if s.apos i < alenOf s i + 2 ∧ s.apos i < c.asize + 2 then s
    else if rcode (s.answers i) ≠ 0 ∧ rcode (s.answers i) ≠ 3 then leave s
    else tcpCommit s i

def resend : State :=
  if c.retry_interval ≤ s.t2 - s.t1 then
    { s with
      sent := s.sent ++ ((List.range c.nqueries).filter (fun i => s.alens i = 0)).flatMap
        fun i => (List.range c.ns.length).map fun j => (i, j)
      t1 := s.t2
      servfail_retry := 2 * c.nqueries }
  else s

inductive Action (α : Type*) where
  | leave
  | wait (now : BitVec 64)
  | wake (revents : ℕ → Revents)
  | datagram (d : Datagram α) (calls : TcpCalls)
  | noDatagram
  | skip
  | write (i : ℕ) (r : ℤ)
  | read (i : ℕ) (data : List UInt8)
  | turn (now : BitVec 64)

def Open : Prop :=
  s.t2 - s.t0 < c.limit ∧ scan (fun i => 0 < s.alens i) 0 c.nqueries ≠ c.nqueries

/-- `poll` passes over an entry whose descriptor is negative. -/
def Polled (revents : ℕ → Revents) : Prop :=
  ∀ i ≤ c.nqueries, s.fd i < 0 → revents i = ⟨false, false⟩

end

inductive Step (c : Config α) : State → Action α → State → Prop where
  | close {s : State} (hs : s.phase = .head) (hc : ¬ Open c s) : Step c s .leave (leave s)
  | wait {s : State} (hs : s.phase = .head) (ho : Open c s) (now : BitVec 64) :
      Step c s (.wait now) { resend c s with t2 := now }
  | wake {s : State} (hs : s.phase = .head) (ho : Open c s) {revents : ℕ → Revents}
      (hp : Polled c s revents) :
      Step c s (.wake revents) { resend c s with revents := revents, phase := .receive }
  | datagram {s : State} (hs : s.phase = .receive) (hn : s.next < c.nqueries) (d : Datagram α)
      (calls : TcpCalls) : Step c s (.datagram d calls) (handle c (recvmsg c s d) d calls)
  | noDatagram {s : State} (hs : s.phase = .receive) :
      Step c s .noDatagram { s with phase := .write 0 }
  | skipWrite {s : State} {i : ℕ} (hs : s.phase = .write i) (hi : i < c.nqueries)
      (hr : (s.revents i).pollout = false) : Step c s .skip { s with phase := .write (i + 1) }
  | write {s : State} {i : ℕ} (hs : s.phase = .write i) (hi : i < c.nqueries)
      (hr : (s.revents i).pollout = true) (r : ℤ) : Step c s (.write i r) (tcpWrite c s i r)
  | written {s : State} (hs : s.phase = .write c.nqueries) :
      Step c s .skip { s with phase := .read 0 }
  | skipRead {s : State} {i : ℕ} (hs : s.phase = .read i) (hi : i < c.nqueries)
      (hr : (s.revents i).pollin = false) : Step c s .skip { s with phase := .read (i + 1) }
  | read {s : State} {i : ℕ} (hs : s.phase = .read i) (hi : i < c.nqueries)
      (hr : (s.revents i).pollin = true) (data : List UInt8) :
      Step c s (.read i data) (tcpRead c s i data)
  | turn {s : State} (hs : s.phase = .read c.nqueries) (now : BitVec 64) :
      Step c s (.turn now) { s with phase := .head, t2 := now }

structure Initial (c : Config α) (s : State) : Prop where
  phase : s.phase = .head
  alens : ∀ i, s.alens i = 0
  next : s.next = 0
  fd : ∀ i < c.nqueries, s.fd i = -1
  t2 : s.t2 = s.t0
  t1 : s.t1 = s.t2 - c.retry_interval
  sent : s.sent = []

inductive Run (c : Config α) : State → List (Action α) → State → Prop where
  | nil (s : State) : Run c s [] s
  | snoc {s s' s'' : State} {as : List (Action α)} {a : Action α} (h : Run c s as s')
      (hstep : Step c s' a s'') : Run c s (as ++ [a]) s''

def AF_INET : ℤ := 2

def AF_INET6 : ℤ := 10

def MAXNS : ℕ := 3

structure Resolvconf where
  family : ℕ → ℤ
  nns : ℕ
  nns_le : nns ≤ MAXNS

section

variable (conf : Resolvconf)

/-- `conf->ns[i].family`. The field `nns` stands behind the array. -/
def Resolvconf.ns (i : ℕ) : ℤ := if i < MAXNS then conf.family i else conf.nns

def Resolvconf.socketFamily : ℤ :=
  if ∀ i < conf.nns, conf.ns i = AF_INET then AF_INET else AF_INET6

/-- The search with `k` turns to go: whether it ends at `i==nns`, and the indices it reads. -/
def search : ℕ → Bool × List ℕ
  | 0 => (true, [])
  | k + 1 =>
    if conf.ns conf.nns = AF_INET6 then ((search k).1, conf.nns :: (search k).2)
    else (false, [conf.nns])

/-- Opening the first socket has failed with `EAFNOSUPPORT`: the result or the family to go on with,
and the indices read to decide it. -/
def withoutSupport : Except ℤ ℤ × List ℕ :=
  if conf.socketFamily = AF_INET6 then
    (if (search conf conf.nns).1 then .error (-1) else .ok AF_INET, (search conf conf.nns).2)
  else (.ok AF_INET, [])

def FallsBack : Prop :=
  ((withoutSupport conf).1 = .error (-1) ↔ ∀ i < conf.nns, conf.ns i = AF_INET6) ∧
    ((withoutSupport conf).1 = .error (-1) ∨ (withoutSupport conf).1 = .ok AF_INET) ∧
    ∀ i ∈ (withoutSupport conf).2, i < conf.nns

theorem mem_search : ∀ {k}, 0 < k → conf.nns ∈ (search conf k).2
  | k + 1, _ => by
    rw [search]
    split <;> simp

/-- The element behind the last is read, so the search is right only where it is not made. -/
theorem fallsBack_iff (hpos : 0 < conf.nns) :
    FallsBack conf ↔ ∀ i < conf.nns, conf.ns i = AF_INET := by
  constructor
  · intro h
    by_contra hsome
    have hread := h.2.2
    rw [withoutSupport, Resolvconf.socketFamily, if_neg hsome] at hread
    exact absurd (hread _ (mem_search conf hpos)) (lt_irrefl _)
  · intro h
    rw [FallsBack, withoutSupport, Resolvconf.socketFamily, if_pos h]
    refine ⟨⟨nofun, fun hall => ?_⟩, .inr rfl, nofun⟩
    exact absurd ((h 0 hpos).symm.trans (hall 0 hpos)) (by decide)

end

theorem fallsBack_ipv4 : FallsBack ⟨fun _ => AF_INET, 2, by decide⟩ :=
  (fallsBack_iff _ (by decide)).mpr (by decide)

/-- With three nameservers, all of them IPv6, the number of them is taken for a family. -/
theorem no_return_without_ipv4 :
    withoutSupport ⟨fun _ => AF_INET6, 3, by decide⟩ = (.ok AF_INET, [3]) := rfl

end ResMsend
