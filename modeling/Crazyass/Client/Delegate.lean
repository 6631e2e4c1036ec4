import Crazyass.Sys.Run
import Mathlib.Tactic

/-!
# The delegate of the client's connection

`MyDelegate` of `start_scene.cpp`. One pair `lastseq_`, `target_` stands for
all outstanding requests: `SendServer` overwrites it, and `onMessage` drops a
reply that does not carry `lastseq_`. A `CATarget *` is a value of the parameter
type `τ`, and `none` is the null pointer.

`Conn` is the connection around it: the requests sent, the replies that have
arrived, and the targets whose `CARecv` they were passed to.
-/

namespace Crazyass.Client
open Sys

/-- `NETWORK_TIMEOUT` of `common.h`. -/
def networkTimeout : Int32 := 10

structure MyDelegate (τ : Type) where
  target : Option τ
  recvflag : Bool
  recvcount : Int32
  seq : Int32
  lastseq : Int32
deriving DecidableEq, Repr

/-- How `CheckRecv` ends: it returns true after `CARecvDone` of the target, if
there is one, or after `CARecvTimeout`; it returns false; or it calls
`CARecvTimeout` through a null pointer. -/
inductive Checked (τ : Type) where
  | done (target : Option τ)
  | timeout (target : τ)
  | waiting
  | nullCall
deriving DecidableEq, Repr

namespace MyDelegate
section
variable {τ : Type}

/-- `Init`. -/
def init (target : Option τ) : MyDelegate τ := ⟨target, false, 0, 12345, 0⟩

/-- `onMessage` for a reply with this `Seq`: the delegate, and the target whose
`CARecv` is called. -/
def onMessage (d : MyDelegate τ) (seq : Int32) : MyDelegate τ × Option τ :=
  if seq ≠ d.lastseq then (d, none)
  else
    match d.target with
    | some t => ({ d with recvflag := true }, some t)
    | none => (d, none)

/-- `CheckRecv`. -/
def checkRecv (d : MyDelegate τ) : MyDelegate τ × Checked τ :=
  if d.recvflag then (d, .done d.target)
  else
    let d := { d with recvcount := d.recvcount + 1 }
    if networkTimeout ≤ d.recvcount then
      match d.target with
      | some t => (d, .timeout t)
      | none => (d, .nullCall)
    else (d, .waiting)

/-- `SendServer`: the request goes out with the old value of `seq_`. -/
def sendServer (d : MyDelegate τ) (target : Option τ) : MyDelegate τ :=
  { target, recvflag := false, recvcount := 0, seq := d.seq + 1, lastseq := d.seq }

variable {d : MyDelegate τ} {seq : Int32}

/-- A message with another number than the last one is dropped. -/
theorem onMessage_stale (stale : seq ≠ d.lastseq) : d.onMessage seq = (d, none) := if_pos stale

/-- Without a target no message is passed on. -/
theorem onMessage_null (null : d.target = none) : d.onMessage seq = (d, none) := by
  unfold onMessage
  rw [null]
  exact ite_self _

/-- The reply to the newest request goes to the target. -/
theorem onMessage_target {t : τ} (last : seq = d.lastseq) (target : d.target = some t) :
    d.onMessage seq = ({ d with recvflag := true }, some t) := by
  unfold onMessage
  rw [if_neg (not_not.2 last), target]

/-- What is passed on raises the flag, and changes nothing else. -/
theorem onMessage_some {t : τ} (passed : (d.onMessage seq).2 = some t) :
    d.onMessage seq = ({ d with recvflag := true }, some t) := by
  unfold onMessage at passed ⊢
  split at passed
  · cases passed
  · next last =>
    rw [if_neg last]
    split at passed <;> cases passed
    rfl

theorem onMessage_none (dropped : (d.onMessage seq).2 = none) : d.onMessage seq = (d, none) := by
  unfold onMessage at dropped ⊢
  split at dropped
  · next stale => rw [if_pos stale]
  · next last =>
    rw [if_neg last]
    split at dropped <;> cases dropped
    rfl

theorem checkRecv_received (received : d.recvflag = true) : d.checkRecv = (d, .done d.target) := if_pos received

/-- Whom a message is passed to. -/
theorem onMessage_snd : (d.onMessage seq).2 = if seq = d.lastseq then d.target else none := by
  by_cases last : seq = d.lastseq
  · cases target : d.target with
    | none => simp [onMessage_null target]
    | some t => rw [onMessage_target last target, if_pos last]
  · simp [onMessage_stale last, last]

/-- A message leaves everything but `recvflag_` alone. -/
theorem onMessage_fst (d : MyDelegate τ) (seq : Int32) :
    (d.onMessage seq).1.target = d.target ∧ (d.onMessage seq).1.seq = d.seq ∧
      (d.onMessage seq).1.lastseq = d.lastseq := by
  unfold onMessage
  split
  · exact ⟨rfl, rfl, rfl⟩
  · split <;> exact ⟨rfl, rfl, rfl⟩

/-- `CheckRecv` leaves the target and the numbers alone. -/
theorem checkRecv_fst :
    d.checkRecv.1.target = d.target ∧ d.checkRecv.1.seq = d.seq ∧ d.checkRecv.1.lastseq = d.lastseq := by
  unfold checkRecv
  split
  · exact ⟨rfl, rfl, rfl⟩
  · dsimp only
    split
    · split <;> exact ⟨rfl, rfl, rfl⟩
    · exact ⟨rfl, rfl, rfl⟩

end
end MyDelegate

/-! ## The connection -/

/-- A request as it went out. -/
structure Sent (τ : Type) where
  seq : Int32
  target : Option τ
deriving DecidableEq, Repr

/-- A reply that came in: the request it answers, and how many requests had
been sent by then. -/
structure Arrival where
  request : ℕ
  sent : ℕ
deriving DecidableEq, Repr

/-- Requests are numbered in the order they are sent. `passed` lists the calls
of `CARecv`: the request whose reply was passed, and the target. -/
structure Conn (τ : Type) where
  delegate : MyDelegate τ
  sent : List (Sent τ)
  arrivals : List Arrival
  passed : List (ℕ × τ)

inductive ConnStep (τ : Type) where
  | send (target : Option τ)
  | check
  | reply (request : ℕ)
deriving Repr

namespace Conn
section
variable {τ : Type}

/-- The connection after `Init` with the scene that opened it. -/
def start (opener : Option τ) : Conn τ := ⟨.init opener, [], [], []⟩

def answered (s : Conn τ) (i : ℕ) : Bool := s.arrivals.any (·.request = i)

/-- A reply is to a request that was sent and not answered yet. A null call
ends the program. -/
def step (s : Conn τ) : ConnStep τ → Option (Conn τ)
  | .send target =>
    some { s with delegate := s.delegate.sendServer target, sent := s.sent ++ [⟨s.delegate.seq, target⟩] }
  | .check =>
    match s.delegate.checkRecv with
    | (_, .nullCall) => none
    | (d, _) => some { s with delegate := d }
  | .reply i =>
    match s.sent[i]? with
    | none => none
    | some r =>
      if s.answered i then none
      else
        let (d, target) := s.delegate.onMessage r.seq
        some
          { s with
            delegate := d
            arrivals := s.arrivals ++ [⟨i, s.sent.length⟩]
            passed := s.passed ++ target.toList.map fun t => (i, t) }

/-- The targets the reply to request `i` was passed to, one for each call. -/
def targets (s : Conn τ) (i : ℕ) : List τ := (s.passed.filter (·.1 = i)).map Prod.snd

/-- **The contract**: the reply to a request with a target has been passed to
that target once, and to no other. -/
def Delivered (s : Conn τ) : Prop :=
  ∀ a ∈ s.arrivals, ∀ r ∈ s.sent[a.request]?, ∀ t ∈ r.target, s.targets a.request = [t]

/-! ## Sequence numbers -/

/-- The sequence number of request `i`. -/
def seqOf (i : ℕ) : Int32 := Int32.ofNat (12345 + i)

theorem seqOf_succ (i : ℕ) : seqOf i + 1 = seqOf (i + 1) := by
  rw [seqOf, seqOf, ← Nat.add_assoc, Int32.ofNat_add (12345 + i) 1]
  rfl

/-- Numbers repeat after `2 ^ 32` requests, and not before. -/
theorem seqOf_inj {i j : ℕ} (same : seqOf i = seqOf j) (lt : i < j) : i + 2 ^ 32 ≤ j := by
  have bits := congrArg (fun n : Int32 => n.toBitVec.toNat) same
  simp only [seqOf, Int32.toBitVec_ofNat', BitVec.toNat_ofNat] at bits
  omega

/-! ## Runs -/

/-- What a reply's arrival has led to: it was passed on if no later request had
been sent, and dropped if one had. -/
structure Settled (a : Arrival) (r : Sent τ) (targets : List τ) : Prop where
  newest : a.sent = a.request + 1 → targets = r.target.toList
  overtaken : a.request + 1 < a.sent → a.sent ≤ a.request + 2 ^ 32 → targets = []

/-- What every step keeps. -/
structure Inv (s : Conn τ) : Prop where
  numbered : ∀ i r, s.sent[i]? = some r → r.seq = seqOf i
  next : s.delegate.seq = seqOf s.sent.length
  newest : ∀ i r, s.sent.length = i + 1 → s.sent[i]? = some r →
    s.delegate.lastseq = r.seq ∧ s.delegate.target = r.target
  known : ∀ p ∈ s.passed, s.answered p.1 = true
  settled : ∀ a ∈ s.arrivals, ∃ r, s.sent[a.request]? = some r ∧ Settled a r (s.targets a.request)

variable {s t : Conn τ} {i j : ℕ}

/-- A target is added for the request whose reply has come, and for no other. -/
theorem targets_pass (target : Option τ) :
    targets { s with passed := s.passed ++ target.toList.map fun t => (i, t) } j =
      s.targets j ++ if i = j then target.toList else [] := by
  cases target with
  | none => simp [targets]
  | some t => by_cases same : i = j <;> simp [targets, same]

/-- No reply has been passed on before it arrived. -/
theorem Inv.fresh (inv : Inv s) (unanswered : s.answered i = false) : s.targets i = [] := by
  have none_passed : s.passed.filter (·.1 = i) = [] := by
    apply List.filter_eq_nil_iff.2
    intro p hp same
    have known := inv.known p hp
    rw [of_decide_eq_true same, unanswered] at known
    cases known
  rw [targets, none_passed, List.map_nil]

/-- A call of `CheckRecv` changes nothing that the numbers depend on. -/
theorem step_check : step s .check = some t → ∃ d, t = { s with delegate := d } ∧ d.target = s.delegate.target ∧
    d.seq = s.delegate.seq ∧ d.lastseq = s.delegate.lastseq := by
  intro h
  have kept := s.delegate.checkRecv_fst
  simp only [step] at h
  split at h
  · cases h
  · next d c _ checked =>
    cases h
    rw [checked] at kept
    exact ⟨d, rfl, kept⟩

theorem step_reply : step s (.reply i) = some t ↔ ∃ r, s.sent[i]? = some r ∧ s.answered i = false ∧
    t = { s with
      delegate := (s.delegate.onMessage r.seq).1
      arrivals := s.arrivals ++ [⟨i, s.sent.length⟩]
      passed := s.passed ++ (s.delegate.onMessage r.seq).2.toList.map fun t => (i, t) } := by
  simp only [step]
  cases found : s.sent[i]? with
  | none => simp
  | some r => cases fresh : s.answered i <;> simp [eq_comm]

/-- Nothing has been sent or passed on. -/
theorem start_inv (opener : Option τ) : Inv (start opener) where
  numbered i r found := by simp [start] at found
  next := rfl
  newest i r len found := by simp [start] at found
  known p hp := by simp [start] at hp
  settled a ha := by simp [start] at ha

/-- A request already sent stays where it is. -/
theorem sent_append {l : List (Sent τ)} {r q : Sent τ} (found : l[i]? = some r) : (l ++ [q])[i]? = some r := by
  rw [List.getElem?_append_left (List.getElem?_eq_some_iff.1 found).1]
  exact found

/-- A request of the longer list is an old one or the new one. -/
theorem sent_concat {l : List (Sent τ)} {r q : Sent τ} (found : (l ++ [q])[i]? = some r) :
    l[i]? = some r ∨ i = l.length ∧ r = q := by
  rcases Nat.lt_trichotomy i l.length with old | new | beyond
  · rw [List.getElem?_append_left old] at found
    exact .inl found
  · subst new
    rw [List.getElem?_concat_length] at found
    exact .inr ⟨rfl, (Option.some.inj found).symm⟩
  · rw [List.getElem?_eq_none (by simp; omega)] at found
    cases found

/-- A request takes the next number, and becomes the newest. -/
theorem send_inv (inv : Inv s) (target : Option τ) :
    Inv { s with delegate := s.delegate.sendServer target, sent := s.sent ++ [⟨s.delegate.seq, target⟩] } where
  numbered i r found := by
    rcases sent_concat found with old | ⟨rfl, rfl⟩
    · exact inv.numbered i r old
    · exact inv.next
  next := by
    rw [List.length_append, List.length_singleton, ← seqOf_succ, ← inv.next]
    rfl
  newest i r len found := by
    have last : i = s.sent.length := by simpa using len.symm
    subst last
    rw [List.getElem?_concat_length] at found
    cases found
    exact ⟨rfl, rfl⟩
  known := inv.known
  settled a ha := by
    obtain ⟨r, found, settled⟩ := inv.settled a ha
    exact ⟨r, sent_append found, settled⟩

/-- The delegate's pair is that of the newest request. -/
theorem Inv.pair (inv : Inv s) {r : Sent τ} (found : s.sent[i]? = some r) :
    ∃ n q, s.sent.length = n + 1 ∧ s.sent[n]? = some q ∧ i ≤ n ∧ s.delegate.lastseq = seqOf n ∧
      s.delegate.target = q.target := by
  have inside : i < s.sent.length := (List.getElem?_eq_some_iff.1 found).1
  obtain ⟨n, len⟩ : ∃ n, s.sent.length = n + 1 := ⟨s.sent.length - 1, by omega⟩
  have newest : s.sent[n]? = some s.sent[n] := List.getElem?_eq_getElem (by omega)
  obtain ⟨lastseq, target⟩ := inv.newest n _ len newest
  exact ⟨n, s.sent[n], len, newest, by omega, lastseq.trans (inv.numbered n _ newest), target⟩

/-- Whom the reply to request `i` is passed to when it arrives. -/
theorem Inv.passes (inv : Inv s) {r : Sent τ} (found : s.sent[i]? = some r) :
    (s.sent.length = i + 1 → (s.delegate.onMessage r.seq).2 = r.target) ∧
      (i + 1 < s.sent.length → s.sent.length ≤ i + 2 ^ 32 → (s.delegate.onMessage r.seq).2 = none) := by
  obtain ⟨n, q, len, newest, le, lastseq, target⟩ := inv.pair found
  rw [MyDelegate.onMessage_snd, inv.numbered i r found, lastseq]
  constructor
  · intro last
    obtain rfl : n = i := by omega
    rw [newest] at found
    cases found
    rw [if_pos rfl, target]
  · intro later near
    apply if_neg
    intro same
    have far := seqOf_inj same (by omega)
    omega

/-- A reply is passed on for the newest request only. -/
theorem reply_inv (inv : Inv s) {r : Sent τ} (found : s.sent[i]? = some r) (fresh : s.answered i = false) :
    Inv { s with
      delegate := (s.delegate.onMessage r.seq).1
      arrivals := s.arrivals ++ [⟨i, s.sent.length⟩]
      passed := s.passed ++ (s.delegate.onMessage r.seq).2.toList.map fun t => (i, t) } where
  numbered := inv.numbered
  next := (s.delegate.onMessage_fst r.seq).2.1.trans inv.next
  newest j q len last := by
    obtain ⟨target, -, lastseq⟩ := s.delegate.onMessage_fst r.seq
    obtain ⟨seq_eq, target_eq⟩ := inv.newest j q len last
    exact ⟨lastseq.trans seq_eq, target.trans target_eq⟩
  known p hp := by
    rcases List.mem_append.1 hp with old | new
    · have known := inv.known p old
      unfold answered at known ⊢
      rw [List.any_append, known, Bool.true_or]
    · obtain ⟨t, -, rfl⟩ := List.mem_map.1 new
      simp [answered]
  settled a ha := by
    rcases List.mem_append.1 ha with old | new
    · obtain ⟨q, there, settled⟩ := inv.settled a old
      have other : i ≠ a.request := by
        rintro rfl
        have seen : s.answered a.request = true := List.any_eq_true.2 ⟨a, old, by simp⟩
        rw [fresh] at seen
        cases seen
      refine ⟨q, there, ?_⟩
      have same := targets_pass (s := s) (i := i) (j := a.request) (s.delegate.onMessage r.seq).2
      rw [if_neg other, List.append_nil] at same
      exact same ▸ settled
    · obtain rfl := List.mem_singleton.1 new
      obtain ⟨newest, overtaken⟩ := inv.passes found
      refine ⟨r, found, ?_, ?_⟩
      · intro last
        refine (targets_pass _).trans ?_
        rw [if_pos rfl, inv.fresh fresh, newest last, List.nil_append]
      · intro later near
        refine (targets_pass _).trans ?_
        rw [if_pos rfl, inv.fresh fresh, overtaken later near]
        rfl

/-- **One step** keeps the invariant. -/
theorem step_inv {a : ConnStep τ} (inv : Inv s) (h : step s a = some t) : Inv t := by
  cases a with
  | send target =>
    cases h
    exact send_inv inv target
  | check =>
    obtain ⟨d, rfl, target, seq, lastseq⟩ := step_check h
    refine ⟨inv.numbered, seq.trans inv.next, ?_, inv.known, inv.settled⟩
    intro i r len found
    obtain ⟨seq_eq, target_eq⟩ := inv.newest i r len found
    exact ⟨lastseq.trans seq_eq, target.trans target_eq⟩
  | reply i =>
    obtain ⟨r, found, fresh, rfl⟩ := step_reply.1 h
    exact reply_inv inv found fresh

/-- **Which replies reach their requester.** In every run: a reply that arrives
while its request is the newest one has been passed to exactly that request's
target, exactly once; a reply that a later request has overtaken has been
passed to no target, as long as the sequence numbers have not come round. -/
theorem newest_reply_delivered (opener : Option τ) (as : List (ConnStep τ)) (s : Conn τ)
    (run : exec step (start opener) as = some s) :
    ∀ a ∈ s.arrivals, ∃ r, s.sent[a.request]? = some r ∧
      (a.sent = a.request + 1 → s.targets a.request = r.target.toList) ∧
      (a.request + 1 < a.sent → a.sent ≤ a.request + 2 ^ 32 → s.targets a.request = []) := by
  have inv : Inv s := exec_inv (Q := fun _ _ => True) (fun _ _ _ inv _ h => step_inv inv h) (start_inv opener)
    (fun _ _ _ _ _ => trivial) run
  intro a ha
  obtain ⟨r, found, settled⟩ := inv.settled a ha
  exact ⟨r, found, settled.newest, settled.overtaken⟩

/-- A request of one scene and a second one, sent before the first is answered. -/
def overlapping (second : Option String) : List (ConnStep String) :=
  [.send (some "game scene"), .send second, .reply 1, .reply 0]

/-- The reply to the older of two requests is dropped, and the other one is passed on. -/
theorem newest_reply_delivered_overlapping :
    ∃ s, exec step (start none) (overlapping (some "play scene")) = some s ∧ s.targets 1 = ["play scene"] ∧
      s.targets 0 = [] := by
  have ends : (exec step (start none) (overlapping (some "play scene"))).map (fun s => (s.arrivals, s.sent.length)) =
      some ([⟨1, 2⟩, ⟨0, 2⟩], 2) := by decide
  obtain ⟨s, run, shown⟩ := Option.map_eq_some_iff.1 ends
  obtain ⟨arrivals, -⟩ := Prod.mk.inj shown
  have settled := newest_reply_delivered none _ s run
  rw [arrivals] at settled
  obtain ⟨r₀, found₀, -, dropped⟩ := settled ⟨0, 2⟩ (by simp)
  obtain ⟨r₁, found₁, newest, -⟩ := settled ⟨1, 2⟩ (by simp)
  cases run
  cases found₁
  exact ⟨_, rfl, newest rfl, dropped (by decide) (by decide)⟩

/-- A purchase notification, which has no target, takes the reply from the
scene that is waiting for one. -/
theorem not_all_delivered :
    ¬ ∀ (opener : Option String) (as : List (ConnStep String)) (s : Conn String),
      exec step (start opener) as = some s → Delivered s := by
  intro all
  have lost := all none (overlapping none) _ rfl ⟨0, 2⟩ (by decide) _ rfl _ rfl
  exact absurd lost (by decide)

end
end Conn
end Crazyass.Client
