import Crazyass.Client.Delegate

/-!
# Requests that are waited for

A scene that waits for a reply calls `CheckRecv` once a second, until it returns
true. The history of a run, newest event first, tells what became of each
request. What `CARecvDone` and `CARecvTimeout` send goes out after the last test
of `CheckRecv`, and no `CARecv` or `CAOpen` sends anything, so a `SendServer` is
a step of its own.
-/

namespace Crazyass.Client
open Sys

namespace MyDelegate
section
variable {τ : Type} {d : MyDelegate τ}

/-- `onOpen`: the delegate, and the target whose `CAOpen` is called. -/
def onOpen (d : MyDelegate τ) : MyDelegate τ × Option τ :=
  match d.target with
  | some t => ({ d with recvflag := true }, some t)
  | none => (d, none)

theorem onOpen_some {t : τ} (target : d.target = some t) : d.onOpen = ({ d with recvflag := true }, some t) := by
  unfold onOpen
  rw [target]

theorem onOpen_none (null : d.target = none) : d.onOpen = (d, none) := by
  unfold onOpen
  rw [null]

/-- Below the limit a call counts and goes on waiting. -/
theorem checkRecv_waiting (unreceived : d.recvflag = false) (below : d.recvcount + 1 < networkTimeout) :
    d.checkRecv = ({ d with recvcount := d.recvcount + 1 }, .waiting) := by
  unfold checkRecv
  rw [if_neg (Bool.eq_false_iff.1 unreceived)]
  exact if_neg (Int32.not_le.2 below)

/-- At the limit a call times out with the target. -/
theorem checkRecv_timeout {t : τ} (unreceived : d.recvflag = false) (limit : ¬ d.recvcount + 1 < networkTimeout)
    (target : d.target = some t) : d.checkRecv = ({ d with recvcount := d.recvcount + 1 }, .timeout t) := by
  unfold checkRecv
  rw [if_neg (Bool.eq_false_iff.1 unreceived)]
  dsimp only
  rw [if_pos (Int32.not_lt.1 limit), target]

/-- At the limit a call without a target goes through null. -/
theorem checkRecv_null (unreceived : d.recvflag = false) (limit : ¬ d.recvcount + 1 < networkTimeout)
    (target : d.target = none) : d.checkRecv = ({ d with recvcount := d.recvcount + 1 }, .nullCall) := by
  unfold checkRecv
  rw [if_neg (Bool.eq_false_iff.1 unreceived)]
  dsimp only
  rw [if_pos (Int32.not_lt.1 limit), target]

end
end MyDelegate

/-- What happens at the delegate: `recv` is a call of `CARecv`, with the request
that the message answers if it is a reply; `timeout` is a call of
`CARecvTimeout`, with the request it is about, if any has been sent. -/
inductive NetEvent (τ : Type) where
  | sent (request : Sent τ)
  | opened (target : τ)
  | recv (request : Option ℕ) (seq : Int32) (target : τ)
  | checked
  | done (target : τ)
  | timeout (request : Option ℕ) (target : τ)
  | nullCall
deriving DecidableEq, Repr

namespace NetEvent
variable {τ : Type}

def sent? : NetEvent τ → Option (Sent τ)
  | .sent request => some request
  | .opened _ | .recv .. | .checked | .done _ | .timeout .. | .nullCall => none

def isConclusion : NetEvent τ → Bool
  | .done _ | .timeout .. => true
  | .sent _ | .opened _ | .recv .. | .checked | .nullCall => false

def isTimeout (i : ℕ) : NetEvent τ → Bool
  | .timeout request _ => request = some i
  | .sent _ | .opened _ | .recv .. | .checked | .done _ | .nullCall => false

def isChecked : NetEvent τ → Bool
  | .checked => true
  | .sent _ | .opened _ | .recv .. | .done _ | .timeout .. | .nullCall => false

def isReception : NetEvent τ → Bool
  | .opened _ | .recv .. => true
  | .sent _ | .checked | .done _ | .timeout .. | .nullCall => false

end NetEvent

/-! ## Histories -/

/-- The events of a run, the newest first. -/
abbrev History (τ : Type) := List (NetEvent τ)

namespace History
section
variable {τ : Type}

/-- The requests in the order they were sent. -/
def requests (h : History τ) : List (Sent τ) := (h.filterMap NetEvent.sent?).reverse

/-- The newest request. -/
def newest (h : History τ) : Option (Sent τ) := h.findSome? NetEvent.sent?

def lastseq (h : History τ) : Int32 := h.newest.elim 0 Sent.seq

/-- The target of the newest request, or of `Init` if there is none. -/
def target (opener : Option τ) (h : History τ) : Option τ := h.newest.elim opener Sent.target

/-- The number of the newest request. -/
def number (h : History τ) : Option ℕ := if h.requests = [] then none else some (h.requests.length - 1)

/-- What has happened since the newest request was sent. -/
def since (h : History τ) : History τ := h.takeWhile (·.sent?.isNone)

/-- The calls of `CheckRecv` since then. -/
def checks (h : History τ) : ℕ := h.since.countP NetEvent.isChecked

/-- A target has been passed a reply with the current number since then, or the
connection has opened for it and nothing has been sent. -/
def Answered (t : τ) (h : History τ) : Prop :=
  (∃ request, .recv request h.lastseq t ∈ h.since) ∨ h.newest = none ∧ .opened t ∈ h.since

def TimedOut (i : ℕ) (h : History τ) : Prop := h.any (·.isTimeout i)

/-- The newest request is concluded with this target, for the first time. -/
structure Concludes (opener : Option τ) (t : τ) (h : History τ) : Prop where
  first : h.since.any NetEvent.isConclusion = false
  target : h.target opener = some t

/-- What makes an event right after a history. -/
def Justified (opener : Option τ) (h : History τ) : NetEvent τ → Prop
  | .sent _ | .opened _ | .checked => True
  | .recv request _ _ => ∀ i ∈ request, ¬ h.TimedOut i
  | .done t => h.Concludes opener t ∧ h.Answered t
  | .timeout request t => h.Concludes opener t ∧ request = h.number ∧ networkTimeout.toInt ≤ h.checks ∧ ¬ h.Answered t
  | .nullCall => False

/-- **The contract**: nothing is called through a null target, a request is
concluded once and with its own target, `CARecvDone` comes after an answer to
that target and `CARecvTimeout` after `NETWORK_TIMEOUT` calls of `CheckRecv`
without one, and a reply is not passed on after its request has timed out. -/
def Sound (opener : Option τ) : History τ → Prop
  | [] => True
  | e :: h => Justified opener h e ∧ Sound opener h

instance (i : ℕ) (h : History τ) : Decidable (TimedOut i h) := inferInstanceAs (Decidable (_ = true))

end
end History

/-! ## The step function -/

inductive Phase where
  | awaiting
  | concluded
  | crashed
deriving DecidableEq, Repr

structure Waiting (τ : Type) where
  delegate : MyDelegate τ
  phase : Phase
  log : History τ
deriving DecidableEq

/-- `reply` is a reply to a request that has been sent, `message` any other
message with a sequence number. -/
inductive WaitStep (τ : Type) where
  | send (target : Option τ)
  | opened
  | reply (request : ℕ)
  | message (seq : Int32)
  | check
deriving DecidableEq, Repr

namespace Waiting
section
variable {τ : Type}

/-- After `Init`. -/
def start (opener : Option τ) : Waiting τ := ⟨.init opener, .awaiting, []⟩

def send (s : Waiting τ) (target : Option τ) : Waiting τ :=
  { delegate := s.delegate.sendServer target, phase := .awaiting, log := .sent ⟨s.delegate.seq, target⟩ :: s.log }

def opened (s : Waiting τ) : Waiting τ :=
  match s.delegate.onOpen with
  | (delegate, some t) => { s with delegate, log := .opened t :: s.log }
  | (delegate, none) => { s with delegate }

def message (s : Waiting τ) (request : Option ℕ) (seq : Int32) : Waiting τ :=
  match s.delegate.onMessage seq with
  | (delegate, some t) => { s with delegate, log := .recv request seq t :: s.log }
  | (delegate, none) => { s with delegate }

def check (s : Waiting τ) : Waiting τ :=
  match s.delegate.checkRecv with
  | (delegate, .done (some t)) => { delegate, phase := .concluded, log := .done t :: .checked :: s.log }
  | (delegate, .done none) => { delegate, phase := .concluded, log := .checked :: s.log }
  | (delegate, .timeout t) => { delegate, phase := .concluded, log := .timeout s.log.number t :: .checked :: s.log }
  | (delegate, .waiting) => { s with delegate, log := .checked :: s.log }
  | (delegate, .nullCall) => { delegate, phase := .crashed, log := .nullCall :: .checked :: s.log }

/-- The connection opens before anything is sent, and `CheckRecv` is called
until it has returned true. -/
def step (s : Waiting τ) (a : WaitStep τ) : Option (Waiting τ) :=
  if s.phase = .crashed then none
  else
    match a with
    | .send target => some (s.send target)
    | .opened => if s.log.newest = none then some s.opened else none
    | .reply i => (s.log.requests[i]?).map fun r => s.message (some i) r.seq
    | .message seq => some (s.message none seq)
    | .check => if s.phase = .awaiting then some s.check else none

/-- A reply with this number would be passed on. -/
def Passes (s : Waiting τ) (seq : Int32) : Prop := seq = s.delegate.lastseq ∧ s.delegate.target ≠ none

/-- **When a step is harmless**: `CheckRecv` does not reach its limit with a null
target, and a reply to a request that has timed out is not passed on. -/
def Careful (s : Waiting τ) : WaitStep τ → Prop
  | .check => s.delegate.recvflag = true ∨ s.delegate.recvcount + 1 < networkTimeout ∨ s.delegate.target ≠ none
  | .reply i => s.log.TimedOut i → ∀ r ∈ s.log.requests[i]?, ¬ s.Passes r.seq
  | .send _ | .opened | .message _ => True

instance (s : Waiting τ) (seq : Int32) : Decidable (s.Passes seq) := inferInstanceAs (Decidable (_ ∧ _))

instance (s : Waiting τ) : ∀ a, Decidable (s.Careful a)
  | .check => inferInstanceAs (Decidable (_ ∨ _))
  | .reply i => inferInstanceAs (Decidable (s.log.TimedOut i → ∀ r ∈ s.log.requests[i]?, ¬ s.Passes r.seq))
  | .send _ | .opened | .message _ => inferInstanceAs (Decidable True)

/-! ## What the delegate knows of the history -/

/-- What every step keeps. -/
structure Linked (opener : Option τ) (s : Waiting τ) : Prop where
  lastseq : s.delegate.lastseq = s.log.lastseq
  target : s.delegate.target = s.log.target opener
  flagged : s.delegate.recvflag = true → ∃ t, s.delegate.target = some t ∧ s.log.Answered t
  unflagged : s.delegate.recvflag = false → ∀ t, ¬ s.log.Answered t
  counted : s.phase = .awaiting → s.delegate.recvcount.toInt = s.log.checks ∧ s.log.checks < networkTimeout.toInt
  first : s.phase = .awaiting → s.log.since.any NetEvent.isConclusion = false

variable {opener : Option τ} {s t : Waiting τ} {h : History τ} {e : NetEvent τ}

/-- Only a request changes which one is the newest. -/
theorem newest_cons (other : e.sent? = none) : History.newest (e :: h) = h.newest := by
  unfold History.newest
  rw [List.findSome?_cons, other]

/-- An event that is no request adds to what has happened since the newest one. -/
theorem since_cons (other : e.sent? = none) : History.since (e :: h) = e :: h.since := by
  unfold History.since
  rw [List.takeWhile_cons_of_pos (by rw [other]; rfl)]

theorem lastseq_cons (other : e.sent? = none) : History.lastseq (e :: h) = h.lastseq := by
  unfold History.lastseq
  rw [newest_cons other]

theorem target_cons (other : e.sent? = none) : History.target opener (e :: h) = h.target opener := by
  unfold History.target
  rw [newest_cons other]

/-- An event that is neither a request nor a call of `CheckRecv` is not counted. -/
theorem checks_cons (other : e.sent? = none) (uncounted : e.isChecked = false) : History.checks (e :: h) = h.checks := by
  unfold History.checks
  rw [since_cons other, List.countP_cons_of_neg (by rw [uncounted]; exact Bool.false_ne_true)]

theorem checks_checked : History.checks (.checked :: h) = h.checks + 1 := by
  unfold History.checks
  rw [since_cons rfl, List.countP_cons_of_pos rfl]

/-- What has been answered stays so until the next request. -/
theorem answered_cons {u : τ} (other : e.sent? = none) (answered : h.Answered u) : History.Answered u (e :: h) := by
  unfold History.Answered
  rw [lastseq_cons other, newest_cons other, since_cons other]
  rcases answered with ⟨request, passed⟩ | ⟨none_sent, opened⟩
  · exact .inl ⟨request, List.mem_cons_of_mem e passed⟩
  · exact .inr ⟨none_sent, List.mem_cons_of_mem e opened⟩

/-- Events other than receptions answer nothing. -/
theorem answered_cons_iff {u : τ} (other : e.sent? = none) (silent : e.isReception = false) :
    History.Answered u (e :: h) ↔ h.Answered u := by
  refine ⟨fun answered => ?_, answered_cons other⟩
  unfold History.Answered at answered ⊢
  rw [lastseq_cons other, newest_cons other, since_cons other] at answered
  rcases answered with ⟨request, passed⟩ | ⟨unsent, opened⟩
  · rcases List.mem_cons.1 passed with rfl | old
    · cases silent
    · exact .inl ⟨request, old⟩
  · rcases List.mem_cons.1 opened with rfl | old
    · cases silent
    · exact .inr ⟨unsent, old⟩

theorem networkTimeout_pos : (0 : ℕ) < networkTimeout.toInt := by decide

/-- Where nothing has happened since the newest request. -/
theorem linked_quiet (lastseq : s.delegate.lastseq = s.log.lastseq) (target : s.delegate.target = s.log.target opener)
    (unflagged : s.delegate.recvflag = false) (zero : s.delegate.recvcount = 0) (quiet : s.log.since = []) :
    Linked opener s where
  lastseq := lastseq
  target := target
  flagged received := by cases unflagged.symm.trans received
  unflagged _ t := by
    unfold History.Answered
    rw [quiet]
    rintro (⟨request, passed⟩ | ⟨-, opened⟩)
    · cases passed
    · cases opened
  counted _ := by
    unfold History.checks
    rw [quiet, zero]
    exact ⟨rfl, networkTimeout_pos⟩
  first _ := by
    rw [quiet]
    rfl

/-- After `Init` the delegate and the empty history agree. -/
theorem start_linked (opener : Option τ) : Linked opener (start opener) := linked_quiet rfl rfl rfl rfl rfl

/-- A request makes delegate and history start anew. -/
theorem send_linked (opener : Option τ) (s : Waiting τ) (target : Option τ) : Linked opener (s.send target) :=
  linked_quiet rfl rfl rfl rfl rfl

/-- A target is called, and `recvflag_` set. -/
theorem Linked.call {u : τ} (linked : Linked opener s) (target : s.delegate.target = some u)
    (plain : e.sent? = none ∧ e.isChecked = false ∧ e.isConclusion = false) (answers : History.Answered u (e :: s.log)) :
    Linked opener { s with delegate := { s.delegate with recvflag := true }, log := e :: s.log } where
  lastseq := linked.lastseq.trans (lastseq_cons plain.1).symm
  target := linked.target.trans (target_cons plain.1).symm
  flagged _ := ⟨u, target, answers⟩
  unflagged := nofun
  counted waiting := by
    rw [checks_cons plain.1 plain.2.1]
    exact linked.counted waiting
  first waiting := by
    rw [since_cons plain.1, List.any_cons, plain.2.2, linked.first waiting]
    rfl

/-- The connection opens before any request, for the target of `Init`. -/
theorem opened_linked (linked : Linked opener s) (unsent : s.log.newest = none) : Linked opener s.opened := by
  unfold opened
  cases target : s.delegate.target with
  | none =>
    rw [MyDelegate.onOpen_none target]
    exact linked
  | some u =>
    rw [MyDelegate.onOpen_some target]
    refine linked.call (e := .opened u) target ⟨rfl, rfl, rfl⟩ (.inr ⟨unsent, ?_⟩)
    rw [since_cons rfl]
    exact List.mem_cons_self

/-- What a message does. -/
theorem message_spec (s : Waiting τ) (request : Option ℕ) (seq : Int32) :
    ¬ s.Passes seq ∧ s.message request seq = s ∨
      ∃ u, seq = s.delegate.lastseq ∧ s.delegate.target = some u ∧
        s.message request seq =
          { s with delegate := { s.delegate with recvflag := true }, log := .recv request seq u :: s.log } := by
  unfold message
  by_cases last : seq = s.delegate.lastseq
  · cases target : s.delegate.target with
    | none =>
      rw [MyDelegate.onMessage_null target]
      exact .inl ⟨fun passes => passes.2 target, rfl⟩
    | some u =>
      rw [MyDelegate.onMessage_target last target]
      exact .inr ⟨u, last, rfl, rfl⟩
  · rw [MyDelegate.onMessage_stale last]
    exact .inl ⟨fun passes => last passes.1, rfl⟩

/-- A message that is passed on is an answer, and one that is dropped changes nothing. -/
theorem message_linked (linked : Linked opener s) (request : Option ℕ) (seq : Int32) :
    Linked opener (s.message request seq) := by
  rcases s.message_spec request seq with ⟨-, same⟩ | ⟨u, last, target, called⟩
  · rw [same]
    exact linked
  · rw [called]
    refine linked.call target ⟨rfl, rfl, rfl⟩ (.inl ⟨request, ?_⟩)
    rw [lastseq_cons rfl, since_cons rfl, ← linked.lastseq, ← last]
    exact List.mem_cons_self

/-- The delegate after a call of `CheckRecv` that finds nothing. -/
def counted (s : Waiting τ) : MyDelegate τ := { s.delegate with recvcount := s.delegate.recvcount + 1 }

/-- What a call of `CheckRecv` does. -/
inductive Checking (s : Waiting τ) : Waiting τ → Prop where
  | done {u : τ} (received : s.delegate.recvflag = true) (target : s.delegate.target = some u) :
    Checking s { s with phase := .concluded, log := .done u :: .checked :: s.log }
  | waiting (unreceived : s.delegate.recvflag = false) (below : s.delegate.recvcount + 1 < networkTimeout) :
    Checking s { s with delegate := s.counted, log := .checked :: s.log }
  | timeout {u : τ} (unreceived : s.delegate.recvflag = false) (limit : ¬ s.delegate.recvcount + 1 < networkTimeout)
    (target : s.delegate.target = some u) :
    Checking s { delegate := s.counted, phase := .concluded, log := .timeout s.log.number u :: .checked :: s.log }
  | null (unreceived : s.delegate.recvflag = false) (limit : ¬ s.delegate.recvcount + 1 < networkTimeout)
    (target : s.delegate.target = none) :
    Checking s { delegate := s.counted, phase := .crashed, log := .nullCall :: .checked :: s.log }

/-- A call of `CheckRecv` does one of these, since the flag is raised for a target only. -/
theorem checking (linked : Linked opener s) : Checking s s.check := by
  unfold check
  cases received : s.delegate.recvflag with
  | true =>
    obtain ⟨u, target, -⟩ := linked.flagged received
    rw [MyDelegate.checkRecv_received received, target]
    exact .done received target
  | false =>
    by_cases below : s.delegate.recvcount + 1 < networkTimeout
    · rw [MyDelegate.checkRecv_waiting received below]
      exact .waiting received below
    · cases target : s.delegate.target with
      | none =>
        rw [MyDelegate.checkRecv_null received below target]
        exact .null received below target
      | some u =>
        rw [MyDelegate.checkRecv_timeout received below target]
        exact .timeout received below target

/-- While a reply is waited for, `recvcount_` does not overflow. -/
theorem Linked.next_count (linked : Linked opener s) (waiting : s.phase = .awaiting) :
    (s.delegate.recvcount + 1).toInt = s.log.checks + 1 := by
  obtain ⟨same, small⟩ := linked.counted waiting
  have limit : networkTimeout.toInt = 10 := by decide
  have one : (1 : Int32).toInt = 1 := by decide
  rw [Int32.toInt_add, same, one, Int.bmod_eq_of_le]
  · omega
  · omega

/-- `CheckRecv` gives up. -/
theorem Linked.giveUp (linked : Linked opener s) (unreceived : s.delegate.recvflag = false) (plain : e.sent? = none)
    (silent : e.isReception = false) {phase : Phase} (ended : phase ≠ .awaiting) :
    Linked opener { delegate := s.counted, phase, log := e :: .checked :: s.log } where
  lastseq := by rw [lastseq_cons plain]; exact linked.lastseq
  target := by rw [target_cons plain]; exact linked.target
  flagged received := by cases unreceived.symm.trans received
  unflagged _ t := by
    rw [answered_cons_iff plain silent, answered_cons_iff rfl rfl]
    exact linked.unflagged unreceived t
  counted waiting := absurd waiting ended
  first waiting := absurd waiting ended

/-- A call of `CheckRecv` counts, or concludes the request. -/
theorem check_linked (linked : Linked opener s) (waiting : s.phase = .awaiting) : Linked opener s.check := by
  have next := linked.next_count waiting
  have st := checking linked
  generalize s.check = t at st
  cases st with
  | @done u received target =>
    refine ⟨linked.lastseq, linked.target, fun _ => ⟨u, target, ?_⟩, fun unreceived => ?_, nofun, nofun⟩
    · obtain ⟨v, same, answered⟩ := linked.flagged received
      cases target.symm.trans same
      exact answered_cons rfl (answered_cons rfl answered)
    · cases received.symm.trans unreceived
  | waiting unreceived below =>
    refine ⟨linked.lastseq, linked.target, fun received => ?_, fun _ u answered => ?_, fun _ => ⟨?_, ?_⟩, fun _ => ?_⟩
    · cases unreceived.symm.trans received
    · exact linked.unflagged unreceived u ((answered_cons_iff rfl rfl).1 answered)
    · rw [checks_checked]
      exact_mod_cast next
    · rw [checks_checked]
      have less := Int32.lt_iff_toInt_lt.1 below
      rw [next] at less
      exact_mod_cast less
    · rw [since_cons rfl, List.any_cons, linked.first waiting]
      rfl
  | timeout unreceived limit target => exact linked.giveUp unreceived rfl rfl nofun
  | null unreceived limit target => exact linked.giveUp unreceived rfl rfl nofun

/-- **One step** keeps the delegate in line with the history. -/
theorem step_linked {a : WaitStep τ} (linked : Linked opener s) (h : step s a = some t) : Linked opener t := by
  unfold step at h
  split at h
  · cases h
  · cases a with
    | send target =>
      cases h
      exact send_linked opener s target
    | opened =>
      dsimp only at h
      split at h
      · next unsent =>
        cases h
        exact opened_linked linked unsent
      · cases h
    | reply i =>
      obtain ⟨r, -, rfl⟩ := Option.map_eq_some_iff.1 h
      exact message_linked linked (some i) r.seq
    | message seq =>
      cases h
      exact message_linked linked none seq
    | check =>
      dsimp only at h
      split at h
      · next waiting =>
        cases h
        exact check_linked linked waiting
      · cases h

/-! ## Which runs meet the contract -/

/-- The opening of the connection is always right. -/
theorem opened_sound (sound : s.log.Sound opener) : s.opened.log.Sound opener := by
  unfold opened
  cases target : s.delegate.target with
  | none =>
    rw [MyDelegate.onOpen_none target]
    exact sound
  | some u =>
    rw [MyDelegate.onOpen_some target]
    exact ⟨trivial, sound⟩

/-- A message is wrong exactly when it is passed on for a request that has timed out. -/
theorem message_sound_iff (sound : s.log.Sound opener) (request : Option ℕ) (seq : Int32) :
    (s.message request seq).log.Sound opener ↔ ∀ i ∈ request, s.log.TimedOut i → ¬ s.Passes seq := by
  rcases s.message_spec request seq with ⟨dropped, same⟩ | ⟨u, last, target, called⟩
  · rw [same]
    exact iff_of_true sound fun _ _ _ => dropped
  · rw [called]
    have passes : s.Passes seq := ⟨last, by rw [target]; exact Option.some_ne_none u⟩
    constructor
    · rintro ⟨justified, -⟩ i mem late
      exact absurd late (justified i mem)
    · intro care
      exact ⟨fun i mem late => care i mem late passes, sound⟩

/-- A request that is still waited for has not been concluded. -/
theorem concludes (linked : Linked opener s) (waiting : s.phase = .awaiting) {u : τ} (target : s.delegate.target = some u) :
    History.Concludes opener u (.checked :: s.log) where
  first := by
    rw [since_cons rfl, List.any_cons, linked.first waiting]
    rfl
  target := by
    rw [target_cons rfl, ← linked.target]
    exact target

/-- A call of `CheckRecv` is wrong exactly when it reaches its limit without a target. -/
theorem check_sound_iff (linked : Linked opener s) (waiting : s.phase = .awaiting) (sound : s.log.Sound opener) :
    s.check.log.Sound opener ↔ s.Careful .check := by
  have next := linked.next_count waiting
  have st := checking linked
  generalize s.check = t at st
  cases st with
  | @done u received target =>
    refine iff_of_true ⟨⟨concludes linked waiting target, ?_⟩, trivial, sound⟩ (.inl received)
    obtain ⟨v, same, answered⟩ := linked.flagged received
    cases target.symm.trans same
    exact answered_cons rfl answered
  | waiting unreceived below => exact iff_of_true ⟨trivial, sound⟩ (.inr (.inl below))
  | @timeout u unreceived limit target =>
    refine iff_of_true ⟨⟨concludes linked waiting target, rfl, ?_, ?_⟩, trivial, sound⟩ (.inr (.inr ?_))
    · have reached := Int32.le_iff_toInt_le.1 (Int32.not_lt.1 limit)
      rw [next] at reached
      rw [checks_checked]
      exact_mod_cast reached
    · rw [answered_cons_iff rfl rfl]
      exact linked.unflagged unreceived u
    · rw [target]
      exact Option.some_ne_none u
  | null unreceived limit target =>
    refine iff_of_false (fun sound => sound.1) ?_
    rintro (received | below | some)
    · cases unreceived.symm.trans received
    · exact limit below
    · exact some target

/-- **One step** keeps the contract exactly when it is careful. -/
theorem step_sound_iff {a : WaitStep τ} (linked : Linked opener s) (sound : s.log.Sound opener) (h : step s a = some t) :
    t.log.Sound opener ↔ s.Careful a := by
  unfold step at h
  split at h
  · cases h
  · cases a with
    | send target =>
      cases h
      exact iff_of_true ⟨trivial, sound⟩ trivial
    | opened =>
      dsimp only at h
      split at h
      · cases h
        exact iff_of_true (opened_sound sound) trivial
      · cases h
    | reply i =>
      obtain ⟨r, found, rfl⟩ := Option.map_eq_some_iff.1 h
      rw [message_sound_iff sound]
      change _ ↔ (s.log.TimedOut i → ∀ q ∈ s.log.requests[i]?, ¬ s.Passes q.seq)
      rw [found]
      constructor
      · intro care late q mem
        cases mem
        exact care i rfl late
      · intro care j mem late
        cases mem
        exact care late r rfl
    | message seq =>
      cases h
      rw [message_sound_iff sound]
      exact iff_of_true nofun trivial
    | check =>
      dsimp only at h
      split at h
      · next waiting =>
        cases h
        exact check_sound_iff linked waiting sound
      · cases h

/-- **Which runs meet the contract**: those whose steps are all harmless. -/
theorem sound_iff_careful (opener : Option τ) (as : List (WaitStep τ)) (s : Waiting τ)
    (run : exec step (start opener) as = some s) :
    Through step (fun s => s.log.Sound opener) (start opener) as ↔ Along step Careful (start opener) as :=
  through_iff_along (fun _ _ _ linked _ h => step_linked linked h) (fun _ _ _ linked sound h => step_sound_iff linked sound h)
    (start_linked opener) trivial run

/-- A scene's request is answered after two calls of `CheckRecv`, and its next
one times out. -/
def twoRequests : List (WaitStep String) :=
  [.opened, .send (some "game scene"), .check, .check, .reply 0, .check, .send (some "game scene")] ++
    List.replicate 10 .check

theorem sound_iff_careful_two :
    Through step (fun s => s.log.Sound (some "start scene")) (start (some "start scene")) twoRequests :=
  (sound_iff_careful (some "start scene") twoRequests _ rfl).2 (by decide +kernel)

/-- A purchase notification replaces the request that a scene waits for. -/
def replaced : List (WaitStep String) := [.send (some "game scene"), .send none] ++ List.replicate 10 .check

/-- The reply to a request comes after it has timed out. -/
def overdue : List (WaitStep String) := [.send (some "game scene")] ++ List.replicate 10 .check ++ [.reply 0]

/-- Neither run meets the contract: one calls through null, the other passes a late reply. -/
theorem unsound_null_late :
    ¬ Through step (fun s => s.log.Sound (some "start scene")) (start (some "start scene")) replaced ∧
      ¬ Through step (fun s => s.log.Sound (some "start scene")) (start (some "start scene")) overdue := by
  constructor
  · intro through
    obtain ⟨nullCalled, -⟩ := through.last rfl
    exact nullCalled
  · intro through
    obtain ⟨justified, -⟩ := through.last rfl
    exact justified 0 rfl (by decide)

end
end Waiting
end Crazyass.Client
