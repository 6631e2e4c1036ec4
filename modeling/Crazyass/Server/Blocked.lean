import Crazyass.Sys.Channel
import Crazyass.Sys.Run
import Crazyass.Server.Panics
import Crazyass.Server.Reader

/-!
# Blocked senders

The two channels of one connection and all that send to them: the reader to
`req_chan`, which holds one pointer, and any number of calls of `AddHeartAsync`
to `ichan`, which holds four values. Only the loop in `Proc` receives, and it
may return with both full.
-/

namespace Crazyass.Server
open Go Sys

/-- The loop: at the test of `enable`, in the `select`, about to call `procMsg`,
past the loop, returned. -/
inductive LoopAt where
  | head | waiting | serving | leaving | returned
deriving DecidableEq, Repr

/-- A call of `AddHeartAsync`: not begun, about to send to this client, done
with this client. -/
inductive CallerAt where
  | idle | sending (count : Int64) | done
deriving DecidableEq, Repr

/-- A connection, the registry, and all goroutines that send to the connection. -/
structure Goroutines (κ γ : Type) where
  client : Client κ
  online : Online κ
  reqChan : Option Slot
  reader : ReaderAt
  loop : LoopAt
  callers : γ → CallerAt

/-- `insert` and `delete` are what other connections do to the registry. -/
inductive GoStep (κ γ : Type) where
  | decode (p : Json)
  | enqueue
  | readError (p : Option Json)
  | enqueueNil
  | test
  | dequeue
  | serve (env : Env)
  | imsg
  | timeout
  | leave
  | lookup (j : γ) (userid : String) (count : Int64)
  | send (j : γ)
  | insert (userid : String) (k : κ)
  | delete (userid : String)

namespace Goroutines
section
variable {κ γ : Type} [DecidableEq κ] [DecidableEq γ] (cv : FloatConv)

def start (self : κ) (online : Online κ) : Goroutines κ γ := ⟨.new self, online, none, .reading, .head, fun _ => .idle⟩

def setMsg (s : Goroutines κ γ) (m : Msg) : Goroutines κ γ := { s with client := { s.client with msg := m } }

def setCaller (s : Goroutines κ γ) (j : γ) (c : CallerAt) : Goroutines κ γ :=
  { s with callers := Function.update s.callers j c }

/-- The cell after a read error. -/
def spoiled (s : Goroutines κ γ) (p : Option Json) : Msg := p.elim s.client.msg fun p => (unmarshal s.client.msg p).1

def step (s : Goroutines κ γ) : GoStep κ γ → Option (Goroutines κ γ)
  | .decode p =>
    if s.reader = .reading then
      (readPacket s.client.msg p).map fun m => { s.setMsg m with reader := .holding }
    else none
  | .enqueue =>
    if s.reader = .holding ∧ s.reqChan = none then some { s with reader := .reading, reqChan := some .ptr } else none
  | .readError p =>
    if s.reader = .reading ∧ (p.bind (readPacket s.client.msg)).isNone then
      some { s with reader := .failing, client := { s.client with msg := s.spoiled p, enable := false } }
    else none
  | .enqueueNil =>
    if s.reader = .failing ∧ s.reqChan = none then some { s with reader := .done, reqChan := some .nil } else none
  | .test =>
    if s.loop = .head then some { s with loop := if s.client.enable then .waiting else .leaving } else none
  | .dequeue =>
    if s.loop = .waiting then
      match s.reqChan with
      | some .ptr => some { s with loop := .serving, reqChan := none }
      | some .nil => some { s with client := loopHead s.client, loop := .head, reqChan := none }
      | none => none
    else none
  | .serve env =>
    if s.loop = .serving then
      match serve cv env s.online s.client s.client.msg with
      | .ok o => some { s with client := o.c, online := o.online, loop := .head }
      | .error _ => some { s with loop := .returned }
    else none
  | .imsg =>
    if s.loop = .waiting then
      match s.client.ichan with
      | v :: rest => some { s with client := serveIMsg { s.client with ichan := rest } v, loop := .head }
      | [] => none
    else none
  | .timeout => if s.loop = .waiting then some { s with client := procTimeout (loopHead s.client), loop := .head } else none
  | .leave =>
    if s.loop = .leaving then some { s with online := leaveOnline s.online s.client, loop := .returned } else none
  | .lookup j userid count =>
    match s.callers j with
    | .idle => some (s.setCaller j (if s.online.find userid = some s.client.self then .sending count else .done))
    | _ => none
  | .send j =>
    match s.callers j with
    | .sending count =>
      if s.client.ichan.length < 4 then
        some { s.setCaller j .done with client := { s.client with ichan := s.client.ichan ++ [count] } }
      else none
    | _ => none
  | .insert userid k => if k = s.client.self then none else some { s with online := (s.online.insert userid k).1 }
  | .delete userid => some { s with online := s.online.delete userid }

/-- `req_chan`, to which only the reader sends. -/
def reqSenders (s : Goroutines κ γ) : Channel Unit :=
  ⟨1, s.reqChan.toList.length, fun _ => s.reader = .holding ∨ s.reader = .failing⟩

/-- `ichan`. -/
def ichanSenders (s : Goroutines κ γ) : Channel γ :=
  ⟨4, s.client.ichan.length, fun j => ∃ count, s.callers j = .sending count⟩

/-- Nobody is blocked. -/
def Unblocked (s : Goroutines κ γ) : Prop := ¬ s.reqSenders.Blocked ∧ ¬ s.ichanSenders.Blocked

/-- **The contract**: nobody is blocked on a client whose `Proc` has returned. -/
def Free (s : Goroutines κ γ) : Prop := s.loop = .returned → s.Unblocked

/-- `Proc` returns, at the end or by a panic, when nobody is blocked; after that
the reader comes to a send only when `req_chan` is empty, a caller finds the
client only when `ichan` has room, and nobody takes the last place while another
is waiting for it. -/
def Drained (s : Goroutines κ γ) : GoStep κ γ → Prop
  | .decode _ => s.loop = .returned → s.reqChan = none
  | .readError _ => s.loop = .returned → s.reqChan = none
  | .serve _ => ¬ Accepts cv False s.client.msg s.client.user → s.Unblocked
  | .leave => s.Unblocked
  | .lookup _ userid _ =>
      s.loop = .returned → s.online.find userid = some s.client.self → s.client.ichan.length < 4
  | .send j => s.loop = .returned → 4 ≤ s.client.ichan.length + 1 → ∀ i, i ≠ j → ∀ count, s.callers i ≠ .sending count
  | _ => True

variable {cv} {s t : Goroutines κ γ} {a : GoStep κ γ} {j : γ}

omit [DecidableEq κ] [DecidableEq γ] in
theorem free_inside (inside : t.loop ≠ .returned) : Free t := fun returned => absurd returned inside

/-! ## The reader -/

omit [DecidableEq κ] [DecidableEq γ] in
/-- The reader comes to a send. -/
theorem free_offer (free : Free s) (req : t.reqSenders = s.reqSenders.offer ()) (ichan : t.ichanSenders = s.ichanSenders)
    (loop : t.loop = s.loop) : Free t ↔ (s.loop = .returned → s.reqChan = none) := by
  unfold Free Unblocked
  rw [req, ichan, loop]
  refine forall_congr' fun returned => ?_
  rw [and_iff_left (free returned).2, Channel.offer_blocked]
  cases chan : s.reqChan <;> simp [reqSenders, chan]

omit [DecidableEq κ] [DecidableEq γ] in
/-- A send of the reader goes through. -/
theorem free_accept (free : Free s) (req : t.reqSenders = s.reqSenders.accept ()) (ichan : t.ichanSenders = s.ichanSenders)
    (loop : t.loop = s.loop) : Free t := by
  intro returned
  unfold Unblocked
  rw [req, ichan]
  exact ⟨Channel.not_accept_blocked, (free (loop ▸ returned)).2⟩

omit [DecidableEq κ] [DecidableEq γ] in
theorem reqSenders_offer (reader : t.reader = .holding ∨ t.reader = .failing) (chan : t.reqChan = s.reqChan) :
    t.reqSenders = s.reqSenders.offer () := by
  unfold reqSenders Channel.offer
  rw [chan]
  congr
  funext i
  rw [show i = () from rfl, Function.update_self]
  exact eq_true reader

omit [DecidableEq κ] [DecidableEq γ] in
theorem reqSenders_accept {slot : Slot} (reader : t.reader = .reading ∨ t.reader = .done) (empty : s.reqChan = none)
    (chan : t.reqChan = some slot) : t.reqSenders = s.reqSenders.accept () := by
  unfold reqSenders Channel.accept
  rw [chan, empty]
  congr
  funext i
  rw [show i = () from rfl, Function.update_self]
  rcases reader with reader | reader <;> simp [reader]

/-! ## The callers -/

omit [DecidableEq κ] in
theorem sending_update (c : CallerAt) :
    (fun i => ∃ count, Function.update s.callers j c i = .sending count) =
      Function.update (fun i => ∃ count, s.callers i = .sending count) j (∃ count, c = .sending count) :=
  funext (Function.apply_update (fun _ c => ∃ count, c = CallerAt.sending count) s.callers j c)

omit [DecidableEq κ] in
theorem lookup_free (free : Free s) (count : Int64) :
    Free (s.setCaller j (.sending count)) ↔ (s.loop = .returned → s.client.ichan.length < 4) := by
  have ichan : (s.setCaller j (.sending count)).ichanSenders = s.ichanSenders.offer j := by
    unfold ichanSenders setCaller Channel.offer
    dsimp only
    rw [sending_update]
    simp
  have req : (s.setCaller j (.sending count)).reqSenders = s.reqSenders := rfl
  unfold Free Unblocked
  rw [ichan, req]
  refine forall_congr' fun returned => ?_
  rw [and_iff_right (free returned).1, Channel.offer_blocked]
  exact Nat.not_le

omit [DecidableEq κ] in
theorem send_free {count : Int64} (free : Free s) :
    Free { s.setCaller j .done with client := { s.client with ichan := s.client.ichan ++ [count] } } ↔
      (s.loop = .returned → 4 ≤ s.client.ichan.length + 1 → ∀ i, i ≠ j → ∀ count, s.callers i ≠ .sending count) := by
  have ichan : ichanSenders { s.setCaller j .done with client := { s.client with ichan := s.client.ichan ++ [count] } } =
      s.ichanSenders.accept j := by
    unfold ichanSenders setCaller Channel.accept
    dsimp only
    rw [sending_update, List.length_append, List.length_singleton]
    simp
  have req : reqSenders { s.setCaller j .done with client := { s.client with ichan := s.client.ichan ++ [count] } } =
      s.reqSenders := rfl
  unfold Free Unblocked
  rw [ichan, req]
  refine forall_congr' fun returned => ?_
  rw [and_iff_right (free returned).1, Channel.accept_blocked, not_and]
  refine forall_congr' fun full => ?_
  simp [ichanSenders]

/-! ## Runs -/

theorem step_lookup {userid : String} {count : Int64} (h : step cv s (.lookup j userid count) = some t) :
    t = s.setCaller j (if s.online.find userid = some s.client.self then .sending count else .done) := by
  simp only [step] at h
  split at h
  · cases h
    rfl
  · cases h

theorem step_send (h : step cv s (.send j) = some t) :
    ∃ count, t = { s.setCaller j .done with client := { s.client with ichan := s.client.ichan ++ [count] } } := by
  simp only [step] at h
  split at h
  · next count sending =>
    split at h
    · cases h
      exact ⟨count, rfl⟩
    · cases h
  · cases h

omit [DecidableEq κ] in
/-- A call that goes elsewhere leaves the channel alone. -/
theorem done_free (free : Free s) (idle : ∀ count, s.callers j ≠ .sending count) : Free (s.setCaller j .done) := by
  have ichan : (s.setCaller j .done).ichanSenders = s.ichanSenders := by
    unfold ichanSenders setCaller
    dsimp only
    rw [sending_update]
    congr
    funext i
    by_cases same : i = j
    · subst same
      simp [idle]
    · simp [same]
  intro returned
  unfold Unblocked
  rw [ichan]
  exact free returned

/-- A message is handled, or its handler panics and `Proc` returns. -/
theorem serve_free {env : Env} (h : step cv s (.serve env) = some t) :
    Free t ↔ (¬ Accepts cv False s.client.msg s.client.user → s.Unblocked) := by
  have returns : (∃ o, Server.serve cv env s.online s.client s.client.msg = .ok o) ↔ _ :=
    serve_accepts env s.online s.client s.client.msg
  simp only [step] at h
  split at h
  · split at h
    · next o run =>
      cases h
      have accepts := returns.1 ⟨o, run⟩
      exact iff_of_true (free_inside (by simp)) fun panics => absurd accepts panics
    · next p run =>
      cases h
      have panics : ¬ Accepts cv False s.client.msg s.client.user := by
        intro accepts
        obtain ⟨o, returned⟩ := returns.2 accepts
        rw [run] at returned
        cases returned
      constructor
      · exact fun free _ => free rfl
      · exact fun drained _ => drained panics
  · cases h

/-- **One step.** -/
theorem step_free_iff (free : Free s) (h : step cv s a = some t) : Free t ↔ Drained cv s a := by
  cases a with
  | decode p =>
    simp only [step] at h
    split at h
    · obtain ⟨m, -, rfl⟩ := Option.map_eq_some_iff.1 h
      exact free_offer free (reqSenders_offer (.inl rfl) rfl) rfl rfl
    · cases h
  | enqueue =>
    simp only [step] at h
    split at h
    · next at_send =>
      cases h
      exact iff_of_true (free_accept free (reqSenders_accept (.inl rfl) at_send.2 rfl) rfl rfl) trivial
    · cases h
  | readError p =>
    simp only [step] at h
    split at h
    · cases h
      exact free_offer free (reqSenders_offer (.inr rfl) rfl) rfl rfl
    · cases h
  | enqueueNil =>
    simp only [step] at h
    split at h
    · next at_send =>
      cases h
      exact iff_of_true (free_accept free (reqSenders_accept (.inr rfl) at_send.2 rfl) rfl rfl) trivial
    · cases h
  | test =>
    simp only [step] at h
    split at h
    · cases h
      refine iff_of_true (free_inside ?_) trivial
      dsimp only
      split <;> simp
    · cases h
  | dequeue =>
    simp only [step] at h
    split at h
    · split at h
      · cases h
        exact iff_of_true (free_inside (by simp)) trivial
      · cases h
        exact iff_of_true (free_inside (by simp)) trivial
      · cases h
    · cases h
  | serve env => exact serve_free h
  | imsg =>
    simp only [step] at h
    split at h
    · split at h
      · cases h
        exact iff_of_true (free_inside (by simp)) trivial
      · cases h
    · cases h
  | timeout =>
    simp only [step] at h
    split at h
    · cases h
      exact iff_of_true (free_inside (by simp)) trivial
    · cases h
  | leave =>
    simp only [step] at h
    split at h
    · cases h
      constructor
      · exact fun free => free rfl
      · exact fun drained _ => drained
    · cases h
  | lookup j userid count =>
    have idle : ∀ count, s.callers j ≠ .sending count := by
      intro count' sending
      simp [step, sending] at h
    rw [step_lookup h]
    by_cases found : s.online.find userid = some s.client.self
    · rw [if_pos found, lookup_free free]
      exact forall_congr' fun _ => (imp_iff_right found).symm
    · rw [if_neg found]
      exact iff_of_true (done_free free idle) fun _ found' => absurd found' found
  | send j =>
    obtain ⟨count, rfl⟩ := step_send h
    exact send_free free
  | insert userid k =>
    simp only [step] at h
    split at h
    · cases h
    · cases h
      exact iff_of_true free trivial
  | delete userid =>
    cases h
    exact iff_of_true free trivial

/-- **When nobody stays blocked**: no state of a run has a sender blocked on a
client whose `Proc` has returned, exactly when every step of it is drained. -/
theorem free_iff_drained (cv : FloatConv) (self : κ) (online : Online κ) (as : List (GoStep κ γ)) (s : Goroutines κ γ)
    (run : exec (step cv) (start self online) as = some s) :
    Through (step cv) Free (start self online) as ↔ Along (step cv) (Drained cv) (start self online) as :=
  through_iff_along (fun _ _ _ _ _ _ => trivial) (fun _ _ _ (_ : True) free h => step_free_iff free h) trivial
    (free_inside (by simp [start])) run

end
end Goroutines

/-! ## Tests -/

/-- The reader fails, and the loop is left with nil in `req_chan`. -/
def hangUp : List (GoStep Unit ℕ) := [.readError none, .enqueueNil, .test, .leave]

theorem free_iff_drained_hangUp :
    Through (Goroutines.step amd64) Goroutines.Free (Goroutines.start () .empty) hangUp := by
  have ends : (exec (Goroutines.step amd64) (Goroutines.start () .empty) hangUp).map (fun s => s.loop) = some .returned := by
    decide +kernel
  obtain ⟨s, run, -⟩ := Option.map_eq_some_iff.1 ends
  refine (Goroutines.free_iff_drained amd64 () .empty hangUp s run).2 ?_
  obtain ⟨s₁, readError, run⟩ := exec_cons_eq_some.1 run
  obtain ⟨s₂, enqueueNil, run⟩ := exec_cons_eq_some.1 run
  obtain ⟨s₃, test, run⟩ := exec_cons_eq_some.1 run
  obtain ⟨s₄, leave, run⟩ := exec_cons_eq_some.1 run
  refine (along_cons readError).2 ⟨?_, (along_cons enqueueNil).2 ⟨trivial, (along_cons test).2 ⟨trivial,
    (along_cons leave).2 ⟨?_, along_nil⟩⟩⟩⟩
  · intro returned
    cases returned
  · cases readError
    cases enqueueNil
    cases test
    constructor
    · rintro ⟨-, j, sending⟩
      rcases sending with sending | sending <;> cases sending
    · rintro ⟨full, -⟩
      exact absurd full (by decide)

/-- The first packet is refused and kicks the client; two more have come in the meantime. -/
def flooded : List (GoStep Unit ℕ) :=
  let packet := Json.obj [("Cmd", .num (.ofUInt32 2))]
  [.decode packet, .enqueue, .test, .dequeue, .decode packet, .enqueue, .decode packet,
    .serve (Env.answering fun _ => .failed), .test, .leave]

/-- Five calls find the client that has logged in, and the loop ends before it has received from any of them. -/
def credited : List (GoStep Unit ℕ) :=
  [.decode (loginPacket 1), .enqueue, .test, .dequeue, .serve (Env.answering fun _ => .notFound), .lookup 0 "u" 1,
    .lookup 1 "u" 1, .lookup 2 "u" 1, .lookup 3 "u" 1, .lookup 4 "u" 1, .test, .timeout, .send 0, .send 1, .send 2,
    .send 3, .test, .leave]

/-- The reader, or a call of `AddHeartAsync`, stays blocked. -/
theorem sender_left_blocked :
    (∃ s, exec (Goroutines.step amd64) (Goroutines.start () .empty) flooded = some s ∧ s.loop = .returned ∧
      s.reqSenders.Blocked) ∧
    ∃ s, exec (Goroutines.step amd64) (Goroutines.start () .empty) credited = some s ∧ s.loop = .returned ∧
      s.ichanSenders.Blocked := by
  constructor
  · have ends : (exec (Goroutines.step amd64) (Goroutines.start () .empty) flooded).map
        (fun s => (s.loop, s.reader, s.reqChan)) = some (.returned, .holding, some .ptr) := by decide +kernel
    obtain ⟨s, run, shown⟩ := Option.map_eq_some_iff.1 ends
    simp only [Prod.mk.injEq] at shown
    obtain ⟨returned, reader, chan⟩ := shown
    refine ⟨s, run, returned, ?_, (), .inl reader⟩
    rw [Goroutines.reqSenders, chan]
    rfl
  · have ends : (exec (Goroutines.step amd64) (Goroutines.start () .empty) credited).map
        (fun s => (s.loop, s.client.ichan.length, s.callers 4)) = some (.returned, 4, .sending 1) := by decide +kernel
    obtain ⟨s, run, shown⟩ := Option.map_eq_some_iff.1 ends
    simp only [Prod.mk.injEq] at shown
    obtain ⟨returned, full, sending⟩ := shown
    exact ⟨s, run, returned, full.ge, 4, 1, sending⟩

end Crazyass.Server
