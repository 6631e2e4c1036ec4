import Crazyass.Sys.Mailbox
import Crazyass.Sys.Run
import Crazyass.Server.Effect

/-!
# The reader and the loop

Two goroutines of one connection. `readMsg` decodes every packet into the
client's one message cell and sends the cell's address to a channel of
capacity 1; `Proc` tests `enable`, receives the address and runs `procMsg` on
what it then finds in the cell. A read error clears `enable` and sends nil.

The contract is that the messages handed to `procMsg` are the packets
received. The steps of no other party are modelled: no handler kicks, none
panics and no timeout fires.
-/

namespace Crazyass.Server
open Go Sys

/-- What is in `req_chan`: the address of the cell, or nil. -/
inductive Slot where
  | ptr | nil
deriving DecidableEq, Repr

/-- The reader: in `readPacket`, about to send the address, about to send nil, returned. -/
inductive ReaderAt where
  | reading | holding | failing | done
deriving DecidableEq, Repr

/-- The loop: at the test of `enable`, in the `select`, about to call
`procMsg`, past the loop. -/
inductive ProcAt where
  | head | waiting | serving | exited
deriving DecidableEq, Repr

/-- A connection with its two goroutines; `received` and `handed` record the
messages decoded and those shown to `procMsg`. -/
structure Link (κ : Type) where
  client : Client κ
  chan : Option Slot
  reader : ReaderAt
  proc : ProcAt
  received : List Msg
  handed : List Msg

/-- `readError` is given the packet that did not decode, if that was the error:
what it could decode of it stays in the cell. -/
inductive LinkStep (κ : Type) where
  | decode (p : Json)
  | enqueue
  | readError (p : Option Json)
  | enqueueNil
  | test
  | dequeue
  | serve (env : Env) (online : Online κ)
  | imsg (value : Int64)

namespace Link
section
variable {κ : Type} (cv : FloatConv)

def start (self : κ) : Link κ := ⟨.new self, none, .reading, .head, [], []⟩

def setMsg (s : Link κ) (m : Msg) : Link κ := { s with client := { s.client with msg := m } }

/-- The cell after a read error. -/
def spoiled (s : Link κ) (p : Option Json) : Msg := p.elim s.client.msg fun p => (unmarshal s.client.msg p).1

def step (s : Link κ) : LinkStep κ → Option (Link κ)
  | .decode p =>
    if s.reader = .reading then
      (readPacket s.client.msg p).map fun m =>
        { s.setMsg m with reader := .holding, received := s.received ++ [m] }
    else none
  | .enqueue => if s.reader = .holding ∧ s.chan = none then some { s with reader := .reading, chan := some .ptr } else none
  | .readError p =>
    if s.reader = .reading ∧ (p.bind (readPacket s.client.msg)).isNone then
      some { s with reader := .failing, client := { s.client with msg := s.spoiled p, enable := false } }
    else none
  | .enqueueNil => if s.reader = .failing ∧ s.chan = none then some { s with reader := .done, chan := some .nil } else none
  | .test =>
    if s.proc = .head then some { s with proc := if s.client.enable then .waiting else .exited } else none
  | .dequeue =>
    if s.proc = .waiting then
      match s.chan with
      | some .ptr => some { s with proc := .serving, chan := none }
      | some .nil => some { s with proc := .head, chan := none }
      | none => none
    else none
  | .serve env online =>
    if s.proc = .serving then
      match serve cv env online s.client s.client.msg with
      | .ok o =>
        if o.c.enable = s.client.enable then
          some { s with client := o.c, proc := .head, handed := s.handed ++ [s.client.msg] }
        else none
      | .error _ => none
    else none
  | .imsg value => if s.proc = .waiting then some { s with client := serveIMsg s.client value, proc := .head } else none

/-- **The contract**: what was handed over is what was received, in order, and
all of it once the loop is left. -/
structure InOrder (s : Link κ) : Prop where
  initial : s.handed <+: s.received
  all : s.proc = .exited → s.handed = s.received

/-- The pointers on their way: held by the reader, in the channel, taken by the loop. -/
def pending (s : Link κ) : ℕ :=
  (if s.reader = .holding then 1 else 0) + (if s.chan = some .ptr then 1 else 0) + (if s.proc = .serving then 1 else 0)

def box (s : Link κ) : Mailbox Msg := ⟨s.client.msg, s.pending, s.received, s.handed⟩

/-- No step writes the cell while a pointer is on its way, unless it writes what
is there; and the loop is not left while one is in the channel. A request
writes the cell when it is a login without a userid. -/
def Undisturbed (s : Link κ) : LinkStep κ → Prop
  | .decode p => s.pending = 0 ∨ readPacket s.client.msg p = some s.client.msg
  | .readError p => s.pending = 0 ∨ s.spoiled p = s.client.msg
  | .test => s.client.enable = false → s.chan ≠ some .ptr
  | .serve _ _ => s.pending = 1 ∨
      (s.client.user.ready = false → s.client.msg.cmd = kCmdUserLogin → s.client.msg.userid ≠ "")
  | _ => True

/-- What every undisturbed step keeps. -/
structure Inv (s : Link κ) : Prop where
  faithful : s.box.Faithful
  failed : s.client.enable = false → s.reader = .failing ∨ s.reader = .done
  exited : s.proc = .exited → s.client.enable = false ∧ s.chan ≠ some .ptr

variable {cv} {s t : Link κ}

/-- Before the reader fails the client is enabled, and the loop goes on. -/
theorem Inv.running (inv : Inv s) (before : s.reader = .reading ∨ s.reader = .holding) :
    s.client.enable = true ∧ s.proc ≠ .exited := by
  have enabled : s.client.enable = true := by
    by_contra disabled
    rcases inv.failed (by simpa using disabled) with failed | failed <;> rcases before with reader | reader <;>
      simp [reader] at failed
  refine ⟨enabled, fun left => ?_⟩
  exact absurd (enabled.symm.trans (inv.exited left).1) (by decide)

/-- The invariant gives the contract. -/
theorem Inv.inOrder (inv : Inv s) : InOrder s where
  initial := inv.faithful.initial
  all left := by
    obtain ⟨disabled, empty⟩ := inv.exited left
    apply inv.faithful.all
    rcases inv.failed disabled with reader | reader <;> simp [box, pending, reader, empty, left]

/-- A packet that is read overwrites the cell. -/
theorem step_decode {p : Json} :
    step cv s (.decode p) = some t ↔ s.reader = .reading ∧ ∃ m, readPacket s.client.msg p = some m ∧
      t = { s.setMsg m with reader := .holding, received := s.received ++ [m] } := by
  unfold step
  by_cases reading : s.reader = .reading
  · simp [reading, eq_comm]
  · simp [reading]

/-- A packet that is read undisturbed keeps the invariant. -/
theorem decode_inv {p : Json} {m : Msg} (inv : Inv s) (calm : Undisturbed s (.decode p)) (reading : s.reader = .reading)
    (read : readPacket s.client.msg p = some m) :
    Inv { s.setMsg m with reader := .holding, received := s.received ++ [m] } := by
  obtain ⟨enabled, inside⟩ := inv.running (.inl reading)
  have safe : s.box.pending = 0 ∨ m = s.box.cell := by
    rcases calm with idle | same
    · exact .inl idle
    · exact .inr (Option.some.inj (read.symm.trans same))
  have one_more : pending { s.setMsg m with reader := .holding, received := s.received ++ [m] } = s.pending + 1 := by
    simp only [pending, setMsg, reading, reduceCtorEq, if_true, if_false]
    omega
  refine ⟨?_, fun disabled => ?_, fun left => absurd left inside⟩
  · have written := inv.faithful.write safe
    unfold box
    rw [one_more]
    exact written
  · exact absurd (enabled.symm.trans disabled) (by decide)

/-- A read error that is undisturbed keeps the invariant. -/
theorem readError_inv {p : Option Json} (inv : Inv s) (calm : Undisturbed s (.readError p)) (reading : s.reader = .reading) :
    Inv { s with reader := .failing, client := { s.client with msg := s.spoiled p, enable := false } } := by
  obtain ⟨-, inside⟩ := inv.running (.inl reading)
  have same : pending { s with reader := .failing, client := { s.client with msg := s.spoiled p, enable := false } } =
      s.pending := by simp [pending, reading]
  refine ⟨?_, fun _ => .inl rfl, fun left => absurd left inside⟩
  have written := inv.faithful.overwrite (m := s.spoiled p) calm
  unfold box
  rw [same]
  exact written

/-- A message that is served undisturbed keeps the invariant. -/
theorem serve_inv {env : Env} {online : Online κ} {o : Outcome κ} (inv : Inv s) (calm : Undisturbed s (.serve env online))
    (serving : s.proc = .serving) (run : Server.serve cv env online s.client s.client.msg = .ok o)
    (unkicked : o.c.enable = s.client.enable) :
    Inv { s with client := o.c, proc := .head, handed := s.handed ++ [s.client.msg] } := by
  have taken : 0 < s.pending := by
    simp only [pending, serving, if_true]
    omega
  have one_less : pending { s with client := o.c, proc := .head, handed := s.handed ++ [s.client.msg] } =
      s.pending - 1 := by
    simp only [pending, serving, reduceCtorEq, if_true, if_false]
    omega
  have safe : s.box.hand.pending = 0 ∨ o.c.msg = s.box.hand.cell := by
    rcases calm with last | named
    · refine .inl ?_
      change s.pending - 1 = 0
      omega
    · exact .inr (serve_msg named run)
  refine ⟨?_, fun disabled => inv.failed (unkicked.symm.trans disabled), fun left => by cases left⟩
  have handed := (inv.faithful.hand taken).overwrite safe
  unfold box
  rw [one_less]
  exact handed

/-- The steps that move a pointer or the loop and leave the cell alone. -/
theorem Inv.move (inv : Inv s) (cell : t.client.msg = s.client.msg) (enable : t.client.enable = s.client.enable)
    (ghosts : t.received = s.received ∧ t.handed = s.handed) (pending : t.pending = s.pending)
    (failed : s.reader = .failing ∨ s.reader = .done → t.reader = .failing ∨ t.reader = .done)
    (exited : t.proc = .exited → t.client.enable = false ∧ t.chan ≠ some .ptr) : Inv t where
  faithful := by
    have same : t.box = s.box := by
      unfold box
      rw [cell, ghosts.1, ghosts.2, pending]
    rw [same]
    exact inv.faithful
  failed disabled := failed (inv.failed (enable.symm.trans disabled))
  exited := exited

/-- **One step** that is undisturbed keeps the invariant. -/
theorem step_inv {a : LinkStep κ} (inv : Inv s) (calm : Undisturbed s a) (h : step cv s a = some t) : Inv t := by
  cases a with
  | decode p =>
    obtain ⟨reading, m, read, rfl⟩ := step_decode.1 h
    exact decode_inv inv calm reading read
  | enqueue =>
    simp only [step] at h
    split at h
    · next ready =>
      cases h
      obtain ⟨enabled, inside⟩ := inv.running (.inr ready.1)
      refine inv.move rfl rfl ⟨rfl, rfl⟩ (by simp [pending, ready]) ?_ (fun left => absurd left inside)
      rw [ready.1]
      simp
    · cases h
  | readError p =>
    simp only [step] at h
    split at h
    · next reading =>
      cases h
      exact readError_inv inv calm reading.1
    · cases h
  | enqueueNil =>
    simp only [step] at h
    split at h
    · next ready =>
      cases h
      refine inv.move rfl rfl ⟨rfl, rfl⟩ (by simp [pending, ready]) (fun _ => .inr rfl) ?_
      exact fun left => ⟨(inv.exited left).1, by simp⟩
    · cases h
  | test =>
    simp only [step] at h
    split at h
    · next head =>
      cases h
      refine inv.move rfl rfl ⟨rfl, rfl⟩ ?_ id ?_
      · cases s.client.enable <;> simp [pending, head]
      · intro left
        cases enable : s.client.enable with
        | true => simp [enable] at left
        | false => exact ⟨rfl, calm enable⟩
    · cases h
  | dequeue =>
    simp only [step] at h
    split at h
    · next waiting =>
      split at h
      · next full =>
        cases h
        exact inv.move rfl rfl ⟨rfl, rfl⟩ (by simp [pending, waiting, full]) id (fun left => by cases left)
      · next full =>
        cases h
        exact inv.move rfl rfl ⟨rfl, rfl⟩ (by simp [pending, waiting, full]) id (fun left => by cases left)
      · cases h
    · cases h
  | serve env online =>
    simp only [step] at h
    split at h
    · next serving =>
      split at h
      · next o run =>
        split at h
        · next unkicked =>
          cases h
          exact serve_inv inv calm serving run unkicked
        · cases h
      · cases h
    · cases h
  | imsg value =>
    simp only [step] at h
    split at h
    · next waiting =>
      cases h
      exact inv.move rfl rfl ⟨rfl, rfl⟩ (by simp [pending, waiting]) id (fun left => by cases left)
    · cases h

/-- Nothing has been received or handed over. -/
theorem start_inv (self : κ) : Inv (start self) where
  faithful := rfl
  failed disabled := by cases disabled
  exited left := by cases left

/-- **When every packet is processed once and in order**: in every state of a
run whose steps are undisturbed. -/
theorem in_order (cv : FloatConv) (self : κ) (as : List (LinkStep κ))
    (along : Along (step cv) Undisturbed (start self) as) : Through (step cv) InOrder (start self) as := by
  intro bs u pre run
  exact (through_inv (fun _ _ _ inv calm h => step_inv inv calm h) (start_inv self) along bs u pre run).inOrder

end
end Link

/-- The packet of a login. -/
def loginPacket (seq : UInt32) : Json :=
  .obj [("Cmd", .num (.ofUInt32 1)), ("Seq", .num (.ofUInt32 seq)), ("Userid", .str "u")]

namespace Link

/-- The reader waits for its turn: it writes the cell only when no pointer is on
its way. -/
def InTurn {κ : Type} (s : Link κ) : LinkStep κ → Prop
  | .decode _ | .readError _ => s.pending = 0
  | .serve .. => s.pending = 1
  | .test => s.client.enable = false → s.chan ≠ some .ptr
  | _ => True

instance {κ : Type} (s : Link κ) : ∀ a, Decidable (s.InTurn a)
  | .decode _ | .readError _ => inferInstanceAs (Decidable (_ = _))
  | .serve .. => inferInstanceAs (Decidable (_ = _))
  | .test => inferInstanceAs (Decidable (_ → _))
  | .enqueue | .enqueueNil | .dequeue | .imsg _ => .isTrue trivial

theorem InTurn.undisturbed {κ : Type} {s : Link κ} {a : LinkStep κ} (turn : s.InTurn a) : s.Undisturbed a := by
  cases a with
  | decode | readError | serve => exact .inl turn
  | test => exact turn
  | enqueue | enqueueNil | dequeue | imsg => trivial

end Link

/-- One packet, read, sent and served. -/
def oneLogin (seq : UInt32) : List (LinkStep Unit) :=
  [.decode (loginPacket seq), .enqueue, .test, .dequeue, .serve (Env.answering fun _ => .notFound) .empty]

/-- Two packets in turn, a read error, and the end of the loop. -/
def twoLogins : List (LinkStep Unit) :=
  oneLogin 1 ++ oneLogin 2 ++ [.test, .readError none, .enqueueNil, .dequeue, .test]

/-- Both packets are handed over, and the loop is left. -/
theorem in_order_two_logins :
    (exec (Link.step amd64) (Link.start ()) twoLogins).map (fun s => (s.proc, s.handed.map Msg.seq)) =
        some (.exited, [.ofUInt32 1, .ofUInt32 2]) ∧
      Through (Link.step amd64) Link.InOrder (Link.start ()) twoLogins := by
  have turns : Along (Link.step amd64) Link.InTurn (Link.start ()) twoLogins := by decide +kernel
  exact ⟨by decide +kernel, Link.in_order amd64 () twoLogins (turns.mono fun _ _ turn => turn.undisturbed)⟩

/-- A second packet replaces the first while its pointer waits in the channel;
and a read error ends the loop with a pointer still in the channel. -/
theorem in_order_broken :
    (∃ s, exec (Link.step amd64) (Link.start ())
        [.decode (loginPacket 1), .enqueue, .decode (loginPacket 2), .test, .dequeue,
          .serve (Env.answering fun _ => .notFound) .empty] = some s ∧ ¬ Link.InOrder s) ∧
    ∃ s, exec (Link.step amd64) (Link.start ()) [.decode (loginPacket 1), .enqueue, .readError none, .test] = some s ∧
      ¬ Link.InOrder s := by
  constructor
  · have ends : (exec (Link.step amd64) (Link.start ())
        [.decode (loginPacket 1), .enqueue, .decode (loginPacket 2), .test, .dequeue,
          .serve (Env.answering fun _ => .notFound) .empty]).map (fun s => (s.handed.map Msg.seq, s.received.map Msg.seq)) =
        some ([.ofUInt32 2], [.ofUInt32 1, .ofUInt32 2]) := by decide +kernel
    obtain ⟨s, run, shown⟩ := Option.map_eq_some_iff.1 ends
    obtain ⟨handed, received⟩ := Prod.mk.inj shown
    refine ⟨s, run, fun contract => ?_⟩
    have initial := contract.initial.map Msg.seq
    rw [handed, received] at initial
    exact absurd initial (by decide)
  · have ends : (exec (Link.step amd64) (Link.start ())
        [.decode (loginPacket 1), .enqueue, .readError none, .test]).map
          (fun s => (s.proc, s.handed.length, s.received.length)) = some (.exited, 0, 1) := by decide +kernel
    obtain ⟨s, run, shown⟩ := Option.map_eq_some_iff.1 ends
    simp only [Prod.mk.injEq] at shown
    refine ⟨s, run, fun contract => ?_⟩
    have all := congrArg List.length (contract.all shown.1)
    omega

end Crazyass.Server
