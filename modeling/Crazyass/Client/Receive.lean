import Crazyass.Client.Tcp

/-!
# The receiving thread of `tcp.c`

`tcp_client_thread` calls `tcpc_recv_event` for ever: it asks `restbytes` how
much of a frame is missing, reads until nothing is, and passes the frame to the
response registered under its number. A step of the model is one call that the
thread makes or returns from. Another thread may register responses and release
the connection at any time.
-/

namespace Crazyass.Tcp
open Sys

/-- The callbacks of `struct tcp_client` that the thread uses. -/
structure Callbacks where
  restbytes : List UInt8 → ℤ
  getseq : List UInt8 → UInt32

/-- `RECV_SIZE`. -/
def recvSize : ℕ := 64 * 1024

/-- `EAGAIN` and `EINPROGRESS`. -/
def eagain : ℤ := 11
def einprogress : ℤ := 115

/-- An error after which the connection is as good as before. -/
def Transient (errno : ℤ) : Prop := errno = eagain ∨ errno = einprogress

instance (errno : ℤ) : Decidable (Transient errno) := inferInstanceAs (Decidable (_ ∨ _))

/-- Why `tcpc_close` is called. -/
inductive Cause where
  | eof | error (errno : ℤ) | unknownSeq | handlerFailed | released
deriving DecidableEq, Repr

/-- What is done for a connection. `tcpcClose` closes the socket as well, `close`
is the call beside it; `overrun` is a write past the end of `recvbuf`. -/
inductive Event where
  | restbytes
  | read (recvsize : ℕ) (restsize : ℤ)
  | overrun
  | getseq
  | proc (rsp : TcpResponse) (data : List UInt8)
  | close
  | tcpcClose (cause : Cause)
deriving DecidableEq, Repr

/-- How `read` returns. -/
inductive ReadResult where
  | data (d : List UInt8)
  | eof
  | error (errno : ℤ)
deriving DecidableEq, Repr

/-- Where the thread is: between two calls of `tcpc_recv_event`, at the head of
its loop, in `read`, behind `getseq`, or in a `proc`. -/
inductive Place where
  | idle
  | loop (restsize : ℤ)
  | reading (restsize : ℤ)
  | looking (seq : UInt32)
  | calling (seq : UInt32)
deriving DecidableEq, Repr

/-- A connection with its thread, all that was done for it and all that was read
from it. A failed assertion or a write past `recvbuf` halts the model. -/
structure Receiver where
  tcpc : Tcpc
  place : Place
  log : List Event
  received : List UInt8
  halted : Bool

/-- `enter`, `read`, `getseq` and `call` are calls that the thread makes, `ret`
and `returned` are `read` and `proc` coming back to it. -/
inductive Move where
  | enter
  | read
  | ret (result : ReadResult)
  | getseq
  | call
  | returned (n : ℤ)
  | register (req : TcpRequest)
  | release
deriving DecidableEq, Repr

def Event.isTcpcClose : Event → Bool
  | .tcpcClose _ => true
  | _ => false

/-- Whether the event closes the socket. -/
def Event.closesSocket : Event → Bool
  | .close | .tcpcClose _ => true
  | _ => false

/-- The frame that the event hands to a handler. -/
def Event.frame? : Event → Option (List UInt8)
  | .proc _ data => some data
  | _ => none

namespace Receiver

def start : Receiver := ⟨.new, .idle, [], [], false⟩

def emit (s : Receiver) (e : Event) : Receiver := { s with log := s.log ++ [e] }

/-- `tcpc_close` and the return to the loop of the thread. What it frees is
still used afterwards, and here it is as it was. -/
def tcpcClose (s : Receiver) (cause : Cause) : Receiver := { s.emit (.tcpcClose cause) with place := .idle }

/-- `tcpc_close` has run. -/
def closed (s : Receiver) : Bool := s.log.any Event.isTcpcClose

/-- The frames handed to handlers. -/
def handed (s : Receiver) : List (List UInt8) := s.log.filterMap Event.frame?

/-- `read` returns. -/
def readReturned (cb : Callbacks) (s : Receiver) (restsize : ℤ) : ReadResult → Option Receiver
  | .data d =>
    if d ≠ [] ∧ d.length ≤ restsize then
      if s.tcpc.recvbuf.length + d.length > recvSize then some { s.emit .overrun with halted := true }
      else
        let recvbuf := s.tcpc.recvbuf ++ d
        some { s.emit .restbytes with
          tcpc := { s.tcpc with recvbuf }, received := s.received ++ d, place := .loop (cb.restbytes recvbuf) }
    else none
  | .eof => some (s.tcpcClose .eof)
  | .error errno =>
    -- errno is positive
    if 0 < errno then
      if errno = -eagain ∨ errno = -einprogress then some { s with place := .idle } else some (s.tcpcClose (.error errno))
    else none

/-- `proc` returns. -/
def procReturned (s : Receiver) (seq : UInt32) (n : ℤ) : Receiver :=
  if n < 0 then (s.emit .close).tcpcClose .handlerFailed
  else
    -- clear
    match { s.tcpc with recvbuf := [] }.setRsp seq none with
    | .ok tcpc => { s with tcpc, place := .idle }
    | .error _ => { s with halted := true }

def step (cb : Callbacks) (s : Receiver) (m : Move) : Option Receiver :=
  if s.halted then none
  else
    match m, s.place with
    | .enter, .idle =>
      let restsize := cb.restbytes s.tcpc.recvbuf
      let s := s.emit .restbytes
      if restsize ≥ 0 then some { s with place := .loop restsize } else some { s with halted := true }
    | .read, .loop restsize =>
      if restsize > 0 then some { s.emit (.read s.tcpc.recvbuf.length restsize) with place := .reading restsize } else none
    | .ret result, .reading restsize => s.readReturned cb restsize result
    | .getseq, .loop restsize =>
      if restsize > 0 then none else some { s.emit .getseq with place := .looking (cb.getseq s.tcpc.recvbuf) }
    | .call, .looking seq =>
      match s.tcpc.getRsp seq with
      | none => some (s.tcpcClose .unknownSeq)
      | some rsp => some { s.emit (.proc rsp s.tcpc.recvbuf) with place := .calling seq }
    | .returned n, .calling seq => some (s.procReturned seq n)
    | .register req, _ =>
      if s.closed then none else (s.tcpc.sendRegister req).toOption.map fun tcpc => { s with tcpc }
    | .release, _ => some (s.emit (.tcpcClose .released))
    | _, _ => none

/-! ## Steps -/

section
variable {cb : Callbacks} {s t : Receiver} {m : Move} {frames : List (List UInt8)} {log : List Event} {e : Event}

/-- The steps of a connection. -/
inductive Stepped (cb : Callbacks) (s : Receiver) : Move → Receiver → Prop where
  | enter (here : s.place = .idle) (admitted : 0 ≤ cb.restbytes s.tcpc.recvbuf) :
      Stepped cb s .enter { s.emit .restbytes with place := .loop (cb.restbytes s.tcpc.recvbuf) }
  | aborted (here : s.place = .idle) (negative : cb.restbytes s.tcpc.recvbuf < 0) :
      Stepped cb s .enter { s.emit .restbytes with halted := true }
  | read (restsize : ℤ) (here : s.place = .loop restsize) (more : 0 < restsize) :
      Stepped cb s .read { s.emit (.read s.tcpc.recvbuf.length restsize) with place := .reading restsize }
  | data (restsize : ℤ) (d : List UInt8) (here : s.place = .reading restsize) (some : d ≠ []) (asked : d.length ≤ restsize)
      (fits : s.tcpc.recvbuf.length + d.length ≤ recvSize) :
      Stepped cb s (.ret (.data d)) { s.emit .restbytes with
        tcpc := { s.tcpc with recvbuf := s.tcpc.recvbuf ++ d }
        received := s.received ++ d
        place := .loop (cb.restbytes (s.tcpc.recvbuf ++ d)) }
  | overrun (restsize : ℤ) (d : List UInt8) (here : s.place = .reading restsize) (some : d ≠ []) (asked : d.length ≤ restsize)
      (past : recvSize < s.tcpc.recvbuf.length + d.length) :
      Stepped cb s (.ret (.data d)) { s.emit .overrun with halted := true }
  | eof (restsize : ℤ) (here : s.place = .reading restsize) : Stepped cb s (.ret .eof) (s.tcpcClose .eof)
  | error (restsize errno : ℤ) (here : s.place = .reading restsize) :
      Stepped cb s (.ret (.error errno)) (s.tcpcClose (.error errno))
  | getseq (restsize : ℤ) (here : s.place = .loop restsize) (whole : restsize ≤ 0) :
      Stepped cb s .getseq { s.emit .getseq with place := .looking (cb.getseq s.tcpc.recvbuf) }
  | unknown (seq : UInt32) (here : s.place = .looking seq) (missing : s.tcpc.getRsp seq = none) :
      Stepped cb s .call (s.tcpcClose .unknownSeq)
  | call (seq : UInt32) (rsp : TcpResponse) (here : s.place = .looking seq) (found : s.tcpc.getRsp seq = some rsp) :
      Stepped cb s .call { s.emit (.proc rsp s.tcpc.recvbuf) with place := .calling seq }
  | failed (seq : UInt32) (n : ℤ) (here : s.place = .calling seq) (negative : n < 0) :
      Stepped cb s (.returned n) ((s.emit .close).tcpcClose .handlerFailed)
  | handled (seq : UInt32) (n : ℤ) (tcpc : Tcpc) (here : s.place = .calling seq) (good : 0 ≤ n)
      (cleared : { s.tcpc with recvbuf := [] }.setRsp seq none = .ok tcpc) :
      Stepped cb s (.returned n) { s with tcpc, place := .idle }
  | unset (seq : UInt32) (n : ℤ) (e : End) (here : s.place = .calling seq) (good : 0 ≤ n)
      (refused : { s.tcpc with recvbuf := [] }.setRsp seq none = .error e) :
      Stepped cb s (.returned n) { s with halted := true }
  | register (req : TcpRequest) (tcpc : Tcpc) (live : s.closed = false) (registered : s.tcpc.sendRegister req = .ok tcpc) :
      Stepped cb s (.register req) { s with tcpc }
  | release : Stepped cb s .release (s.emit (.tcpcClose .released))

/-- How `read` comes back. The test for transient errors compares a positive
number with negative ones. -/
theorem readReturned_stepped {restsize : ℤ} {result : ReadResult} (here : s.place = .reading restsize)
    (h : s.readReturned cb restsize result = some t) : Stepped cb s (.ret result) t := by
  cases result with
  | data d =>
    dsimp only [readReturned] at h
    split at h
    · next legal =>
      split at h
      · next past =>
        cases h
        exact .overrun restsize d here legal.1 legal.2 past
      · next fits =>
        cases h
        exact .data restsize d here legal.1 legal.2 (not_lt.1 fits)
    · cases h
  | eof =>
    cases h
    exact .eof restsize here
  | error errno =>
    dsimp only [readReturned] at h
    split at h
    · next positive =>
      have never : ¬ (errno = -eagain ∨ errno = -einprogress) := by
        unfold eagain einprogress
        omega
      rw [if_neg never] at h
      cases h
      exact .error restsize errno here
    · cases h

/-- A response that is handled frees its slot and empties the buffer. -/
theorem procReturned_handled {seq : UInt32} {n : ℤ} {tcpc : Tcpc} (good : 0 ≤ n)
    (cleared : { s.tcpc with recvbuf := [] }.setRsp seq none = .ok tcpc) :
    s.procReturned seq n = { s with tcpc, place := .idle } := by
  unfold procReturned
  rw [if_neg (not_lt.2 good), cleared]

/-- The return of a response is a step of the receiver, whatever it returns. -/
theorem procReturned_stepped {seq : UInt32} {n : ℤ} (here : s.place = .calling seq) :
    Stepped cb s (.returned n) (s.procReturned seq n) := by
  unfold procReturned
  split
  · next negative => exact .failed seq n here negative
  · next good =>
    split
    · next tcpc cleared => exact .handled seq n tcpc here (not_lt.1 good) cleared
    · next e refused => exact .unset seq n e here (not_lt.1 good) refused

/-- **A step** of the receiver is one of these. -/
theorem stepped (h : step cb s m = some t) : s.halted = false ∧ Stepped cb s m t := by
  unfold step at h
  by_cases halted : s.halted = true
  · simp [halted] at h
  · rw [if_neg halted] at h
    refine ⟨Bool.eq_false_iff.2 halted, ?_⟩
    split at h
    · next here =>
      dsimp only at h
      split at h
      · next admitted =>
        cases h
        exact .enter here admitted
      · next negative =>
        cases h
        exact .aborted here (not_le.1 negative)
    · next restsize here =>
      split at h
      · next more =>
        cases h
        exact .read restsize here more
      · cases h
    · next result restsize here => exact readReturned_stepped here h
    · next restsize here =>
      split at h
      · cases h
      · next whole =>
        cases h
        exact .getseq restsize here (not_lt.1 whole)
    · next seq here =>
      split at h
      · next missing =>
        cases h
        exact .unknown seq here missing
      · next rsp found =>
        cases h
        exact .call seq rsp here found
    · next n seq here =>
      cases h
      exact procReturned_stepped here
    · next req =>
      split at h
      · cases h
      · next live =>
        obtain ⟨tcpc, registered, rfl⟩ := Option.map_eq_some_iff.1 h
        exact .register req tcpc (Bool.eq_false_iff.2 live) (Tcpc.ok_of_toOption registered)
    · cases h
      exact .release
    · cases h

/-! ## The end of a frame -/

section dispatch
variable {restsize n : ℤ} {seq : UInt32} {rsp : TcpResponse} (running : s.halted = false)
include running

/-- A whole frame is looked up. -/
theorem step_getseq (here : s.place = .loop restsize) (whole : restsize ≤ 0) :
    step cb s .getseq = some { s.emit .getseq with place := .looking (cb.getseq s.tcpc.recvbuf) } := by
  unfold step
  rw [if_neg (by simp [running]), here]
  exact if_neg (not_lt.2 whole)

/-- A frame with a number that nobody asked for closes the connection. -/
theorem step_call_none (here : s.place = .looking seq) (missing : s.tcpc.getRsp seq = none) :
    step cb s .call = some (s.tcpcClose .unknownSeq) := by
  unfold step
  rw [if_neg (by simp [running]), here]
  dsimp only
  rw [missing]

/-- A frame with a known number is handed to its response. -/
theorem step_call_some (here : s.place = .looking seq) (found : s.tcpc.getRsp seq = some rsp) :
    step cb s .call = some { s.emit (.proc rsp s.tcpc.recvbuf) with place := .calling seq } := by
  unfold step
  rw [if_neg (by simp [running]), here]
  dsimp only
  rw [found]

/-- The thread goes on after the response. -/
theorem step_returned (here : s.place = .calling seq) : step cb s (.returned n) = some (s.procReturned seq n) := by
  unfold step
  rw [if_neg (by simp [running]), here]

/-- The moves that end a frame are `recvDispatch`. -/
theorem dispatch_moves {tcpc : Tcpc} (here : s.place = .loop restsize) (whole : restsize ≤ 0)
    (dispatched : s.tcpc.recvDispatch cb.getseq n = (some rsp, .ok tcpc)) :
    exec (step cb) s [.getseq, .call, .returned n] =
      some { (s.emit .getseq).emit (.proc rsp s.tcpc.recvbuf) with tcpc, place := .idle } := by
  obtain ⟨found, good, cleared⟩ := Tcpc.recvDispatch_ok (congrArg Prod.snd dispatched)
  rw [dispatched] at found
  refine exec_cons_eq_some.2 ⟨_, step_getseq running here whole, ?_⟩
  refine exec_cons_eq_some.2 ⟨_, step_call_some running rfl found.symm, ?_⟩
  refine exec_cons_eq_some.2 ⟨_, step_returned running rfl, ?_⟩
  exact congrArg some (procReturned_handled good cleared)

end dispatch

end

/-! ## Data for tests -/

/-- Frames of two bytes, the first of which is the number. -/
def twoBytes : Callbacks := ⟨fun buf => 2 - buf.length, firstByte⟩

/-- A frame arrives in two chunks for a response that is registered. -/
def exchange : List Move :=
  [.register ⟨0, 1⟩, .enter, .read, .ret (.data [1]), .read, .ret (.data [7]), .getseq, .call]

end Receiver
end Crazyass.Tcp
