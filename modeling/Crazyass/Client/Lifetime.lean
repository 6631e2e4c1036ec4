import Crazyass.Client.Receive

/-!
# The end of a connection

When `tcpc_close` runs, how often, and what is done for the connection after
it. The test that should let transient errors pass never does, a failing handler
closes the socket twice, and the loop of the thread does not end.
-/

namespace Crazyass.Tcp
open Sys

/-- **The contract** of what is done for a connection: `tcpc_close` runs at most
once and not for a transient error, nothing else closes the socket, and nothing
is done after it. -/
structure Lifetime (log : List Event) : Prop where
  once : log.countP Event.isTcpcClose ≤ 1
  socket : log.countP Event.closesSocket = log.countP Event.isTcpcClose
  due : ∀ errno, .tcpcClose (.error errno) ∈ log → ¬ Transient errno
  last : ∀ before cause after, log = before ++ .tcpcClose cause :: after → after = []

section
variable {log : List Event} {e : Event}

/-- Only the explicit `close` closes the socket without a `tcpc_close`. -/
theorem closesSocket_eq (other : e ≠ .close) : e.closesSocket = e.isTcpcClose := by
  cases e <;> first | rfl | exact absurd rfl other

/-- A log that has a `tcpc_close` has one with a cause. -/
theorem exists_tcpcClose (h : log.any Event.isTcpcClose = true) : ∃ cause, .tcpcClose cause ∈ log := by
  obtain ⟨e, mem, closes⟩ := List.any_eq_true.1 h
  cases e with
  | tcpcClose cause => exact ⟨cause, mem⟩
  | restbytes | read | overrun | getseq | proc | close => cases closes

/-- A log without any has none of them. -/
theorem isTcpcClose_of_any (h : log.any Event.isTcpcClose = false) (mem : e ∈ log) : e.isTcpcClose = false := by
  rw [List.any_eq_false] at h
  exact Bool.eq_false_iff.2 (h e mem)

/-- **One more event** keeps the contract while the connection is open, unless it
is a close of its own or for a transient error. -/
theorem lifetime_snoc (h : Lifetime log) : Lifetime (log ++ [e]) ↔
    log.any Event.isTcpcClose = false ∧ e ≠ .close ∧ ∀ errno, e = .tcpcClose (.error errno) → ¬ Transient errno := by
  constructor
  · intro h'
    refine ⟨?_, ?_, ?_⟩
    · by_contra closed
      obtain ⟨cause, mem⟩ := exists_tcpcClose (by simpa using closed)
      obtain ⟨before, after, rfl⟩ := List.append_of_mem mem
      have nothing := h'.last before cause (after ++ [e]) (by simp)
      simp at nothing
    · rintro rfl
      have counts := h'.socket
      rw [List.countP_append, List.countP_append, h.socket] at counts
      simp [Event.closesSocket, Event.isTcpcClose] at counts
    · rintro errno rfl
      exact h'.due errno (by simp)
  · rintro ⟨open_log, other, due⟩
    have none_yet : log.countP Event.isTcpcClose = 0 := by
      rw [List.countP_eq_zero]
      exact fun e mem => by simp [isTcpcClose_of_any open_log mem]
    refine ⟨?_, ?_, ?_, ?_⟩
    · rw [List.countP_append, none_yet, Nat.zero_add]
      exact List.countP_le_length
    · rw [List.countP_append, List.countP_append, h.socket]
      simp only [List.countP_singleton, closesSocket_eq other]
    · intro errno mem
      rcases List.mem_append.1 mem with before | now
      · exact h.due errno before
      · exact due errno (List.mem_singleton.1 now).symm
    · intro before cause after split
      by_contra some
      have earlier := congrArg List.dropLast split
      rw [List.dropLast_concat, List.dropLast_append_of_ne_nil (List.cons_ne_nil _ _),
        List.dropLast_cons_of_ne_nil some] at earlier
      have mem : .tcpcClose cause ∈ log := by
        rw [earlier]
        exact List.mem_append_right before List.mem_cons_self
      cases isTcpcClose_of_any open_log mem

/-- Nothing has been opened or closed at the start. -/
theorem lifetime_nil : Lifetime [] := ⟨Nat.zero_le 1, rfl, nofun, fun before cause after split => by simp at split⟩

/-- The two calls after a handler that fails close the socket twice. -/
theorem not_lifetime_twice (h : Lifetime log) (cause : Cause) : ¬ Lifetime (log ++ [.close] ++ [.tcpcClose cause]) := by
  intro h'
  have counts := h'.socket
  rw [List.countP_append, List.countP_append, List.countP_append, List.countP_append, h.socket] at counts
  simp [Event.closesSocket, Event.isTcpcClose] at counts

end

namespace Receiver

/-- A transient error leaves the connection and the frame in its buffer. -/
def Spares (cb : Callbacks) (s : Receiver) (m : Move) : Prop :=
  ∀ errno t, m = .ret (.error errno) → Transient errno → step cb s m = some t →
    t.closed = s.closed ∧ t.tcpc.recvbuf = s.tcpc.recvbuf

/-- Nothing but the return of a handler happens once `tcpc_close` has run, no
read fails with a transient error, and no handler fails. -/
def Orderly (s : Receiver) : Move → Prop
  | .ret (.error errno) => s.closed = false ∧ ¬ Transient errno
  | .returned n => 0 ≤ n
  | .register _ => True
  | .enter | .read | .ret (.data _) | .ret .eof | .getseq | .call | .release => s.closed = false

instance (s : Receiver) : ∀ m, Decidable (s.Orderly m)
  | .ret (.error errno) => inferInstanceAs (Decidable (s.closed = false ∧ ¬ Transient errno))
  | .returned n => inferInstanceAs (Decidable (0 ≤ n))
  | .register _ => inferInstanceAs (Decidable True)
  | .enter | .read | .ret (.data _) | .ret .eof | .getseq | .call | .release => inferInstanceAs (Decidable (s.closed = false))

section
variable {cb : Callbacks} {s t : Receiver} {m : Move}

/-- A step that does one thing for the connection. -/
theorem lifetime_emit (h : Lifetime s.log) (e : Event) (plain : e ≠ .close ∧ ∀ errno, e ≠ .tcpcClose (.error errno)) :
    Lifetime (s.emit e).log ↔ s.closed = false := by
  rw [show (s.emit e).log = s.log ++ [e] from rfl, lifetime_snoc h]
  exact ⟨fun now => now.1, fun live => ⟨live, plain.1, fun errno same => absurd same (plain.2 errno)⟩⟩

/-- **One step**: the contract is kept exactly by an orderly one. -/
theorem step_lifetime_iff (h : Lifetime s.log) (hs : step cb s m = some t) :
    Lifetime t.log ∧ Spares cb s m ↔ s.Orderly m := by
  have spares : (∀ errno, m = .ret (.error errno) → ¬ Transient errno) → Spares cb s m :=
    fun other errno _ same transient _ => absurd transient (other errno same)
  obtain ⟨-, st⟩ := stepped hs
  cases st with
  | enter | aborted | read | data | overrun | eof | getseq | unknown | call | release =>
    refine (and_iff_left (spares nofun)).trans ?_
    exact lifetime_emit h _ ⟨nofun, nofun⟩
  | error restsize errno here =>
    rw [show (s.tcpcClose (.error errno)).log = s.log ++ [.tcpcClose (.error errno)] from rfl, lifetime_snoc h]
    constructor
    · rintro ⟨⟨live, -, due⟩, -⟩
      exact ⟨live, due errno rfl⟩
    · rintro ⟨live, fatal⟩
      have due : ∀ errno', Event.tcpcClose (.error errno) = .tcpcClose (.error errno') → ¬ Transient errno' := by
        intro errno' same
        cases same
        exact fatal
      refine ⟨⟨live, nofun, due⟩, spares fun errno' same => ?_⟩
      cases same
      exact fatal
  | failed seq n here negative =>
    exact iff_of_false (fun kept => not_lifetime_twice h .handlerFailed kept.1) (not_le.2 negative)
  | handled seq n tcpc here good cleared => exact iff_of_true ⟨h, spares nofun⟩ good
  | unset seq n e here good refused => exact iff_of_true ⟨h, spares nofun⟩ good
  | register req tcpc live registered => exact iff_of_true ⟨h, spares nofun⟩ trivial

/-- **Which runs keep the contract**: the orderly ones. -/
theorem lifetime_iff_orderly (cb : Callbacks) (ms : List Move) (t : Receiver) (run : exec (step cb) start ms = some t) :
    Through (step cb) (fun s => Lifetime s.log) start ms ∧ Along (step cb) (Spares cb) start ms ↔
      Along (step cb) Orderly start ms :=
  through_along_iff (J := fun _ => True) (fun _ _ _ _ _ _ => trivial) (fun _ _ _ _ h hs => step_lifetime_iff h hs) trivial
    lifetime_nil run

end

/-! ## Tests -/

/-- A connection that exchanges one frame and then ends is orderly. -/
theorem lifetime_iff_orderly_exchange :
    Through (step twoBytes) (fun s => Lifetime s.log) start (exchange ++ [.returned 0, .enter, .read, .ret .eof]) ∧
      Along (step twoBytes) (Spares twoBytes) start (exchange ++ [.returned 0, .enter, .read, .ret .eof]) :=
  (lifetime_iff_orderly twoBytes (exchange ++ [.returned 0, .enter, .read, .ret .eof]) _ rfl).2 (by decide +kernel)

/-- The moves are those of a run that ends with the contract broken. -/
def Breaks (ms : List Move) : Prop := ∃ s, exec (step twoBytes) start ms = some s ∧ ¬ Lifetime s.log

/-- `read` fails with `EAGAIN`; the handler fails; the thread goes on after the
end of the stream; the connection is released while the thread is in `read`. -/
theorem lifetime_broken : Breaks [.enter, .read, .ret (.error eagain)] ∧ Breaks (exchange ++ [.returned (-1)]) ∧
    Breaks [.enter, .read, .ret .eof, .enter] ∧ Breaks [.enter, .read, .release, .ret (.error 9)] := by
  have again : ¬ Lifetime [.restbytes, .read 0 2, .tcpcClose (.error eagain)] := fun h =>
    h.due eagain (by decide) (.inl rfl)
  have twice : ¬ Lifetime [.restbytes, .read 0 2, .restbytes, .read 1 1, .restbytes, .getseq, .proc ⟨⟨0, 1⟩⟩ [1, 7], .close,
      .tcpcClose .handlerFailed] := fun h => absurd h.socket (by decide)
  have later : ¬ Lifetime [.restbytes, .read 0 2, .tcpcClose .eof, .restbytes] := fun h =>
    absurd (h.last [.restbytes, .read 0 2] .eof [.restbytes] rfl) (by decide)
  have more : ¬ Lifetime [.restbytes, .read 0 2, .tcpcClose .released, .tcpcClose (.error 9)] := fun h =>
    absurd h.once (by decide)
  exact ⟨⟨_, rfl, again⟩, ⟨_, rfl, twice⟩, ⟨_, rfl, later⟩, ⟨_, rfl, more⟩⟩

end Receiver
end Crazyass.Tcp
