import Crazyass.Client.Assembly

/-!
# The receive buffer

`recvbuf` holds `RECV_SIZE` bytes, and `read` is asked for as many as
`restbytes` says, which is whatever the peer announces. Nothing compares the
two.
-/

namespace Crazyass.Tcp
open Sys
namespace Receiver

/-- **The contract** of the buffer: no `read` reaches past its end, and where a
frame is announced that does not fit, the thread closes the connection. -/
structure Bounded (cb : Callbacks) (s : Receiver) : Prop where
  reads : ∀ (recvsize : ℕ) (restsize : ℤ), .read recvsize restsize ∈ s.log → recvsize + restsize ≤ recvSize
  inside : .overrun ∉ s.log
  rejects : ∀ restsize, s.place = .loop restsize → recvSize < s.tcpc.recvbuf.length + restsize →
    ∀ m t, m.ofThread → step cb s m = some t → ∃ cause, t = s.tcpcClose cause

/-- What `restbytes` says of the bytes it is called with fits. -/
def Announces (cb : Callbacks) (buf : List UInt8) : Prop := buf.length + cb.restbytes buf ≤ recvSize

/-- Every frame that is announced by a step fits. -/
def Fits (cb : Callbacks) (s : Receiver) : Move → Prop
  | .enter => Announces cb s.tcpc.recvbuf
  | .ret (.data d) => Announces cb (s.tcpc.recvbuf ++ d)
  | .read | .ret .eof | .ret (.error _) | .getseq | .call | .returned _ | .register _ | .release => True

instance (cb : Callbacks) (buf : List UInt8) : Decidable (Announces cb buf) := inferInstanceAs (Decidable (_ ≤ _))

instance (cb : Callbacks) (s : Receiver) : ∀ m, Decidable (Fits cb s m)
  | .enter => inferInstanceAs (Decidable (Announces cb s.tcpc.recvbuf))
  | .ret (.data d) => inferInstanceAs (Decidable (Announces cb (s.tcpc.recvbuf ++ d)))
  | .read | .ret .eof | .ret (.error _) | .getseq | .call | .returned _ | .register _ | .release =>
    inferInstanceAs (Decidable True)

/-- What every step keeps: the buffer is not overfull, and the `read` that the
thread is in is on record. -/
structure Within (s : Receiver) : Prop where
  size : s.tcpc.recvbuf.length ≤ recvSize
  reading : ∀ restsize, s.place = .reading restsize → .read s.tcpc.recvbuf.length restsize ∈ s.log

section
variable {cb : Callbacks} {s t : Receiver} {m : Move}

/-- The buffer is empty at the start. -/
theorem start_within : start.Within := ⟨Nat.zero_le recvSize, nofun⟩

/-- What neither writes the buffer nor asks for bytes stays within it. -/
theorem Within.stay (within : s.Within) (recvbuf : t.tcpc.recvbuf = s.tcpc.recvbuf) (place : t.place = s.place)
    (log : s.log ⊆ t.log) : t.Within := by
  refine ⟨by rw [recvbuf]; exact within.size, fun restsize here => ?_⟩
  rw [recvbuf]
  exact log (within.reading restsize (place ▸ here))

/-- **One step** keeps the buffer in its bounds. -/
theorem step_within (within : s.Within) (h : step cb s m = some t) : t.Within := by
  have grows : ∀ e, s.log ⊆ (s.emit e).log := fun e => List.subset_append_left s.log [e]
  obtain ⟨-, st⟩ := stepped h
  cases st with
  | enter | getseq | call | eof | error | unknown | failed => exact ⟨within.size, nofun⟩
  | aborted | overrun | release => exact within.stay rfl rfl (grows _)
  | read restsize here more =>
    refine ⟨within.size, fun restsize' same => ?_⟩
    cases same
    exact List.mem_concat_self
  | data restsize d here some asked fits =>
    refine ⟨?_, nofun⟩
    change (s.tcpc.recvbuf ++ d).length ≤ recvSize
    rw [List.length_append]
    exact fits
  | handled seq n tcpc here good cleared =>
    have empty : tcpc.recvbuf = [] := (Tcpc.setRsp_same cleared).2
    refine ⟨?_, nofun⟩
    change tcpc.recvbuf.length ≤ recvSize
    rw [empty]
    exact Nat.zero_le recvSize
  | unset => exact within.stay rfl rfl (List.Subset.refl s.log)
  | register req tcpc live registered => exact within.stay (Tcpc.setRsp_same registered).2 rfl (List.Subset.refl s.log)

/-- A thread at the head of its loop reads when something is missing, and does not close. -/
theorem step_read {restsize : ℤ} (running : s.halted = false) (here : s.place = .loop restsize) (more : 0 < restsize) :
    step cb s .read = some { s.emit (.read s.tcpc.recvbuf.length restsize) with place := .reading restsize } := by
  unfold step
  rw [if_neg (by simp [running]), here]
  exact if_pos more

/-- Bytes that were asked for and do not fit are written past the end. -/
theorem step_overrun {restsize : ℤ} {d : List UInt8} (running : s.halted = false) (here : s.place = .reading restsize)
    (asked : d ≠ [] ∧ d.length ≤ restsize) (past : s.tcpc.recvbuf.length + d.length > recvSize) :
    step cb s (.ret (.data d)) = some { s.emit .overrun with halted := true } := by
  unfold step
  rw [if_neg (by simp [running]), here]
  exact (if_pos asked).trans (if_pos past)

/-- The contract says that the frame of the loop fits. -/
theorem Bounded.fits {restsize : ℤ} (bounded : Bounded cb s) (within : s.Within) (running : s.halted = false)
    (here : s.place = .loop restsize) : s.tcpc.recvbuf.length + restsize ≤ recvSize := by
  by_contra large
  have size := within.size
  have more : 0 < restsize := by omega
  obtain ⟨cause, same⟩ := bounded.rejects restsize here (not_le.1 large) .read _ rfl (step_read running here more)
  cases congrArg Receiver.place same

/-- What a step must add for the contract. -/
theorem Bounded.next (bounded : Bounded cb s) (reads : ∀ (recvsize : ℕ) (restsize : ℤ), .read recvsize restsize ∈ t.log →
      .read recvsize restsize ∈ s.log ∨ recvsize + restsize ≤ recvSize)
    (inside : .overrun ∈ t.log → .overrun ∈ s.log)
    (fits : ∀ restsize, t.place = .loop restsize → t.tcpc.recvbuf.length + restsize ≤ recvSize) : Bounded cb t where
  reads recvsize restsize mem := (reads recvsize restsize mem).elim (bounded.reads recvsize restsize) id
  inside mem := bounded.inside (inside mem)
  rejects restsize here large := absurd large (not_lt.2 (fits restsize here))

/-- A step that records nothing about `read`. -/
theorem Bounded.quiet {e : Event} (bounded : Bounded cb s) (log : t.log = (s.emit e).log ∨ t.log = s.log)
    (other : (∀ recvsize restsize, e ≠ .read recvsize restsize) ∧ e ≠ .overrun)
    (fits : ∀ restsize, t.place = .loop restsize → t.tcpc.recvbuf.length + restsize ≤ recvSize) : Bounded cb t := by
  have old : ∀ e' ∈ t.log, e' ∈ s.log ∨ e' = e := by
    intro e' mem
    rcases log with log | log
    · rw [log] at mem
      exact (List.mem_append.1 mem).imp id List.mem_singleton.1
    · exact .inl (log ▸ mem)
  refine bounded.next (fun recvsize restsize mem => ?_) (fun mem => ?_) fits
  · exact .inl ((old _ mem).resolve_right fun same => other.1 recvsize restsize same.symm)
  · exact (old _ mem).resolve_right fun same => other.2 same.symm

/-- **One step** keeps the contract exactly when what it announces fits. -/
theorem step_bounded_iff (within : s.Within) (bounded : Bounded cb s) (h : step cb s m = some t) :
    Bounded cb t ↔ Fits cb s m := by
  have within' := step_within within h
  obtain ⟨running, st⟩ := stepped h
  have size := within.size
  cases st with
  | enter here admitted =>
    constructor
    · intro bounded'
      exact bounded'.fits within' running rfl
    · intro announced
      refine bounded.quiet (.inl rfl) ⟨nofun, nofun⟩ fun restsize here' => ?_
      cases here'
      exact announced
  | aborted here negative =>
    refine iff_of_true (bounded.quiet (.inl rfl) ⟨nofun, nofun⟩ fun restsize here' => ?_) ?_
    · cases here.symm.trans here'
    · change _ + cb.restbytes s.tcpc.recvbuf ≤ _
      omega
  | read restsize here more =>
    have fits := bounded.fits within running here
    refine iff_of_true (bounded.next (fun recvsize restsize' mem => ?_) (fun mem => ?_) nofun) trivial
    · rcases List.mem_append.1 mem with old | new
      · exact .inl old
      · cases List.mem_singleton.1 new
        exact .inr fits
    · exact (List.mem_append.1 mem).resolve_right (by simp)
  | data restsize d here some asked fits =>
    constructor
    · intro bounded'
      exact bounded'.fits within' running rfl
    · intro announced
      refine bounded.quiet (.inl rfl) ⟨nofun, nofun⟩ fun restsize here' => ?_
      cases here'
      exact announced
  | overrun restsize d here some asked past =>
    -- the `read` it returns from was within the bound
    have fits := bounded.reads _ _ (within.reading restsize here)
    omega
  | eof | error | unknown =>
    exact iff_of_true (bounded.quiet (.inl rfl) ⟨nofun, nofun⟩ nofun) trivial
  | getseq | call => exact iff_of_true (bounded.quiet (.inl rfl) ⟨nofun, nofun⟩ nofun) trivial
  | failed seq n here negative =>
    have closed : Bounded cb (s.emit .close) := bounded.quiet (.inl rfl) ⟨nofun, nofun⟩ fun restsize here' => by
      cases here.symm.trans here'
    exact iff_of_true (closed.quiet (.inl rfl) ⟨nofun, nofun⟩ nofun) trivial
  | handled => exact iff_of_true (bounded.quiet (e := .getseq) (.inr rfl) ⟨nofun, nofun⟩ nofun) trivial
  | unset seq n e here good refused =>
    refine iff_of_true (bounded.quiet (e := .getseq) (.inr rfl) ⟨nofun, nofun⟩ fun restsize here' => ?_) trivial
    cases here.symm.trans here'
  | register req tcpc live registered =>
    have recvbuf : tcpc.recvbuf = s.tcpc.recvbuf := (Tcpc.setRsp_same registered).2
    refine iff_of_true (bounded.quiet (e := .getseq) (.inr rfl) ⟨nofun, nofun⟩ fun restsize here => ?_) trivial
    rw [recvbuf]
    exact bounded.fits within running here
  | release =>
    exact iff_of_true (bounded.quiet (.inl rfl) ⟨nofun, nofun⟩ fun restsize here => bounded.fits within running here) trivial

theorem start_bounded : Bounded cb start := ⟨nofun, nofun, nofun⟩

/-- **Which runs stay inside the buffer**: those in which every announced frame fits. -/
theorem bounded_iff_fits (cb : Callbacks) (ms : List Move) (t : Receiver) (run : exec (step cb) start ms = some t) :
    Through (step cb) (Bounded cb) start ms ↔ Along (step cb) (Fits cb) start ms :=
  through_iff_along (fun _ _ _ within _ h => step_within within h)
    (fun _ _ _ within bounded h => step_bounded_iff within bounded h) start_within start_bounded run

end

/-! ## Tests -/

theorem bounded_iff_fits_exchange : Through (step twoBytes) (Bounded twoBytes) start exchange :=
  (bounded_iff_fits twoBytes exchange _ rfl).2 (by decide +kernel)

/-- Frames that are one byte longer than the buffer. -/
def oversized : Callbacks := ⟨fun buf => 65537 - buf.length, firstByte⟩

/-- The thread after its first call of `read`. -/
def asking : Receiver := { start with place := .reading 65537, log := [.restbytes, .read 0 65537] }

def flood : List UInt8 := List.replicate 65537 0

theorem flood_length : flood.length = 65537 := List.length_replicate

/-- A peer that announces a frame one byte longer than the buffer and sends it
has its last byte written past the end. -/
theorem unbounded : exec (step oversized) start [.enter, .read] = some asking ∧ ¬ Bounded oversized asking ∧
    step oversized asking (.ret (.data flood)) = some { asking.emit .overrun with halted := true } := by
  refine ⟨rfl, fun bounded => ?_, step_overrun rfl rfl ⟨?_, ?_⟩ ?_⟩
  · have fits := bounded.reads 0 65537 (List.mem_cons_of_mem _ List.mem_cons_self)
    exact absurd fits (by decide)
  · intro empty
    have length := flood_length
    rw [empty] at length
    cases length
  · rw [flood_length]
    exact le_rfl
  · rw [flood_length]
    decide

end Receiver
end Crazyass.Tcp
