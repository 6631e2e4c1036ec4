import Crazyass.Sys.Framing
import Crazyass.Client.Receive

/-!
# Frames from a stream

What the receiving thread makes of a stream of frames that arrives in any
chunks. It never asks for more than the rest of the frame it is in, so it hands
over the frames as they were sent.
-/

namespace Crazyass.Tcp
open Sys

/-- What the receiving thread does, as opposed to others. -/
def Move.ofThread : Move → Bool
  | .register _ | .release => false
  | _ => true

namespace Receiver

/-- The frame that is looked up has a registered response. -/
def known (s : Receiver) : Bool :=
  match s.place with
  | .looking seq => (s.tcpc.getRsp seq).isSome
  | _ => true

/-- The stream is that of the frames, no read fails, and every frame meets a
registered response whose handler does not fail. -/
def Serves (frames : List (List UInt8)) (s : Receiver) : Move → Prop
  | .ret (.data d) => s.received ++ d <+: frames.flatten
  | .ret _ | .release => False
  | .call => s.known = true
  | .returned n => 0 ≤ n
  | .enter | .read | .getseq | .register _ => True

instance (frames : List (List UInt8)) (s : Receiver) : ∀ m, Decidable (Serves frames s m)
  | .ret (.data d) => inferInstanceAs (Decidable (s.received ++ d <+: frames.flatten))
  | .ret .eof | .ret (.error _) | .release => inferInstanceAs (Decidable False)
  | .call => inferInstanceAs (Decidable (s.known = true))
  | .returned n => inferInstanceAs (Decidable (0 ≤ n))
  | .enter | .read | .getseq | .register _ => inferInstanceAs (Decidable True)

/-- The thread has read everything and waits for more. -/
def Waits (frames : List (List UInt8)) (s : Receiver) : Prop :=
  (∃ restsize, s.place = .reading restsize) ∧ s.received = frames.flatten

/-- A run from a new connection that is served the frames, up to some point. -/
structure Served (cb : Callbacks) (frames : List (List UInt8)) (ms : List Move) (s : Receiver) : Prop where
  run : exec (step cb) start ms = some s
  serves : Along (step cb) (Serves frames) start ms

/-- **The contract** at any point: some of the frames have been handed over, all
of them where the thread waits for more; otherwise it can go on, and it has not
made more moves than the length of the stream and its frames account for. -/
structure Assembles (cb : Callbacks) (frames : List (List UInt8)) (ms : List Move) (s : Receiver) : Prop where
  handed : s.handed <+: frames
  alive : s.closed = false ∧ s.halted = false
  all : Waits frames s → s.handed = frames
  moves : ¬ Waits frames s → ∃ m, m.ofThread ∧ (step cb s m).isSome ∧ (Serves frames s m ∨ m = .call)
  bounded : ms.countP Move.ofThread ≤ 2 * frames.flatten.length + 4 * frames.length + 2

/-- What is in the buffer and not handed over. -/
def pending (s : Receiver) : List UInt8 :=
  match s.place with
  | .calling _ => []
  | _ => s.tcpc.recvbuf

/-- What holds at each place of the thread. -/
def At (cb : Callbacks) (frames : List (List UInt8)) (s : Receiver) : Place → Prop
  | .idle => s.tcpc.recvbuf = []
  | .loop restsize => restsize = cb.restbytes s.tcpc.recvbuf
  | .reading restsize => restsize = cb.restbytes s.tcpc.recvbuf ∧ 0 < restsize
  | .looking _ => s.handed ++ [s.tcpc.recvbuf] <+: frames
  | .calling seq => seq ≠ 0 ∧ seq.toNat < tcpcMaxRsp

/-- **The invariant**: what was read is the frames handed over and the beginning
of the next one. -/
structure Good (cb : Callbacks) (frames : List (List UInt8)) (s : Receiver) : Prop where
  running : s.halted = false
  live : s.closed = false
  received : s.received = s.handed.flatten ++ s.pending
  between : Between frames s.handed s.pending
  here : s.At cb frames s.place

/-- How far a place is from the next `read`. -/
def rank : Place → ℕ
  | .idle => 2
  | .loop _ => 1
  | .reading _ => 0
  | .looking _ => 0
  | .calling _ => 3

/-- The moves that are left: two for a byte, four for a frame. -/
def left (frames : List (List UInt8)) (s : Receiver) : ℕ :=
  2 * (frames.flatten.length - s.received.length) + 4 * (frames.length - s.handed.length) + rank s.place

section
variable {cb : Callbacks} {IsFrame : List UInt8 → Prop} {frames : List (List UInt8)} {s t : Receiver} {m : Move}
  {ms : List Move}

/-- Nothing has arrived, and nothing has been handed over. -/
theorem start_good (cb : Callbacks) (frames : List (List UInt8)) : Good cb frames start :=
  ⟨rfl, rfl, rfl, .start frames, rfl⟩

@[simp] theorem emit_closed (s : Receiver) (e : Event) : (s.emit e).closed = (s.closed || e.isTcpcClose) := by
  simp [closed, emit]

@[simp] theorem emit_handed (s : Receiver) (e : Event) : (s.emit e).handed = s.handed ++ e.frame?.toList := by
  unfold handed emit
  rw [List.filterMap_append]
  cases e <;> rfl

/-- What has arrived is the beginning of the frames in a row. -/
theorem Good.received_prefix (good : Good cb frames s) : s.received <+: frames.flatten := by
  rw [good.received]
  exact good.between.taken

/-- The place of the thread depends on the buffer and on what was handed over alone. -/
theorem at_congr (recvbuf : t.tcpc.recvbuf = s.tcpc.recvbuf) (handed : t.handed = s.handed) {p : Place}
    (h : s.At cb frames p) : t.At cb frames p := by
  cases p with
  | idle => exact recvbuf.trans h
  | loop restsize =>
    unfold At
    rw [recvbuf]
    exact h
  | reading restsize =>
    unfold At
    rw [recvbuf]
    exact h
  | looking seq =>
    unfold At
    rw [recvbuf, handed]
    exact h
  | calling seq => exact h

/-- Outside of a handler the buffer is what is pending. -/
theorem pending_eq (outside : ∀ seq, s.place ≠ .calling seq) : s.pending = s.tcpc.recvbuf := by
  unfold pending
  split
  · next seq here => exact absurd here (outside seq)
  · rfl

/-- A step from one place to another that reads nothing and hands nothing over. -/
theorem Good.shift {e : Event} (good : Good cb frames s) (same : t = { s.emit e with place := t.place })
    (quiet : e.isTcpcClose = false) (silent : e.frame? = none) (outside : ∀ seq, s.place ≠ .calling seq)
    (outside' : ∀ seq, t.place ≠ .calling seq) (here : s.At cb frames t.place) (less : rank t.place + 1 ≤ rank s.place) :
    Good cb frames t ∧ left frames t + 1 ≤ left frames s := by
  have tcpc : t.tcpc = s.tcpc := by rw [same]; rfl
  have received : t.received = s.received := by rw [same]; rfl
  have running : t.halted = s.halted := by rw [same]; rfl
  have log : t.log = (s.emit e).log := by rw [same]
  have closed : t.closed = false := by
    change t.log.any Event.isTcpcClose = false
    rw [log]
    change (s.emit e).closed = false
    rw [emit_closed, good.live, quiet, Bool.or_self]
  have handed : t.handed = s.handed := by
    change t.log.filterMap Event.frame? = s.handed
    rw [log]
    change (s.emit e).handed = s.handed
    rw [emit_handed, silent]
    exact List.append_nil s.handed
  have pending : t.pending = s.pending := by rw [pending_eq outside, pending_eq outside', tcpc]
  refine ⟨⟨running.trans good.running, closed, ?_, ?_, at_congr (by rw [tcpc]) handed here⟩, ?_⟩
  · rw [received, handed, pending]
    exact good.received
  · rw [handed, pending]
    exact good.between
  · unfold left
    rw [received, handed]
    omega

/-- A chunk of the stream, no longer than was asked for, ends inside the frame it is in. -/
theorem Good.reads {restsize : ℤ} {d : List UInt8} (good : Good cb frames s) (law : FrameFunction IsFrame cb.restbytes)
    (legal : ∀ f ∈ frames, IsFrame f) (here : s.place = .reading restsize) (some : d ≠ []) (asked : d.length ≤ restsize)
    (stream : s.received ++ d <+: frames.flatten) :
    s.received = s.handed.flatten ++ s.tcpc.recvbuf ∧ Between frames s.handed (s.tcpc.recvbuf ++ d) ∧
      ∃ f ∈ frames, s.tcpc.recvbuf ++ d <+: f := by
  have at_here := good.here
  rw [here] at at_here
  obtain ⟨asks, -⟩ := at_here
  have pending : s.pending = s.tcpc.recvbuf := pending_eq (by simp [here])
  have received := good.received
  have between := good.between
  rw [pending] at received between
  rw [received, List.append_assoc] at stream
  exact ⟨received, between.read law legal some (asks ▸ asked) stream⟩

/-- A chunk brings the thread on by its length. -/
theorem Good.data {restsize : ℤ} {d : List UInt8} (good : Good cb frames s) (law : FrameFunction IsFrame cb.restbytes)
    (legal : ∀ f ∈ frames, IsFrame f) (here : s.place = .reading restsize) (some : d ≠ []) (asked : d.length ≤ restsize)
    (stream : s.received ++ d <+: frames.flatten)
    (same : t = { s.emit .restbytes with
      tcpc := { s.tcpc with recvbuf := s.tcpc.recvbuf ++ d }
      received := s.received ++ d
      place := .loop (cb.restbytes (s.tcpc.recvbuf ++ d)) }) :
    Good cb frames t ∧ left frames t + 1 ≤ left frames s := by
  obtain ⟨received, between, -⟩ := good.reads law legal here some asked stream
  have handed : t.handed = s.handed := by
    rw [same]
    exact (emit_handed s .restbytes).trans (List.append_nil s.handed)
  have closed : t.closed = false := by
    rw [same]
    exact (emit_closed s .restbytes).trans (by rw [good.live]; rfl)
  have taken : t.received = s.received ++ d := by rw [same]
  have pending : t.pending = s.tcpc.recvbuf ++ d := by rw [same]; rfl
  refine ⟨⟨by rw [same]; exact good.running, closed, ?_, ?_, by rw [same]; rfl⟩, ?_⟩
  · rw [taken, handed, pending, received, List.append_assoc]
  · rw [handed, pending]
    exact between
  · have length := List.IsPrefix.length_le stream
    have positive := List.length_pos_iff.2 some
    have place : rank t.place = 1 := by rw [same]; rfl
    unfold left
    rw [handed, taken, place]
    rw [List.length_append] at length ⊢
    omega

/-- A frame that is looked up and handed over is one frame less. -/
theorem Good.call {seq : UInt32} {rsp : TcpResponse} (good : Good cb frames s) (here : s.place = .looking seq)
    (found : s.tcpc.getRsp seq = some rsp) (same : t = { s.emit (.proc rsp s.tcpc.recvbuf) with place := .calling seq }) :
    Good cb frames t ∧ left frames t + 1 ≤ left frames s := by
  have at_here := good.here
  rw [here] at at_here
  have next : s.handed ++ [s.tcpc.recvbuf] <+: frames := at_here
  have pending : s.pending = s.tcpc.recvbuf := pending_eq (by simp [here])
  have received := good.received
  rw [pending] at received
  have handed : t.handed = s.handed ++ [s.tcpc.recvbuf] := by
    rw [same]
    exact emit_handed s (.proc rsp s.tcpc.recvbuf)
  have closed : t.closed = false := by
    rw [same]
    exact (emit_closed s (.proc rsp s.tcpc.recvbuf)).trans (by rw [good.live]; rfl)
  have taken : t.received = s.received := by rw [same]; rfl
  have nothing : t.pending = [] := by rw [same]; rfl
  have range := Tcpc.getRsp_range (show s.tcpc.getRsp seq ≠ none by simp [found])
  refine ⟨⟨by rw [same]; exact good.running, closed, ?_, ?_, by rw [same]; exact range⟩, ?_⟩
  · rw [taken, handed, nothing, received]
    simp
  · rw [handed, nothing]
    exact between_nil next
  · have length := next.length_le
    rw [List.length_append, List.length_singleton] at length
    have place : rank t.place = 3 := by rw [same]; rfl
    unfold left
    rw [handed, taken, place, List.length_append, List.length_singleton]
    omega

/-- A handler that does not fail leaves an empty buffer. -/
theorem Good.handled {seq : UInt32} {tcpc : Tcpc} (good : Good cb frames s) (here : s.place = .calling seq)
    (empty : tcpc.recvbuf = []) :
    Good cb frames { s with tcpc, place := .idle } ∧ left frames { s with tcpc, place := .idle } + 1 ≤ left frames s := by
  have pending : s.pending = [] := by
    unfold pending
    rw [here]
  have received := good.received
  have between := good.between
  rw [pending] at received between
  refine ⟨⟨good.running, good.live, ?_, ?_, empty⟩, ?_⟩
  · change s.received = s.handed.flatten ++ tcpc.recvbuf
    rw [empty]
    exact received
  · change Between frames s.handed tcpc.recvbuf
    rw [empty]
    exact between
  · unfold left
    rw [here]
    exact le_rfl

/-- A registration leaves the frames alone. -/
theorem Good.register {tcpc : Tcpc} (good : Good cb frames s) (recvbuf : tcpc.recvbuf = s.tcpc.recvbuf) :
    Good cb frames { s with tcpc } := by
  have pending : ({ s with tcpc } : Receiver).pending = s.pending := by
    unfold pending
    rw [← recvbuf]
  refine ⟨good.running, good.live, ?_, ?_, at_congr (t := { s with tcpc }) (s := s) recvbuf rfl good.here⟩
  · rw [pending]
    exact good.received
  · rw [pending]
    exact good.between

/-- **One step** keeps the invariant, and a move of the thread leaves fewer. -/
theorem step_good (law : FrameFunction IsFrame cb.restbytes) (legal : ∀ f ∈ frames, IsFrame f ∧ f.length ≤ recvSize)
    (good : Good cb frames s) (serves : Serves frames s m) (h : step cb s m = some t) :
    Good cb frames t ∧ left frames t + (if m.ofThread then 1 else 0) ≤ left frames s := by
  obtain ⟨-, st⟩ := stepped h
  have legal' : ∀ f ∈ frames, IsFrame f := fun f mem => (legal f mem).1
  have at_here := good.here
  cases st with
  | enter here admitted =>
    rw [here] at at_here
    have outside : ∀ seq, s.place ≠ .calling seq := by simp [here]
    exact good.shift rfl rfl rfl outside nofun rfl (by rw [here]; exact le_rfl)
  | aborted here negative =>
    rw [here] at at_here
    have empty : s.tcpc.recvbuf = [] := at_here
    have positive := law.empty
    rw [empty] at negative
    omega
  | read restsize here more =>
    rw [here] at at_here
    have outside : ∀ seq, s.place ≠ .calling seq := by simp [here]
    exact good.shift rfl rfl rfl outside nofun ⟨at_here, more⟩ (by rw [here]; exact le_rfl)
  | data restsize d here some asked fits => exact good.data law legal' here some asked serves rfl
  | overrun restsize d here some asked past =>
    obtain ⟨-, -, f, mem, inside⟩ := good.reads law legal' here some asked serves
    have fits := (legal f mem).2
    have length := inside.length_le
    rw [List.length_append] at length
    omega
  | eof restsize here => exact serves.elim
  | error restsize errno here => exact serves.elim
  | getseq restsize here whole =>
    rw [here] at at_here
    have outside : ∀ seq, s.place ≠ .calling seq := by simp [here]
    have asks : cb.restbytes s.pending ≤ 0 := by
      rw [pending_eq outside, ← show restsize = cb.restbytes s.tcpc.recvbuf from at_here]
      exact whole
    have next := good.between.whole law legal' asks
    rw [pending_eq outside] at next
    exact good.shift rfl rfl rfl outside nofun next (by rw [here]; exact le_rfl)
  | unknown seq here missing =>
    have known : s.known = true := serves
    simp [Receiver.known, here, missing] at known
  | call seq rsp here found => exact good.call here found rfl
  | failed seq n here negative => exact absurd serves (not_le.2 negative)
  | handled seq n tcpc here ok cleared => exact good.handled here (Tcpc.setRsp_same cleared).2
  | unset seq n e here ok refused =>
    rw [here] at at_here
    have range : seq ≠ 0 ∧ seq.toNat < tcpcMaxRsp := at_here
    rw [Tcpc.setRsp, if_pos range] at refused
    cases refused
  | register req tcpc live registered => exact ⟨good.register (Tcpc.setRsp_same registered).2, le_rfl⟩
  | release => exact serves.elim

/-! ## Runs -/

/-- A run that is served keeps to the frames, and every move of the thread uses up some of what is left. -/
theorem run_good (law : FrameFunction IsFrame cb.restbytes) (legal : ∀ f ∈ frames, IsFrame f ∧ f.length ≤ recvSize)
    (good : Good cb frames s) (run : exec (step cb) s ms = some t) (serves : Along (step cb) (Serves frames) s ms) :
    Good cb frames t ∧ left frames t + ms.countP Move.ofThread ≤ left frames s := by
  induction ms generalizing s with
  | nil =>
    cases run
    exact ⟨good, le_rfl⟩
  | cons m ms ih =>
    obtain ⟨s', hs, run⟩ := exec_cons_eq_some.1 run
    obtain ⟨first, rest⟩ := (along_cons hs).1 serves
    obtain ⟨good', less⟩ := step_good law legal good first hs
    obtain ⟨good_t, fewer⟩ := ih good' run rest
    refine ⟨good_t, ?_⟩
    rw [List.countP_cons]
    omega

/-- A thread that waits with the whole stream behind it has handed over every frame. -/
theorem Good.all (good : Good cb frames s) (law : FrameFunction IsFrame cb.restbytes) (legal : ∀ f ∈ frames, IsFrame f)
    (waits : Waits frames s) : s.handed = frames := by
  obtain ⟨⟨restsize, here⟩, received⟩ := waits
  have at_here := good.here
  rw [here] at at_here
  obtain ⟨asks, more⟩ := at_here
  have pending : s.pending = s.tcpc.recvbuf := pending_eq (by simp [here])
  have all : s.handed.flatten ++ s.pending = frames.flatten := by rw [← good.received, received]
  apply good.between.finished law legal all
  rw [pending, ← asks]
  exact more

/-- A thread that does not wait for more has a move. -/
theorem Good.moves (good : Good cb frames s) (busy : ¬ Waits frames s) :
    ∃ m, m.ofThread ∧ (step cb s m).isSome ∧ (Serves frames s m ∨ m = .call) := by
  have running : s.halted ≠ true := by simp [good.running]
  cases here : s.place with
  | idle =>
    refine ⟨.enter, rfl, ?_, .inl trivial⟩
    unfold step
    rw [if_neg running, here]
    dsimp only
    split <;> rfl
  | loop restsize =>
    by_cases more : restsize > 0
    · refine ⟨.read, rfl, ?_, .inl trivial⟩
      unfold step
      rw [if_neg running, here]
      dsimp only
      rw [if_pos more]
      rfl
    · refine ⟨.getseq, rfl, ?_, .inl trivial⟩
      rw [step_getseq good.running here (not_lt.1 more)]
      rfl
  | reading restsize =>
    -- the next byte of the stream can arrive
    obtain ⟨unread, stream⟩ := good.received_prefix
    cases unread with
    | nil => exact absurd ⟨⟨restsize, here⟩, by rw [← stream, List.append_nil]⟩ busy
    | cons b unread =>
      have at_here := good.here
      rw [here] at at_here
      obtain ⟨-, more⟩ := at_here
      refine ⟨.ret (.data [b]), rfl, ?_, .inl ⟨unread, by rw [← stream, List.append_assoc]; rfl⟩⟩
      have asked : [b] ≠ [] ∧ (([b] : List UInt8).length : ℤ) ≤ restsize := by
        rw [List.length_singleton]
        exact ⟨List.cons_ne_nil b [], by omega⟩
      unfold step
      rw [if_neg running, here]
      dsimp only [readReturned]
      rw [if_pos asked]
      split <;> rfl
  | looking seq =>
    refine ⟨.call, rfl, ?_, .inr rfl⟩
    cases found : s.tcpc.getRsp seq with
    | none =>
      rw [step_call_none good.running here found]
      rfl
    | some rsp =>
      rw [step_call_some good.running here found]
      rfl
  | calling seq =>
    refine ⟨.returned 0, rfl, ?_, .inl le_rfl⟩
    rw [step_returned good.running here]
    rfl

/-- The frames are assembled in every run that the peer serves. -/
theorem Served.assembles (served : Served cb frames ms s) (law : FrameFunction IsFrame cb.restbytes)
    (legal : ∀ f ∈ frames, IsFrame f ∧ f.length ≤ recvSize) : Assembles cb frames ms s := by
  obtain ⟨good, fewer⟩ := run_good law legal (start_good cb frames) served.run served.serves
  refine ⟨good.between.done_prefix, ⟨good.live, good.running⟩, good.all law fun f mem => (legal f mem).1, good.moves, ?_⟩
  have whole : left frames start = 2 * frames.flatten.length + 4 * frames.length + 2 := rfl
  omega

/-- **The frames are assembled** whatever the chunks they arrive in: at every
point of every run the contract holds, and two runs that read the whole stream
hand over the same. -/
theorem frames_assembled (cb : Callbacks) (IsFrame : List UInt8 → Prop) (law : FrameFunction IsFrame cb.restbytes)
    (frames : List (List UInt8)) (legal : ∀ f ∈ frames, IsFrame f ∧ f.length ≤ recvSize) :
    (∀ ms s, Served cb frames ms s → Assembles cb frames ms s) ∧
      ∀ ms s ms' s', Served cb frames ms s → Served cb frames ms' s' → Waits frames s → Waits frames s' →
        s.handed = s'.handed := by
  refine ⟨fun ms s served => served.assembles law legal, fun ms s ms' s' served served' waits waits' => ?_⟩
  rw [(served.assembles law legal).all waits, (served'.assembles law legal).all waits']

end

/-! ## Tests -/

/-- Two bytes are a frame function: it asks for what is missing of two. -/
theorem twoBytes_frames : FrameFunction (fun f => f.length = 2) twoBytes.restbytes where
  empty := by decide
  proper f two p first unfinished := by
    have shorter : p.length < f.length := Nat.lt_of_le_of_ne first.length_le fun same => unfinished (first.eq_of_length same)
    unfold twoBytes
    dsimp only
    omega
  whole f two := by
    unfold twoBytes
    dsimp only
    omega

/-- The frame of `exchange` in one chunk. -/
def whole : List Move := [.register ⟨0, 1⟩, .enter, .read, .ret (.data [1, 7]), .getseq, .call]

/-- The thread goes on to wait for the next frame. -/
def waiting : List Move := [.returned 0, .enter, .read]

theorem frames_assembled_twice : ∃ s s', exec (step twoBytes) start (exchange ++ waiting) = some s ∧
    exec (step twoBytes) start (whole ++ waiting) = some s' ∧ s.handed = [[1, 7]] ∧ s.handed = s'.handed := by
  have legal : ∀ f ∈ [([1, 7] : List UInt8)], f.length = 2 ∧ f.length ≤ recvSize := by simp [recvSize]
  obtain ⟨contract, same⟩ := frames_assembled twoBytes _ twoBytes_frames [[1, 7]] legal
  obtain ⟨s, run, waits⟩ : ∃ s, exec (step twoBytes) start (exchange ++ waiting) = some s ∧ Waits [[1, 7]] s :=
    ⟨_, rfl, ⟨_, rfl⟩, rfl⟩
  obtain ⟨s', run', waits'⟩ : ∃ s, exec (step twoBytes) start (whole ++ waiting) = some s ∧ Waits [[1, 7]] s :=
    ⟨_, rfl, ⟨_, rfl⟩, rfl⟩
  have served : Served twoBytes [[1, 7]] (exchange ++ waiting) s := ⟨run, by decide +kernel⟩
  have served' : Served twoBytes [[1, 7]] (whole ++ waiting) s' := ⟨run', by decide +kernel⟩
  exact ⟨s, s', run, run', (contract _ s served).all waits, same _ s _ s' served served' waits waits'⟩

end Receiver
end Crazyass.Tcp
