import Mathlib.Data.List.Nodup
import Mathlib.Data.UInt
import Crazyass.Sys.Index
import Crazyass.Sys.Run

/-!
# Requests and responses of `tcp.c`

The table of registered responses, and a connection with all that moves on it:
one thread that sends, the peer, and the thread that assembles a frame and
dispatches it. `tcp_client_send` writes first and registers afterwards, so the
other two can be ahead of it.
-/

namespace Crazyass.Tcp
open Sys

/-- A `tcp_request_t`, known by its address. -/
structure TcpRequest where
  addr : ℕ
  seq : UInt32
deriving DecidableEq, Repr

/-- A `tcp_response_t`, known by the request that `tcp_client_send` puts into it. -/
structure TcpResponse where
  req : TcpRequest
deriving DecidableEq, Repr

/-- `struct tcpc`, with the `recvsize` bytes of `recvbuf`. Only the low bits of
`reqid` are ever used. -/
structure Tcpc where
  reqid : UInt32
  rspcount : ℤ
  recvbuf : List UInt8
  respArray : Vector (Option TcpResponse) 32

/-- `TCPC_MAX_RSP`. -/
def tcpcMaxRsp : ℕ := 32

/-- What ends a connection: `tcpc_close` for a frame without a handler, for a
handler that fails, or for anything else, and a failed assertion. -/
inductive End where
  | noHandler | handlerFailed | shut | aborted
deriving DecidableEq, Repr

namespace Tcpc

/-- A `calloc`ed `struct tcpc`. -/
def new : Tcpc := ⟨0, 0, [], Vector.replicate 32 none⟩

def getRsp (t : Tcpc) (seq : UInt32) : Option TcpResponse :=
  if seq.toNat ≥ tcpcMaxRsp then none
  else if seq = 0 then none
  else t.respArray[seq.toNat]?.join

def setRsp (t : Tcpc) (seq : UInt32) (rsp : Option TcpResponse) : Except End Tcpc :=
  if seq ≠ 0 ∧ seq.toNat < tcpcMaxRsp then .ok { t with respArray := t.respArray.setIfInBounds seq.toNat rsp }
  else .error .aborted

/-- `tcp_client_getseq`. -/
def getseq (t : Tcpc) : Tcpc × UInt32 :=
  let t := { t with reqid := t.reqid + 1 }
  let seq := t.reqid &&& 31
  let seq := if seq = 0 then 1 else seq
  -- full
  if t.respArray[seq.toNat]?.join.isSome then (t, 0) else (t, seq)

/-- `tcp_client_send` up to its `write`, which returns `err`: what it returns, or
`none` where it goes on to register its response. -/
def sendWrite (t : Tcpc) (hasRsp : Bool) (err : ℤ) : Option ℤ :=
  if hasRsp ∧ t.rspcount ≥ tcpcMaxRsp - 1 then some (-1)
  else if err < 0 then some err
  else if hasRsp then none
  else some 0

/-- `tcp_client_send` after its `write`. -/
def sendRegister (t : Tcpc) (req : TcpRequest) : Except End Tcpc := t.setRsp req.seq (some ⟨req⟩)

/-- `tcpc_recv_event` once a frame is assembled, for a handler that returns `n`:
the response whose `proc` is called, and the connection afterwards. -/
def recvDispatch (seqOf : List UInt8 → UInt32) (n : ℤ) (t : Tcpc) : Option TcpResponse × Except End Tcpc :=
  let seq := seqOf t.recvbuf
  match t.getRsp seq with
  | none => (none, .error .noHandler)
  | some rsp =>
    if n < 0 then (some rsp, .error .handlerFailed)
    -- clear
    else (some rsp, { t with recvbuf := [] }.setRsp seq none)

end Tcpc

/-! ## One connection -/

/-- A connection, with the requests that are on it. -/
structure Link where
  tcpc : Tcpc
  ended : Option End
  /-- The numbers that the sending thread has from `tcp_client_getseq`. -/
  seqs : List UInt32
  /-- The request that is written and not yet registered. -/
  sending : Option TcpRequest
  /-- How many requests have been written. -/
  sent : ℕ
  /-- Requests the peer has not answered. -/
  asked : List TcpRequest
  /-- Answers on their way, each with its request. -/
  wire : List (TcpRequest × List UInt8)
  /-- The request whose answer is in `recvbuf`. -/
  current : Option TcpRequest

/-- `getseq`, `write` and `register` are what the sending thread does, `answer`
the peer, `assemble` and `dispatch` the receiving thread. A request without a
response is not answered. -/
inductive Action where
  | getseq
  | write (seq : UInt32) (hasRsp : Bool) (err : ℤ)
  | register
  | answer (q : TcpRequest) (frame : List UInt8)
  | assemble
  | dispatch (n : ℤ)
  | shut

namespace Link
section
variable (seqOf : List UInt8 → UInt32)

def start : Link := ⟨.new, none, [], none, 0, [], [], none⟩

/-- The connection with what a step made of its `struct tcpc`. -/
def finish (s : Link) : Except End Tcpc → Link
  | .ok tcpc => { s with tcpc }
  | .error e => { s with ended := some e }

def step (s : Link) (a : Action) : Option Link :=
  if s.ended.isSome then none
  else
    match a with
    | .getseq =>
      if s.sending.isSome then none
      else
        let (tcpc, seq) := s.tcpc.getseq
        some { s with tcpc, seqs := if seq = 0 then s.seqs else seq :: s.seqs }
    | .write seq hasRsp err =>
      if s.sending.isSome ∨ seq ∉ s.seqs then none
      else
        match s.tcpc.sendWrite hasRsp err with
        | some _ => some s
        | none =>
          let q : TcpRequest := ⟨s.sent, seq⟩
          some { s with sending := some q, sent := s.sent + 1, asked := q :: s.asked }
    | .register =>
      match s.sending with
      | some q => some ({ s with sending := none }.finish (s.tcpc.sendRegister q))
      | none => none
    | .answer q frame =>
      if q ∈ s.asked ∧ seqOf frame = q.seq then some { s with asked := s.asked.erase q, wire := s.wire ++ [(q, frame)] }
      else none
    | .assemble =>
      match s.current, s.wire with
      | none, (q, frame) :: wire => some { s with tcpc := { s.tcpc with recvbuf := frame }, wire, current := some q }
      | _, _ => none
    | .dispatch n =>
      match s.current with
      | some _ => some ({ s with current := none }.finish (s.tcpc.recvDispatch seqOf n).2)
      | none => none
    | .shut => some { s with ended := some .shut }

/-- Not closed for want of a handler. -/
def Handled (s : Link) : Prop := s.ended ≠ some .noHandler

/-- **The contract of a step**: a registration takes a free place, and a frame is
passed to the response registered for the request it answers. -/
def Matches (s : Link) : Action → Prop
  | .register => ∀ q, s.sending = some q → s.tcpc.getRsp q.seq = none
  | .dispatch n => ∀ q, s.current = some q → (s.tcpc.recvDispatch seqOf n).1 = some ⟨q⟩
  | _ => True

/-- The requests whose answer has not been dispatched. -/
def outstanding (s : Link) : List TcpRequest := s.current.toList ++ s.wire.map Prod.fst ++ s.asked

/-- A request is registered when no other one with its number is outstanding, and
its answer is dispatched after it is registered. -/
def Ordered (s : Link) : Action → Prop
  | .register => ∀ q, s.sending = some q → ∀ q' ∈ s.outstanding, q'.seq = q.seq → q' = q
  | .dispatch _ => ∀ q, s.current = some q → s.sending ≠ some q
  | _ => True

instance (seqOf : List UInt8 → UInt32) (s : Link) : ∀ a, Decidable (Matches seqOf s a)
  | .register => inferInstanceAs (Decidable (∀ q ∈ s.sending, s.tcpc.getRsp q.seq = none))
  | .dispatch n => inferInstanceAs (Decidable (∀ q ∈ s.current, (s.tcpc.recvDispatch seqOf n).1 = some ⟨q⟩))
  | .getseq | .write .. | .answer .. | .assemble | .shut => inferInstanceAs (Decidable True)

instance (s : Link) : ∀ a, Decidable (Ordered s a)
  | .register => inferInstanceAs (Decidable (∀ q ∈ s.sending, ∀ q' ∈ s.outstanding, q'.seq = q.seq → q' = q))
  | .dispatch _ => inferInstanceAs (Decidable (∀ q ∈ s.current, s.sending ≠ some q))
  | .getseq | .write .. | .answer .. | .assemble | .shut => inferInstanceAs (Decidable True)

/-- The responses that should be in the table. -/
def Registered (s : Link) (rsp : TcpResponse) : Prop := rsp.req ∈ s.outstanding ∧ s.sending ≠ some rsp.req

/-- What holds while steps are `Ordered`. -/
structure Indexed (s : Link) : Prop where
  table : Indexes s.tcpc.getRsp (fun rsp => rsp.req.seq) s.Registered
  nodup : s.outstanding.Nodup
  seqs : ∀ seq ∈ s.seqs, seq ≠ 0 ∧ seq.toNat < tcpcMaxRsp
  range : ∀ q ∈ s.outstanding, q.seq ≠ 0 ∧ q.seq.toNat < tcpcMaxRsp
  fresh : ∀ q ∈ s.outstanding, q.addr < s.sent
  sending : ∀ q, s.sending = some q → q ∈ s.outstanding
  frames : ∀ q frame, (q, frame) ∈ s.wire → seqOf frame = q.seq
  frame : ∀ q, s.current = some q → seqOf s.tcpc.recvbuf = q.seq

end
end Link

/-! ## The table -/

namespace Tcpc
variable {t : Tcpc} {seq : UInt32}

theorem ok_of_toOption {r : Except End Tcpc} (h : r.toOption = some t) : r = .ok t := by
  cases r with
  | error e => cases h
  | ok t' =>
    cases h
    rfl

/-- A response that is found has a number in range. -/
theorem getRsp_range (found : t.getRsp seq ≠ none) : seq ≠ 0 ∧ seq.toNat < tcpcMaxRsp := by
  unfold getRsp at found
  split at found
  · exact absurd rfl found
  · split at found
    · exact absurd rfl found
    · next small positive => exact ⟨positive, not_le.1 small⟩

/-- In range a slot is written, and no other one. -/
theorem setRsp_getRsp (t : Tcpc) (rsp : Option TcpResponse) (range : seq ≠ 0 ∧ seq.toNat < tcpcMaxRsp) :
    ∃ t', t.setRsp seq rsp = .ok t' ∧ t'.getRsp = Function.update t.getRsp seq rsp ∧ t'.recvbuf = t.recvbuf := by
  refine ⟨_, if_pos range, ?_, rfl⟩
  obtain ⟨positive, small⟩ := range
  funext k
  by_cases here : k = seq
  · subst here
    rw [Function.update_self]
    unfold getRsp
    rw [if_neg (not_le.2 small), if_neg positive]
    dsimp only
    rw [Vector.getElem?_setIfInBounds_self_of_lt (show k.toNat < 32 from small)]
    rfl
  · have apart : seq.toNat ≠ k.toNat := fun same => here (UInt32.toNat_inj.1 same).symm
    rw [Function.update_of_ne here]
    unfold getRsp
    dsimp only
    rw [Vector.getElem?_setIfInBounds_ne apart]

/-- `set_rsp` writes one entry of the table. -/
theorem setRsp_same {t' : Tcpc} {rsp : Option TcpResponse} (h : t.setRsp seq rsp = .ok t') :
    t'.rspcount = t.rspcount ∧ t'.recvbuf = t.recvbuf := by
  unfold setRsp at h
  split at h
  · cases h
    exact ⟨rfl, rfl⟩
  · cases h

/-- The number that `tcp_client_getseq` looks at. -/
def picked (t : Tcpc) : UInt32 := if t.reqid + 1 &&& 31 = 0 then 1 else t.reqid + 1 &&& 31

/-- `getseq` picks a slot in range. -/
theorem picked_range (t : Tcpc) : t.picked ≠ 0 ∧ t.picked.toNat < tcpcMaxRsp := by
  unfold picked
  split
  · exact ⟨by decide, by decide⟩
  · next positive =>
    refine ⟨positive, ?_⟩
    rw [UInt32.toNat_and]
    exact Nat.lt_succ_of_le Nat.and_le_right

/-- It takes the number, unless its place is taken. -/
theorem getseq_eq (t : Tcpc) : t.getseq =
    ({ t with reqid := t.reqid + 1 }, if t.respArray[t.picked.toNat]?.join.isSome then 0 else t.picked) := by
  unfold getseq
  dsimp only
  change (if t.respArray[t.picked.toNat]?.join.isSome then _ else _) = _
  split <;> rfl

/-- `getseq` returns 0 or a number in range. -/
theorem getseq_range (t : Tcpc) : t.getseq.2 = 0 ∨ t.getseq.2 ≠ 0 ∧ t.getseq.2.toNat < tcpcMaxRsp := by
  rw [getseq_eq]
  dsimp only
  split
  · exact .inl rfl
  · exact .inr t.picked_range

/-- `getseq` changes neither the slots nor the buffer. -/
theorem getseq_same (t : Tcpc) : t.getseq.1.getRsp = t.getRsp ∧ t.getseq.1.recvbuf = t.recvbuf := by
  rw [getseq_eq]
  exact ⟨rfl, rfl⟩

/-- A frame whose response is registered. -/
theorem recvDispatch_found {seqOf : List UInt8 → UInt32} {n : ℤ} {rsp : TcpResponse}
    (found : t.getRsp (seqOf t.recvbuf) = some rsp) :
    (t.recvDispatch seqOf n).1 = some rsp ∧ ((t.recvDispatch seqOf n).2 = .error .handlerFailed ∨
      ∃ t', (t.recvDispatch seqOf n).2 = .ok t' ∧ t'.getRsp = Function.update t.getRsp (seqOf t.recvbuf) none) := by
  have range := getRsp_range (show t.getRsp (seqOf t.recvbuf) ≠ none by simp [found])
  obtain ⟨t', set, table, -⟩ := setRsp_getRsp { t with recvbuf := [] } none range
  unfold recvDispatch
  dsimp only
  rw [found]
  dsimp only
  by_cases failed : n < 0
  · rw [if_pos failed]
    exact ⟨rfl, .inl rfl⟩
  · rw [if_neg failed]
    exact ⟨rfl, .inr ⟨t', set, table⟩⟩

/-- What is dispatched is handled, and its slot is freed. -/
theorem recvDispatch_ok {seqOf : List UInt8 → UInt32} {n : ℤ} {t' : Tcpc} (h : (t.recvDispatch seqOf n).2 = .ok t') :
    (t.recvDispatch seqOf n).1 = t.getRsp (seqOf t.recvbuf) ∧ 0 ≤ n ∧
      { t with recvbuf := [] }.setRsp (seqOf t.recvbuf) none = .ok t' := by
  unfold recvDispatch at h ⊢
  dsimp only at h ⊢
  split at h
  · cases h
  · next found =>
    split at h
    · cases h
    · next good =>
      rw [if_neg good]
      exact ⟨found.symm, not_lt.1 good, h⟩

/-- An unknown number ends the connection. -/
theorem recvDispatch_none {seqOf : List UInt8 → UInt32} {n : ℤ} (missing : t.getRsp (seqOf t.recvbuf) = none) :
    t.recvDispatch seqOf n = (none, .error .noHandler) := by
  unfold recvDispatch
  dsimp only
  rw [missing]

end Tcpc

/-! ## Steps -/

namespace Link
section
variable {seqOf : List UInt8 → UInt32} {s t : Link} {a : Action} {q : TcpRequest}

/-- The steps of a connection that has not ended. -/
inductive Stepped (seqOf : List UInt8 → UInt32) (s : Link) : Action → Link → Prop where
  | getseq : Stepped seqOf s .getseq { s with
      tcpc := s.tcpc.getseq.1
      seqs := if s.tcpc.getseq.2 = 0 then s.seqs else s.tcpc.getseq.2 :: s.seqs }
  | returned (seq : UInt32) (hasRsp : Bool) (err : ℤ) : Stepped seqOf s (.write seq hasRsp err) s
  | write (seq : UInt32) (hasRsp : Bool) (err : ℤ) (quiet : s.sending = none) (known : seq ∈ s.seqs) :
      Stepped seqOf s (.write seq hasRsp err)
        { s with sending := some ⟨s.sent, seq⟩, sent := s.sent + 1, asked := ⟨s.sent, seq⟩ :: s.asked }
  | register (q : TcpRequest) (written : s.sending = some q) :
      Stepped seqOf s .register ({ s with sending := none }.finish (s.tcpc.sendRegister q))
  | answer (q : TcpRequest) (frame : List UInt8) (asked : q ∈ s.asked) (seq : seqOf frame = q.seq) :
      Stepped seqOf s (.answer q frame) { s with asked := s.asked.erase q, wire := s.wire ++ [(q, frame)] }
  | assemble (q : TcpRequest) (frame : List UInt8) (wire : List (TcpRequest × List UInt8)) (empty : s.current = none)
      (first : s.wire = (q, frame) :: wire) :
      Stepped seqOf s .assemble { s with tcpc := { s.tcpc with recvbuf := frame }, wire, current := some q }
  | dispatch (n : ℤ) (q : TcpRequest) (assembled : s.current = some q) :
      Stepped seqOf s (.dispatch n) ({ s with current := none }.finish (s.tcpc.recvDispatch seqOf n).2)
  | shut : Stepped seqOf s .shut { s with ended := some .shut }

/-- **A step** is one of these. -/
theorem stepped (h : step seqOf s a = some t) : s.ended = none ∧ Stepped seqOf s a t := by
  unfold step at h
  by_cases dead : s.ended.isSome = true
  · simp [dead] at h
  · rw [if_neg dead] at h
    refine ⟨Option.not_isSome_iff_eq_none.1 dead, ?_⟩
    cases a with
    | getseq =>
      dsimp only at h
      split at h
      · cases h
      · cases h
        exact .getseq
    | write seq hasRsp err =>
      dsimp only at h
      split at h
      · cases h
      · next ready =>
        obtain ⟨quiet, known⟩ := not_or.1 ready
        split at h
        · cases h
          exact .returned seq hasRsp err
        · cases h
          exact .write seq hasRsp err (Option.not_isSome_iff_eq_none.1 quiet) (not_not.1 known)
    | register =>
      dsimp only at h
      split at h
      · next q written =>
        cases h
        exact .register q written
      · cases h
    | answer q frame =>
      dsimp only at h
      split at h
      · next ready =>
        cases h
        exact .answer q frame ready.1 ready.2
      · cases h
    | assemble =>
      dsimp only at h
      split at h
      · next q frame wire empty first =>
        cases h
        exact .assemble q frame wire empty first
      · cases h
    | dispatch n =>
      dsimp only at h
      split at h
      · next q assembled =>
        cases h
        exact .dispatch n q assembled
      · cases h
    | shut =>
      cases h
      exact .shut

/-- A step that only moves requests on the connection. -/
theorem Indexed.moved (h : Indexed seqOf s) (perm : t.outstanding.Perm s.outstanding) (table : t.tcpc.getRsp = s.tcpc.getRsp)
    (sending : t.sending = s.sending) (sent : t.sent = s.sent) (seqs : ∀ seq ∈ t.seqs, seq ≠ 0 ∧ seq.toNat < tcpcMaxRsp)
    (frames : ∀ q frame, (q, frame) ∈ t.wire → seqOf frame = q.seq)
    (frame : ∀ q, t.current = some q → seqOf t.tcpc.recvbuf = q.seq) : Indexed seqOf t := by
  refine ⟨?_, perm.nodup_iff.2 h.nodup, seqs, fun q hq => h.range q (perm.mem_iff.1 hq), fun q hq => ?_, fun q hq => ?_,
    frames, frame⟩
  · rw [table]
    apply h.table.congr
    intro rsp
    unfold Registered
    rw [perm.mem_iff, sending]
  · rw [sent]
    exact h.fresh q (perm.mem_iff.1 hq)
  · rw [sending] at hq
    exact perm.mem_iff.2 (h.sending q hq)

/-- The request that is being sent is not in the table yet. -/
theorem Indexed.register (h : Indexed seqOf s) (written : s.sending = some q) :
    s.tcpc.getRsp q.seq = none ↔ ∀ q' ∈ s.outstanding, q'.seq = q.seq → q' = q := by
  rw [h.table.none_iff]
  constructor
  · intro free q' hq' same
    by_contra other
    refine free ⟨q'⟩ ⟨hq', fun writing => other ?_⟩ same
    exact (Option.some.inj (written.symm.trans writing)).symm
  · rintro alone rsp ⟨hq', sent⟩ same
    apply sent
    rw [alone rsp.req hq' same, written]

/-- The response that the frame in the buffer finds. -/
theorem Indexed.dispatch (h : Indexed seqOf s) (assembled : s.current = some q) :
    s.tcpc.getRsp (seqOf s.tcpc.recvbuf) = some ⟨q⟩ ↔ s.sending ≠ some q := by
  have here : q ∈ s.outstanding := by simp [outstanding, assembled]
  rw [h.frame q assembled, h.table ]
  exact ⟨fun found => found.1.2, fun sent => ⟨⟨here, sent⟩, rfl⟩⟩

/-- Nothing is asked for or sent at the start. -/
theorem start_indexed : Indexed seqOf start := by
  have table : start.tcpc.getRsp = fun _ => none := by
    funext seq
    unfold Tcpc.getRsp start Tcpc.new
    dsimp only
    rw [Vector.getElem?_replicate]
    split_ifs <;> rfl
  refine ⟨?_, List.nodup_nil, nofun, nofun, nofun, nofun, nofun, nofun⟩
  rw [table]
  exact Indexes.empty.congr fun rsp => by simp [Registered, outstanding, start]

/-- A new request. -/
theorem Indexed.write {seq : UInt32} (h : Indexed seqOf s) (quiet : s.sending = none) (known : seq ∈ s.seqs) :
    Indexed seqOf { s with sending := some ⟨s.sent, seq⟩, sent := s.sent + 1, asked := ⟨s.sent, seq⟩ :: s.asked } := by
  have perm : (s.current.toList ++ s.wire.map Prod.fst ++ ⟨s.sent, seq⟩ :: s.asked).Perm (⟨s.sent, seq⟩ :: s.outstanding) :=
    List.perm_middle
  have new : (⟨s.sent, seq⟩ : TcpRequest) ∉ s.outstanding := fun old => Nat.lt_irrefl _ (h.fresh _ old)
  refine ⟨h.table.congr fun rsp => ?_, perm.nodup_iff.2 (List.nodup_cons.2 ⟨new, h.nodup⟩), h.seqs, fun q hq => ?_,
    fun q hq => ?_, fun q written => ?_, h.frames, h.frame⟩
  · change rsp.req ∈ s.outstanding ∧ s.sending ≠ some rsp.req ↔
      rsp.req ∈ s.current.toList ++ s.wire.map Prod.fst ++ ⟨s.sent, seq⟩ :: s.asked ∧ some ⟨s.sent, seq⟩ ≠ some rsp.req
    rw [perm.mem_iff, quiet, List.mem_cons]
    constructor
    · rintro ⟨old, -⟩
      refine ⟨.inr old, fun same => new ?_⟩
      rw [Option.some.inj same]
      exact old
    · rintro ⟨same | old, other⟩
      · exact absurd (congrArg some same.symm) other
      · exact ⟨old, nofun⟩
  · rcases List.mem_cons.1 (perm.mem_iff.1 hq) with rfl | old
    · exact h.seqs seq known
    · exact h.range q old
  · rcases List.mem_cons.1 (perm.mem_iff.1 hq) with rfl | old
    · exact Nat.lt_succ_self _
    · exact Nat.lt_succ_of_lt (h.fresh q old)
  · obtain rfl := Option.some.inj written
    exact perm.mem_iff.2 (List.mem_cons_self ..)

/-- A registration under a number that no other outstanding request has. -/
theorem Indexed.registered {tcpc : Tcpc} (h : Indexed seqOf s) (written : s.sending = some q)
    (alone : ∀ q' ∈ s.outstanding, q'.seq = q.seq → q' = q)
    (table : tcpc.getRsp = Function.update s.tcpc.getRsp q.seq (some ⟨q⟩)) (buffer : tcpc.recvbuf = s.tcpc.recvbuf) :
    Indexed seqOf { s with sending := none, tcpc } := by
  have here := h.sending q written
  refine ⟨?_, h.nodup, h.seqs, h.range, h.fresh, nofun, h.frames, fun q' assembled => ?_⟩
  · have added := h.table.add ⟨q⟩ fun rsp old same => congrArg TcpResponse.mk (alone rsp.req old.1 same)
    change Indexes tcpc.getRsp _ _
    rw [table]
    apply added.congr
    intro rsp
    change rsp = ⟨q⟩ ∨ rsp.req ∈ s.outstanding ∧ s.sending ≠ some rsp.req ↔ rsp.req ∈ s.outstanding ∧ none ≠ some rsp.req
    rw [written]
    constructor
    · rintro (rfl | ⟨old, -⟩)
      · exact ⟨here, nofun⟩
      · exact ⟨old, nofun⟩
    · rintro ⟨old, -⟩
      by_cases same : q = rsp.req
      · exact .inl (congrArg TcpResponse.mk same.symm)
      · exact .inr ⟨old, fun writing => same (Option.some.inj writing)⟩
  · change seqOf tcpc.recvbuf = q'.seq
    rw [buffer]
    exact h.frame q' assembled

/-- A frame whose request is registered, dispatched. -/
theorem Indexed.dispatched {tcpc : Tcpc} (h : Indexed seqOf s) (assembled : s.current = some q) (sent : s.sending ≠ some q)
    (table : tcpc.getRsp = Function.update s.tcpc.getRsp q.seq none) : Indexed seqOf { s with current := none, tcpc } := by
  have here : s.outstanding = q :: (s.wire.map Prod.fst ++ s.asked) := by simp [outstanding, assembled]
  obtain ⟨gone, nodup⟩ := List.nodup_cons.1 (here ▸ h.nodup)
  have rest : ∀ q' ∈ s.wire.map Prod.fst ++ s.asked, q' ∈ s.outstanding := by
    intro q' hq'
    rw [here]
    exact List.mem_cons_of_mem _ hq'
  refine ⟨?_, nodup, h.seqs, fun q' hq' => h.range q' (rest q' hq'), fun q' hq' => h.fresh q' (rest q' hq'),
    fun q' written => ?_, h.frames, nofun⟩
  · have removed := h.table.remove ((h.table _ _).1 ((h.dispatch assembled).2 sent)).1
    change Indexes tcpc.getRsp _ _
    rw [table]
    apply removed.congr
    intro rsp
    change rsp ≠ ⟨q⟩ ∧ rsp.req ∈ s.outstanding ∧ s.sending ≠ some rsp.req ↔
      rsp.req ∈ s.wire.map Prod.fst ++ s.asked ∧ s.sending ≠ some rsp.req
    rw [here, List.mem_cons]
    constructor
    · rintro ⟨other, same | old, unsent⟩
      · exact absurd (congrArg TcpResponse.mk same) other
      · exact ⟨old, unsent⟩
    · rintro ⟨old, unsent⟩
      refine ⟨?_, .inr old, unsent⟩
      rintro rfl
      exact gone old
  · have old := h.sending q' written
    rw [here] at old
    rcases List.mem_cons.1 old with rfl | old
    · exact absurd written sent
    · exact old

/-- **One ordered step** keeps every response in the slot of its request. -/
theorem step_indexed (h : Indexed seqOf s) (ordered : Ordered s a) (hs : step seqOf s a = some t) (going : t.ended = none) :
    Indexed seqOf t := by
  obtain ⟨-, hs⟩ := stepped hs
  cases hs with
  | getseq =>
    obtain ⟨table, buffer⟩ := s.tcpc.getseq_same
    refine h.moved (.refl _) table rfl rfl (fun seq known => ?_) h.frames fun q assembled => ?_
    · dsimp only at known
      rcases s.tcpc.getseq_range with full | range
      · rw [if_pos full] at known
        exact h.seqs seq known
      · rw [if_neg range.1] at known
        rcases List.mem_cons.1 known with rfl | known
        · exact range
        · exact h.seqs seq known
    · dsimp only
      rw [buffer]
      exact h.frame q assembled
  | returned => exact h
  | write seq hasRsp err quiet known => exact h.write quiet known
  | register q written =>
    obtain ⟨tcpc, set, table, buffer⟩ :=
      s.tcpc.setRsp_getRsp (some ⟨q⟩) (h.range q (h.sending q written))
    unfold Tcpc.sendRegister
    rw [set]
    exact h.registered written (ordered q written) table buffer
  | answer q frame asked seq =>
    refine h.moved ?_ rfl rfl rfl h.seqs (fun q' frame' sent => ?_) h.frame
    · change (s.current.toList ++ (s.wire ++ [(q, frame)]).map Prod.fst ++ s.asked.erase q).Perm _
      rw [List.map_append, List.append_assoc, List.append_assoc, outstanding, List.append_assoc]
      exact ((List.perm_cons_erase asked).symm.append_left _).append_left _
    · rcases List.mem_append.1 sent with old | new
      · exact h.frames q' frame' old
      · cases List.mem_singleton.1 new
        exact seq
  | assemble q frame wire empty first =>
    refine h.moved ?_ rfl rfl rfl h.seqs (fun q' frame' sent => ?_) fun q' assembled => ?_
    · have same : s.outstanding = q :: (wire.map Prod.fst ++ s.asked) := by simp [outstanding, empty, first]
      rw [same]
      exact .refl _
    · apply h.frames q' frame'
      rw [first]
      exact List.mem_cons_of_mem _ sent
    · obtain rfl := Option.some.inj assembled
      apply h.frames q frame
      rw [first]
      exact List.mem_cons_self ..
  | dispatch n q assembled =>
    have sent := ordered q assembled
    obtain ⟨-, failed | ⟨tcpc, cleared, table⟩⟩ := Tcpc.recvDispatch_found (n := n) ((h.dispatch assembled).2 sent)
    · rw [failed] at going
      cases going
    · rw [cleared]
      rw [h.frame q assembled] at table
      exact h.dispatched assembled sent table
  | shut => cases going

/-- **One step.** -/
theorem step_ordered (h : Indexed seqOf s) (hs : step seqOf s a = some t) : Handled t ∧ Matches seqOf s a ↔ Ordered s a := by
  obtain ⟨going, hs⟩ := stepped hs
  have handled : Handled s := by simp [Handled, going]
  cases hs with
  | getseq | returned | write | answer | assemble => exact iff_of_true ⟨handled, trivial⟩ trivial
  | shut => exact iff_of_true ⟨nofun, trivial⟩ trivial
  | register q written =>
    obtain ⟨tcpc, set, -⟩ := s.tcpc.setRsp_getRsp (some ⟨q⟩) (h.range q (h.sending q written))
    have handled : Handled ({ s with sending := none }.finish (s.tcpc.sendRegister q)) := by
      unfold Tcpc.sendRegister
      rw [set]
      exact handled
    refine (and_iff_right handled).trans ?_
    constructor
    · intro free q' written'
      exact (h.register written').1 (free q' written')
    · intro alone q' written'
      exact (h.register written').2 (alone q' written')
  | dispatch n q assembled =>
    constructor
    · rintro ⟨-, passed⟩ q' assembled'
      have called := passed q' assembled'
      apply (h.dispatch assembled').1
      cases found : s.tcpc.getRsp (seqOf s.tcpc.recvbuf) with
      | none =>
        rw [Tcpc.recvDispatch_none found] at called
        cases called
      | some rsp => rw [← (Tcpc.recvDispatch_found found).1, called]
    · intro ordered
      have found := (h.dispatch assembled).2 (ordered q assembled)
      obtain ⟨called, ends⟩ := Tcpc.recvDispatch_found (n := n) found
      refine ⟨?_, fun q' assembled' => ?_⟩
      · rcases ends with failed | ⟨tcpc, cleared, -⟩
        · rw [failed]
          exact nofun
        · rw [cleared]
          exact handled
      · cases assembled.symm.trans assembled'
        exact called

/-- **When responses find the right handler**: in a run with any order of the
two threads and the peer, every registration takes a free place, every response
is passed to the handler of the request it answers and the connection is not
closed for want of one, exactly when no request is registered while another one
with its number is outstanding, and no response is dispatched before its request
is registered. -/
theorem matches_iff_ordered (seqOf : List UInt8 → UInt32) (as : List Action) (s : Link)
    (run : exec (step seqOf) start as = some s) :
    Through (step seqOf) Handled start as ∧ Along (step seqOf) (Matches seqOf) start as ↔
      Along (step seqOf) Ordered start as := by
  refine through_along_iff_kept (J := fun s => s.ended = none → Indexed seqOf s) ?_ ?_ (fun _ => start_indexed) nofun run
  · intro s a t h _ ordered hs going
    exact step_indexed (h (stepped hs).1) ordered hs going
  · intro s a t h _ hs
    exact step_ordered (h (stepped hs).1) hs

end
end Link

/-! ## Tests -/

/-- A peer that sends the number in the first byte. -/
def firstByte (frame : List UInt8) : UInt32 := (frame.headD 0).toUInt32

/-- A request with a response. -/
def Action.ask (seq : UInt32) : Action := .write seq true 4

/-- The first request, answered after its registration. -/
theorem matches_iff_ordered_exchange :
    Through (Link.step firstByte) Link.Handled .start
      [.getseq, .ask 1, .register, .answer ⟨0, 1⟩ [1], .assemble, .dispatch 0] ∧
    Along (Link.step firstByte) (Link.Matches firstByte) .start
      [.getseq, .ask 1, .register, .answer ⟨0, 1⟩ [1], .assemble, .dispatch 0] := by
  have ends : (exec (Link.step firstByte) .start
      [.getseq, .ask 1, .register, .answer ⟨0, 1⟩ [1], .assemble, .dispatch 0]).isSome = true := by decide +kernel
  obtain ⟨s, run⟩ := Option.isSome_iff_exists.1 ends
  exact (Link.matches_iff_ordered firstByte _ s run).2 (by decide +kernel)

/-- The first request, answered before its registration; and two numbers taken
before the first of two sends, the second of them after the wrap. -/
theorem response_unmatched :
    (∃ s, exec (Link.step firstByte) .start [.getseq, .ask 1, .answer ⟨0, 1⟩ [1], .assemble, .dispatch 0] = some s ∧
      ¬ s.Handled) ∧
    ¬ Along (Link.step firstByte) (Link.Matches firstByte) .start
      (List.replicate 32 .getseq ++ [.ask 1, .register, .ask 1, .register]) := by
  constructor
  · have shown : (exec (Link.step firstByte) .start [.getseq, .ask 1, .answer ⟨0, 1⟩ [1], .assemble, .dispatch 0]).map
        Link.ended = some (some .noHandler) := by decide +kernel
    obtain ⟨s, run, ended⟩ := Option.map_eq_some_iff.1 shown
    exact ⟨s, run, fun handled => handled ended⟩
  · decide +kernel

end Crazyass.Tcp
