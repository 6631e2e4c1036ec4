import Crazyass.Client.Tcp

/-!
# The slots of `tcp.c`

What the counter `rspcount` and the rotating number of `tcp_client_getseq` say
about `resp_array`, over runs of one thread: numbers are asked for, requests
with a response are sent under the latest number, and answers are received.
-/

namespace Crazyass.Tcp
open Sys

namespace Tcpc

/-- `resp_array[i]`. -/
def slot (t : Tcpc) (i : ℕ) : Option TcpResponse := t.respArray[i]?.join

/-- The number of entries that are not `NULL`. -/
def occupied (t : Tcpc) : ℕ := t.respArray.toList.countP Option.isSome

/-- Every number is in use. -/
def Full (t : Tcpc) : Prop := ∀ i < tcpcMaxRsp, i ≠ 0 → (t.slot i).isSome

instance (t : Tcpc) : Decidable t.Full := inferInstanceAs (Decidable (∀ i < tcpcMaxRsp, i ≠ 0 → (t.slot i).isSome = true))

/-- **The contract of the table**: `rspcount` counts it, `tcp_client_getseq`
finds a free slot if there is one, and `tcp_client_send` refuses a response
exactly when there is none. -/
structure Accounted (t : Tcpc) : Prop where
  counted : t.rspcount = t.occupied
  found : ¬ t.Full → t.getseq.2 ≠ 0 ∧ t.getseq.2.toNat < tcpcMaxRsp ∧ t.slot t.getseq.2.toNat = none
  exhausted : t.getseq.2 = 0 → t.Full
  refuses : ∀ err, 0 ≤ err → (t.sendWrite true err = some (-1) ↔ t.Full)

def Empty (t : Tcpc) : Prop := ∀ i, t.slot i = none

section
variable {t : Tcpc} {seq : UInt32}

/-! ## The three parts of the contract -/

/-- Empty slots are not full. -/
theorem Empty.not_full (empty : t.Empty) : ¬ t.Full := by
  intro full
  have first := full 1 (by decide) (by decide)
  rw [empty 1] at first
  cases first

/-- No slot is occupied exactly when all are empty. -/
theorem occupied_eq_zero : t.occupied = 0 ↔ t.Empty := by
  unfold occupied
  rw [List.countP_eq_zero]
  constructor
  · intro none_some i
    unfold slot
    cases at_i : t.respArray[i]? with
    | none => rfl
    | some entry =>
      have mem : entry ∈ t.respArray.toList := by
        rw [Vector.mem_toList_iff]
        exact Vector.mem_of_getElem? at_i
      simpa using none_some entry mem
  · intro empty entry mem
    obtain ⟨i, at_i⟩ := List.getElem?_of_mem mem
    have none_i := empty i
    unfold slot at none_i
    rw [← Vector.getElem?_toList, at_i] at none_i
    change ¬ entry.isSome = true
    rw [show entry = none from none_i]
    simp

/-- `tcp_client_getseq` looks at one slot. -/
theorem getseq_sound_iff : ((¬ t.Full → t.getseq.2 ≠ 0 ∧ t.getseq.2.toNat < tcpcMaxRsp ∧ t.slot t.getseq.2.toNat = none) ∧
    (t.getseq.2 = 0 → t.Full)) ↔ t.Full ∨ t.slot t.picked.toNat = none := by
  have answer : t.getseq.2 = if (t.slot t.picked.toNat).isSome then 0 else t.picked := by
    rw [getseq_eq]
    rfl
  obtain ⟨positive, small⟩ := t.picked_range
  rw [answer]
  cases free : t.slot t.picked.toNat with
  | none => simp [positive, small, free]
  | some rsp => simp

/-- A counter that is zero refuses nothing. -/
theorem refuses_iff (zero : t.rspcount = 0) : (∀ err, 0 ≤ err → (t.sendWrite true err = some (-1) ↔ t.Full)) ↔ ¬ t.Full := by
  have accepts : ∀ err, 0 ≤ err → t.sendWrite true err = none := by
    intro err written
    unfold sendWrite
    rw [if_neg (by rw [zero]; decide), if_neg (not_lt.2 written)]
    rfl
  constructor
  · intro exact_refusal full
    have refused := (exact_refusal 0 le_rfl).2 full
    cases (accepts 0 le_rfl).symm.trans refused
  · intro room err written
    rw [accepts err written]
    exact iff_of_false (fun refused => by cases refused) room

/-- With the counter at zero the contract says that the table is empty. -/
theorem accounted_iff (zero : t.rspcount = 0) : t.Accounted ↔ t.Empty := by
  constructor
  · intro accounted
    have counted := accounted.counted
    rw [zero] at counted
    exact occupied_eq_zero.1 (by omega)
  · intro empty
    obtain ⟨found, exhausted⟩ := getseq_sound_iff.2 (.inr (empty t.picked.toNat))
    refine ⟨?_, found, exhausted, (refuses_iff zero).2 empty.not_full⟩
    rw [zero, occupied_eq_zero.2 empty]
    rfl

/-! ## The operations -/

/-- In range the response of a number is that of its slot. -/
theorem getRsp_eq_slot (range : seq ≠ 0 ∧ seq.toNat < tcpcMaxRsp) : t.getRsp seq = t.slot seq.toNat := by
  unfold getRsp
  rw [if_neg (not_le.2 range.2), if_neg range.1]
  rfl

theorem Empty.getRsp (empty : t.Empty) (seq : UInt32) : t.getRsp seq = none := by
  by_contra found
  rw [getRsp_eq_slot (getRsp_range found)] at found
  exact found (empty seq.toNat)

/-- A request that is registered occupies its slot. -/
theorem sendRegister_occupies {t' : Tcpc} {req : TcpRequest} (h : t.sendRegister req = .ok t') : ¬ t'.Empty := by
  intro empty
  unfold sendRegister at h
  by_cases range : req.seq ≠ 0 ∧ req.seq.toNat < tcpcMaxRsp
  · obtain ⟨t'', set, table, -⟩ := setRsp_getRsp t (some ⟨req⟩) range
    cases h.symm.trans set
    have own := empty.getRsp req.seq
    rw [table, Function.update_self] at own
    cases own
  · rw [setRsp, if_neg range] at h
    cases h

end
end Tcpc

/-! ## Runs -/

/-- What the thread does; `send` is a successful one with a response, `recv` a
frame that is assembled and handled. -/
inductive Use where
  | getseq
  | send (addr : ℕ) (err : ℤ)
  | recv (frame : List UInt8) (n : ℤ)
deriving DecidableEq, Repr

/-- A request that registers a response. -/
def Use.Sends : Use → Prop
  | .send .. => True
  | .getseq | .recv .. => False

/-- A connection, with the latest number from `tcp_client_getseq`. -/
structure Slots where
  tcpc : Tcpc
  last : UInt32

namespace Slots

def start : Slots := ⟨.new, 0⟩

def step (seqOf : List UInt8 → UInt32) (s : Slots) : Use → Option Slots
  | .getseq => some ⟨s.tcpc.getseq.1, s.tcpc.getseq.2⟩
  | .send addr err =>
    if s.last = 0 ∨ (s.tcpc.sendWrite true err).isSome then none
    else (s.tcpc.sendRegister ⟨addr, s.last⟩).toOption.map fun tcpc => { s with tcpc }
  | .recv frame n =>
    ({ s.tcpc with recvbuf := frame }.recvDispatch seqOf n).2.toOption.map fun tcpc => { s with tcpc }

section
variable {seqOf : List UInt8 → UInt32} {s t : Slots} {a : Use} {as : List Use}

/-- The steps of the thread. -/
inductive Stepped (seqOf : List UInt8 → UInt32) (s : Slots) : Use → Slots → Prop where
  | getseq : Stepped seqOf s .getseq ⟨s.tcpc.getseq.1, s.tcpc.getseq.2⟩
  | send (addr : ℕ) (err : ℤ) (tcpc : Tcpc) (number : s.last ≠ 0) (written : s.tcpc.sendWrite true err = none)
      (registered : s.tcpc.sendRegister ⟨addr, s.last⟩ = .ok tcpc) : Stepped seqOf s (.send addr err) { s with tcpc }
  | recv (frame : List UInt8) (n : ℤ) (tcpc : Tcpc)
      (handled : ({ s.tcpc with recvbuf := frame }.recvDispatch seqOf n).2 = .ok tcpc) :
      Stepped seqOf s (.recv frame n) { s with tcpc }

/-- **A step** is one of these. -/
theorem stepped (h : step seqOf s a = some t) : Stepped seqOf s a t := by
  cases a with
  | getseq =>
    cases h
    exact .getseq
  | send addr err =>
    dsimp only [step] at h
    split at h
    · cases h
    · next open_send =>
      obtain ⟨number, written⟩ := not_or.1 open_send
      obtain ⟨tcpc, registered, rfl⟩ := Option.map_eq_some_iff.1 h
      exact .send addr err tcpc number (Option.not_isSome_iff_eq_none.1 written) (Tcpc.ok_of_toOption registered)
  | recv frame n =>
    obtain ⟨tcpc, handled, rfl⟩ := Option.map_eq_some_iff.1 h
    exact .recv frame n tcpc (Tcpc.ok_of_toOption handled)

/-- The counter stays 0, since a registration does not count up. -/
theorem step_rspcount (zero : s.tcpc.rspcount = 0) (h : step seqOf s a = some t) : t.tcpc.rspcount = 0 := by
  cases stepped h with
  | getseq =>
    rw [Tcpc.getseq_eq]
    exact zero
  | send addr err tcpc number written registered => exact (Tcpc.setRsp_same registered).1.trans zero
  | recv frame n tcpc handled =>
    obtain ⟨-, -, cleared⟩ := Tcpc.recvDispatch_ok handled
    exact (Tcpc.setRsp_same cleared).1.trans zero

/-- **One step** from a table that is accounted for, and so empty. -/
theorem step_accounted_iff (zero : s.tcpc.rspcount = 0) (accounted : s.tcpc.Accounted) (h : step seqOf s a = some t) :
    t.tcpc.Accounted ↔ ¬ a.Sends := by
  have empty := (Tcpc.accounted_iff zero).1 accounted
  rw [Tcpc.accounted_iff (step_rspcount zero h)]
  cases stepped h with
  | getseq =>
    rw [Tcpc.getseq_eq]
    exact iff_of_true empty id
  | send addr err tcpc number written registered =>
    exact iff_of_false (Tcpc.sendRegister_occupies registered) (not_not.2 trivial)
  | recv frame n tcpc handled =>
    -- nothing is registered, so nothing is handled
    have none_there : ({ s.tcpc with recvbuf := frame } : Tcpc).getRsp (seqOf frame) = none :=
      Tcpc.Empty.getRsp (t := { s.tcpc with recvbuf := frame }) empty (seqOf frame)
    rw [Tcpc.recvDispatch_none none_there] at handled
    cases handled

/-- At the start the counter and the slots agree. -/
theorem start_accounted : start.tcpc.Accounted := by
  apply (Tcpc.accounted_iff rfl).2
  intro i
  change (Vector.replicate 32 (none : Option TcpResponse))[i]?.join = none
  rw [Vector.getElem?_replicate]
  split <;> rfl

/-- **Which runs keep the account**: those that send nothing with a response. -/
theorem accounted_iff_unsent (seqOf : List UInt8 → UInt32) (as : List Use) (t : Slots)
    (run : exec (step seqOf) start as = some t) :
    Through (step seqOf) (fun s => s.tcpc.Accounted) start as ↔ ∀ a ∈ as, ¬ a.Sends := by
  rw [← along_actions run]
  exact through_iff_along (fun _ _ _ zero _ h => step_rspcount zero h)
    (fun _ _ _ zero accounted h => step_accounted_iff zero accounted h) rfl start_accounted run

end

/-! ## Tests -/

/-- Numbers that are only asked for leave the counter and the slots alone. -/
theorem accounted_iff_unsent_asking :
    Through (step firstByte) (fun s => s.tcpc.Accounted) start [.getseq, .getseq] :=
  (accounted_iff_unsent firstByte [.getseq, .getseq] _ rfl).2 (by simp [Use.Sends])

/-- A number and a request under it, `k` times. -/
def sends (k : ℕ) : List Use := (List.range k).flatMap fun i => [.getseq, .send i 10]

/-- One request: it is not counted. After 31 numbers in all the next one is that
of the request, and 30 free slots are not found. With 31 requests no slot is
free and another one is not refused. -/
theorem unaccounted : ¬ Through (step firstByte) (fun s => s.tcpc.Accounted) start (sends 1) ∧
    ((exec (step firstByte) start (sends 1)).map fun s => (s.tcpc.rspcount, s.tcpc.occupied)) = some (0, 1) ∧
      ((exec (step firstByte) start (sends 1 ++ List.replicate 30 .getseq)).map fun s =>
        (s.tcpc.getseq.2, s.tcpc.occupied)) = some (0, 1) ∧
      ((exec (step firstByte) start (sends 31)).map fun s =>
        (decide s.tcpc.Full, s.tcpc.sendWrite true 10)) = some (true, none) := by
  have counts : ((exec (step firstByte) start (sends 1)).map fun s => (s.tcpc.rspcount, s.tcpc.occupied)) = some (0, 1) := by
    decide +kernel
  refine ⟨fun accounted => ?_, counts, by decide +kernel, by decide +kernel⟩
  obtain ⟨s, run, shown⟩ := Option.map_eq_some_iff.1 counts
  have counted := (accounted.last run).counted
  rw [Prod.mk.injEq] at shown
  rw [shown.1, shown.2] at counted
  cases counted

end Slots
end Crazyass.Tcp
