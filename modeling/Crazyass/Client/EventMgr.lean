import Crazyass.Sys.Run
import Crazyass.Sys.Walk
import Mathlib.Data.List.AList
import Mathlib.Data.Int.Basic

/-!
# The event manager

`event_mgr.h`: lists of responders by event. `Response` walks a list while the
responders that it calls may register and unregister senders. A list node is
known by the number of nodes made before it. A sender is a value of the
parameter type `σ`, `none` is the null pointer, and `ι` is the type of selectors.
-/

namespace Crazyass.Client
open Sys

structure ResponserInfo (σ ι : Type) where
  sender : σ
  selector : ι
deriving DecidableEq, Repr

/-- A node of a `std::list<ResponserInfo>`. -/
structure Node (σ ι : Type) where
  id : ℕ
  info : ResponserInfo σ ι
deriving DecidableEq, Repr

/-- `(*it).sender_ == sender`. -/
def Node.isOf {σ ι : Type} [DecidableEq σ] (x : σ) (n : Node σ ι) : Bool := n.info.sender = x

/-- `retains` counts the calls of `retain` on a sender, less those of `release`. -/
structure EventMgr (σ ι : Type) where
  mapResponser : AList fun _ : Int32 => List (Node σ ι)
  fresh : ℕ
  retains : σ → ℤ

/-- What a callback may do. -/
inductive Op (σ ι : Type) where
  | register (eventId : Int32) (sender : Option σ) (selector : ι)
  | unRegister (eventId : Int32) (sender : Option σ)
deriving DecidableEq, Repr

namespace Op
variable {σ ι : Type}

def registers (eventId : Int32) : Op σ ι → Bool
  | .register e sender _ => e = eventId && sender.isSome
  | .unRegister .. => false

def unRegisters [DecidableEq σ] (eventId : Int32) (x : σ) : Op σ ι → Bool
  | .register .. => false
  | .unRegister e sender => e = eventId && decide (sender = some x)

end Op

namespace EventMgr
section
variable {σ ι : Type} [DecidableEq σ]

/-- Before anything is registered. -/
def new : EventMgr σ ι := ⟨∅, 0, fun _ => 0⟩

/-- `CheckEventId`. -/
def checkEventId (_eventId : Int32) : Bool := true

/-- `Register`. -/
def register (m : EventMgr σ ι) (eventId : Int32) (sender : Option σ) (selector : ι) : EventMgr σ ι × Bool :=
  match sender with
  | some x =>
    if checkEventId eventId then
      let nodes := (m.mapResponser.lookup eventId).getD []
      ({ mapResponser := m.mapResponser.insert eventId (nodes ++ [⟨m.fresh, ⟨x, selector⟩⟩])
         fresh := m.fresh + 1
         retains := Function.update m.retains x (m.retains x + 1) }, true)
    else (m, false)
  | none => (m, false)

/-- `UnRegister`: the first entry of the sender goes. -/
def unRegister (m : EventMgr σ ι) (eventId : Int32) (sender : Option σ) : EventMgr σ ι × Bool :=
  match sender with
  | some x =>
    if checkEventId eventId then
      match m.mapResponser.lookup eventId with
      | none => (m, false)
      | some nodes =>
        if nodes.any (Node.isOf x) then
          ({ m with
             mapResponser := m.mapResponser.insert eventId (nodes.eraseP (Node.isOf x))
             retains := Function.update m.retains x (m.retains x - 1) }, true)
        else (m, false)
    else (m, false)
  | none => (m, false)

def apply (m : EventMgr σ ι) : Op σ ι → EventMgr σ ι
  | .register eventId sender selector => (m.register eventId sender selector).1
  | .unRegister eventId sender => (m.unRegister eventId sender).1

def applyAll (m : EventMgr σ ι) (ops : List (Op σ ι)) : EventMgr σ ι := ops.foldl apply m

/-- The nodes of an event. -/
def nodes (m : EventMgr σ ι) (eventId : Int32) : List (Node σ ι) := (m.mapResponser.lookup eventId).getD []

/-- The entries of a sender over all lists. -/
def held (m : EventMgr σ ι) (x : σ) : ℕ := (m.mapResponser.entries.flatMap Sigma.snd).countP (Node.isOf x)

end
end EventMgr

/-! ## `Response` -/

inductive DispatchEvent (σ ι : Type) where
  | called (node : Node σ ι)
  | removed (node : Node σ ι)
deriving DecidableEq, Repr

def DispatchEvent.called? {σ ι : Type} : DispatchEvent σ ι → Option (Node σ ι)
  | .called node => some node
  | .removed _ => none

/-- Where `Response` is: in the callback of a node, or returned; `undefined` is
an advance from a node that is no longer in the list. -/
inductive DispatchPlace (σ ι : Type) where
  | calling (node : Node σ ι)
  | returned (result : Bool)
  | undefined
deriving DecidableEq, Repr

/-- A call of `Response`, with the nodes of its event when it started. -/
structure Dispatch (σ ι : Type) where
  mgr : EventMgr σ ι
  eventId : Int32
  initial : List (Node σ ι)
  place : DispatchPlace σ ι
  log : List (DispatchEvent σ ι)

namespace Dispatch
section
variable {σ ι : Type} [DecidableEq σ]

/-- The place at an iterator that is not past an erased node. -/
def arrive : Option (Node σ ι) → DispatchPlace σ ι
  | some node => .calling node
  | none => .returned true

/-- `++it`. -/
def advance (nodes : List (Node σ ι)) (node : Node σ ι) : DispatchPlace σ ι :=
  match successor Node.id nodes node.id with
  | some next => arrive next
  | none => .undefined

/-- `Response` up to its first callback. -/
def response (m : EventMgr σ ι) (eventId : Int32) : Dispatch σ ι :=
  { mgr := m
    eventId
    initial := m.nodes eventId
    log := []
    place :=
      if EventMgr.checkEventId eventId then
        match m.mapResponser.lookup eventId with
        | none => .returned false
        | some nodes => arrive nodes.head?
      else .returned true }

/-- The nodes that have left a list. -/
def gone (before after : List (Node σ ι)) : List (Node σ ι) := before.filter fun n => after.all (·.id ≠ n.id)

/-- The callback of a node does its operations and returns, and the iterator
advances. -/
def callback (s : Dispatch σ ι) (node : Node σ ι) (ops : List (Op σ ι)) : Dispatch σ ι :=
  let mgr := s.mgr.applyAll ops
  let nodes := mgr.nodes s.eventId
  { s with
    mgr
    place := advance nodes node
    log := s.log ++ .called node :: (gone (s.mgr.nodes s.eventId) nodes).map .removed }

def step (s : Dispatch σ ι) (ops : List (Op σ ι)) : Option (Dispatch σ ι) :=
  match s.place with
  | .calling node => some (s.callback node ops)
  | .returned _ | .undefined => none

/-! ## The contract -/

/-- The callbacks called, in order. -/
def calls (s : Dispatch σ ι) : List (Node σ ι) := s.log.filterMap DispatchEvent.called?

/-- The iterator is past the place of a node. -/
def Past (s : Dispatch σ ι) (n : Node σ ι) : Prop :=
  match s.place with
  | .calling node => n.id < node.id
  | .returned _ => True
  | .undefined => False

/-- A bound for the callbacks to come, if they register nothing. -/
def left (s : Dispatch σ ι) : ℕ :=
  match s.place with
  | .calling node => (ahead Node.id (s.mgr.nodes s.eventId) node.id).length + 1
  | .returned _ | .undefined => 0

/-- **The contract** of `Response`: it does not advance from a node that is
erased; it calls each node once at most, in the order of registration, and none
that has been removed; each node that was there when it started is called,
unless it is removed before its turn; it ends if only so much is registered;
and a sender is retained once for each of its entries. -/
structure Dispatched (s : Dispatch σ ι) : Prop where
  defined : s.place ≠ .undefined
  order : s.calls.Pairwise fun a b => a.id < b.id
  present : s.log.Pairwise fun a b => ∀ n, a = .removed n → b ≠ .called n
  all : ∀ n ∈ s.initial, s.Past n → n ∈ s.calls ∨ .removed n ∈ s.log
  ends : ∀ as t, exec step s as = some t → as.length ≤ s.left + as.flatten.countP (Op.registers s.eventId)
  retains : ∀ x, s.mgr.retains x = s.mgr.held x

/-- What a callback called from a place may do. -/
def Harmless (s : Dispatch σ ι) (ops : List (Op σ ι)) : DispatchPlace σ ι → Prop
  | .calling node => ops.countP (Op.unRegisters s.eventId node.info.sender) ≤
      (behind Node.id (s.mgr.nodes s.eventId) node.id).countP (Node.isOf node.info.sender)
  | .returned _ | .undefined => True

/-- **When a callback is harmless**: it does not unregister its own sender more
often than the sender has earlier entries. -/
def Spares (s : Dispatch σ ι) (ops : List (Op σ ι)) : Prop := s.Harmless ops s.place

instance (s : Dispatch σ ι) (ops : List (Op σ ι)) : ∀ place, Decidable (s.Harmless ops place)
  | .calling _ => inferInstanceAs (Decidable (_ ≤ _))
  | .returned _ | .undefined => inferInstanceAs (Decidable True)

instance (s : Dispatch σ ι) (ops : List (Op σ ι)) : Decidable (s.Spares ops) :=
  inferInstanceAs (Decidable (s.Harmless ops s.place))

end
end Dispatch

/-! ## The lists of the manager -/

namespace EventMgr
section
variable {σ ι : Type} [DecidableEq σ] {m : EventMgr σ ι} {op : Op σ ι} {ops : List (Op σ ι)} {e : Int32} {x : σ}
  {n : Node σ ι} {front back : List (Node σ ι)}

/-- What an operation makes of the list of an event. -/
def edit (eventId : Int32) (fresh : ℕ) (l : List (Node σ ι)) : Op σ ι → List (Node σ ι)
  | .register e (some x) selector => if e = eventId then l ++ [⟨fresh, ⟨x, selector⟩⟩] else l
  | .unRegister e (some x) => if e = eventId then l.eraseP (Node.isOf x) else l
  | .register _ none _ | .unRegister _ none => l

theorem isOf_iff : n.isOf x = true ↔ n.info.sender = x := decide_eq_true_iff

omit [DecidableEq σ] in
/-- Writing the list of one event leaves those of the others. -/
theorem nodes_insert (map : AList fun _ : Int32 => List (Node σ ι)) (k : Int32) (l : List (Node σ ι)) (fresh : ℕ)
    (retains : σ → ℤ) : nodes ⟨map.insert k l, fresh, retains⟩ e = if k = e then l else (map.lookup e).getD [] := by
  unfold nodes
  by_cases same : k = e
  · subst same
    rw [if_pos rfl, AList.lookup_insert]
    rfl
  · rw [if_neg same, AList.lookup_insert_ne fun h => same h.symm]

/-- What `UnRegister` does. -/
theorem unRegister_some (m : EventMgr σ ι) (k : Int32) (y : σ) :
    (∃ z ∈ m.nodes k, z.info.sender = y) ∧
        (m.unRegister k (some y)).1 =
          { m with
            mapResponser := m.mapResponser.insert k ((m.nodes k).eraseP (Node.isOf y))
            retains := Function.update m.retains y (m.retains y - 1) } ∨
      (∀ z ∈ m.nodes k, z.info.sender ≠ y) ∧ (m.unRegister k (some y)).1 = m := by
  unfold unRegister nodes
  dsimp only
  rw [if_pos (show checkEventId k = true from rfl)]
  cases m.mapResponser.lookup k with
  | none => exact .inr ⟨fun z mem => absurd mem List.not_mem_nil, rfl⟩
  | some l =>
    dsimp only [Option.getD_some]
    split
    · next found =>
      obtain ⟨z, mem, same⟩ := List.any_eq_true.1 found
      exact .inl ⟨⟨z, mem, isOf_iff.1 same⟩, rfl⟩
    · next missing =>
      exact .inr ⟨fun z mem same => missing (List.any_eq_true.2 ⟨z, mem, isOf_iff.2 same⟩), rfl⟩

/-- An operation edits the list of its own event. -/
theorem nodes_apply (m : EventMgr σ ι) (op : Op σ ι) (e : Int32) :
    (m.apply op).nodes e = edit e m.fresh (m.nodes e) op := by
  cases op with
  | register k sender selector =>
    cases sender with
    | none => rfl
    | some y =>
      refine (nodes_insert _ _ _ _ _).trans ?_
      unfold edit
      dsimp only
      split
      · next same => rw [← same]; rfl
      · rfl
  | unRegister k sender =>
    cases sender with
    | none => rfl
    | some y =>
      unfold apply edit
      dsimp only
      rcases m.unRegister_some k y with ⟨-, erased⟩ | ⟨absent, same⟩
      · rw [erased, nodes_insert]
        split
        · next same => rw [← same]
        · rfl
      · rw [same]
        split
        · next here =>
          subst here
          exact (List.eraseP_of_forall_not fun z mem found => absent z mem (of_decide_eq_true found)).symm
        · rfl

/-- Numbers of nodes only go up. -/
theorem fresh_apply (m : EventMgr σ ι) (op : Op σ ι) : m.fresh ≤ (m.apply op).fresh := by
  cases op with
  | register k sender selector =>
    cases sender with
    | none => exact le_rfl
    | some y => exact Nat.le_succ m.fresh
  | unRegister k sender =>
    cases sender with
    | none => exact le_rfl
    | some y =>
      unfold apply
      dsimp only
      rcases m.unRegister_some k y with ⟨-, erased⟩ | ⟨-, same⟩
      · rw [erased]
      · rw [same]

/-! ## The nodes and the counts -/

/-- What every operation keeps: nodes are numbered upwards, and the retains of a
sender are its entries. -/
structure Sane (m : EventMgr σ ι) : Prop where
  ascending : ∀ e, Ascending Node.id (m.nodes e)
  below : ∀ e, ∀ n ∈ m.nodes e, n.id < m.fresh
  counted : ∀ x, m.retains x = m.held x

omit [DecidableEq σ] in
/-- The entries of one event and those of the others. -/
theorem countP_split (lists : List (Sigma fun _ : Int32 => List (Node σ ι))) (k : Int32) (p : Node σ ι → Bool) :
    (lists.flatMap Sigma.snd).countP p =
      ((lists.dlookup k).getD []).countP p + ((lists.kerase k).flatMap Sigma.snd).countP p := by
  induction lists with
  | nil => rfl
  | cons list lists ih =>
    obtain ⟨k', l⟩ := list
    rw [List.flatMap_cons, List.countP_append, ih]
    by_cases same : k = k'
    · subst same
      have erased : List.kerase k (⟨k, l⟩ :: lists) = lists := List.kerase_cons_eq rfl
      rw [List.dlookup_cons_eq, erased, Option.getD_some, ← ih]
    · rw [List.dlookup_cons_ne _ _ same, List.kerase_cons_ne same, List.flatMap_cons, List.countP_append]
      omega

/-- The entries of a sender change with those in the list that is written. -/
theorem held_insert (map : AList fun _ : Int32 => List (Node σ ι)) (k : Int32) (l : List (Node σ ι)) (x : σ) (fresh : ℕ)
    (retains : σ → ℤ) : held ⟨map.insert k l, fresh, retains⟩ x + ((map.lookup k).getD []).countP (Node.isOf x) =
      held ⟨map, fresh, retains⟩ x + l.countP (Node.isOf x) := by
  unfold held
  rw [AList.entries_insert, List.flatMap_cons, List.countP_append, countP_split map.entries k]
  change l.countP _ + _ + ((map.entries.dlookup k).getD []).countP _ = _
  omega

/-- Erasing the first entry of a sender takes one of its entries and none of another. -/
theorem countP_eraseP {l : List (Node σ ι)} {y : σ} (found : ∃ z ∈ l, z.info.sender = y) (x : σ) :
    l.countP (Node.isOf x) = (l.eraseP (Node.isOf y)).countP (Node.isOf x) + if y = x then 1 else 0 := by
  obtain ⟨z, mem, same⟩ := found
  obtain ⟨a, l₁, l₂, -, is_y, shape, erased⟩ := List.exists_of_eraseP mem (isOf_iff.2 same)
  rw [erased, shape, List.countP_append, List.countP_append, List.countP_cons, ← isOf_iff.1 is_y]
  simp only [isOf_iff]
  omega

/-- The manager starts without nodes. -/
theorem new_sane : (new : EventMgr σ ι).Sane :=
  ⟨fun _ => List.Pairwise.nil, fun _ _ mem => absurd mem List.not_mem_nil, fun _ => rfl⟩

/-- A list that changes with the retains of a sender. -/
theorem counted_insert (counted : ∀ x, m.retains x = m.held x) (k : Int32) (l : List (Node σ ι)) (fresh : ℕ) (y : σ) (d : ℤ)
    (change : ∀ x, (l.countP (Node.isOf x) : ℤ) = (m.nodes k).countP (Node.isOf x) + if y = x then d else 0) (x : σ) :
    Function.update m.retains y (m.retains y + d) x =
      held ⟨m.mapResponser.insert k l, fresh, Function.update m.retains y (m.retains y + d)⟩ x := by
  have after : held ⟨m.mapResponser.insert k l, fresh, Function.update m.retains y (m.retains y + d)⟩ x +
      (m.nodes k).countP (Node.isOf x) = m.held x + l.countP (Node.isOf x) := held_insert _ _ _ _ _ _
  have before := counted x
  have differ := change x
  rw [Function.update_apply]
  split
  · next same =>
    subst same
    rw [if_pos rfl] at differ
    omega
  · next other =>
    rw [if_neg fun same => other same.symm] at differ
    omega

/-- An operation retains a sender once for each entry it makes, and releases it for each it takes. -/
theorem apply_counted (counted : ∀ x, m.retains x = m.held x) (op : Op σ ι) (x : σ) :
    (m.apply op).retains x = (m.apply op).held x := by
  cases op with
  | register k sender selector =>
    cases sender with
    | none => exact counted x
    | some y =>
      refine counted_insert counted k (m.nodes k ++ [⟨m.fresh, ⟨y, selector⟩⟩]) (m.fresh + 1) y 1 (fun z => ?_) x
      rw [List.countP_append, List.countP_singleton]
      simp only [isOf_iff]
      push_cast
      rfl
  | unRegister k sender =>
    cases sender with
    | none => exact counted x
    | some y =>
      unfold apply
      dsimp only
      rcases m.unRegister_some k y with ⟨found, erased⟩ | ⟨-, same⟩
      · rw [erased]
        refine counted_insert counted k ((m.nodes k).eraseP (Node.isOf y)) m.fresh y (-1) (fun z => ?_) x
        rw [countP_eraseP found z]
        split <;> push_cast <;> ring
      · rw [same]
        exact counted x

/-- A new node goes to the end with the highest number, so the lists stay sorted. -/
theorem edit_ascending {l : List (Node σ ι)} {fresh : ℕ} (asc : Ascending Node.id l) (below : ∀ n ∈ l, n.id < fresh) :
    Ascending Node.id (edit e fresh l op) := by
  unfold edit
  split
  · split
    · exact asc.concat below
    · exact asc
  · split
    · exact asc.sublist List.eraseP_sublist
    · exact asc
  · exact asc
  · exact asc

/-- The nodes after an operation are old ones and perhaps a new one. -/
theorem mem_edit {l : List (Node σ ι)} {fresh : ℕ} (mem : n ∈ edit e fresh l op) :
    n ∈ l ∨ n.id = fresh ∧ op.registers e = true := by
  unfold edit at mem
  split at mem
  · split at mem
    · next here =>
      rcases List.mem_append.1 mem with old | new
      · exact .inl old
      · rw [List.mem_singleton.1 new]
        exact .inr ⟨rfl, by simp [Op.registers, here]⟩
    · exact .inl mem
  · split at mem
    · exact .inl (List.mem_of_mem_eraseP mem)
    · exact .inl mem
  · exact .inl mem
  · exact .inl mem

/-- A registration takes one number. -/
theorem fresh_registers (m : EventMgr σ ι) (e : Int32) (op : Op σ ι) (registers : op.registers e = true) :
    (m.apply op).fresh = m.fresh + 1 := by
  cases op with
  | register k sender selector =>
    cases sender with
    | none => simp [Op.registers] at registers
    | some y => rfl
  | unRegister k sender => cases registers

/-- **One operation** keeps the manager sane. -/
theorem Sane.apply (sane : m.Sane) (op : Op σ ι) : (m.apply op).Sane where
  ascending e := by
    rw [nodes_apply]
    exact edit_ascending (sane.ascending e) (sane.below e)
  below e n mem := by
    rw [nodes_apply] at mem
    rcases mem_edit mem with old | ⟨new, registers⟩
    · exact (sane.below e n old).trans_le (fresh_apply m op)
    · rw [fresh_registers m e op registers, new]
      exact Nat.lt_succ_self _
  counted := apply_counted sane.counted op

/-- A list of operations keeps the manager sane. -/
theorem Sane.applyAll (sane : m.Sane) (ops : List (Op σ ι)) : (m.applyAll ops).Sane := by
  induction ops generalizing m with
  | nil => exact sane
  | cons op ops ih => exact ih (sane.apply op)

theorem fresh_applyAll (m : EventMgr σ ι) (ops : List (Op σ ι)) : m.fresh ≤ (m.applyAll ops).fresh := by
  induction ops generalizing m with
  | nil => exact le_rfl
  | cons op ops ih => exact (fresh_apply m op).trans (ih (m.apply op))

/-- An old node that is not in a list does not come back to it. -/
theorem stays_out {k : ℕ} (old : k < m.fresh) (out : ∀ y ∈ m.nodes e, y.id ≠ k) (ops : List (Op σ ι)) :
    ∀ y ∈ (m.applyAll ops).nodes e, y.id ≠ k := by
  induction ops generalizing m with
  | nil => exact out
  | cons op ops ih =>
    refine ih (old.trans_le (fresh_apply m op)) fun y mem => ?_
    rw [nodes_apply] at mem
    rcases mem_edit mem with before | ⟨new, -⟩
    · exact out y before
    · rw [new]
      exact old.ne'

/-- An old node of a list has been in it before. -/
theorem mem_applyAll {ops : List (Op σ ι)} (mem : n ∈ (m.applyAll ops).nodes e) (old : n.id < m.fresh) :
    n ∈ m.nodes e := by
  induction ops generalizing m with
  | nil => exact mem
  | cons op ops ih =>
    have before : n ∈ (m.apply op).nodes e := ih mem (old.trans_le (fresh_apply m op))
    rw [nodes_apply] at before
    rcases mem_edit before with before | ⟨new, -⟩
    · exact before
    · exact absurd new old.ne

/-- What is ahead of a node grows by what is registered at most. -/
theorem ahead_apply (m : EventMgr σ ι) (e : Int32) (k : ℕ) (op : Op σ ι) :
    (ahead Node.id ((m.apply op).nodes e) k).length ≤
      (ahead Node.id (m.nodes e) k).length + if op.registers e then 1 else 0 := by
  rw [nodes_apply]
  unfold edit
  split
  · split
    · next here =>
      rw [if_pos (by simp [Op.registers, here])]
      exact ahead_length_concat
    · exact Nat.le_add_right _ _
  · split
    · exact (ahead_length_sublist List.eraseP_sublist).trans (Nat.le_add_right _ _)
    · exact Nat.le_add_right _ _
  · exact Nat.le_add_right _ _
  · exact Nat.le_add_right _ _

/-- What is ahead of a node grows by the registrations at most. -/
theorem ahead_applyAll (m : EventMgr σ ι) (e : Int32) (k : ℕ) (ops : List (Op σ ι)) :
    (ahead Node.id ((m.applyAll ops).nodes e) k).length ≤
      (ahead Node.id (m.nodes e) k).length + ops.countP (Op.registers e) := by
  induction ops generalizing m with
  | nil => exact le_rfl
  | cons op ops ih =>
    have one := ahead_apply m e k op
    have more := ih (m.apply op)
    rw [List.countP_cons]
    change (ahead Node.id (((m.apply op).applyAll ops).nodes e) k).length ≤ _
    omega

/-! ## When a node survives -/

/-- The entries of the node's sender. -/
def entries (n : Node σ ι) (l : List (Node σ ι)) : ℕ := l.countP (Node.isOf n.info.sender)

theorem entries_eq_zero {l : List (Node σ ι)} : entries n l = 0 ↔ ∀ z ∈ l, z.info.sender ≠ n.info.sender := by
  unfold entries
  rw [List.countP_eq_zero]
  exact forall₂_congr fun z _ => not_congr isOf_iff

theorem entries_pos {l : List (Node σ ι)} : 0 < entries n l ↔ ∃ z ∈ l, z.info.sender = n.info.sender := by
  unfold entries
  rw [List.countP_pos_iff]
  exact exists_congr fun z => and_congr_right fun _ => isOf_iff

theorem unRegisters_iff : op.unRegisters e x = true ↔ op = .unRegister e (some x) := by
  cases op with
  | register k sender selector => simp [Op.unRegisters]
  | unRegister k sender => simp [Op.unRegisters]

/-- Unregistering the sender of a node takes its first entry away, which is an
earlier one if there is any. -/
theorem edit_earlier {fresh : ℕ} (own : op.unRegisters e n.info.sender = true) (earlier : 0 < entries n front) :
    ∃ front', edit e fresh (front ++ n :: back) op = front' ++ n :: back ∧ entries n front' + 1 = entries n front := by
  rw [unRegisters_iff.1 own]
  obtain ⟨z, mem, same⟩ := entries_pos.1 earlier
  refine ⟨_, (if_pos rfl).trans (List.eraseP_append_left (isOf_iff.2 same) _ mem), ?_⟩
  have less := countP_eraseP ⟨z, mem, same⟩ n.info.sender
  rw [if_pos rfl] at less
  exact less.symm

/-- The first entry of a sender is the one that goes. -/
theorem edit_own {fresh : ℕ} (own : op.unRegisters e n.info.sender = true) (first : entries n front = 0) :
    edit e fresh (front ++ n :: back) op = front ++ back := by
  rw [unRegisters_iff.1 own]
  refine (if_pos rfl).trans ?_
  rw [List.eraseP_append_right _ fun z mem same => entries_eq_zero.1 first z mem (isOf_iff.1 same),
    List.eraseP_cons_of_pos (isOf_iff.2 rfl)]

/-- Any other operation leaves a node and the entries of its sender before it. -/
theorem edit_other {fresh : ℕ} (other : op.unRegisters e n.info.sender = false) :
    ∃ front' back', edit e fresh (front ++ n :: back) op = front' ++ n :: back' ∧ entries n front' = entries n front := by
  cases op with
  | register k sender selector =>
    cases sender with
    | none => exact ⟨front, back, rfl, rfl⟩
    | some y =>
      unfold edit
      dsimp only
      split
      · exact ⟨front, back ++ [⟨fresh, ⟨y, selector⟩⟩], by rw [List.append_assoc, List.cons_append], rfl⟩
      · exact ⟨front, back, rfl, rfl⟩
  | unRegister k sender =>
    cases sender with
    | none => exact ⟨front, back, rfl, rfl⟩
    | some y =>
      unfold edit
      dsimp only
      split
      · next here =>
        have differ : y ≠ n.info.sender := by
          rintro rfl
          simp [Op.unRegisters, here] at other
        by_cases ahead : ∃ z ∈ front, z.info.sender = y
        · have less := countP_eraseP ahead n.info.sender
          rw [if_neg differ] at less
          obtain ⟨z, mem, same⟩ := ahead
          exact ⟨_, back, List.eraseP_append_left (isOf_iff.2 same) _ mem, less.symm⟩
        · have passes : ∀ z ∈ front, ¬ z.isOf y = true :=
            fun z mem same => ahead ⟨z, mem, isOf_iff.1 same⟩
          refine ⟨front, back.eraseP (Node.isOf y), ?_, rfl⟩
          rw [List.eraseP_append_right _ passes, List.eraseP_cons_of_neg fun same => differ (isOf_iff.1 same).symm]
      · exact ⟨front, back, rfl, rfl⟩

/-- **A node survives** as long as its sender has earlier entries to unregister. -/
theorem survives (shape : m.nodes e = front ++ n :: back)
    (enough : ops.countP (Op.unRegisters e n.info.sender) ≤ entries n front) : n ∈ (m.applyAll ops).nodes e := by
  induction ops generalizing m front back with
  | nil =>
    change n ∈ m.nodes e
    rw [shape]
    exact List.mem_append_right front List.mem_cons_self
  | cons op ops ih =>
    have next := nodes_apply m op e
    rw [shape] at next
    rw [List.countP_cons] at enough
    cases own : op.unRegisters e n.info.sender with
    | true =>
      rw [if_pos own] at enough
      have earlier : 0 < entries n front := by omega
      obtain ⟨front', edited, less⟩ := edit_earlier own earlier
      exact ih (next.trans edited) (by omega)
    | false =>
      rw [if_neg (by simp [own])] at enough
      obtain ⟨front', back', edited, same⟩ := edit_other own
      exact ih (next.trans edited) (by omega)

/-- Otherwise it is erased. -/
theorem perishes (sane : m.Sane) (shape : m.nodes e = front ++ n :: back)
    (many : entries n front < ops.countP (Op.unRegisters e n.info.sender)) :
    ∀ y ∈ (m.applyAll ops).nodes e, y.id ≠ n.id := by
  induction ops generalizing m front back with
  | nil => cases many
  | cons op ops ih =>
    have next := nodes_apply m op e
    rw [shape] at next
    rw [List.countP_cons] at many
    cases own : op.unRegisters e n.info.sender with
    | true =>
      rw [if_pos own] at many
      by_cases first : entries n front = 0
      · have old : n.id < m.fresh := by
          refine sane.below e n ?_
          rw [shape]
          exact List.mem_append_right front List.mem_cons_self
        refine stays_out (old.trans_le (fresh_apply m op)) (fun y mem => ?_) ops
        rw [next, edit_own own first] at mem
        have asc := sane.ascending e
        rw [shape] at asc
        obtain ⟨-, later, before⟩ := List.pairwise_append.1 asc
        rcases List.mem_append.1 mem with behind | ahead
        · exact (before y behind n List.mem_cons_self).ne
        · exact ((List.pairwise_cons.1 later).1 y ahead).ne'
      · obtain ⟨front', edited, less⟩ := edit_earlier own (Nat.pos_of_ne_zero first)
        exact ih (sane.apply op) (next.trans edited) (by omega)
    | false =>
      rw [if_neg (by simp [own])] at many
      obtain ⟨front', back', edited, same⟩ := edit_other own
      exact ih (sane.apply op) (next.trans edited) (by omega)

end
end EventMgr

/-! ## The walk -/

namespace Dispatch
section
variable {σ ι : Type} {m n : Node σ ι} {nodes : List (Node σ ι)} {o : Option (Node σ ι)}

/-- An iterator at a node that has been erased cannot advance. -/
theorem advance_erased (erased : ∀ y ∈ nodes, y.id ≠ n.id) : advance nodes n = .undefined := by
  unfold advance
  rw [successor_eq_none erased]

/-- An iterator at a node that is there goes to the next one. -/
theorem advance_present (asc : Ascending Node.id nodes) (present : ∃ y ∈ nodes, y.id = n.id) :
    advance nodes n = arrive (ahead Node.id nodes n.id).head? := by
  obtain ⟨y, mem, same⟩ := present
  unfold advance
  rw [← same, asc.successor_eq mem]

theorem arrive_calling : arrive o = .calling n ↔ o = some n := by
  cases o <;> simp [arrive]

theorem arrive_defined : arrive o ≠ .undefined := by
  cases o <;> simp [arrive]

/-- The iterator goes to the first node ahead, if it can advance at all. -/
theorem advance_eq (asc : Ascending Node.id nodes) (defined : advance nodes n ≠ .undefined) :
    advance nodes n = arrive (ahead Node.id nodes n.id).head? := by
  by_cases erased : ∀ y ∈ nodes, y.id ≠ n.id
  · exact absurd (advance_erased erased) defined
  · exact advance_present asc (by simpa using erased)

/-- The node that an advance arrives at is the first one ahead. -/
theorem advance_calling (asc : Ascending Node.id nodes) (next : advance nodes n = .calling m) :
    (ahead Node.id nodes n.id).head? = some m := by
  have defined : advance nodes n ≠ .undefined := by
    rw [next]
    exact nofun
  exact arrive_calling.1 ((advance_eq asc defined).symm.trans next)

theorem mem_gone {before after : List (Node σ ι)} : n ∈ gone before after ↔ n ∈ before ∧ ∀ y ∈ after, y.id ≠ n.id := by
  unfold gone
  rw [List.mem_filter, List.all_eq_true]
  exact and_congr_right fun _ => forall₂_congr fun y _ => decide_eq_true_iff

end

section
variable {σ ι : Type} [DecidableEq σ] {s t : Dispatch σ ι} {n : Node σ ι} {ops : List (Op σ ι)}

/-- What every callback keeps, harmless or not. -/
structure Inv (s : Dispatch σ ι) : Prop where
  sane : s.mgr.Sane
  here : ∀ n, s.place = .calling n → n ∈ s.mgr.nodes s.eventId
  behind : ∀ n, s.place = .calling n → ∀ c ∈ s.calls, c.id < n.id
  order : s.calls.Pairwise fun a b => a.id < b.id
  out : ∀ n, .removed n ∈ s.log → n.id < s.mgr.fresh ∧ ∀ y ∈ s.mgr.nodes s.eventId, y.id ≠ n.id
  present : s.log.Pairwise fun a b => ∀ n, a = .removed n → b ≠ .called n
  initial : ∀ n ∈ s.initial, s.place ≠ .undefined → n ∈ s.calls ∨ .removed n ∈ s.log ∨
    n ∈ s.mgr.nodes s.eventId ∧ ∃ m, s.place = .calling m ∧ m.id ≤ n.id

/-- A step is the callback of the node that is called. -/
theorem step_some (h : step s ops = some t) : ∃ n, s.place = .calling n ∧ t = s.callback n ops := by
  unfold step at h
  split at h
  · next n here =>
    cases h
    exact ⟨n, here, rfl⟩
  · cases h
  · cases h

omit [DecidableEq σ] in
/-- `Response` starts at the first node, or returns false where there is none. -/
theorem response_place (m : EventMgr σ ι) (e : Int32) : (response m e).place = .returned false ∧ m.nodes e = [] ∨
    (response m e).place = arrive (m.nodes e).head? := by
  unfold response EventMgr.nodes
  dsimp only
  rw [if_pos (show EventMgr.checkEventId e = true from rfl)]
  cases m.mapResponser.lookup e with
  | none => exact .inl ⟨rfl, rfl⟩
  | some l => exact .inr rfl

/-- A call of `Response` starts right. -/
theorem response_inv (m : EventMgr σ ι) (sane : m.Sane) (e : Int32) : Inv (response m e) := by
  have place := response_place m e
  have first : ∀ n, (response m e).place = .calling n → (m.nodes e).head? = some n := by
    intro n here
    rcases place with ⟨returned, -⟩ | arrived
    · cases returned.symm.trans here
    · exact arrive_calling.1 (arrived.symm.trans here)
  refine ⟨sane, fun n here => List.mem_of_head? (first n here), fun n _ c mem => (List.not_mem_nil mem).elim, List.Pairwise.nil,
    fun n mem => (List.not_mem_nil mem).elim, List.Pairwise.nil, fun n mem _ => .inr (.inr ⟨mem, ?_⟩)⟩
  change n ∈ m.nodes e at mem
  rcases place with ⟨-, empty⟩ | arrived
  · rw [empty] at mem
    cases mem
  · obtain ⟨z, rest, shape⟩ : ∃ z rest, m.nodes e = z :: rest := List.exists_cons_of_ne_nil (List.ne_nil_of_mem mem)
    have asc := sane.ascending e
    rw [shape] at arrived mem asc
    refine ⟨z, arrived, ?_⟩
    rcases List.mem_cons.1 mem with rfl | later
    · exact le_rfl
    · exact ((List.pairwise_cons.1 asc).1 n later).le

/-- A callback is called once. -/
theorem calls_callback (s : Dispatch σ ι) (n : Node σ ι) (ops : List (Op σ ι)) :
    (s.callback n ops).calls = s.calls ++ [n] := by
  have silent : ∀ erased : List (Node σ ι), (erased.map .removed).filterMap DispatchEvent.called? = [] := fun erased => by
    refine List.filterMap_eq_nil_iff.2 fun a mem => ?_
    obtain ⟨z, -, rfl⟩ := List.mem_map.1 mem
    rfl
  unfold calls callback
  dsimp only
  rw [List.filterMap_append, List.filterMap_cons, silent]
  rfl

/-- A node that is there before and after stays the same node. -/
theorem stays_in {mgr : EventMgr σ ι} {e : Int32} (sane : mgr.Sane) (present : n ∈ mgr.nodes e)
    (still : ∃ y ∈ (mgr.applyAll ops).nodes e, y.id = n.id) : n ∈ (mgr.applyAll ops).nodes e := by
  obtain ⟨y, mem, same⟩ := still
  have old : y.id < mgr.fresh := by
    rw [same]
    exact sane.below e n present
  rw [← (sane.ascending e).unique (EventMgr.mem_applyAll mem old) present same]
  exact mem

/-- **One callback.** -/
theorem callback_inv (inv : Inv s) (here : s.place = .calling n) (ops : List (Op σ ι)) : Inv (s.callback n ops) := by
  have sane := inv.sane.applyAll ops
  have asc := sane.ascending s.eventId
  have mem := inv.here n here
  have next : ∀ m, (s.callback n ops).place = .calling m →
      m ∈ (s.mgr.applyAll ops).nodes s.eventId ∧ n.id < m.id := fun m calling =>
    mem_ahead.1 (List.mem_of_head? (advance_calling asc calling))
  refine ⟨sane, fun m calling => (next m calling).1, fun m calling c called => ?_, ?_, fun k removed => ?_, ?_,
    fun k initial defined => ?_⟩
  · obtain ⟨-, less⟩ := next m calling
    rw [calls_callback] at called
    rcases List.mem_append.1 called with old | new
    · exact (inv.behind n here c old).trans less
    · rw [List.mem_singleton.1 new]
      exact less
  · rw [calls_callback]
    refine List.pairwise_append.2 ⟨inv.order, List.pairwise_singleton _ n, fun c called d new => ?_⟩
    rw [List.mem_singleton.1 new]
    exact inv.behind n here c called
  · rcases List.mem_append.1 removed with old | new
    · obtain ⟨below, out⟩ := inv.out k old
      exact ⟨below.trans_le (EventMgr.fresh_applyAll _ ops), EventMgr.stays_out below out ops⟩
    · rcases List.mem_cons.1 new with differ | new
      · cases differ
      · obtain ⟨z, erased, same⟩ := List.mem_map.1 new
        cases same
        obtain ⟨was, out⟩ := mem_gone.1 erased
        exact ⟨(inv.sane.below _ _ was).trans_le (EventMgr.fresh_applyAll _ ops), out⟩
  · refine List.pairwise_append.2 ⟨inv.present, List.pairwise_cons.2 ⟨fun b _ k differ => ?_, ?_⟩, fun a old b new k gone_k => ?_⟩
    · cases differ
    · refine List.pairwise_of_forall_mem_list fun a _ b new k _ called => ?_
      obtain ⟨z, -, same⟩ := List.mem_map.1 new
      cases same.trans called
    · rintro rfl
      rw [gone_k] at old
      rcases List.mem_cons.1 new with same | new
      · cases same
        exact (inv.out n old).2 n mem rfl
      · obtain ⟨z, -, same⟩ := List.mem_map.1 new
        cases same
  · -- a node of the start that is still there is called now or is ahead
    change k ∈ s.initial at initial
    rw [calls_callback]
    rcases inv.initial k initial (by rw [here]; exact nofun) with called | removed | ⟨present, m, calling, le⟩
    · exact .inl (List.mem_append_left _ called)
    · exact .inr (.inl (List.mem_append_left _ removed))
    · cases here.symm.trans calling
      by_cases out : ∀ y ∈ (s.mgr.applyAll ops).nodes s.eventId, y.id ≠ k.id
      · refine .inr (.inl (List.mem_append_right _ (List.mem_cons_of_mem _ (List.mem_map_of_mem ?_))))
        exact mem_gone.2 ⟨present, out⟩
      · have still := stays_in inv.sane present (by simpa using out)
        rcases Nat.eq_or_lt_of_le le with same | further
        · rw [(inv.sane.ascending s.eventId).unique mem present same]
          exact .inl (List.mem_append_right _ List.mem_cons_self)
        · have coming : k ∈ ahead Node.id ((s.mgr.applyAll ops).nodes s.eventId) n.id := mem_ahead.2 ⟨still, further⟩
          have place : (s.callback n ops).place = _ := advance_eq asc defined
          cases first : (ahead Node.id ((s.mgr.applyAll ops).nodes s.eventId) n.id).head? with
          | none =>
            rw [List.head?_eq_none_iff.1 first] at coming
            cases coming
          | some z =>
            rw [first] at place
            exact .inr (.inr ⟨still, z, place, asc.head_le first coming⟩)

/-- **It ends**: a callback leaves fewer to come, but for what it registers. -/
theorem callback_left (inv : Inv s) (here : s.place = .calling n) (ops : List (Op σ ι)) :
    (s.callback n ops).left + 1 ≤ s.left + ops.countP (Op.registers s.eventId) := by
  have asc := (inv.sane.applyAll ops).ascending s.eventId
  have more := EventMgr.ahead_applyAll s.mgr s.eventId n.id ops
  have before : s.left = (ahead Node.id (s.mgr.nodes s.eventId) n.id).length + 1 := by rw [left, here]
  rw [before]
  cases place : (s.callback n ops).place with
  | calling m =>
    have after : (s.callback n ops).left = (ahead Node.id ((s.mgr.applyAll ops).nodes s.eventId) m.id).length + 1 := by
      rw [left, place]
      rfl
    have less := ahead_length_head (advance_calling asc place)
    rw [after]
    omega
  | returned result =>
    have after : (s.callback n ops).left = 0 := by rw [left, place]
    omega
  | undefined =>
    have after : (s.callback n ops).left = 0 := by rw [left, place]
    omega

/-- Every callback moves the iterator ahead, so only registrations can prolong the call. -/
theorem Inv.ends (inv : Inv s) (as : List (List (Op σ ι))) (run : exec step s as = some t) :
    as.length ≤ s.left + as.flatten.countP (Op.registers s.eventId) := by
  induction as generalizing s with
  | nil => exact Nat.zero_le _
  | cons ops as ih =>
    obtain ⟨s', first, rest⟩ := exec_cons_eq_some.1 run
    obtain ⟨n, here, rfl⟩ := step_some first
    have more := ih (callback_inv inv here ops) rest
    have less := callback_left inv here ops
    change as.length ≤ _ + as.flatten.countP (Op.registers s.eventId) at more
    rw [List.flatten_cons, List.countP_append, List.length_cons]
    omega

/-- Under the invariant only the undefined advance breaks the contract. -/
theorem Inv.dispatched_iff (inv : Inv s) : Dispatched s ↔ s.place ≠ .undefined := by
  refine ⟨Dispatched.defined, fun defined => ⟨defined, inv.order, inv.present, fun n initial past => ?_,
    fun as t run => inv.ends as run, inv.sane.counted⟩⟩
  rcases inv.initial n initial defined with called | removed | ⟨-, m, calling, le⟩
  · exact .inl called
  · exact .inr removed
  · unfold Past at past
    rw [calling] at past
    exact absurd past (Nat.not_lt.2 le)

/-- **A callback** is followed by a defined advance exactly when it spares its own node. -/
theorem callback_defined_iff (inv : Inv s) (here : s.place = .calling n) (ops : List (Op σ ι)) :
    (s.callback n ops).place ≠ .undefined ↔ s.Spares ops := by
  have asc := (inv.sane.applyAll ops).ascending s.eventId
  obtain ⟨back, shape⟩ := (inv.sane.ascending s.eventId).split (inv.here n here)
  have spares : s.Spares ops ↔ ops.countP (Op.unRegisters s.eventId n.info.sender) ≤
      EventMgr.entries n (behind Node.id (s.mgr.nodes s.eventId) n.id) := by
    unfold Spares
    rw [here]
    rfl
  change advance ((s.mgr.applyAll ops).nodes s.eventId) n ≠ .undefined ↔ _
  rw [spares]
  by_cases enough : ops.countP (Op.unRegisters s.eventId n.info.sender) ≤
      EventMgr.entries n (behind Node.id (s.mgr.nodes s.eventId) n.id)
  · refine iff_of_true ?_ enough
    rw [advance_present asc ⟨n, EventMgr.survives shape enough, rfl⟩]
    exact arrive_defined
  · refine iff_of_false (fun defined => defined ?_) enough
    exact advance_erased (EventMgr.perishes inv.sane shape (Nat.not_le.1 enough))

/-- **Which calls of `Response` meet the contract**, from any state that
`Register` and `UnRegister` have built: those whose callbacks are all harmless. -/
theorem dispatched_iff_spares (built : List (Op σ ι)) (eventId : Int32) (as : List (List (Op σ ι))) (s : Dispatch σ ι)
    (run : exec step (response (EventMgr.new.applyAll built) eventId) as = some s) :
    Through step Dispatched (response (EventMgr.new.applyAll built) eventId) as ↔
      Along step Spares (response (EventMgr.new.applyAll built) eventId) as := by
  have inv := response_inv _ (EventMgr.new_sane.applyAll built) eventId
  refine through_iff_along (J := Inv) (fun t ops t' inv _ h => ?_) (fun t ops t' inv _ h => ?_) inv ?_ run
  · obtain ⟨n, here, rfl⟩ := step_some h
    exact callback_inv inv here ops
  · obtain ⟨n, here, rfl⟩ := step_some h
    rw [(callback_inv inv here ops).dispatched_iff]
    exact callback_defined_iff inv here ops
  · rw [inv.dispatched_iff]
    rcases response_place (EventMgr.new.applyAll built) eventId with ⟨returned, -⟩ | arrived
    · rw [returned]
      exact nofun
    · rw [arrived]
      exact arrive_defined

/-- Three responders of one event. -/
def three : List (Op String String) :=
  [.register 1 (some "menu") "open", .register 1 (some "item") "show", .register 1 (some "panel") "show"]

theorem dispatched_iff_spares_three :
    Through step Dispatched (response (EventMgr.new.applyAll three) 1)
      [[.unRegister 1 (some "item")], [.register 1 (some "menu") "close"], []] :=
  (dispatched_iff_spares three 1 _ _ rfl).2 (by decide +kernel)

/-- The first responder unregisters itself. -/
theorem undispatched_own :
    ¬ Through step Dispatched (response (EventMgr.new.applyAll three) 1) [[.unRegister 1 (some "menu")]] :=
  fun through => (through.last rfl).defined rfl

end
end Dispatch
end Crazyass.Client
