import Crazyass.Client.Delegate

/-!
# Items of the play scene

`PlayScene` of `play_scene.cpp`, as far as an item button reaches: the request
it sends, the reply that `CARecv` takes the command from, and the effect that
`CARecvDone` executes at a later tick of `update`. The scene remembers the kind
of item in `property_state_` and the last command in `cmd_`, which no
constructor sets.

`Play` is the scene with the delegate it sends through. The contract is that
the effects executed are those of the items paid for.
-/

namespace Crazyass.Client
open Sys

inductive Touch where
  | began | moved | ended | canceled
deriving DecidableEq, Repr

inductive Item where
  | finger | replay
deriving DecidableEq, Repr

/-- What the scene sends: `onUseFinger` and `onUseReplay`, or `SendEndPlay`. -/
inductive PlayRequest where
  | item (item : Item)
  | endPlay
deriving DecidableEq, Repr

def PlayRequest.cmd : PlayRequest → Int32
  | .item _ => 6
  | .endPlay => 3

def PlayRequest.item? : PlayRequest → Option Item
  | .item x => some x
  | .endPlay => none

/-- `scheduled` tells whether `update` is. -/
structure PlayScene where
  stageid : Int32
  propertyState : Int32
  cmd : Int32
  beBack : Bool
  scheduled : Bool
deriving DecidableEq, Repr

namespace PlayScene

/-- The scene after `onEnter`, with whatever `cmd_` holds. -/
def onEnter (stageid cmd : Int32) : PlayScene := ⟨stageid, -1, cmd, false, false⟩

/-- The `itemid` of a request, which `property_state_` is set to. -/
def itemid (s : PlayScene) : Item → Int32
  | .finger => 7
  | .replay => s.stageid

/-- `CARecv`; what it writes into the user is left to the user's model. -/
def caRecv (s : PlayScene) (errCode cmd : Int32) : PlayScene :=
  if errCode ≠ 0 then s else { s with cmd }

/-- The effect `CARecvDone` chooses: `ShowWrongCard`, or `ReStartSubStage`
followed by `StartSubStage`. -/
def effect (s : PlayScene) : Item := if s.propertyState = 7 then .finger else .replay

/-- `CARecvDone`: the scene, and the effect executed. -/
def caRecvDone (s : PlayScene) : PlayScene × Option Item :=
  if s.cmd = 3 then ({ s with beBack := true }, none)
  else if s.cmd = 6 then ({ s with propertyState := -1 }, some s.effect)
  else (s, none)

def unschedule (s : PlayScene) : PlayScene := { s with scheduled := false }

/-- `CARecvTimeout`. -/
def caRecvTimeout (s : PlayScene) : PlayScene := s.unschedule

theorem caRecvDone_other {s : PlayScene} (other : s.cmd ≠ 6) : s.caRecvDone.2 = none := by
  unfold caRecvDone
  split
  · rfl
  · rfl

theorem caRecvDone_item {s : PlayScene} (item : s.cmd = 6) : s.caRecvDone.2 = some s.effect := by
  unfold caRecvDone
  rw [if_neg (by rw [item]; decide), if_pos item]

end PlayScene

/-! ## The scene and its delegate -/

structure PlaySent where
  request : PlayRequest
  seq : Int32
deriving DecidableEq, Repr

/-- `answers` lists the requests answered with their `ErrCode`, `cause` is the
request whose reply `CARecv` was last called with, and `effects` lists the
effects executed with the `cause` each had. -/
structure Play where
  scene : PlayScene
  delegate : MyDelegate Unit
  sent : List PlaySent
  answers : List (ℕ × Int32)
  cause : Option ℕ
  effects : List (Item × Option ℕ)
deriving DecidableEq, Repr

/-- `lapse` is the scheduler dropping `update`, which is scheduled for a
limited number of repeats. -/
inductive PlayStep where
  | use (item : Item) (e : Touch)
  | sendEndPlay
  | tick
  | lapse
  | reply (request : ℕ) (errCode : Int32)
deriving DecidableEq, Repr

namespace Play

def start (stageid cmd : Int32) (delegate : MyDelegate Unit) : Play :=
  ⟨.onEnter stageid cmd, delegate, [], [], none, []⟩

def answered (s : Play) (i : ℕ) : Bool := s.answers.any (·.1 = i)

/-- `SendServer` with the scene as the target, and `schedule`. -/
def send (s : Play) (request : PlayRequest) : Play :=
  { s with
    scene := { s.scene with scheduled := true }
    delegate := s.delegate.sendServer (some ())
    sent := s.sent ++ [⟨request, s.delegate.seq⟩] }

/-- `onUseFinger` and `onUseReplay`. -/
def use (s : Play) (item : Item) : Play :=
  { s with scene := { s.scene with propertyState := s.scene.itemid item } }.send (.item item)

/-- `update`; none where `CheckRecv` calls through a null pointer. -/
def update (s : Play) : Option Play :=
  match s.delegate.checkRecv with
  | (d, .waiting) => some { s with delegate := d }
  | (d, .timeout _) => some { s with delegate := d, scene := s.scene.caRecvTimeout }
  | (d, .done none) => some { s with delegate := d, scene := s.scene.unschedule }
  | (d, .done (some _)) =>
    let (scene, effect) := s.scene.caRecvDone
    some
      { s with
        delegate := d
        scene := scene.unschedule
        effects := s.effects ++ effect.toList.map fun item => (item, s.cause) }
  | (_, .nullCall) => none

/-- A reply with the request's `Seq` and `Cmd` comes in. -/
def receive (s : Play) (i : ℕ) (r : PlaySent) (errCode : Int32) : Play :=
  let s := { s with answers := s.answers ++ [(i, errCode)] }
  match s.delegate.onMessage r.seq with
  | (d, some _) => { s with delegate := d, scene := s.scene.caRecv errCode r.request.cmd, cause := some i }
  | (d, none) => { s with delegate := d }

def step (s : Play) : PlayStep → Option Play
  | .use item e => some (if e = .began then s else s.use item)
  | .sendEndPlay => some (s.send .endPlay)
  | .tick => if s.scene.scheduled then s.update else none
  | .lapse => if s.scene.scheduled then some { s with scene := s.scene.unschedule } else none
  | .reply i errCode =>
    match s.sent[i]? with
    | none => none
    | some r => if s.answered i then none else some (s.receive i r errCode)

/-! ## The contract -/

/-- The item a request with this answer has paid for. -/
def paidItem (s : Play) (a : ℕ × Int32) : Option (ℕ × Item) :=
  if a.2 = 0 then (s.sent[a.1]?.bind fun r => r.request.item?).map fun item => (a.1, item) else none

/-- The item requests answered with `ErrCode` 0. -/
def paid (s : Play) : List (ℕ × Item) := s.answers.filterMap s.paidItem

/-- The next tick executes the effect of this request. -/
def Due (s : Play) (p : ℕ × Item) : Prop :=
  s.scene.scheduled = true ∧ s.delegate.recvflag = true ∧ s.scene.cmd = 6 ∧ s.scene.effect = p.2 ∧ s.cause = some p.1

/-- **The contract**: every effect is that of a paid request, no request has
two, and a paid request has had its effect or the next tick executes it. -/
structure Contract (s : Play) : Prop where
  paid : ∀ e ∈ s.effects, ∃ i, e.2 = some i ∧ (i, e.1) ∈ s.paid
  once : (s.effects.map Prod.snd).Nodup
  served : ∀ p ∈ s.paid, (p.2, some p.1) ∈ s.effects ∨ s.Due p

/-- The paid requests that have not had their effect. -/
def owed (s : Play) : List (ℕ × Item) := s.paid.filter fun p => (p.2, some p.1) ∉ s.effects

/-- The reply to `r` would be passed to the scene. -/
def Passes (s : Play) (r : PlaySent) : Prop := (s.delegate.onMessage r.seq).2 = some ()

instance (s : Play) (r : PlaySent) : Decidable (s.Passes r) := inferInstanceAs (Decidable (_ = _))

/-- A reply comes in while nothing is owed that it would displace; and one that
pays for an item is passed to the scene while `update` is scheduled and
`property_state_` tells that item. -/
def CarefulReply (s : Play) (r : PlaySent) (errCode : Int32) : Prop :=
  (s.Passes r → s.owed = []) ∧
    (errCode = 0 → ∀ item ∈ r.request.item?, s.Passes r ∧ s.scene.scheduled = true ∧ s.scene.effect = item)

instance (s : Play) (r : PlaySent) (e : Int32) : Decidable (s.CarefulReply r e) := inferInstanceAs (Decidable (_ ∧ _))

/-- No request is sent and `update` is not dropped while an effect is owed; a
tick finds `cmd_` 6 after a reply only if an effect is owed. -/
def Careful (s : Play) : PlayStep → Prop
  | .use _ e => e = .began ∨ s.owed = []
  | .sendEndPlay => s.owed = []
  | .tick => s.delegate.recvflag = true → s.scene.cmd = 6 → s.owed ≠ []
  | .lapse => s.owed = []
  | .reply i errCode => ∀ r ∈ s.sent[i]?, s.CarefulReply r errCode

instance (s : Play) : ∀ a, Decidable (s.Careful a)
  | .use _ _ => inferInstanceAs (Decidable (_ ∨ _))
  | .sendEndPlay => inferInstanceAs (Decidable (_ = _))
  | .tick => inferInstanceAs (Decidable (_ → _))
  | .lapse => inferInstanceAs (Decidable (_ = _))
  | .reply i errCode => inferInstanceAs (Decidable (∀ r ∈ s.sent[i]?, s.CarefulReply r errCode))

/-! ## Exactness -/

variable {s t : Play} {i : ℕ} {item : Item} {errCode : Int32}

theorem mem_paid : (i, item) ∈ s.paid ↔ (i, 0) ∈ s.answers ∧ ∃ r, s.sent[i]? = some r ∧ r.request.item? = some item := by
  unfold paid
  rw [List.mem_filterMap]
  constructor
  · rintro ⟨⟨j, e⟩, answered, paid⟩
    unfold paidItem at paid
    split at paid
    · next zero =>
      obtain ⟨x, found, pair⟩ := Option.map_eq_some_iff.1 paid
      cases pair
      cases (zero : e = 0)
      exact ⟨answered, Option.bind_eq_some_iff.1 found⟩
    · cases paid
  · rintro ⟨answered, found⟩
    refine ⟨(i, 0), answered, ?_⟩
    unfold paidItem
    rw [if_pos rfl, Option.bind_eq_some_iff.2 found]
    rfl

/-- A request pays for one item. -/
theorem paid_item {item' : Item} (h : (i, item) ∈ s.paid) (h' : (i, item') ∈ s.paid) : item = item' := by
  obtain ⟨-, r, found, kind⟩ := mem_paid.1 h
  obtain ⟨-, r', found', kind'⟩ := mem_paid.1 h'
  cases found.symm.trans found'
  exact Option.some.inj (kind.symm.trans kind')

theorem mem_owed {p : ℕ × Item} : p ∈ s.owed ↔ p ∈ s.paid ∧ (p.2, some p.1) ∉ s.effects := by
  unfold owed
  rw [List.mem_filter, decide_eq_true_iff]

theorem owed_eq_nil : s.owed = [] ↔ ∀ p ∈ s.paid, (p.2, some p.1) ∈ s.effects := by
  unfold owed
  rw [List.filter_eq_nil_iff]
  simp only [decide_eq_true_iff, not_not]

/-- A step after which nothing is due keeps the contract if nothing was owed. -/
theorem contract_idle (contract : Contract s) (effects : t.effects = s.effects) (paid : t.paid = s.paid)
    (idle : ∀ p ∈ s.owed, ¬ t.Due p) : Contract t ↔ s.owed = [] := by
  constructor
  · intro kept
    rw [owed_eq_nil]
    intro p hp
    by_contra not_yet
    rcases kept.served p (paid ▸ hp) with done | due
    · exact not_yet (effects ▸ done)
    · exact idle p (mem_owed.2 ⟨hp, not_yet⟩) due
  · intro none_owed
    refine ⟨?_, effects ▸ contract.once, ?_⟩
    · rw [effects, paid]
      exact contract.paid
    · intro p hp
      rw [paid] at hp
      rw [effects]
      exact .inl (owed_eq_nil.1 none_owed p hp)

/-- With nothing owed the contract reads the effects and the payments only. -/
theorem contract_rest (contract : Contract s) (settled : s.owed = []) (effects : t.effects = s.effects)
    (paid : t.paid = s.paid) : Contract t := by
  have none_due : ∀ p ∈ s.owed, ¬ t.Due p := by simp [settled]
  exact (contract_idle contract effects paid none_due).2 settled

/-- What every step keeps, whatever becomes of the contract. -/
structure Inv (s : Play) : Prop where
  target : s.scene.scheduled = true → s.delegate.target = some ()
  known : ∀ a ∈ s.answers, a.1 < s.sent.length
  cause : ∀ i, s.cause = some i → s.answered i = true

/-- The scene starts with nothing sent. -/
theorem start_inv (stageid cmd : Int32) (delegate : MyDelegate Unit) : Inv (start stageid cmd delegate) where
  target scheduled := by cases scheduled
  known a ha := by cases ha
  cause i hi := by cases hi

/-- Nothing is owed at the start. -/
theorem start_contract (stageid cmd : Int32) (delegate : MyDelegate Unit) : Contract (start stageid cmd delegate) where
  paid e he := by cases he
  once := List.nodup_nil
  served p hp := by cases hp

theorem send_inv (inv : Inv s) (request : PlayRequest) : Inv (s.send request) where
  target _ := rfl
  known a ha := by
    have inside := inv.known a ha
    simp only [send, List.length_append]
    omega
  cause := inv.cause

/-- The requests answered are where they were. -/
theorem send_paid (inv : Inv s) (request : PlayRequest) : (s.send request).paid = s.paid := by
  apply List.filterMap_congr
  intro a ha
  have same : (s.send request).sent[a.1]? = s.sent[a.1]? := List.getElem?_append_left (inv.known a ha)
  unfold paidItem
  rw [same]

/-- A request keeps the contract exactly when no effect is owed. -/
theorem send_contract (inv : Inv s) (contract : Contract s) (request : PlayRequest) :
    Contract (s.send request) ↔ s.owed = [] := by
  apply contract_idle (t := s.send request) contract rfl (send_paid inv request)
  rintro p - ⟨-, received, -⟩
  cases received

/-- `property_state_` is set before the request goes out. -/
theorem Inv.remember (inv : Inv s) (item : Item) :
    Inv { s with scene := { s.scene with propertyState := s.scene.itemid item } } :=
  ⟨inv.target, inv.known, inv.cause⟩

/-- The use of an item keeps the contract exactly when no effect is owed. -/
theorem use_contract (inv : Inv s) (contract : Contract s) (item : Item) : Contract (s.use item) ↔ s.owed = [] := by
  apply contract_idle (t := s.use item) contract rfl (send_paid (inv.remember item) (.item item))
  rintro p - ⟨-, received, -⟩
  cases received

/-! ### Ticks -/

theorem Contract.due (contract : Contract s) {p : ℕ × Item} (hp : p ∈ s.owed) : s.Due p := by
  obtain ⟨paid, not_yet⟩ := mem_owed.1 hp
  exact (contract.served p paid).resolve_left not_yet

/-- Where no effect can be due, none is owed. -/
theorem Contract.settled (contract : Contract s) (none_due : ∀ p, ¬ s.Due p) : s.owed = [] := by
  apply List.eq_nil_iff_forall_not_mem.2
  intro p hp
  exact none_due p (contract.due hp)

/-- The two ends of `update`: no reply has come in, or `CARecvDone` is called. -/
theorem update_cases (target : s.delegate.target = some ()) (h : s.update = some t) :
    (s.delegate.recvflag = false ∧ ∃ d scene, t = { s with delegate := d, scene } ∧ d.target = s.delegate.target) ∨
      (s.delegate.recvflag = true ∧
        t = { s with
          scene := s.scene.caRecvDone.1.unschedule
          effects := s.effects ++ s.scene.caRecvDone.2.toList.map fun item => (item, s.cause) }) := by
  unfold update at h
  cases flag : s.delegate.recvflag with
  | true =>
    rw [MyDelegate.checkRecv_received flag, target] at h
    cases h
    exact .inr ⟨rfl, rfl⟩
  | false =>
    have kept := s.delegate.checkRecv_fst.1
    have not_done : ∀ d x, s.delegate.checkRecv ≠ (d, .done x) := by
      intro d x same
      unfold MyDelegate.checkRecv at same
      rw [flag] at same
      simp only [Bool.false_eq_true, if_false] at same
      split at same
      · split at same <;> cases same
      · cases same
    split at h
    · next d checked =>
      cases h
      rw [checked] at kept
      exact .inl ⟨rfl, d, s.scene, rfl, kept⟩
    · next d _ checked =>
      cases h
      rw [checked] at kept
      exact .inl ⟨rfl, d, _, rfl, kept⟩
    · next d checked => exact absurd checked (not_done d none)
    · next d x checked => exact absurd checked (not_done d (some x))
    · cases h

/-- `CARecvDone` executes an effect. -/
theorem effect_contract (contract : Contract s) (scene : PlayScene) :
    Contract { s with scene, effects := s.effects ++ [(s.scene.effect, s.cause)] } ↔ s.owed ≠ [] := by
  constructor
  · intro kept none_owed
    obtain ⟨i, cause, paid⟩ := kept.paid (s.scene.effect, s.cause) (by simp)
    have new : s.cause ∉ s.effects.map Prod.snd := by
      have once := kept.once
      rw [List.map_append, List.nodup_append] at once
      intro old
      exact once.2.2 _ old _ (List.mem_singleton.2 rfl) rfl
    apply new
    have done := owed_eq_nil.1 none_owed (i, s.scene.effect) paid
    rw [show s.cause = some i from cause]
    exact List.mem_map_of_mem done
  · intro some_owed
    obtain ⟨p, hp⟩ := List.exists_mem_of_ne_nil _ some_owed
    obtain ⟨-, -, -, kind, cause⟩ := contract.due hp
    obtain ⟨paid, not_yet⟩ := mem_owed.1 hp
    refine ⟨?_, ?_, ?_⟩
    · intro e he
      rcases List.mem_append.1 he with old | new
      · exact contract.paid e old
      · rw [List.mem_singleton.1 new]
        exact ⟨p.1, cause, kind ▸ paid⟩
    · rw [List.map_append, List.nodup_append]
      refine ⟨contract.once, List.nodup_singleton _, ?_⟩
      rintro a old b new rfl
      obtain ⟨⟨k, c⟩, he, rfl⟩ := List.mem_map.1 old
      obtain ⟨j, same, paid'⟩ := contract.paid _ he
      have hj : some j = some p.1 := (same.symm.trans (List.mem_singleton.1 new)).trans cause
      cases hj
      cases paid_item paid' paid
      exact not_yet (same ▸ he)
    · intro q hq
      rcases contract.served q hq with done | ⟨-, -, -, kind', cause'⟩
      · exact .inl (List.mem_append_left _ done)
      · refine .inl (List.mem_append_right _ (List.mem_singleton.2 ?_))
        rw [kind', cause']

/-- A tick keeps the contract exactly when an effect that it starts is owed. -/
theorem update_contract (contract : Contract s) (target : s.delegate.target = some ()) (h : s.update = some t) :
    Contract t ↔ (s.delegate.recvflag = true → s.scene.cmd = 6 → s.owed ≠ []) := by
  rcases update_cases target h with ⟨silent, d, scene, rfl, -⟩ | ⟨received, rfl⟩
  · have settled : s.owed = [] := contract.settled fun p due => by
      rw [due.2.1] at silent
      cases silent
    apply iff_of_true
    · exact contract_rest contract settled rfl rfl
    · intro received
      rw [silent] at received
      cases received
  · by_cases item : s.scene.cmd = 6
    · rw [PlayScene.caRecvDone_item item]
      exact (effect_contract contract _).trans ⟨fun owed _ _ => owed, fun h => h received item⟩
    · have settled : s.owed = [] := contract.settled fun p due => item due.2.2.1
      rw [PlayScene.caRecvDone_other item, Option.toList_none, List.map_nil, List.append_nil]
      apply iff_of_true
      · exact contract_rest contract settled rfl rfl
      · exact fun _ h => absurd h item

/-! ### Replies -/

theorem receive_passes {r : PlaySent} (passes : s.Passes r) :
    s.receive i r errCode =
      { s with
        answers := s.answers ++ [(i, errCode)]
        delegate := { s.delegate with recvflag := true }
        scene := s.scene.caRecv errCode r.request.cmd
        cause := some i } := by
  unfold receive
  dsimp only
  rw [MyDelegate.onMessage_some passes]

theorem receive_dropped {r : PlaySent} (dropped : ¬ s.Passes r) :
    s.receive i r errCode = { s with answers := s.answers ++ [(i, errCode)] } := by
  have none_called : (s.delegate.onMessage r.seq).2 = none := by
    cases passed : (s.delegate.onMessage r.seq).2 with
    | none => rfl
    | some _ => exact absurd passed dropped
  unfold receive
  dsimp only
  rw [MyDelegate.onMessage_none none_called]

/-- What a reply pays for. -/
theorem paid_answer : { s with answers := s.answers ++ [(i, errCode)] }.paid = s.paid ++ (s.paidItem (i, errCode)).toList := by
  have one : [(i, errCode)].filterMap s.paidItem = (s.paidItem (i, errCode)).toList := by
    cases h : s.paidItem (i, errCode) <;> simp [h]
  rw [← one]
  exact List.filterMap_append

theorem mem_paidItem {r : PlaySent} (found : s.sent[i]? = some r) {p : ℕ × Item} :
    p ∈ (s.paidItem (i, errCode)).toList ↔ errCode = 0 ∧ ∃ item ∈ r.request.item?, p = (i, item) := by
  unfold paidItem
  rw [found, Option.mem_toList]
  split
  · next zero =>
    rw [Option.bind_some, Option.map_eq_some_iff]
    exact ⟨fun ⟨x, kind, pair⟩ => ⟨zero, x, kind, pair.symm⟩, fun ⟨_, x, kind, pair⟩ => ⟨x, kind, pair.symm⟩⟩
  · next other => exact iff_of_false (by simp) fun h => other h.1

/-- After an answer the contract is a matter of what is due. -/
theorem contract_answered {new : List (ℕ × Item)} (contract : Contract s) (effects : t.effects = s.effects)
    (paid : t.paid = s.paid ++ new) :
    Contract t ↔ (∀ p ∈ s.paid, (p.2, some p.1) ∈ s.effects ∨ t.Due p) ∧
      ∀ p ∈ new, (p.2, some p.1) ∈ s.effects ∨ t.Due p := by
  rw [← List.forall_mem_append, ← paid, ← effects]
  refine ⟨Contract.served, fun served => ⟨?_, effects ▸ contract.once, served⟩⟩
  rw [effects, paid]
  intro e he
  obtain ⟨i, cause, old⟩ := contract.paid e he
  exact ⟨i, cause, List.mem_append_left _ old⟩

/-- A request that is not answered has paid for nothing and caused nothing. -/
theorem Inv.fresh (inv : Inv s) (unanswered : s.answered i = false) :
    (∀ p ∈ s.paid, p.1 ≠ i) ∧ s.cause ≠ some i := by
  constructor
  · rintro ⟨j, item⟩ paid rfl
    obtain ⟨answer, -⟩ := mem_paid.1 paid
    have seen : s.answered j = true := List.any_eq_true.2 ⟨(j, 0), answer, by simp⟩
    rw [unanswered] at seen
    cases seen
  · intro cause
    have seen := inv.cause i cause
    rw [unanswered] at seen
    cases seen

theorem cmd_item {r : PlayRequest} (h : r.item? = some item) : r.cmd = 6 := by
  cases r with
  | item _ => rfl
  | endPlay => cases h

@[simp] theorem caRecv_scheduled (c : PlayScene) (e cmd : Int32) : (c.caRecv e cmd).scheduled = c.scheduled := by
  unfold PlayScene.caRecv
  split <;> rfl

@[simp] theorem caRecv_effect (c : PlayScene) (e cmd : Int32) : (c.caRecv e cmd).effect = c.effect := by
  unfold PlayScene.caRecv
  split <;> rfl

/-- A reply keeps the contract exactly when it is careful. -/
theorem receive_contract {r : PlaySent} (inv : Inv s) (contract : Contract s) (found : s.sent[i]? = some r)
    (unanswered : s.answered i = false) : Contract (s.receive i r errCode) ↔ s.CarefulReply r errCode := by
  obtain ⟨fresh, cause⟩ := inv.fresh unanswered
  have no_effect : ∀ k, (k, some i) ∉ s.effects := by
    intro k he
    obtain ⟨j, same, paid⟩ := contract.paid _ he
    cases same
    exact fresh _ paid rfl
  by_cases passes : s.Passes r
  · rw [receive_passes passes]
    refine Iff.trans (contract_answered contract rfl paid_answer) (and_congr ?_ ?_)
    · -- the reply takes the place of the one an older effect waits for
      rw [imp_iff_right passes, owed_eq_nil]
      apply forall₂_congr
      intro p hp
      apply or_iff_left
      rintro ⟨-, -, -, -, same⟩
      exact fresh p hp (Option.some.inj same).symm
    · constructor
      · rintro due rfl item kind
        rcases due (i, item) ((mem_paidItem found).2 ⟨rfl, item, kind, rfl⟩) with done | ⟨scheduled, -, -, effect, -⟩
        · exact absurd done (no_effect item)
        · exact ⟨passes, by simpa using scheduled, by simpa using effect⟩
      · rintro careful p hp
        obtain ⟨rfl, item, kind, rfl⟩ := (mem_paidItem found).1 hp
        obtain ⟨-, scheduled, effect⟩ := careful rfl item kind
        exact .inr ⟨by simpa using scheduled, rfl, cmd_item kind, by simpa using effect, rfl⟩
  · rw [receive_dropped passes]
    refine Iff.trans (contract_answered contract rfl paid_answer) (and_congr ?_ ?_)
    · exact iff_of_true (fun p hp => contract.served p hp) fun h => absurd h passes
    · constructor
      · rintro due rfl item kind
        rcases due (i, item) ((mem_paidItem found).2 ⟨rfl, item, kind, rfl⟩) with done | ⟨-, -, -, -, same⟩
        · exact absurd done (no_effect item)
        · exact absurd same cause
      · rintro careful p hp
        obtain ⟨rfl, item, kind, rfl⟩ := (mem_paidItem found).1 hp
        exact absurd (careful rfl item kind).1 passes

/-! ### Runs -/

theorem step_reply : step s (.reply i errCode) = some t ↔
    ∃ r, s.sent[i]? = some r ∧ s.answered i = false ∧ t = s.receive i r errCode := by
  simp only [step]
  cases found : s.sent[i]? with
  | none => simp
  | some r => cases s.answered i <;> simp [eq_comm (a := t)]

theorem step_tick : step s .tick = some t ↔ s.scene.scheduled = true ∧ s.update = some t := by
  simp [step]

theorem step_lapse : step s .lapse = some t ↔ s.scene.scheduled = true ∧ t = { s with scene := s.scene.unschedule } := by
  cases scheduled : s.scene.scheduled <;> simp [step, scheduled, eq_comm (a := t)]

/-- **One step** keeps the contract exactly when it is careful. -/
theorem step_contract {a : PlayStep} (inv : Inv s) (contract : Contract s) (h : step s a = some t) :
    Contract t ↔ s.Careful a := by
  cases a with
  | use item e =>
    cases h
    by_cases began : e = .began
    · rw [if_pos began]
      exact iff_of_true contract (.inl began)
    · rw [if_neg began]
      exact (use_contract inv contract item).trans (or_iff_right began).symm
  | sendEndPlay =>
    cases h
    exact send_contract inv contract .endPlay
  | tick =>
    obtain ⟨scheduled, update⟩ := step_tick.1 h
    exact update_contract contract (inv.target scheduled) update
  | lapse =>
    obtain ⟨-, rfl⟩ := step_lapse.1 h
    refine contract_idle contract rfl rfl ?_
    rintro p - ⟨scheduled, -⟩
    cases scheduled
  | reply i errCode =>
    obtain ⟨r, found, unanswered, rfl⟩ := step_reply.1 h
    refine (receive_contract inv contract found unanswered).trans ?_
    simp [Careful, found]

/-- A reply keeps the invariant. -/
theorem receive_inv {r : PlaySent} (inv : Inv s) (found : s.sent[i]? = some r) : Inv (s.receive i r errCode) := by
  have known : ∀ a ∈ s.answers ++ [(i, errCode)], a.1 < s.sent.length := by
    intro a ha
    rcases List.mem_append.1 ha with old | new
    · exact inv.known a old
    · rw [List.mem_singleton.1 new]
      exact (List.getElem?_eq_some_iff.1 found).1
  have seen : ∀ j, s.answered j = true ∨ j = i → (s.answers ++ [(i, errCode)]).any (·.1 = j) = true := by
    rintro j (old | rfl)
    · rw [List.any_append, show s.answers.any (·.1 = j) = true from old, Bool.true_or]
    · simp
  by_cases passes : s.Passes r
  · rw [receive_passes passes]
    exact ⟨fun scheduled => inv.target (by simpa using scheduled), known, fun j same => seen j (.inr (by simpa using same.symm))⟩
  · rw [receive_dropped passes]
    exact ⟨inv.target, known, fun j same => seen j (.inl (inv.cause j same))⟩

/-- **One step** keeps the invariant. -/
theorem step_inv {a : PlayStep} (inv : Inv s) (h : step s a = some t) : Inv t := by
  cases a with
  | use item e =>
    cases h
    split
    · exact inv
    · exact send_inv (inv.remember item) (.item item)
  | sendEndPlay =>
    cases h
    exact send_inv inv .endPlay
  | tick =>
    obtain ⟨scheduled, update⟩ := step_tick.1 h
    have target := inv.target scheduled
    rcases update_cases target update with ⟨-, d, scene, rfl, same⟩ | ⟨-, rfl⟩
    · exact ⟨fun _ => same.trans target, inv.known, inv.cause⟩
    · exact ⟨fun _ => target, inv.known, inv.cause⟩
  | lapse =>
    obtain ⟨scheduled, rfl⟩ := step_lapse.1 h
    exact ⟨fun _ => inv.target scheduled, inv.known, inv.cause⟩
  | reply i errCode =>
    obtain ⟨r, found, -, rfl⟩ := step_reply.1 h
    exact receive_inv inv found

/-- **When the effects are those paid for**: the contract holds in every state
of a run exactly when every step of it is careful. -/
theorem effects_iff_careful (stageid cmd : Int32) (delegate : MyDelegate Unit) (as : List PlayStep) (s : Play)
    (run : exec step (start stageid cmd delegate) as = some s) :
    Through step Contract (start stageid cmd delegate) as ↔ Along step Careful (start stageid cmd delegate) as :=
  through_iff_along (fun _ _ _ inv _ h => step_inv inv h) (fun _ _ _ inv contract h => step_contract inv contract h)
    (start_inv stageid cmd delegate) (start_contract stageid cmd delegate) run

/-- A finger that is paid for, and a replay that is refused. -/
def fingerThenRefusal : List PlayStep :=
  [.use .finger .ended, .reply 0 0, .tick, .use .replay .ended, .reply 1 3]

/-- The finger is used and paid, and a refusal after it starts nothing. -/
theorem effects_iff_careful_finger :
    (∃ s, exec step (start 2 0 (.init none)) fingerThenRefusal = some s ∧ s.effects = [(.finger, some 0)]) ∧
      Through step Contract (start 2 0 (.init none)) fingerThenRefusal :=
  ⟨⟨_, rfl, rfl⟩, (effects_iff_careful 2 0 (.init none) fingerThenRefusal _ rfl).2 (by decide)⟩

/-- At the next tick the refused replay has its effect; and one touch of the
finger sends two requests of which only the second has an effect. -/
theorem effects_iff_careful_broken :
    (∃ s, exec step (start 2 0 (.init none)) (fingerThenRefusal ++ [.tick]) = some s ∧
      s.effects = [(.finger, some 0), (.replay, some 1)] ∧ ¬ Contract s) ∧
    ∃ s, exec step (start 2 0 (.init none)) [.use .finger .moved, .use .finger .ended, .reply 0 0] = some s ∧
      ¬ Contract s := by
  constructor
  · refine ⟨_, rfl, rfl, fun contract => ?_⟩
    obtain ⟨i, cause, paid⟩ := contract.paid (.replay, some 1) (by decide)
    cases cause
    exact absurd paid (by decide)
  · refine ⟨_, rfl, fun contract => ?_⟩
    rcases contract.served (0, .finger) (by decide) with done | ⟨-, received, -⟩
    · exact absurd done (by decide)
    · cases received

end Play
end Crazyass.Client
