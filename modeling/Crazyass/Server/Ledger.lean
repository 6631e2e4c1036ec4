import Crazyass.Server.Writers
import Crazyass.Sys.Books

/-!
# No lost update

The books of the writers: the cell is the stored balance, a connection owes what
its user has and the document it last saw has not, together with the hearts in
its channel, and a call of `AddHeartAsync` owes its amount until it returns.
Balances are kept modulo `2 ^ 32`, as `AddHeart` does.

A step keeps the books when a document is written by a writer that has seen it
as it is, and when nothing is owed by a connection that ends.
-/

namespace Crazyass.Server
open Go Sys

/-- Hearts modulo `2 ^ 32`. -/
abbrev Hearts := ZMod (2 ^ 32)

section
variable {κ γ : Type} (cv : FloatConv) (id : String)

/-! ## What is owed -/

/-- What a request asked for, credits less charges. -/
def asked (m : Msg) (u : User) (ran : Option Handler) : ℤ :=
  (ran.bind (Handler.credit cv m)).getD 0 - ((ran.bind (Handler.price cv m u)).getD 0).toNat

namespace Conn

/-- What the reply that is about to be sent will grant. -/
def granted (c : Conn κ) : ℤ :=
  match c.phase with
  | .storing m u ran _ => if c.client.replyMsg.errCode = 0 then asked cv m u ran else 0
  | _ => 0

/-- The hearts in `ichan`. -/
def queued (c : Conn κ) : ℤ := (c.client.ichan.map Int64.toInt).sum

/-- What the document last seen does not show. -/
def unsaved (c : Conn κ) : Hearts :=
  if c.client.user.ready then residue c.client.user.udb.heart - residue c.base.heart + c.queued else 0

def due (c : Conn κ) : Hearts :=
  match c.phase with
  | .closed => 0
  | _ => c.unsaved - c.granted cv

/-- Nothing is lost when the connection ends. -/
structure Clear (c : Conn κ) : Prop where
  saved : c.client.user.ready = true → c.client.user.udb.heart = c.base.heart
  empty : ∀ v ∈ c.client.ichan, v = 0

/-- What holds of the connection at address `k` in every state. -/
structure Ok (k : κ) (c : Conn κ) : Prop where
  self : c.client.self = k
  account : c.client.user.ready = true → c.client.user.udb.userId = id ∧ c.base.nextStage ≤ c.client.user.udb.nextStage
  out : c.client.user.ready = false → c.client.user.dirty = false ∧ c.client.ichan = []
  found : ∀ m t d, c.phase = .found m t d → c.client.user.ready = false ∧ m.cmd = kCmdUserLogin ∧
    loginId (Env.found d t) m = id ∧ d.userId = id ∧ c.base = d ∧ ¬ d.heart < 30

end Conn

def Call.due (n : Int64) : Call κ → Hearts
  | .returned => 0
  | _ => n.toInt

namespace Writers
variable (amount : γ → Int64)

/-- The stored balance. -/
def stored (s : Writers κ γ) : Hearts := (s.db.docs id).elim 0 fun d => residue d.heart

variable {id} in
theorem stored_eq {s : Writers κ γ} {d : UserDb} (doc : s.db.docs id = some d) : s.stored id = residue d.heart := by
  rw [stored, doc]
  rfl

def books (s : Writers κ γ) : Books (κ ⊕ γ) Hearts :=
  ⟨s.stored id, Sum.elim (fun k => (s.conns k).due cv) fun j => (s.calls j).due (amount j)⟩

/-- All credits less all charges, the calls still to come included. -/
def movement [Fintype γ] (s : Writers κ γ) : ℤ := ∑ j, (amount j).toInt + s.iap - s.charged

/-- What holds of every state, lost updates or not. -/
structure Sane (s : Writers κ γ) : Prop where
  doc : ∃ d, s.db.docs id = some d
  conn : ∀ k, (s.conns k).Ok id k
  entry : ∀ k, s.online.usermap id = some k → (s.conns k).client.user.ready = true
  sending : ∀ j k, s.calls j = .sending k → (s.conns k).client.user.ready = true
  loaded : ∀ j user, s.calls j = .loaded user → user.udb.userId = id

/-- Nothing is lost: `h` and all movements are stored or owed. -/
def Balanced [Fintype κ] [Fintype γ] (h : Hearts) (s : Writers κ γ) : Prop :=
  (s.books cv id amount).balance = h + s.movement amount

/-- The stored document shows the hearts and the stage that `d` does. -/
def Fresh (s : Writers κ γ) (d : UserDb) : Prop :=
  ∀ e, s.db.docs id = some e → e.heart = d.heart ∧ e.nextStage = d.nextStage

/-- The request passes the top stage. -/
def Raises (m : Msg) (u : User) : Prop :=
  ∃ x, chosen cv m u = some .endPlay ∧ m.body "stageid" = some (.json (.num x)) ∧
    m.body "pass" = some (.json (.bool true)) ∧ cv.uint32 x = u.udb.nextStage

/-- A document is written by a writer that has seen it as it is; a connection
that leaves or panics owes nothing, and nothing is sent to one that is closed;
and `NextStage` is not raised past its type. -/
def Unlost (s : Writers κ γ) : WriterStep κ γ → Prop
  | .body k m =>
    (¬ Accepts cv False m (s.conns k).client.user → (s.conns k).Clear) ∧
    (Raises cv m (s.conns k).client.user → (s.conns k).client.user.udb.nextStage.toNat + 1 < 2 ^ 32)
  | .store k => (s.conns k).client.user.dirty = true → s.Fresh id (s.conns k).base
  | .leave k => (s.conns k).Clear
  | .send j => ∀ k, s.calls j = .sending k → (s.conns k).phase ≠ .closed ∨ amount j = 0
  | .save j => ∀ user, s.calls j = .loaded user → s.Fresh id user.udb
  | _ => True

/-- No login reads a balance that it would top up. -/
def NoTopUp (s : Writers κ γ) : WriterStep κ γ → Prop
  | .find _ _ _ => ∀ d, s.db.docs id = some d → ¬ d.heart < 30
  | _ => True

/-- All connections are closed and all calls have returned. -/
def Finished (s : Writers κ γ) : Prop := (∀ k, (s.conns k).phase = .closed) ∧ ∀ j, s.calls j = .returned

/-! ## The conditions can be tested -/

instance forallSome {α : Type} (p : α → Prop) [DecidablePred p] : ∀ o : Option α, Decidable (∀ a, o = some a → p a)
  | none => .isTrue (by simp)
  | some a => decidable_of_iff (p a) (by simp)

theorem clear_iff {c : Conn κ} :
    c.Clear ↔ (c.client.user.ready = true → c.client.user.udb.heart = c.base.heart) ∧ c.client.ichan.all (· = 0) = true := by
  simp only [List.all_eq_true, decide_eq_true_eq]
  exact ⟨fun h => ⟨h.saved, h.empty⟩, fun h => ⟨h.1, h.2⟩⟩

instance (c : Conn κ) : Decidable c.Clear := decidable_of_iff _ clear_iff.symm

instance (s : Writers κ γ) (d : UserDb) : Decidable (s.Fresh id d) :=
  inferInstanceAs (Decidable (∀ e, s.db.docs id = some e → e.heart = d.heart ∧ e.nextStage = d.nextStage))

theorem raises_iff {m : Msg} {u : User} :
    Raises cv m u ↔ chosen cv m u = some .endPlay ∧ (m.num "stageid").map cv.uint32 = some u.udb.nextStage ∧
      (m.body "pass").bind Value.bool? = some true := by
  simp only [Raises, Msg.num, Option.map_eq_some_iff, Option.bind_eq_some_iff, float64?_eq_some, bool?_eq_some]
  constructor
  · rintro ⟨x, picked, stageid, pass, top⟩
    exact ⟨picked, ⟨x, ⟨_, stageid, rfl⟩, top⟩, _, pass, rfl⟩
  · rintro ⟨picked, ⟨x, ⟨_, stageid, rfl⟩, top⟩, _, pass, rfl⟩
    exact ⟨x, picked, stageid, pass, top⟩

instance (m : Msg) (u : User) : Decidable (Raises cv m u) := decidable_of_iff _ (raises_iff cv).symm

instance (m : Msg) (u : User) : Decidable (Accepts cv False m u) :=
  match h : serve cv (Env.answering fun _ => .failed) .empty { Client.new () with user := u } m with
  | .ok o => .isTrue ((serve_accepts _ _ _ _).1 ⟨o, h⟩)
  | .error p => .isFalse fun accepts => by
      obtain ⟨o, ok⟩ := (serve_accepts _ _ { Client.new () with user := u } m).2 accepts
      cases h.symm.trans ok

instance (c : Call κ) (p : User → Prop) [DecidablePred p] : Decidable (∀ user, c = .loaded user → p user) :=
  match c with
  | .loaded user => decidable_of_iff (p user) (by simp)
  | .idle | .sending _ | .loading | .returned => .isTrue (by simp)

instance (c : Call κ) (p : κ → Prop) [DecidablePred p] : Decidable (∀ k, c = .sending k → p k) :=
  match c with
  | .sending k => decidable_of_iff (p k) (by simp)
  | .idle | .loaded _ | .loading | .returned => .isTrue (by simp)

instance (p : Phase) : Decidable (p = .closed) :=
  match p with
  | .closed => .isTrue rfl
  | .head | .select | .found _ _ _ | .storing _ _ _ _ => .isFalse (by simp)

instance (c : Call κ) : Decidable (c = .returned) :=
  match c with
  | .returned => .isTrue rfl
  | .idle | .sending _ | .loading | .loaded _ => .isFalse (by simp)

instance (s : Writers κ γ) : DecidablePred (s.NoTopUp id)
  | .find _ _ _ => inferInstanceAs (Decidable (∀ d, s.db.docs id = some d → ¬ d.heart < 30))
  | .test _ | .login _ | .body _ _ | .store _ | .imsg _ | .nilMsg _ | .timeout _ | .readError _ | .leave _ | .lookup _
  | .send _ | .load _ _ | .save _ => .isTrue trivial

instance (s : Writers κ γ) : DecidablePred (s.Unlost cv id amount)
  | .body _ _ => inferInstanceAs (Decidable (_ ∧ _))
  | .store _ => inferInstanceAs (Decidable (_ → _))
  | .leave k => inferInstanceAs (Decidable (s.conns k).Clear)
  | .send j => inferInstanceAs (Decidable (∀ k, s.calls j = .sending k → (s.conns k).phase ≠ .closed ∨ amount j = 0))
  | .save j => inferInstanceAs (Decidable (∀ user, s.calls j = .loaded user → s.Fresh id user.udb))
  | .test _ | .find _ _ _ | .login _ | .imsg _ | .nilMsg _ | .timeout _ | .readError _ | .lookup _ | .load _ _ =>
    .isTrue trivial

instance [Fintype κ] [Fintype γ] (s : Writers κ γ) : Decidable s.Finished := inferInstanceAs (Decidable (_ ∧ _))

end Writers

/-! ## One connection -/

variable {cv id}

/-- A connection that is in no request owes what it has not saved. -/
theorem due_idle {c : Conn κ} (idle : c.phase = .head ∨ c.phase = .select ∨ ∃ m t d, c.phase = .found m t d) :
    c.due cv = c.unsaved := by
  unfold Conn.due Conn.granted
  rcases idle with h | h | ⟨m, t, d, h⟩ <;> simp [h]

theorem due_storing {c : Conn κ} {m : Msg} {u : User} {ran : Option Handler} {ret : ProcRet}
    (storing : c.phase = .storing m u ran ret) : c.due cv = c.unsaved - c.granted cv := by
  unfold Conn.due
  rw [storing]

theorem unsaved_ready {c : Conn κ} (ready : c.client.user.ready = true) :
    c.unsaved = residue c.client.user.udb.heart - residue c.base.heart + c.queued := if_pos ready

theorem unsaved_out {c : Conn κ} (out : c.client.user.ready = false) : c.unsaved = 0 :=
  if_neg (by rw [out]; decide)

/-- What is not saved depends on the user, the base and the channel only. -/
theorem unsaved_congr {c d : Conn κ} (user : d.client.user = c.client.user) (ichan : d.client.ichan = c.client.ichan)
    (base : d.base = c.base) : d.unsaved = c.unsaved := by
  unfold Conn.unsaved Conn.queued
  rw [user, ichan, base]

theorem granted_none {c : Conn κ} {m : Msg} {u : User} {ret : ProcRet} (storing : c.phase = .storing m u none ret) :
    c.granted cv = 0 := by
  unfold Conn.granted
  rw [storing]
  exact ite_self _

theorem granted_refused {c : Conn κ} {m : Msg} {u : User} {ran : Option Handler} {ret : ProcRet}
    (storing : c.phase = .storing m u ran ret) (refused : c.client.replyMsg.errCode ≠ 0) : c.granted cv = 0 := by
  unfold Conn.granted
  rw [storing]
  exact if_neg refused

theorem granted_served {c : Conn κ} {m : Msg} {u : User} {ran : Option Handler} {ret : ProcRet}
    (storing : c.phase = .storing m u ran ret) (served : c.client.replyMsg.errCode = 0) :
    c.granted cv = asked cv m u ran := by
  unfold Conn.granted
  rw [storing]
  exact if_pos served

theorem Conn.Clear.unsaved {c : Conn κ} (clear : c.Clear) : c.unsaved = 0 := by
  have empty : c.queued = 0 := by
    apply List.sum_eq_zero
    intro n hn
    obtain ⟨v, hv, rfl⟩ := List.mem_map.1 hn
    rw [clear.empty v hv]
    rfl
  cases ready : c.client.user.ready with
  | false => exact unsaved_out ready
  | true => rw [unsaved_ready ready, clear.saved ready, empty, sub_self, Int.cast_zero, add_zero]

/-- An amount that is sent is owed, unless the connection is closed. -/
theorem due_send {c : Conn κ} {n : Int64} (ready : c.client.user.ready = true) (alive : c.phase ≠ .closed ∨ n = 0) :
    Conn.due cv { c with client := { c.client with ichan := c.client.ichan ++ [n] } } = c.due cv + (n.toInt : Hearts) := by
  have unsaved : Conn.unsaved { c with client := { c.client with ichan := c.client.ichan ++ [n] } } =
      c.unsaved + (n.toInt : Hearts) := by
    rw [unsaved_ready ready,
      unsaved_ready (c := { c with client := { c.client with ichan := c.client.ichan ++ [n] } }) ready]
    simp only [Conn.queued, List.map_append, List.sum_append, List.map_cons, List.map_nil, List.sum_singleton, Int.cast_add]
    abel
  have granted : Conn.granted cv { c with client := { c.client with ichan := c.client.ichan ++ [n] } } = c.granted cv := rfl
  unfold Conn.due
  rw [unsaved, granted]
  dsimp only
  split
  · next closed =>
    rw [alive.resolve_left (fun open_ => open_ closed)]
    simp
  · abel

/-- A change of the client that leaves user and channel alone. -/
theorem Conn.Ok.congr {k : κ} {c d : Conn κ} (ok : c.Ok id k) (self : d.client.self = c.client.self)
    (user : d.client.user = c.client.user) (ichan : d.client.ichan = c.client.ichan) (base : d.base = c.base)
    (phase : ∀ m t e, d.phase = .found m t e → c.phase = .found m t e) : d.Ok id k where
  self := self.trans ok.self
  account ready := by
    rw [user] at ready ⊢
    rw [base]
    exact ok.account ready
  out out := by
    rw [user] at out ⊢
    rw [ichan]
    exact ok.out out
  found m t e h := by
    rw [user, base]
    exact ok.found m t e (phase m t e h)

/-- The balance after a request that was served. -/
theorem Served.residue_eq {m : Msg} {u v : User} {h : Handler} (served : Served cv m u h v) :
    residue v.udb.heart = residue u.udb.heart + (asked cv m u (some h) : Hearts) := by
  unfold asked
  rw [Option.bind_some, Option.bind_some]
  rcases served.heart_eq with ⟨credit, paid⟩ | ⟨n, credit, price, added⟩
  · rw [paid, credit, residue_sub, Option.getD_none, zero_sub, Int.cast_neg, Int.cast_natCast, ← sub_eq_add_neg]
    rfl
  · rw [added, credit, price, residue_addInt]
    simp

/-- `NextStage` after a request that was served and did not overflow it. -/
theorem Served.nextStage_le {m : Msg} {u v : User} {h : Handler} (served : Served cv m u h v)
    (picked : chosen cv m u = some h) (room : Writers.Raises cv m u → u.udb.nextStage.toNat + 1 < 2 ^ 32) :
    u.udb.nextStage ≤ v.udb.nextStage := by
  cases served with
  | passed x stageid pass top =>
    have fits := room ⟨x, picked, stageid, pass, top⟩
    change u.udb.nextStage ≤ u.udb.nextStage + 1
    rw [UInt32.le_iff_toNat_le, UInt32.toNat_add]
    simp only [UInt32.reduceToNat]
    omega
  | _ => simp [User.markDirty, User.setEventLock, User.credited]

end

end Crazyass.Server
