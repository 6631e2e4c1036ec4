import Crazyass.Server.Dispatch

/-!
# What a handler can do

One lemma for each handler of a client that is logged in: it refuses its
request and sets an error code, or it serves it, and then `Served` says what
became of the user.
-/

namespace Crazyass.Server
open Go

section
variable {κ : Type}

/-! ## Frame -/

/-- What no handler touches. -/
structure Kept (c d : Client κ) : Prop where
  self : d.self = c.self
  enable : d.enable = c.enable
  ichan : d.ichan = c.ichan
  msg : d.msg = { c.msg with userid := d.msg.userid }
  replyCmd : d.replyMsg.cmd = c.replyMsg.cmd
  replySeq : d.replyMsg.seq = c.replyMsg.seq

theorem Kept.refl (c : Client κ) : Kept c c := ⟨rfl, rfl, rfl, rfl, rfl, rfl⟩

theorem Kept.trans {c d e : Client κ} (h : Kept c d) (k : Kept d e) : Kept c e :=
  ⟨k.self.trans h.self, k.enable.trans h.enable, k.ichan.trans h.ichan, by rw [k.msg, h.msg],
    k.replyCmd.trans h.replyCmd, k.replySeq.trans h.replySeq⟩

/-- An error code is part of the reply. -/
theorem Kept.setErrCode (c : Client κ) (e : UInt32) : Kept c (c.setErrCode e) := { Kept.refl c with }

theorem Kept.reply (c : Client κ) (k : String) (v : Value) : Kept c (c.reply k v) := { Kept.refl c with }

/-- The user is not part of the connection. -/
theorem Kept.setUser (c : Client κ) (u : User) : Kept c { c with user := u } := { Kept.refl c with }

/-- A handler that served its request changed the user and the reply's body. -/
structure Replied (c d : Client κ) : Prop where
  kept : Kept c d
  userid : d.msg.userid = c.msg.userid
  errCode : d.replyMsg.errCode = c.replyMsg.errCode

theorem Replied.refl (c : Client κ) : Replied c c := ⟨.refl c, rfl, rfl⟩

theorem Replied.setUser (c : Client κ) (u : User) : Replied c { c with user := u } := ⟨.setUser c u, rfl, rfl⟩

/-- A key more in the body. -/
theorem Replied.reply {c d : Client κ} (h : Replied c d) (k : String) (v : Value) : Replied c (d.reply k v) :=
  ⟨h.kept.trans (.reply d k v), h.userid, h.errCode⟩

theorem Replied.stage {c d : Client κ} (h : Replied c d) : Replied c d.replyStage := (h.reply _ _).reply _ _

/-! ## Partial operations -/

theorem bind_ok {ε α β : Type} {x : Except ε α} {f : α → Except ε β} {b : β} :
    (x >>= f) = .ok b ↔ ∃ a, x = .ok a ∧ f a = .ok b := by
  cases x <;> simp [bind, Except.bind]

theorem map_ok {ε α β : Type} {x : Except ε α} {f : α → β} {b : β} : x.map f = .ok b ↔ ∃ a, x = .ok a ∧ f a = b := by
  cases x <;> simp [Except.map]

theorem float64?_eq_some {v : Value} {x : Float64} : v.float64? = some x ↔ v = .json (.num x) := by
  unfold Value.float64?
  split <;> simp_all

theorem bool?_eq_some {v : Value} {b : Bool} : v.bool? = some b ↔ v = .json (.bool b) := by
  unfold Value.bool?
  split
  · simp
  · next other => exact iff_of_false (by simp) (other b)

theorem assertFloat64_ok {v : Value} {x : Float64} : v.assertFloat64 = .ok x ↔ v = .json (.num x) := by
  rw [← float64?_eq_some]
  unfold Value.assertFloat64
  cases v.float64? <;> simp

theorem assertBool_ok {v : Value} {b : Bool} : v.assertBool = .ok b ↔ v = .json (.bool b) := by
  rw [← bool?_eq_some]
  unfold Value.assertBool
  cases v.bool? <;> simp

theorem index_ok {α : Type} {site : Panic} {l : List α} {i : ℤ} {a : α} :
    index site l i = .ok a ↔ 0 ≤ i ∧ l[i.toNat]? = some a := by
  unfold index
  split
  · cases l[i.toNat]? <;> simp_all
  · simp_all

theorem setIndex_ok {α : Type} {site : Panic} {l l' : List α} {i : ℤ} {a : α} :
    setIndex site l i a = .ok l' ↔ InSlice i l.length ∧ l' = l.set i.toNat a := by
  unfold setIndex
  split <;> simp_all [eq_comm]

/-! ## Served requests -/

variable (cv : FloatConv)

/-- The price a guarded table lookup finds, if the guard lets it look. -/
def tablePrice (table : List UInt32) (id : Int64) (i : ℤ) : Option UInt32 :=
  if 0 < id.toInt ∧ id.toInt ≤ table.length then table[i.toNat]? else none

/-- The price of a stage for `ProcEventLock`; none from the fifth stage on. -/
def eventPrice (sid : Int64) : Option UInt32 := tablePrice eventHeartConfig sid (sid - 1).toInt

/-- The price of an item for `ProcUseItem`. -/
def itemPrice (iid : Int64) : Option UInt32 := tablePrice itemHeartConfig iid iid.toInt

/-- A charge that may be absent. -/
def User.chargeOpt (u : User) : Option UInt32 → User
  | some price => u.charge price
  | none => u

@[simp] theorem chargeOpt_eq (u : User) (price : Option UInt32) :
    u.chargeOpt price = { u with udb := { u.udb with heart := u.udb.heart - price.getD 0 } } := by
  cases price with
  | none => simp [User.chargeOpt]
  | some p => simp [User.chargeOpt]

/-- A price that is looked up is charged. -/
theorem useTable_ok {κ : Type} {c d : Client κ} {site : Panic} {table : List UInt32} {id : Int64} {i : ℤ}
    (h : c.useTable site table id i = .ok d) : d = { c with user := c.user.chargeOpt (tablePrice table id i) } := by
  unfold Client.useTable at h
  unfold tablePrice
  split at h
  · next priced =>
    obtain ⟨price, hp, paid⟩ := bind_ok.1 h
    cases paid
    rw [if_pos priced, (index_ok.1 hp).2]
    rfl
  · next free =>
    cases h
    rw [if_neg free]
    rfl

/-- The user after a request `m` that a handler answered with
`CLI_PROC_RET_SUCC`, logged in as `u` before. -/
inductive Served (m : Msg) (u : User) : Handler → User → Prop where
  | t : Served m u .t u
  | again : Served m u .userLogin u
  | startPlay (x : Float64) (price : UInt32)
      (stageid : m.body "stageid" = some (.json (.num x)))
      (admitted : cv.uint32 x ≠ 0 ∧ cv.uint32 x ≤ u.udb.nextStage)
      (priced : stageHeartConfig[(cv.uint32 x - 1).toNat]? = some price)
      (enough : price ≤ u.udb.heart) : Served m u .startPlay (u.charge price).markDirty
  | played (x : Float64)
      (stageid : m.body "stageid" = some (.json (.num x)))
      (stays : cv.uint32 x = u.udb.nextStage → m.body "pass" = some (.json (.bool false))) : Served m u .endPlay u
  | passed (x : Float64)
      (stageid : m.body "stageid" = some (.json (.num x)))
      (pass : m.body "pass" = some (.json (.bool true)))
      (top : cv.uint32 x = u.udb.nextStage) : Served m u .endPlay u.advance.markDirty
  | iapAddHeart (x : Float64)
      (addheart : m.body "addheart" = some (.json (.num x))) : Served m u .iapAddHeart (u.credited (cv.int x))
  | eventLock (x y : Float64)
      (stageid : m.body "stageid" = some (.json (.num x)))
      (eventid : m.body "eventid" = some (.json (.num y)))
      (inside : InSlice (cv.int x - 1).toInt u.udb.eventLock.length) :
      Served m u .eventLock
        ((u.setEventLock (u.udb.eventLock.set (cv.int x - 1).toInt.toNat (cv.int y))).chargeOpt
          (eventPrice (cv.int x))).markDirty
  | useItem (x : Float64)
      (itemid : m.body "itemid" = some (.json (.num x))) :
      Served m u .useItem (u.chargeOpt (itemPrice (cv.int x))).markDirty

variable {cv} in
/-- No request of a logged-in client changes whose account it is. -/
theorem Served.userId {m : Msg} {u v : User} {h : Handler} (served : Served cv m u h v) :
    v.udb.userId = u.udb.userId := by
  cases served <;> simp [User.markDirty, User.setEventLock, User.credited, User.advance, User.setNextStage]

variable {cv} in
/-- No request logs a user out. -/
theorem Served.ready {m : Msg} {u v : User} {h : Handler} (served : Served cv m u h v) : v.ready = u.ready := by
  cases served <;> simp [User.markDirty, User.setEventLock, User.credited, User.advance, User.setNextStage]

variable {cv} in
/-- A handler that serves a request sets the dirty flag or leaves the user alone. -/
theorem Served.dirty {m : Msg} {u v : User} {h : Handler} (served : Served cv m u h v) : v.dirty = true ∨ v = u := by
  cases served with
  | t => exact .inr rfl
  | again => exact .inr rfl
  | played x _ _ => exact .inr rfl
  | _ => exact .inl rfl

/-- Why a handler refuses the request `m` of the user `u`, with the code it sets. -/
inductive Refused (m : Msg) (u : User) : Handler → UInt32 → Prop where
  | noAddheart (absent : m.body "addheart" = none) : Refused m u .iapAddHeart kErrInvalidProto
  | noStart (absent : m.body "stageid" = none) : Refused m u .startPlay kErrInvalidProto
  | farStart (x : Float64) (stageid : m.body "stageid" = some (.json (.num x)))
      (range : u.udb.nextStage < cv.uint32 x ∨ cv.uint32 x = 0) : Refused m u .startPlay kErrInvalidParamters
  | shortStart (x : Float64) (price : UInt32) (stageid : m.body "stageid" = some (.json (.num x)))
      (admitted : cv.uint32 x ≠ 0 ∧ cv.uint32 x ≤ u.udb.nextStage)
      (priced : stageHeartConfig[(cv.uint32 x - 1).toNat]? = some price)
      (short : u.udb.heart < price) : Refused m u .startPlay kErrHeartNotEnough
  | noEnd (absent : m.body "stageid" = none) : Refused m u .endPlay kErrInvalidProto
  | farEnd (x : Float64) (stageid : m.body "stageid" = some (.json (.num x)))
      (range : u.udb.nextStage < cv.uint32 x) : Refused m u .endPlay kErrInvalidParamters
  | noPass (absent : m.body "pass" = none) : Refused m u .endPlay kErrInvalidProto
  | noEvent (absent : m.body "stageid" = none ∨ m.body "eventid" = none) : Refused m u .eventLock kErrInvalidProto
  | noItem (absent : m.body "itemid" = none) : Refused m u .useItem kErrInvalidProto

variable {cv} in
theorem Refused.ne_zero {m : Msg} {u : User} {h : Handler} {e : UInt32} (refused : Refused cv m u h e) : e ≠ 0 := by
  cases refused <;> decide

/-- The two ends of a handler other than a first login. -/
inductive HandlerEnd (c : Client κ) (h : Handler) (ret : ProcRet) (d : Client κ) : Prop where
  | refused (e : UInt32) (why : Refused cv c.msg c.user h e) (ret_eq : ret = .err) (c_eq : d = c.setErrCode e)
  | served (ret_eq : ret = .succ) (user : Served cv c.msg c.user h d.user) (replied : Replied c d)

variable {cv} {c d : Client κ} {ret : ProcRet}

/-- **`ProcIAPAddHeart`** credits the hearts, or refuses the body. -/
theorem procIAPAddHeart_end (h : procIAPAddHeart cv c = .ok (ret, d)) : HandlerEnd cv c .iapAddHeart ret d := by
  unfold procIAPAddHeart at h
  split at h
  · next absent =>
    cases h
    exact .refused kErrInvalidProto (.noAddheart absent) rfl rfl
  · next v addheart =>
    obtain ⟨x, hx, body⟩ := bind_ok.1 h
    cases assertFloat64_ok.1 hx
    cases body
    exact .served rfl (.iapAddHeart x addheart) ((Replied.setUser c _).reply _ _)

/-- **`ProcStartPlay`** charges the stage, or refuses it. -/
theorem procStartPlay_end (h : procStartPlay cv c = .ok (ret, d)) : HandlerEnd cv c .startPlay ret d := by
  unfold procStartPlay at h
  split at h
  · next absent =>
    cases h
    exact .refused kErrInvalidProto (.noStart absent) rfl rfl
  · next v stageid =>
    obtain ⟨x, hx, body⟩ := bind_ok.1 h
    cases assertFloat64_ok.1 hx
    dsimp only at body
    split at body
    · next range =>
      cases body
      exact .refused kErrInvalidParamters (.farStart x stageid range) rfl rfl
    · next guard =>
      obtain ⟨price, hp, pay⟩ := bind_ok.1 body
      rw [not_or] at guard
      have admitted : cv.uint32 x ≠ 0 ∧ cv.uint32 x ≤ c.user.udb.nextStage := ⟨guard.2, UInt32.not_lt.1 guard.1⟩
      have priced : stageHeartConfig[(cv.uint32 x - 1).toNat]? = some price := by simpa using (index_ok.1 hp).2
      split at pay
      · next short =>
        cases pay
        exact .refused kErrHeartNotEnough (.shortStart x price stageid admitted priced short) rfl rfl
      · next enough =>
        cases pay
        exact .served rfl (.startPlay x price stageid admitted priced (UInt32.not_lt.1 enough)) (Replied.setUser c _).stage

/-- **`ProcEndPlay`** opens the next stage where the last one is passed, or refuses
the request. -/
theorem procEndPlay_end (h : procEndPlay cv c = .ok (ret, d)) : HandlerEnd cv c .endPlay ret d := by
  unfold procEndPlay at h
  split at h
  · next absent =>
    cases h
    exact .refused kErrInvalidProto (.noEnd absent) rfl rfl
  · next v stageid =>
    obtain ⟨x, hx, body⟩ := bind_ok.1 h
    cases assertFloat64_ok.1 hx
    dsimp only at body
    split at body
    · next range =>
      cases body
      exact .refused kErrInvalidParamters (.farEnd x stageid range) rfl rfl
    · split at body
      · next top =>
        split at body
        · next absent =>
          cases body
          exact .refused kErrInvalidProto (.noPass absent) rfl rfl
        · next w pass =>
          obtain ⟨b, hb, advance⟩ := bind_ok.1 body
          cases assertBool_ok.1 hb
          split at advance
          · next yes =>
            cases advance
            rw [yes] at pass
            exact .served rfl (.passed x stageid pass top) (Replied.setUser c _).stage
          · next no =>
            cases advance
            rw [Bool.not_eq_true] at no
            rw [no] at pass
            exact .served rfl (.played x stageid fun _ => pass) (Replied.setUser c _).stage
      · next below =>
        cases body
        exact .served rfl (.played x stageid fun top => absurd top below) (Replied.setUser c _).stage

/-- **`ProcEventLock`** charges and sets the lock, or refuses it. -/
theorem procEventLock_end (h : procEventLock cv c = .ok (ret, d)) : HandlerEnd cv c .eventLock ret d := by
  unfold procEventLock at h
  split at h
  · next absent =>
    cases h
    exact .refused kErrInvalidProto (.noEvent (.inl absent)) rfl rfl
  · next v stageid =>
    split at h
    · next absent =>
      cases h
      exact .refused kErrInvalidProto (.noEvent (.inr absent)) rfl rfl
    · next w eventid =>
      obtain ⟨x, hx, body⟩ := bind_ok.1 h
      cases assertFloat64_ok.1 hx
      obtain ⟨y, hy, unlock⟩ := bind_ok.1 body
      cases assertFloat64_ok.1 hy
      obtain ⟨lock, hl, pay⟩ := bind_ok.1 unlock
      obtain ⟨inside, rfl⟩ := setIndex_ok.1 hl
      obtain ⟨c', hc, done⟩ := bind_ok.1 pay
      cases done
      cases useTable_ok hc
      exact .served rfl (.eventLock x y stageid eventid inside) ((((Replied.setUser c _).reply _ _).reply _ _).reply _ _)

/-- **`ProcUseItem`** charges the item, or refuses the body. -/
theorem procUseItem_end (h : procUseItem cv c = .ok (ret, d)) : HandlerEnd cv c .useItem ret d := by
  unfold procUseItem at h
  split at h
  · next absent =>
    cases h
    exact .refused kErrInvalidProto (.noItem absent) rfl rfl
  · next v itemid =>
    obtain ⟨x, hx, body⟩ := bind_ok.1 h
    cases assertFloat64_ok.1 hx
    obtain ⟨c', hc, done⟩ := bind_ok.1 body
    cases done
    cases useTable_ok hc
    exact .served rfl (.useItem x itemid) ((Replied.setUser c _).reply _ _)

end

end Crazyass.Server
