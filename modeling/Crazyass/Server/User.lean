import Crazyass.Server.Message

/-!
# Users, clients and the online registry

The account document `UserDb`, the in-memory `User` around it, the `Client` of
one connection and the process-wide `CAOnline`, with the operations of
`user.go` and `client.go` below the request handlers. A `*Client` is a value of
the parameter type `κ`; `self` is the client's own address.

What a step learns from outside (the answer of mongo, the clock) is an `Env`.
-/

namespace Crazyass.Server
open Go

/-! ## Constants of `cmd.go` -/

def kCmdUserLogin : Float64 := .ofUInt32 1

def kErrInvalidParamters : UInt32 := 1
def kErrReadDB : UInt32 := 2
def kErrWriteDB : UInt32 := 3
def kErrHeartNotEnough : UInt32 := 4
def kErrInvalidProto : UInt32 := 5

def stageHeartConfig : List UInt32 := [2, 3, 4, 5, 6, 7]
def eventHeartConfig : List UInt32 := [12, 12, 12, 12]
def itemHeartConfig : List UInt32 := [0, 3, 4, 5, 6, 7, 8, 4]

/-! ## The document and its database -/

/-- The document stored under `_id = userId`. -/
structure UserDb where
  userId : String
  lastLogin : UInt32
  heart : UInt32
  nextStage : UInt32
  regTime : UInt32
  deviceInfo : String
  eventLock : List Int64
deriving DecidableEq, Repr

def UserDb.zero : UserDb := ⟨"", 0, 0, 0, 0, "", []⟩

/-- What `Find({_id: id}).One` answers. A document found under an id carries it. -/
inductive FindAnswer (id : String) where
  | found (d : UserDb) (h : d.userId = id)
  | notFound
  | failed

/-- The answers the outside world gives during one step: mongo's `Find` and
whether its `Upsert` succeeds, the two readings of the clock in seconds
(`userRegister`, `Login`) and the one in nanoseconds. -/
structure Env where
  find : (id : String) → FindAnswer id
  upsert : Bool
  registerTime : UInt32
  loginTime : UInt32
  unixNano : Int64

/-- The environment of a database that works, at time zero. -/
def Env.answering (find : (id : String) → FindAnswer id) : Env := ⟨find, true, 0, 0, 0⟩

/-! ## `User` -/

structure User where
  ready : Bool
  udb : UserDb
  /-- Whether the user info is changed and should be synced to the database. -/
  dirty : Bool
deriving DecidableEq, Repr

def userRegister (u : UserDb) (id : String) (now : UInt32) : UserDb :=
  { u with userId := id, heart := 99, nextStage := 1, regTime := now }

namespace User

/-- `Init` on a fresh `User`. -/
def init : User := ⟨false, .zero, false⟩

/-- `Load`; `none` is a database error, which leaves the user as it was. -/
def load (u : User) (env : Env) (userid : String) : Option User :=
  match env.find userid with
  | .found d _ => some { u with udb := d }
  | .notFound => some { u with udb := userRegister u.udb userid env.registerTime, dirty := true }
  | .failed => none

/-- `Store`: the document handed to `Upsert`, if any, and whether no error is
returned. The dirty flag stays. -/
def store (u : User) (env : Env) : Option UserDb × Bool :=
  if u.dirty then (some u.udb, env.upsert) else (none, true)

/-- The part of `Login` after `Load`, with the top-up "for test". -/
def enter (u : User) (env : Env) : User :=
  let udb := if u.udb.heart < 30 then { u.udb with heart := 99 } else u.udb
  { u with udb := { udb with lastLogin := env.loginTime }, ready := true }

def addHeart (u : User) (heart : Int64) : User := { u with udb := { u.udb with heart := addInt u.udb.heart heart } }

/-- `UseHeart`; `none` is `ErrInvalidParam`. -/
def useHeart (u : User) (heart : Int64) : Option User := if heart < 0 then none else some (u.addHeart (-heart))

end User

def User.setNextStage (u : User) (n : UInt32) : User := { u with udb := { u.udb with nextStage := n } }

/-- `NextStage++`. -/
def User.advance (u : User) : User := u.setNextStage (u.udb.nextStage + 1)

def User.setEventLock (u : User) (l : List Int64) : User := { u with udb := { u.udb with eventLock := l } }

/-- `ProcUserLogin` gives a document without event locks six of them. -/
def User.initEventLock (u : User) : User :=
  if u.udb.eventLock.length = 0 then u.setEventLock (List.replicate 6 1) else u

def User.markDirty (u : User) : User := { u with dirty := true }

/-- The callers of `UseHeart` drop its error. -/
def User.charge (u : User) (price : UInt32) : User := (u.useHeart (intOf price)).getD u

/-! ## `Client` -/

/-- The state of one connection. `msg` is the cell all packets are decoded
into: the handlers receive its address, so what they call `msg` is this field. -/
structure Client (κ : Type) where
  self : κ
  user : User
  enable : Bool
  msg : Msg
  replyMsg : Msg
  ichan : List Int64

namespace Client
variable {κ : Type}

def new (self : κ) : Client κ := ⟨self, .init, true, .zero, .zero, []⟩

def isLogin (c : Client κ) : Bool := c.user.ready

def setErrCode (c : Client κ) (errno : UInt32) : Client κ :=
  { c with replyMsg := { c.replyMsg with errCode := .ofUInt32 errno } }

def reply (c : Client κ) (key : String) (v : Value) : Client κ := { c with replyMsg := c.replyMsg.put key v }

/-- `Login`: the client and whether no error is returned. -/
def login (c : Client κ) (env : Env) (userid : String) : Client κ × Bool :=
  match c.user.load env userid with
  | none => (c.setErrCode kErrReadDB, false)
  | some u => ({ c with user := u.enter env }, true)

end Client

/-! ## `CAOnline` -/

structure Online (κ : Type) where
  usermap : String → Option κ

namespace Online
variable {κ : Type}

def empty : Online κ := ⟨fun _ => none⟩

def find (on : Online κ) (userid : String) : Option κ := on.usermap userid

/-- `Insert` refuses a userid that is present; the flag says whether it inserted. -/
def insert (on : Online κ) (userid : String) (c : κ) : Online κ × Bool :=
  match on.usermap userid with
  | some _ => (on, false)
  | none => (⟨Function.update on.usermap userid (some c)⟩, true)

def delete (on : Online κ) (userid : String) : Online κ := ⟨Function.update on.usermap userid none⟩

end Online

/-- `strconv.FormatInt(time.Now().UnixNano(), 10)`. -/
def generateUniqueUserid (env : Env) : String := toString env.unixNano.toInt

/-! ## `AddHeartAsync` -/

/-- The three ends of a call: the amount goes to the channel of an online
client, the document could not be loaded, or it is changed and handed to
`Upsert`, with the flag telling success. -/
inductive AsyncResult (κ : Type) where
  | online (c : κ) (count : Int64)
  | loadFailed
  | offline (before after : User) (ok : Bool)

/-- What the offline path hands to `Store`. -/
def User.credited (user : User) (count : Int64) : User := (user.addHeart count).markDirty

def addHeartAsync {κ : Type} (env : Env) (on : Online κ) (userid : String) (count : Int64) : AsyncResult κ :=
  match on.find userid with
  | some c => .online c count
  | none =>
    match User.init.load env userid with
    | none => .loadFailed
    | some user => .offline user (user.credited count) ((user.credited count).store env).2

/-! ## What the operations do -/

@[simp] theorem addHeart_ready (u : User) (n : Int64) : (u.addHeart n).ready = u.ready := rfl
@[simp] theorem addHeart_dirty (u : User) (n : Int64) : (u.addHeart n).dirty = u.dirty := rfl
@[simp] theorem addHeart_udb (u : User) (n : Int64) :
    (u.addHeart n).udb = { u.udb with heart := addInt u.udb.heart n } := rfl

/-- No price of a table is negative as an `int`, so a charge is a subtraction. -/
@[simp] theorem charge_eq (u : User) (price : UInt32) :
    u.charge price = { u with udb := { u.udb with heart := u.udb.heart - price } } := by
  simp only [User.charge, User.useHeart, not_intOf_neg, if_false, Option.getD_some, User.addHeart, addInt_neg]

@[simp] theorem setErrCode_errCode {κ : Type} (c : Client κ) (e : UInt32) :
    (c.setErrCode e).replyMsg.errCode = .ofUInt32 e := rfl

theorem generateUniqueUserid_ne_empty (env : Env) : generateUniqueUserid env ≠ "" := by
  unfold generateUniqueUserid
  cases env.unixNano.toInt with
  | ofNat n => change Nat.repr n ≠ ""; simp
  | negSucc n => change "-" ++ Nat.repr (n + 1) ≠ ""; simp

namespace Online
variable {κ : Type} {on : Online κ} {c l : κ} {userid u : String}

/-- An entry after an insertion was there before, or it is the new one. -/
theorem usermap_insert (h : (on.insert userid c).1.usermap u = some l) : on.usermap u = some l ∨ l = c := by
  unfold insert at h
  split at h
  · exact .inl h
  · by_cases same : u = userid
    · subst same
      exact .inr (by simpa [eq_comm] using h)
    · exact .inl (by simpa [same] using h)

theorem usermap_delete (h : (on.delete userid).usermap u = some l) : on.usermap u = some l := by
  by_cases same : u = userid
  · subst same
    simp [delete] at h
  · simpa [delete, same] using h

end Online

end Crazyass.Server
