import Crazyass.Go.Number
import Crazyass.Dogrun.Wire

/-!
# Users and dogs

The in-memory `User` of a session with its `DogKeeper`, the configuration that
`resInit` loads, and the operations of `user.go` and `dog.go` below the request
handlers.

The array behind the slice `dd.Dogs` is shared by every copy of the keeper, so
it is a field of the user; what a copy has for itself is the rest of
`DogKeeper`. The pointer in it is nil or the session's own user.
-/

namespace Crazyass.Dogrun
open Go

/-! ## Data -/

/-- The three operations on a dog, each with its cooldown, its command and its configuration. -/
inductive Kind where
  | feed | play | train
deriving DecidableEq, Repr

/-- `CD_FEED`, `CD_PLAY` and `CD_TRAIN`. -/
def Kind.index : Kind → Fin 3
  | .feed => 0
  | .play => 1
  | .train => 2

/-- `dogOne`. -/
structure Dog where
  id : UInt32
  name : String
  level : UInt32
  exp : UInt32
  str : UInt32
  speed : UInt32
  intimacy : UInt32
  cd : Vector UInt32 3
deriving DecidableEq, Repr

/-- `UserDbAttr`. -/
structure UserDbAttr where
  money : UInt32
  heart : UInt32
deriving DecidableEq, Repr

structure UserDb where
  userId : String
  name : String
  title : String
  attr : UserDbAttr
  lastLogin : UInt32
deriving DecidableEq, Repr

def UserDb.zero : UserDb := ⟨"", "", "", ⟨0, 0⟩, 0⟩

/-- A `*User`. -/
inductive UserPtr where
  | nil | session
deriving DecidableEq, Repr

/-- `DogKeeper` without the array of dogs. -/
structure DogKeeper where
  userId : String
  dirty : Bool
  user : UserPtr
deriving DecidableEq, Repr

structure User where
  ready : Bool
  udb : UserDb
  dk : DogKeeper
  /-- The array behind `dk.dd.Dogs`. -/
  dogs : List Dog
  dirty : Bool
deriving DecidableEq, Repr

inductive Err where
  | dogNotFound | operationInCD | invalidParam
deriving DecidableEq, Repr

/-- The Go panics of the handlers: a nil entry of `procFuncArray` is called, a
nil `*User` is used, a type assertion fails. -/
inductive Crash where
  | nilFunc | nilUser | typeAssertion
deriving DecidableEq, Repr

/-- What a `Find` in a collection answers. -/
inductive Answer (α : Type) where
  | found (doc : α)
  | notFound
  | failed
deriving DecidableEq, Repr

/-- What one request learns from outside: the answers of mongo and the time. -/
structure Env where
  findUser : String → Answer UserDb
  findDogs : String → Answer (List Dog)
  upsertUser : Bool
  now : UInt32

namespace User

/-- The user of a client made by `NewClient`, but for the keeper's pointer. -/
def init (user : UserPtr) : User := ⟨false, .zero, ⟨"", false, user⟩, [], false⟩

/-! ## Loading -/

/-- `DogKeeper.Load`; the flag is false for an error. A document that is found
has the `_id` it was looked up by. -/
def loadDogs (u : User) (env : Env) (userid : String) : User × Bool :=
  match env.findDogs userid with
  | .found dogs => ({ u with dk := { u.dk with userId := userid }, dogs }, true)
  | .notFound => ({ u with dk := { u.dk with userId := userid } }, true)
  | .failed => (u, false)

/-- `User.Load`. -/
def load (u : User) (env : Env) (userid : String) : User × Bool :=
  let dogs (u : User) : User × Bool :=
    match u.loadDogs env userid with
    | (u, true) => ({ u with ready := true }, true)
    | (u, false) => (u, false)
  match env.findUser userid with
  | .found d => dogs { u with udb := { d with userId := userid } }
  | .notFound => dogs { u with udb := { u.udb with userId := userid } }
  | .failed => (u, false)

/-- `User.Login`: the user, the document handed to `Upsert`, and whether no error is returned. -/
def login (u : User) (env : Env) (userid : String) : User × Option UserDb × Bool :=
  match u.load env userid with
  | (u, false) => (u, none, false)
  | (u, true) =>
    let u := { u with udb := { u.udb with lastLogin := env.now } }
    -- `Store` does not look at the dirty flag
    if env.upsertUser then ({ u with ready := true }, some u.udb, true) else (u, some u.udb, false)

/-! ## Purses -/

def addMoney (u : User) (money : Int64) : User :=
  { u with udb := { u.udb with attr := { u.udb.attr with money := addInt u.udb.attr.money money } } }

end User

/-- `UseMoney` through a pointer, on the session's user; `none` is an error. -/
def UserPtr.useMoney (p : UserPtr) (u : User) (money : Int64) : Except Crash (Option User) :=
  if money < 0 then .ok none
  else
    match p with
    | .nil => .error .nilUser
    | .session => .ok (some (u.addMoney (-money)))

/-- `UseHeart`, which takes the hearts from the money. -/
def UserPtr.useHeart (p : UserPtr) (u : User) (heart : Int64) : Except Crash (Option User) :=
  if heart < 0 then .ok none
  else
    match p with
    | .nil => .error .nilUser
    | .session => .ok (some (u.addMoney (-heart)))

/-! ## Configuration -/

/-- An entry of `FoodConfigArray`, `PlayConfigArray` or `TrainConfigArray`. -/
structure Config where
  cd : UInt32
  consumeHeart : UInt32
  consumeGold : UInt32
  strong : UInt32
  speed : UInt32
  exp : UInt32
  intimacy : UInt32
deriving DecidableEq, Repr

/-- `RES_FOOD`, `RES_PLAY`, `RES_TRAIN` and `RES_DOGLEVEL`. -/
inductive ResId where
  | food | play | train | dogLevel
deriving DecidableEq, Repr

/-- The dynamic types in `resMap`. -/
inductive Res where
  | food (cfg : List Config)
  | play (cfg : List Config)
  | train (cfg : List Config)
  | dogLevel
deriving DecidableEq, Repr

/-- `resfile`; `pb` wraps what the file is unmarshalled into. -/
structure ResFile where
  name : String
  id : ResId
  pb : List Config → Res

def resFiles : List ResFile :=
  [⟨"../etc/food.cfg", .food, .food⟩, ⟨"../etc/play.cfg", .play, .play⟩, ⟨"../etc/train.cfg", .train, .train⟩,
    ⟨"../etc/doglevel.cfg", .dogLevel, fun _ => .dogLevel⟩]

abbrev ResMap := ResId → Option Res

/-- `resInit`; a file that cannot be opened, read and unmarshalled leaves its entry nil. -/
def resInit (etc : String → Option (List Config)) : ResMap :=
  resFiles.foldl (fun m file => match etc file.name with
    | some cfg => Function.update m file.id (some (file.pb cfg))
    | none => m) fun _ => none

/-- `ResGet` and the type assertion on its result. -/
def ResMap.get (res : ResMap) : Kind → Except Crash (List Config)
  | .feed =>
    match res .food with
    | some (.food cfg) => .ok cfg
    | _ => .error .typeAssertion
  | .play =>
    match res .play with
    | some (.play cfg) => .ok cfg
    | _ => .error .typeAssertion
  | .train =>
    match res .train with
    | some (.train cfg) => .ok cfg
    | _ => .error .typeAssertion

/-! ## The operations -/

/-- The attributes after a configured change. -/
def Dog.grow (d : Dog) (change : Config) : Dog :=
  { d with
    exp := d.exp + change.exp
    str := d.str + change.strong
    speed := d.speed + change.speed
    intimacy := d.intimacy + change.intimacy }

def Dog.setCD (d : Dog) (k : Kind) (time : UInt32) : Dog := { d with cd := d.cd.set k.index time }

/-- `getDog`: the first dog with the id, and where it is. -/
def getDog (dogs : List Dog) (id : UInt32) : Option (ℕ × Dog) :=
  (dogs.findIdx? fun d => d.id = id).bind fun i => (dogs[i]?).map fun d => (i, d)

/-- `setDogAttr` on the dog at `i`; the user's purses are reached through the keeper's pointer. -/
def setDogAttr (u : User) (dk : DogKeeper) (i : ℕ) (change : Config) : Except Crash (User × Option Err) := do
  -- cost
  match ← dk.user.useMoney u (intOf change.consumeGold) with
  | none => .ok (u, some .invalidParam)
  | some u =>
    match ← dk.user.useHeart u (intOf change.consumeHeart) with
    | none => .ok (u, some .invalidParam)
    -- update attr
    | some u => .ok ({ u with dogs := u.dogs.modify i fun d => d.grow change }, none)

structure DogReq where
  dogid : UInt32
  type : UInt32
deriving DecidableEq, Repr

/-- The common body of `Feed`, `Play` and `Train`, called on a keeper `dk`: the
session's user and the keeper afterwards, and the error. -/
def operate (k : Kind) (res : ResMap) (u : User) (dk : DogKeeper) (req : DogReq) (now : UInt32) :
    Except Crash (User × DogKeeper × Option Err) :=
  match getDog u.dogs req.dogid with
  | none => .ok (u, dk, some .dogNotFound)
  | some (i, dog) =>
    if now < dog.cd.get k.index then .ok (u, dk, some .operationInCD)
    else do
      let cfg ← res.get k
      match cfg[req.type.toNat]? with
      | none => .ok (u, dk, some .invalidParam)
      | some change => do
        match ← setDogAttr u dk i change with
        | (u, some err) => .ok (u, dk, some err)
        | (u, none) =>
          let u := { u with dogs := u.dogs.modify i fun d => d.setCD k (now + change.cd) }
          .ok (u, { dk with dirty := true }, none)

def feed := operate .feed

def play := operate .play

def train := operate .train

/-! ## What an operation can do -/

/-- The user after an operation on the dog at `i`: both costs are taken from the money. -/
def User.operated (u : User) (i : ℕ) (k : Kind) (change : Config) (now : UInt32) : User :=
  { u with
    udb := { u.udb with attr := { u.udb.attr with
      money := u.udb.attr.money - change.consumeGold - change.consumeHeart } }
    dogs := u.dogs.modify i fun d => (d.grow change).setCD k (now + change.cd) }

/-- The ends of an operation. -/
inductive Operated (k : Kind) (res : ResMap) (u : User) (dk : DogKeeper) (req : DogReq) (now : UInt32) :
    Except Crash (User × DogKeeper × Option Err) → Prop where
  | notFound (absent : getDog u.dogs req.dogid = none) : Operated k res u dk req now (.ok (u, dk, some .dogNotFound))
  | inCD (i : ℕ) (dog : Dog) (found : getDog u.dogs req.dogid = some (i, dog)) (early : now < dog.cd.get k.index) :
      Operated k res u dk req now (.ok (u, dk, some .operationInCD))
  | unloaded (i : ℕ) (dog : Dog) (found : getDog u.dogs req.dogid = some (i, dog)) (due : dog.cd.get k.index ≤ now)
      (missing : res.get k = .error .typeAssertion) : Operated k res u dk req now (.error .typeAssertion)
  | badType (i : ℕ) (dog : Dog) (cfg : List Config) (found : getDog u.dogs req.dogid = some (i, dog))
      (due : dog.cd.get k.index ≤ now) (loaded : res.get k = .ok cfg) (beyond : cfg[req.type.toNat]? = none) :
      Operated k res u dk req now (.ok (u, dk, some .invalidParam))
  | nilUser (i : ℕ) (dog : Dog) (cfg : List Config) (change : Config) (found : getDog u.dogs req.dogid = some (i, dog))
      (due : dog.cd.get k.index ≤ now) (loaded : res.get k = .ok cfg) (entry : cfg[req.type.toNat]? = some change)
      (user : dk.user = .nil) : Operated k res u dk req now (.error .nilUser)
  | done (i : ℕ) (dog : Dog) (cfg : List Config) (change : Config) (found : getDog u.dogs req.dogid = some (i, dog))
      (due : dog.cd.get k.index ≤ now) (loaded : res.get k = .ok cfg) (entry : cfg[req.type.toNat]? = some change)
      (user : dk.user = .session) :
      Operated k res u dk req now (.ok (u.operated i k change now, { dk with dirty := true }, none))

theorem get_error {res : ResMap} {k : Kind} {e : Crash} (h : res.get k = .error e) : e = .typeAssertion := by
  cases k <;> simp only [ResMap.get] at h <;> split at h <;> simp_all

theorem UserPtr.nil_or_session (p : UserPtr) : p = .nil ∨ p = .session := by cases p <;> simp

section
variable {u : User} {dk : DogKeeper} {i : ℕ} {change : Config}

/-- The two costs, taken from a session's user. -/
theorem setDogAttr_session (user : dk.user = .session) :
    setDogAttr u dk i change = .ok ({ u with
      udb := { u.udb with attr := { u.udb.attr with
        money := u.udb.attr.money - change.consumeGold - change.consumeHeart } }
      dogs := u.dogs.modify i fun d => d.grow change }, none) := by
  simp only [setDogAttr, UserPtr.useMoney, UserPtr.useHeart, user, not_intOf_neg, if_false]
  change Except.ok (_, none) = _
  rw [User.addMoney, User.addMoney]
  dsimp only
  rw [addInt_neg, addInt_neg]

/-- `UseMoney` is called through the pointer, which nothing sets. -/
theorem setDogAttr_nil (user : dk.user = .nil) : setDogAttr u dk i change = .error .nilUser := by
  simp only [setDogAttr, UserPtr.useMoney, user, not_intOf_neg, if_false]
  rfl

end

/-- **`Feed`, `Play` and `Train`** end in one of these ways. -/
theorem operate_operated (k : Kind) (res : ResMap) (u : User) (dk : DogKeeper) (req : DogReq) (now : UInt32) :
    Operated k res u dk req now (operate k res u dk req now) := by
  unfold operate
  cases found : getDog u.dogs req.dogid with
  | none => exact .notFound found
  | some place =>
    obtain ⟨i, dog⟩ := place
    dsimp only
    by_cases early : now < dog.cd.get k.index
    · rw [if_pos early]
      exact .inCD i dog found early
    · rw [if_neg early]
      have due : dog.cd.get k.index ≤ now := UInt32.not_lt.1 early
      cases loaded : res.get k with
      | error e =>
        obtain rfl := get_error loaded
        exact .unloaded i dog found due loaded
      | ok cfg =>
        simp only [bind, Except.bind]
        cases entry : cfg[req.type.toNat]? with
        | none => exact .badType i dog cfg found due loaded entry
        | some change =>
          dsimp only
          rcases dk.user.nil_or_session with user | user
          · rw [setDogAttr_nil user]
            exact .nilUser i dog cfg change found due loaded entry user
          · rw [setDogAttr_session user]
            dsimp only
            rw [List.modify_modify_eq]
            exact .done i dog cfg change found due loaded entry user

theorem getDog_some {dogs : List Dog} {id : UInt32} {i : ℕ} {dog : Dog} (h : getDog dogs id = some (i, dog)) :
    dogs[i]? = some dog := by
  unfold getDog at h
  obtain ⟨j, -, h⟩ := Option.bind_eq_some_iff.1 h
  obtain ⟨d, found, same⟩ := Option.map_eq_some_iff.1 h
  cases same
  exact found

/-- With nothing in its way and the pointer set, an operation is carried out. -/
theorem operate_due {k : Kind} {res : ResMap} {u : User} {dk : DogKeeper} {req : DogReq} {now : UInt32} {i : ℕ} {dog : Dog}
    {cfg : List Config} {change : Config} (found : getDog u.dogs req.dogid = some (i, dog))
    (due : dog.cd.get k.index ≤ now) (loaded : res.get k = .ok cfg) (entry : cfg[req.type.toNat]? = some change)
    (user : dk.user = .session) :
    operate k res u dk req now = .ok (u.operated i k change now, { dk with dirty := true }, none) := by
  have ends := operate_operated k res u dk req now
  generalize operate k res u dk req now = result at ends ⊢
  cases ends with
  | notFound absent => cases absent.symm.trans found
  | inCD i' dog' found' early =>
    cases found.symm.trans found'
    exact absurd early (UInt32.not_lt.2 due)
  | unloaded i' dog' found' due' missing => cases missing.symm.trans loaded
  | badType i' dog' cfg' found' due' loaded' beyond =>
    cases loaded.symm.trans loaded'
    cases entry.symm.trans beyond
  | nilUser i' dog' cfg' change' found' due' loaded' entry' unset => cases unset.symm.trans user
  | done i' dog' cfg' change' found' due' loaded' entry' user' =>
    cases found.symm.trans found'
    cases loaded.symm.trans loaded'
    cases entry.symm.trans entry'
    rfl

/-! ## Which pointer a loaded user has -/

theorem loadDogs_user (u : User) (env : Env) (userid : String) : (u.loadDogs env userid).1.dk.user = u.dk.user := by
  unfold User.loadDogs
  cases env.findDogs userid <;> rfl

theorem load_user (u : User) (env : Env) (userid : String) : (u.load env userid).1.dk.user = u.dk.user := by
  have after : ∀ v : User, v.dk.user = u.dk.user →
      (match v.loadDogs env userid with
        | (w, true) => (({ w with ready := true }, true) : User × Bool)
        | (w, false) => (w, false)).1.dk.user = u.dk.user := by
    intro v same
    have kept := loadDogs_user v env userid
    rw [same] at kept
    rw [← kept]
    split <;> simp_all
  unfold User.load
  cases env.findUser userid with
  | found d => exact after { u with udb := { d with userId := userid } } rfl
  | notFound => exact after { u with udb := { u.udb with userId := userid } } rfl
  | failed => rfl

end Crazyass.Dogrun
