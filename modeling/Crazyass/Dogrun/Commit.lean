import Mathlib.Data.UInt
import Crazyass.Sys.Run
import Crazyass.Dogrun.Dispatch

/-!
# Which operations are stored

A session whose keeper points to its own user, on a database that never fails.
An operation changes the session's purses and dogs through the pointer and the
shared array; the dirty flag it sets is that of a copy, and no handler but the
login calls `Store`.
-/

namespace Crazyass.Dogrun
open Go Sys

/-- A session and the two collections, under their `_id`. -/
structure Session where
  client : Client
  users : String → Option UserDb
  dogs : String → Option (List Dog)

structure Request where
  msg : Msg
  now : UInt32

/-- The answer of a `Find` that does not fail. -/
def Answer.of {α : Type} : Option α → Answer α
  | some doc => .found doc
  | none => .notFound

/-- A request for an operation with nothing in its way: the user is logged in,
the request decodes, the dog exists and its cooldown is over, the configuration
is loaded and has the entry. -/
structure Due (codec : Codec) (res : ResMap) (u : User) (k : Kind) (r : Request) (i : ℕ) (dog : Dog) (change : Config) :
    Prop where
  ready : u.ready = true
  request : ∃ req cfg, codec.dogReq k r.msg.body = some req ∧ getDog u.dogs req.dogid = some (i, dog) ∧
    res.get k = .ok cfg ∧ cfg[req.type.toNat]? = some change
  due : dog.cd.get k.index ≤ r.now

/-- The entry costs nothing, gives nothing, and sets the cooldown to what it is. -/
structure Idle (k : Kind) (dog : Dog) (change : Config) (now : UInt32) : Prop where
  cost : change.consumeGold + change.consumeHeart = 0
  gain : change.exp = 0 ∧ change.strong = 0 ∧ change.speed = 0 ∧ change.intimacy = 0
  cd : now + change.cd = dog.cd.get k.index

/-- The user that a login on a working database makes of a new one. -/
def User.loggedIn (u : User) (id : String) (doc : Option UserDb) (dogs : Option (List Dog)) (now : UInt32) : User where
  ready := true
  udb := { doc.getD u.udb with userId := id, lastLogin := now }
  dk := { u.dk with userId := id }
  dogs := dogs.getD u.dogs
  dirty := u.dirty

namespace Session
section
variable (codec : Codec) (res : ResMap)

def start (users : String → Option UserDb) (dogs : String → Option (List Dog)) : Session :=
  ⟨.new .session, users, dogs⟩

def env (s : Session) (now : UInt32) : Env := ⟨fun id => .of (s.users id), fun id => .of (s.dogs id), true, now⟩

/-- What `procMsg` does, while the client is served and unless it panics. -/
def serve (s : Session) (r : Request) : Option Outcome :=
  if s.client.enable then (procMsg codec res (s.env r.now) s.client r.msg).toOption else none

/-- The session after a request. -/
def after (s : Session) (o : Outcome) : Session :=
  { s with client := o.c, users := o.upsert.elim s.users fun d => Function.update s.users d.userId (some d) }

def step (s : Session) (r : Request) : Option Session := (s.serve codec res r).map s.after

/-- The stored documents are those in memory. -/
def Committed (s : Session) : Prop :=
  s.users s.client.u.udb.userId = some s.client.u.udb ∧ s.dogs s.client.u.dk.userId = some s.client.u.dogs

/-- The session's own user and keeper are marked. -/
def Marked (s : Session) : Prop := s.client.u.dirty = true ∧ s.client.u.dk.dirty = true

/-- **The contract**: an operation that succeeds leaves the session stored, or marked for the next `Store`. -/
def Commits (s : Session) (r : Request) : Prop :=
  ∀ o k, s.serve codec res r = some o → o.ran = some (.dog k, .succ) → (s.after o).Committed ∨ (s.after o).Marked

/-- Every operation with nothing in its way changes nothing. -/
def Idles (s : Session) (r : Request) : Prop :=
  s.client.enable = true → ∀ k, handler? r.msg.h.cmd = some (.dog k) →
    ∀ i dog change, Due codec res s.client.u k r i dog change → Idle k dog change r.now

/-- The ends of a request. -/
inductive Served (s : Session) (r : Request) : Outcome → Prop where
  | kept (ran : Option (Handler × ProcRet)) (enable : Bool) (other : ∀ k, ran ≠ some (.dog k, .succ)) :
      Served s r ⟨ran, { s.client with enable }, none⟩
  | login (id : String) (new : s.client.u.ready = false) :
      Served s r ⟨some (.userLogin, .succ),
        { s.client with u := s.client.u.loggedIn id (s.users id) (s.dogs id) r.now },
        some (s.client.u.loggedIn id (s.users id) (s.dogs id) r.now).udb⟩
  | operated (k : Kind) (i : ℕ) (dog : Dog) (change : Config) (served : s.client.enable = true)
      (handler : handler? r.msg.h.cmd = some (.dog k)) (due : Due codec res s.client.u k r i dog change) :
      Served s r ⟨some (.dog k, .succ), { s.client with u := s.client.u.operated i k change r.now }, none⟩

/-- What holds while no operation has changed anything: the stored documents are
those in memory, but for the dogs of a user who has none. -/
structure Synced (s : Session) : Prop where
  user : s.client.u.dk.user = .session
  clean : s.client.u.dirty = false
  users : s.client.u.ready = true → s.users s.client.u.udb.userId = some s.client.u.udb
  dogs : s.client.u.ready = true → s.client.u.dogs ≠ [] → s.dogs s.client.u.dk.userId = some s.client.u.dogs
  new : s.client.u.ready = false → s.client.u.dogs = []

end
end Session

/-! ## One operation -/

section
variable {codec : Codec} {res : ResMap} {u : User} {r : Request} {k : Kind} {i : ℕ} {dog : Dog} {change : Config} {now : UInt32}

theorem Due.found (due : Due codec res u k r i dog change) : u.dogs[i]? = some dog := by
  obtain ⟨req, cfg, -, found, -⟩ := due.request
  exact getDog_some found

/-- With the pointer set, an operation with nothing in its way is carried out. -/
theorem Due.operate {env : Env} {c : Client} (due : Due codec res c.u k r i dog change) (user : c.u.dk.user = .session)
    (time : env.now = r.now) :
    procDog codec res k env c r.msg = .ok ⟨.succ, { c with u := c.u.operated i k change r.now }, none⟩ := by
  obtain ⟨req, cfg, decoded, found, loaded, entry⟩ := due.request
  rw [procDog_eq, if_pos due.ready, decoded]
  dsimp only
  rw [time, operate_due found due.due loaded entry user]
  rfl

/-- How a handler of an operation returns. -/
theorem procDog_due {env : Env} {c : Client} {called : Called} (h : procDog codec res k env c r.msg = .ok called)
    (time : env.now = r.now) :
    called = ⟨.kick, c, none⟩ ∨ called = ⟨.err, c, none⟩ ∨
      ∃ i dog change, Due codec res c.u k r i dog change ∧
        called = ⟨.succ, { c with u := c.u.operated i k change r.now }, none⟩ := by
  rcases procDog_ok h with rfl | ⟨req, result, ready, decoded, operated, rfl⟩
  · exact .inl rfl
  · have ends := operate_operated k res c.u c.u.dk req env.now
    rw [operated, time] at ends
    cases ends with
    | notFound | inCD | badType => exact .inr (.inl rfl)
    | done i dog cfg change found due loaded entry =>
      exact .inr (.inr ⟨i, dog, change, ⟨ready, ⟨req, cfg, decoded, found, loaded, entry⟩, due⟩, rfl⟩)

theorem set_eq_iff {α : Type} {n : ℕ} {v : Vector α n} {j : ℕ} (h : j < n) (x : α) : v.set j x = v ↔ x = v[j] := by
  constructor
  · intro same
    have read := congrArg (fun w : Vector α n => w[j]) same
    simpa using read
  · rintro rfl
    exact Vector.set_getElem_self h

/-- A dog that an operation leaves as it was. -/
theorem grow_eq_iff : (dog.grow change).setCD k (now + change.cd) = dog ↔
    (change.exp = 0 ∧ change.strong = 0 ∧ change.speed = 0 ∧ change.intimacy = 0) ∧ now + change.cd = dog.cd.get k.index := by
  have cd := set_eq_iff (v := dog.cd) k.index.isLt (now + change.cd)
  obtain ⟨id, name, level, exp, str, speed, intimacy, cds⟩ := dog
  simp only [Dog.grow, Dog.setCD, Dog.mk.injEq, true_and, add_eq_left, and_assoc] at cd ⊢
  rw [cd]
  rfl

theorem modify_eq_iff {α : Type} {l : List α} {f : α → α} {x : α} (at_i : l[i]? = some x) : l.modify i f = l ↔ f x = x := by
  constructor
  · intro same
    have read := List.getElem?_modify f i l i
    rw [same, at_i] at read
    simpa using read.symm
  · intro fixed
    apply List.ext_getElem?
    intro j
    rw [List.getElem?_modify]
    by_cases here : i = j
    · subst here
      simp [at_i, fixed]
    · simp [here]

/-- An operation that leaves the user as it was. -/
theorem operated_eq_iff (found : u.dogs[i]? = some dog) : u.operated i k change now = u ↔ Idle k dog change now := by
  have dogs : u.dogs.modify i (fun d => (d.grow change).setCD k (now + change.cd)) = u.dogs ↔ _ :=
    (modify_eq_iff found).trans grow_eq_iff
  have money : u.udb.attr.money - change.consumeGold - change.consumeHeart = u.udb.attr.money ↔
      change.consumeGold + change.consumeHeart = 0 := by
    rw [sub_sub, sub_eq_self]
  constructor
  · intro same
    have purse := money.1 (congrArg (fun v : User => v.udb.attr.money) same)
    obtain ⟨gain, cd⟩ := dogs.1 (congrArg User.dogs same)
    exact ⟨purse, gain, cd⟩
  · rintro ⟨cost, gain, cd⟩
    unfold User.operated
    rw [dogs.2 ⟨gain, cd⟩, money.2 cost]

end

namespace Session
section
variable {codec : Codec} {res : ResMap} {s t : Session} {r : Request} {o : Outcome}

theorem loadDogs_eq (s : Session) (u : User) (id : String) (now : UInt32) : u.loadDogs (s.env now) id =
    ({ u with dk := { u.dk with userId := id }, dogs := (s.dogs id).getD u.dogs }, true) := by
  simp only [User.loadDogs, env]
  cases s.dogs id <;> rfl

/-- A login on a working database. -/
theorem login_eq (s : Session) (u : User) (id : String) (now : UInt32) : u.login (s.env now) id =
    (u.loggedIn id (s.users id) (s.dogs id) now, some (u.loggedIn id (s.users id) (s.dogs id) now).udb, true) := by
  have loaded : u.load (s.env now) id = (⟨true, { (s.users id).getD u.udb with userId := id }, { u.dk with userId := id },
      (s.dogs id).getD u.dogs, u.dirty⟩, true) := by
    simp only [User.load, loadDogs_eq]
    simp only [env]
    cases s.users id <;> rfl
  simp only [User.login, loaded]
  rfl

theorem procUserLogin_eq (s : Session) (r : Request) : procUserLogin codec (s.env r.now) s.client r.msg =
    if s.client.u.ready then ⟨.succ, s.client, none⟩
    else
      match codec.userLoginReq r.msg.body with
      | none => ⟨.kick, s.client, none⟩
      | some id => ⟨.succ, { s.client with u := s.client.u.loggedIn id (s.users id) (s.dogs id) r.now },
          some (s.client.u.loggedIn id (s.users id) (s.dogs id) r.now).udb⟩ := by
  unfold procUserLogin
  split
  · rfl
  · cases codec.userLoginReq r.msg.body with
    | none => rfl
    | some id =>
      dsimp only
      rw [login_eq]

/-- The ends of a handler. -/
theorem served_run {proc : Handler} {called : Called} (enabled : s.client.enable = true) (found : handler? r.msg.h.cmd = some proc)
    (run : proc.run codec res (s.env r.now) s.client r.msg = .ok called) :
    Served codec res s r ⟨some (proc, called.ret),
      if called.ret = .kick then { called.c with enable := false } else called.c, called.upsert⟩ := by
  cases proc with
  | t =>
    cases run
    exact .kept _ _ fun k => by simp
  | userLogin =>
    have same : procUserLogin codec (s.env r.now) s.client r.msg = called := by
      cases run
      rfl
    rw [procUserLogin_eq] at same
    by_cases ready : s.client.u.ready = true
    · rw [if_pos ready] at same
      subst same
      exact .kept _ _ fun k => by simp
    · rw [if_neg ready] at same
      cases decoded : codec.userLoginReq r.msg.body with
      | none =>
        rw [decoded] at same
        subst same
        exact .kept _ _ fun k => by simp
      | some id =>
        rw [decoded] at same
        subst same
        exact .login id (Bool.eq_false_iff.2 ready)
  | dog k =>
    rw [run_dog] at run
    rcases procDog_due run rfl with rfl | rfl | ⟨i, dog, change, due, rfl⟩
    · exact .kept _ _ fun k => by simp
    · exact .kept _ _ fun k => by simp
    · exact .operated k i dog change enabled found due

theorem served (h : s.serve codec res r = some o) : Served codec res s r o := by
  unfold serve at h
  by_cases enabled : s.client.enable = true
  · rw [if_pos enabled] at h
    have returned : procMsg codec res (s.env r.now) s.client r.msg = .ok o := by
      cases result : procMsg codec res (s.env r.now) s.client r.msg with
      | error e => simp [result, Except.toOption] at h
      | ok o' =>
        rw [result] at h
        cases h
        rfl
    by_cases small : r.msg.h.cmd < 128
    · obtain ⟨proc, called, found, run, rfl⟩ := procMsg_ok small returned
      exact served_run enabled found run
    · unfold procMsg at returned
      rw [if_pos (UInt32.not_lt.1 small)] at returned
      cases returned
      exact .kept none s.client.enable fun k => by simp
  · simp [enabled] at h

theorem handler?_small {cmd : UInt32} {proc : Handler} (found : handler? cmd = some proc) : cmd < 128 := by
  by_contra large
  have beyond : procFuncArray[cmd.toNat]? = none := by
    apply List.getElem?_eq_none
    have size : procFuncArray.length = 128 := by decide +kernel
    rw [size]
    exact UInt32.le_iff_toNat_le.1 (UInt32.not_lt.1 large)
  simp [handler?, beyond] at found

/-- With the pointer set, an operation with nothing in its way succeeds. -/
theorem serve_due {k : Kind} {i : ℕ} {dog : Dog} {change : Config} (user : s.client.u.dk.user = .session)
    (enabled : s.client.enable = true) (found : handler? r.msg.h.cmd = some (.dog k))
    (due : Due codec res s.client.u k r i dog change) :
    s.serve codec res r = some ⟨some (.dog k, .succ), { s.client with u := s.client.u.operated i k change r.now }, none⟩ := by
  have done : procDog codec res k (s.env r.now) s.client r.msg = .ok _ := due.operate user rfl
  unfold serve
  rw [if_pos enabled, procMsg_eq (handler?_small found), found]
  dsimp only
  rw [run_dog, done]
  rfl

theorem Synced.committed {k : Kind} {i : ℕ} {dog : Dog} {change : Config} (synced : Synced s)
    (due : Due codec res s.client.u k r i dog change) : s.Committed := by
  have some := due.found
  refine ⟨synced.users due.ready, synced.dogs due.ready fun empty => ?_⟩
  rw [empty] at some
  cases some

/-- **One request**: the contract holds exactly when the operation changes nothing. -/
theorem commits_iff (synced : Synced s) : Commits codec res s r ↔ Idles codec res s r := by
  constructor
  · intro commits enabled k found i dog change due
    obtain ⟨users, dogs⟩ := synced.committed due
    rcases commits _ k (serve_due synced.user enabled found due) rfl with ⟨users', dogs'⟩ | ⟨dirty, -⟩
    · apply (operated_eq_iff due.found).1
      have udb := Option.some.inj (users'.symm.trans users)
      have array := Option.some.inj (dogs'.symm.trans dogs)
      change ({ s.client.u with
        udb := (s.client.u.operated i k change r.now).udb
        dogs := (s.client.u.operated i k change r.now).dogs } : User) = s.client.u
      rw [show (s.client.u.operated i k change r.now).udb = s.client.u.udb from udb,
        show (s.client.u.operated i k change r.now).dogs = s.client.u.dogs from array]
    · have clean : s.client.u.dirty = true := dirty
      rw [synced.clean] at clean
      cases clean
  · intro idles o k answered succeeded
    cases served answered with
    | kept ran enable other => exact absurd succeeded (other k)
    | login id new => cases succeeded
    | operated k' i dog change enabled found due =>
      have same := (operated_eq_iff due.found).2 (idles enabled k' found i dog change due)
      left
      unfold after
      rw [same]
      exact synced.committed due

/-- A request that meets the condition. -/
theorem step_synced (synced : Synced s) (idles : Idles codec res s r) (h : step codec res s r = some t) : Synced t := by
  obtain ⟨o, answered, rfl⟩ := Option.map_eq_some_iff.1 h
  cases served answered with
  | kept ran enable other => exact ⟨synced.user, synced.clean, synced.users, synced.dogs, synced.new⟩
  | login id new =>
    refine ⟨synced.user, synced.clean, fun _ => ?_, fun _ some => ?_, fun ready => by cases ready⟩
    · exact Function.update_self ..
    · change (s.dogs id).getD s.client.u.dogs ≠ [] at some
      change s.dogs id = Option.some ((s.dogs id).getD s.client.u.dogs)
      rw [synced.new new] at some ⊢
      cases stored : s.dogs id with
      | none => simp [stored] at some
      | some dogs => rfl
  | operated k i dog change enabled found due =>
    have same := (operated_eq_iff due.found).2 (idles enabled k found i dog change due)
    unfold after
    rw [same]
    exact ⟨synced.user, synced.clean, synced.users, synced.dogs, synced.new⟩

/-- **Which runs commit their operations**: those whose operations change nothing. -/
theorem commits_iff_idles (codec : Codec) (res : ResMap) (users : String → Option UserDb)
    (dogs : String → Option (List Dog)) (rs : List Request) :
    Along (step codec res) (Commits codec res) (start users dogs) rs ↔
      Along (step codec res) (Idles codec res) (start users dogs) rs := by
  have new : Synced (start users dogs) := ⟨rfl, rfl, nofun, nofun, fun _ => rfl⟩
  exact along_iff_along (fun _ _ _ synced idles h => step_synced synced idles h) (fun _ _ synced => commits_iff synced) new

end
end Session

/-! ## Tests -/

/-- A request without a body, at the time 10. -/
def request (cmd : UInt32) : Request := ⟨⟨{ Header.zero with cmd }, []⟩, 10⟩

/-- A user with one dog logs in and feeds it. -/
theorem fed_not_committed : ¬ Along (Session.step oneUser (resInit oneEntry)) (Session.Commits oneUser (resInit oneEntry))
    (.start (fun _ => none) fun _ => some [rex]) [request 1, request 5] := by
  intro commits
  have shown : ((exec (Session.step oneUser (resInit oneEntry)) (.start (fun _ => none) fun _ => some [rex]) [request 1]).bind
      fun s => (s.serve oneUser (resInit oneEntry) (request 5)).map fun o => (o.ran, (s.after o).client.u.dirty,
        decide ((s.after o).users (s.after o).client.u.udb.userId = some (s.after o).client.u.udb))) =
      some (some (.dog .feed, .succ), false, false) := by decide +kernel
  obtain ⟨s, login, shown⟩ := Option.bind_eq_some_iff.1 shown
  obtain ⟨o, answered, shown⟩ := Option.map_eq_some_iff.1 shown
  obtain ⟨ran, clean, lost⟩ : o.ran = some (.dog .feed, .succ) ∧ (s.after o).client.u.dirty = false ∧ _ := by
    simpa only [Prod.mk.injEq] using shown
  rcases commits [request 1] (request 5) s (List.prefix_refl _) login o .feed answered ran with ⟨users, -⟩ | ⟨dirty, -⟩
  · exact of_decide_eq_false lost users
  · cases clean.symm.trans dirty

end Crazyass.Dogrun
