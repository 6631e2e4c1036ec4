import Crazyass.Server.Served

/-!
# What a request can do

`Effect` lists, once, everything the middle of `procMsg` can do to a client:
the request is rejected by the dispatcher, refused by its handler, served, or
it is the login of a client that was not logged in, which fails or succeeds.
`dispatch_effect` proves the list complete; the invariants of the later modules
are case analyses over it and never unfold a handler.
-/

namespace Crazyass.Server
open Go

section
variable {κ : Type} {cv : FloatConv} {c : Client κ}

/-! ## Login -/

/-- The userid a login message asks for. -/
def loginId (env : Env) (m : Msg) : String := if m.userid = "" then generateUniqueUserid env else m.userid

theorem loginId_ne_empty (env : Env) (m : Msg) : loginId env m ≠ "" := by
  unfold loginId
  split
  · exact generateUniqueUserid_ne_empty env
  · assumption

/-- What `ProcUserLogin` makes of the loaded user. -/
def User.loggedIn (u : User) (env : Env) : User := (u.enter env).initEventLock

@[simp] theorem loggedIn_ready (u : User) (env : Env) : (u.loggedIn env).ready = true := by
  unfold User.loggedIn User.initEventLock
  split <;> rfl

@[simp] theorem loggedIn_dirty (u : User) (env : Env) : (u.loggedIn env).dirty = u.dirty := by
  unfold User.loggedIn User.initEventLock
  split <;> rfl

theorem loggedIn_udb (u : User) (env : Env) :
    (u.loggedIn env).udb =
      { u.udb with
        heart := if u.udb.heart < 30 then 99 else u.udb.heart
        lastLogin := env.loginTime
        eventLock := if u.udb.eventLock.length = 0 then List.replicate 6 1 else u.udb.eventLock } := by
  unfold User.loggedIn User.initEventLock User.enter User.setEventLock
  by_cases low : u.udb.heart < 30 <;> by_cases locks : u.udb.eventLock.length = 0 <;> simp [low, locks]

/-- What mongo is assumed to do: a document found under an id carries it. -/
theorem load_userId {u v : User} {env : Env} {id : String} (h : u.load env id = some v) : v.udb.userId = id := by
  unfold User.load at h
  split at h
  · next d eq _ =>
    cases h
    exact eq
  · cases h
    rfl
  · cases h

/-- A login gives the account that it was asked for. -/
theorem loggedIn_userId {u v : User} {env : Env} {id : String} (h : u.load env id = some v) :
    (v.loggedIn env).udb.userId = id := by
  rw [loggedIn_udb]
  exact load_userId h

/-- The two ends of a first login. -/
inductive LoginEnd (env : Env) (online : Online κ) (c : Client κ) (r : Called κ) : Prop where
  | failed (load : c.user.load env (loginId env c.msg) = none) (ret : r.ret = .kick) (registry : r.online = online)
      (user : r.c.user = c.user) (errCode : r.c.replyMsg.errCode = .ofUInt32 kErrReadDB)
      (kept : Kept c r.c) (userid : r.c.msg.userid = loginId env c.msg)
  | loggedIn (u : User) (load : c.user.load env (loginId env c.msg) = some u) (ret : r.ret = .succ)
      (registry : r.online = (online.insert (loginId env c.msg) c.self).1)
      (user : r.c.user = u.loggedIn env) (errCode : r.c.replyMsg.errCode = c.replyMsg.errCode)
      (kept : Kept c r.c) (userid : r.c.msg.userid = loginId env c.msg)

/-- The client once the message names a userid. -/
def Client.named (env : Env) (c : Client κ) : Client κ := { c with msg := { c.msg with userid := loginId env c.msg } }

theorem named_eq (env : Env) (c : Client κ) :
    (if c.msg.userid = "" then { c with msg := { c.msg with userid := generateUniqueUserid env } } else c) =
      c.named env := by
  unfold Client.named loginId
  split <;> rfl

theorem Kept.named (env : Env) (c : Client κ) : Kept c (c.named env) := { Kept.refl c with msg := rfl }

theorem Kept.replyLogin (c : Client κ) : Kept c c.replyLogin := { Kept.refl c with }

/-- **`ProcUserLogin`** of a client that is not logged in logs it in, or kicks it. -/
theorem procUserLogin_end (env : Env) (online : Online κ) (out : c.user.ready = false) :
    LoginEnd env online c (procUserLogin env online c) := by
  unfold procUserLogin
  rw [named_eq, if_neg (by simp [Client.isLogin, out])]
  have id_eq : (c.named env).msg.userid = loginId env c.msg := rfl
  have load : (c.named env).user.load env = c.user.load env := rfl
  dsimp only [Client.login]
  rw [id_eq, load]
  cases found : c.user.load env (loginId env c.msg) with
  | none => exact .failed found rfl rfl rfl rfl ((Kept.named env c).trans (.setErrCode _ _)) rfl
  | some u =>
    have kept := ((Kept.named env c).trans (.setUser _ (u.enter env))).trans (.replyLogin _)
    exact .loggedIn u found rfl rfl rfl rfl kept rfl

/-! ## Dispatch -/

/-- Everything the middle of `procMsg` can do. The handler that ran is the
index; there is none when the dispatcher itself refuses. -/
inductive Effect (cv : FloatConv) (env : Env) (online : Online κ) (c : Client κ) : Option Handler → Called κ → Prop where
  | rejected {r : Called κ} (ret : r.ret = .kick) (registry : r.online = online) (c_eq : r.c = c.initReply) :
      Effect cv env online c none r
  | refused {h : Handler} {r : Called κ} (ready : c.user.ready = true) (e : UInt32) (why : Refused cv c.msg c.user h e)
      (ret : r.ret = .err) (registry : r.online = online) (c_eq : r.c = c.initReply.setErrCode e) :
      Effect cv env online c (some h) r
  | served {h : Handler} {r : Called κ} (ready : c.user.ready = true) (ret : r.ret = .succ)
      (registry : r.online = online) (user : Served cv c.msg c.user h r.c.user) (replied : Replied c.initReply r.c) :
      Effect cv env online c (some h) r
  | login {r : Called κ} (out : c.user.ready = false) (cmd : c.msg.cmd = kCmdUserLogin)
      (result : LoginEnd env online c.initReply r) : Effect cv env online c (some .userLogin) r

theorem kCmdUserLogin_index (cv : FloatConv) :
    index .procFuncArray procFuncArray (cv.int kCmdUserLogin).toInt = .ok (some .userLogin) := by
  rw [index_ok, kCmdUserLogin, cv.int_ofUInt32, procFuncArray_eq]
  exact ⟨by decide, rfl⟩

/-- What a handler does is what the request does. -/
theorem HandlerEnd.effect {env : Env} {online : Online κ} {h : Handler} {r : ProcRet × Client κ}
    (ready : c.user.ready = true) (e : HandlerEnd cv c.initReply h r.1 r.2) :
    Effect cv env online c (some h) ⟨r.1, r.2, online⟩ := by
  cases e with
  | refused e why ret c_eq => exact .refused ready e why ret rfl c_eq
  | served ret user replied => exact .served ready ret rfl user replied

/-- A registered handler called on a client that is logged in. -/
theorem run_effect {env : Env} {online : Online κ} {h : Handler} {r : Called κ} (ready : c.user.ready = true)
    (run : h.run cv env online c.initReply = .ok r) : Effect cv env online c (some h) r := by
  cases h with
  | t =>
    cases run
    exact .served ready rfl rfl .t (.refl _)
  | userLogin =>
    cases run
    rw [procUserLogin, if_pos (show c.initReply.isLogin = true from ready)]
    exact .served ready rfl rfl .again (.refl _)
  | startPlay =>
    obtain ⟨r', h, rfl⟩ := map_ok.1 run
    exact (procStartPlay_end h).effect ready
  | endPlay =>
    obtain ⟨r', h, rfl⟩ := map_ok.1 run
    exact (procEndPlay_end h).effect ready
  | iapAddHeart =>
    obtain ⟨r', h, rfl⟩ := map_ok.1 run
    exact (procIAPAddHeart_end h).effect ready
  | eventLock =>
    obtain ⟨r', h, rfl⟩ := map_ok.1 run
    exact (procEventLock_end h).effect ready
  | useItem =>
    obtain ⟨r', h, rfl⟩ := map_ok.1 run
    exact (procUseItem_end h).effect ready

/-- **The list is complete.** -/
theorem dispatch_effect {env : Env} {online : Online κ} {ran : Option Handler} {r : Called κ}
    (h : dispatch cv env online c = .ok (ran, r)) : Effect cv env online c ran r := by
  unfold dispatch at h
  dsimp only at h
  split at h
  · cases h
    exact .rejected rfl rfl rfl
  · next allowed =>
    obtain ⟨entry, lookup, call⟩ := bind_ok.1 h
    cases entry with
    | none =>
      cases call
      exact .rejected rfl rfl rfl
    | some proc =>
      obtain ⟨r', run, done⟩ := bind_ok.1 call
      cases done
      by_cases ready : c.user.ready = true
      · exact run_effect ready run
      · -- only the login command passes the gate of a client that is not logged in
        have out : c.user.ready = false := by simpa using ready
        have cmd : c.msg.cmd = kCmdUserLogin := by
          by_contra other
          exact allowed ⟨ready, other⟩
        have login : index .procFuncArray procFuncArray (cv.int c.msg.cmd).toInt = .ok (some .userLogin) :=
          cmd ▸ kCmdUserLogin_index cv
        cases login.symm.trans lookup
        cases run
        exact .login out cmd (procUserLogin_end env online out)

/-- The login command always reaches `ProcUserLogin`. -/
theorem dispatch_login (cv : FloatConv) (env : Env) (online : Online κ) (cmd : c.msg.cmd = kCmdUserLogin) :
    dispatch cv env online c = .ok (some .userLogin, procUserLogin env online c.initReply) := by
  unfold dispatch
  have cmd' : c.initReply.msg.cmd = kCmdUserLogin := cmd
  have entry := kCmdUserLogin_index cv
  simp only [cmd', ne_eq, not_true, and_false, if_false, entry]
  rfl

/-! ## Refusals -/

/-- A failed login leaves the user as it was: `Load` writes it only when it succeeds. -/
theorem LoginEnd.refusal {env : Env} {online : Online κ} {r : Called κ} (result : LoginEnd env online c r)
    (refused : r.ret = .err ∨ r.ret = .kick) : r.c.user = c.user ∧ r.online = online := by
  cases result with
  | failed load ret registry user errCode kept userid => exact ⟨user, registry⟩
  | loggedIn u load ret registry user errCode kept userid =>
    rw [ret] at refused
    rcases refused with err | kick
    · cases err
    · cases kick

/-- **A refused request changes nothing**, neither the user nor the registry. -/
theorem refusal_keeps {env : Env} {online : Online κ} {ran : Option Handler} {r : Called κ}
    (h : dispatch cv env online c = .ok (ran, r)) (refused : r.ret = .err ∨ r.ret = .kick) :
    r.c.user = c.user ∧ r.online = online := by
  cases dispatch_effect h with
  | rejected ret registry c_eq =>
    rw [c_eq]
    exact ⟨rfl, registry⟩
  | refused ready e why ret registry c_eq =>
    rw [c_eq]
    exact ⟨rfl, registry⟩
  | served ready ret registry user replied =>
    -- a handler that serves the request answers with success
    rw [ret] at refused
    rcases refused with err | kick
    · cases err
    · cases kick
  | login out cmd result =>
    obtain ⟨user, registry⟩ := result.refusal refused
    exact ⟨user, registry⟩

/-- A player who has reached stage 2 asks for stage 5. -/
def tooEarly : Client Unit :=
  { Client.new () with
    user := ⟨true, ⟨"u", 7, 50, 2, 3, "phone", [3, 1, 1, 1, 1, 1]⟩, true⟩
    msg := .request 2 "u" [("stageid", .num (.ofUInt32 5))] }

/-- The registry with that player alone. -/
def soleEntry : Online Unit := (Online.empty.insert "u" ()).1

/-- The player keeps hearts, locks and entry. -/
theorem refusal_keeps_early : soleEntry.usermap "u" = some () ∧
    ∃ ran r, dispatch amd64 (.answering fun _ => .failed) soleEntry tooEarly = .ok (ran, r) ∧ r.ret = .err ∧
      r.c.user = tooEarly.user ∧ r.online = soleEntry := by
  refine ⟨by decide +kernel, ?_⟩
  have ends : (dispatch amd64 (.answering fun _ => .failed) soleEntry tooEarly).toOption.map (fun o => o.2.ret) = some .err := by
    decide +kernel
  cases called : dispatch amd64 (.answering fun _ => .failed) soleEntry tooEarly with
  | error panic =>
    rw [called] at ends
    cases ends
  | ok o =>
    rw [called] at ends
    obtain ⟨ran, r⟩ := o
    have err : r.ret = .err := Option.some.inj ends
    exact ⟨ran, r, rfl, err, refusal_keeps called (.inl err)⟩

/-! ## The end of `procMsg` -/

section finish
variable (env : Env) (ran : Option Handler) (r : Called κ)

theorem finish_c : (finish env ran r).c =
    if (r.c.user.store env).2 then
      if r.ret = .kick then { r.c with enable := false } else r.c
    else { r.c.setErrCode kErrWriteDB with enable := false } := by
  unfold finish
  cases r.c.user.store env with
  | mk upsert stored => cases stored <;> simp

@[simp] theorem finish_user : (finish env ran r).c.user = r.c.user := by
  rw [finish_c]
  split
  · split <;> rfl
  · rfl

@[simp] theorem finish_self : (finish env ran r).c.self = r.c.self := by
  rw [finish_c]
  split
  · split <;> rfl
  · rfl

@[simp] theorem finish_msg : (finish env ran r).c.msg = r.c.msg := by
  rw [finish_c]
  split
  · split <;> rfl
  · rfl

@[simp] theorem finish_ichan : (finish env ran r).c.ichan = r.c.ichan := by
  rw [finish_c]
  split
  · split <;> rfl
  · rfl

@[simp] theorem finish_online : (finish env ran r).online = r.online := rfl

@[simp] theorem finish_ran : (finish env ran r).ran = ran.map fun h => (h, r.ret) := rfl

@[simp] theorem finish_stored : (finish env ran r).stored = (r.c.user.store env).2 := rfl

@[simp] theorem finish_upsert : (finish env ran r).upsert = if r.c.user.dirty then some r.c.user.udb else none := by
  change (r.c.user.store env).1 = _
  unfold User.store
  split <;> rfl

end finish

/-- What the dispatcher leaves alone when the command is out of its range. -/
def Outcome.dropped (online : Online κ) (c : Client κ) : Outcome κ := ⟨c, online, none, none, true, []⟩

/-- **`procMsg`** drops the message, or dispatches it, stores and replies. -/
theorem procMsg_ok {env : Env} {online : Online κ} {o : Outcome κ} :
    procMsg cv env online c = .ok o ↔
      (128 ≤ c.msg.cmd.val ∧ o = .dropped online c) ∨
      (c.msg.cmd.val < 128 ∧ ∃ ran r, dispatch cv env online c = .ok (ran, r) ∧ o = finish env ran r) := by
  unfold procMsg
  by_cases big : c.msg.cmd.val ≥ 128
  · rw [if_pos big]
    constructor
    · intro h
      cases h
      exact .inl ⟨big, rfl⟩
    · rintro (⟨-, rfl⟩ | ⟨small, -⟩)
      · rfl
      · exact absurd big (not_le.2 small)
  · rw [if_neg big, bind_ok]
    constructor
    · rintro ⟨⟨ran, r⟩, run, done⟩
      cases done
      exact .inr ⟨not_le.1 big, ran, r, run, rfl⟩
    · rintro (⟨large, -⟩ | ⟨-, ran, r, run, rfl⟩)
      · exact absurd large big
      · exact ⟨(ran, r), run, rfl⟩

/-- The login command of a client that is not logged in: the user cannot be
loaded, or it is logged in and offered to the registry. -/
theorem serve_login {env : Env} {online : Online κ} {m : Msg} {o : Outcome κ} (out : c.user.ready = false)
    (cmd : m.cmd = kCmdUserLogin) (h : serve cv env online c m = .ok o) :
    (c.user.load env (loginId env m) = none ∧ o.c.user = c.user ∧ o.online = online) ∨
      ∃ u, c.user.load env (loginId env m) = some u ∧ o.c.user = u.loggedIn env ∧
        o.online = (online.insert (loginId env m) c.self).1 := by
  rcases procMsg_ok.1 h with ⟨big, -⟩ | ⟨-, ran, r, run, rfl⟩
  · change 128 ≤ m.cmd.val at big
    rw [cmd] at big
    exact absurd big (by decide)
  · have call := dispatch_login cv env online (c := loopHead { c with msg := m }) cmd
    cases call.symm.trans run
    rw [finish_user, finish_online]
    have result := procUserLogin_end (c := (loopHead { c with msg := m }).initReply) env online out
    generalize procUserLogin env online (loopHead { c with msg := m }).initReply = r at result
    cases result with
    | failed load ret registry user errCode kept userid => exact .inl ⟨load, user, registry⟩
    | loggedIn u load ret registry user errCode kept userid => exact .inr ⟨u, load, user, registry⟩

/-- A client that is not logged in stays so under any other command. -/
theorem serve_out {env : Env} {online : Online κ} {m : Msg} {o : Outcome κ} (out : c.user.ready = false)
    (other : m.cmd ≠ kCmdUserLogin) (h : serve cv env online c m = .ok o) :
    o.c.user = c.user ∧ o.online = online := by
  rcases procMsg_ok.1 h with ⟨-, rfl⟩ | ⟨-, ran, r, run, rfl⟩
  · exact ⟨rfl, rfl⟩
  · rw [finish_user, finish_online]
    cases dispatch_effect run with
    | rejected ret registry c_eq => exact ⟨by rw [c_eq]; rfl, registry⟩
    | refused ready e why ret registry c_eq => exact ⟨by rw [c_eq]; rfl, registry⟩
    | served ready ret registry user replied =>
      have ready : c.user.ready = true := ready
      rw [out] at ready
      cases ready
    | login _ cmd result => exact absurd cmd other

/-- A client that is logged in does not touch the registry. -/
theorem serve_online {env : Env} {online : Online κ} {m : Msg} {o : Outcome κ} (ready : c.user.ready = true)
    (h : serve cv env online c m = .ok o) : o.online = online := by
  rcases procMsg_ok.1 h with ⟨-, rfl⟩ | ⟨-, ran, r, run, rfl⟩
  · rfl
  · rw [finish_online]
    cases dispatch_effect run with
    | rejected ret registry c_eq => exact registry
    | refused ready e why ret registry c_eq => exact registry
    | served ready ret registry user replied => exact registry
    | login out cmd result =>
      have out : c.user.ready = false := out
      rw [ready] at out
      cases out

/-- A client keeps its address. -/
theorem serve_self {env : Env} {online : Online κ} {m : Msg} {o : Outcome κ} (h : serve cv env online c m = .ok o) :
    o.c.self = c.self := by
  rcases procMsg_ok.1 h with ⟨-, rfl⟩ | ⟨-, ran, r, run, rfl⟩
  · rfl
  · rw [finish_self]
    cases dispatch_effect run with
    | rejected ret registry c_eq => rw [c_eq]; rfl
    | refused ready e why ret registry c_eq => rw [c_eq]; rfl
    | served ready ret registry user replied => exact replied.kept.self
    | login out cmd result =>
      cases result with
      | failed load ret registry user errCode kept userid => exact kept.self
      | loggedIn u load ret registry user errCode kept userid => exact kept.self

/-- The message cell after a request: `ProcUserLogin` may write a generated userid into it. -/
theorem serve_msg {env : Env} {online : Online κ} {m : Msg} {o : Outcome κ}
    (named : c.user.ready = false → m.cmd = kCmdUserLogin → m.userid ≠ "") (h : serve cv env online c m = .ok o) :
    o.c.msg = m := by
  rcases procMsg_ok.1 h with ⟨-, rfl⟩ | ⟨-, ran, r, run, rfl⟩
  · rfl
  · rw [finish_msg]
    cases dispatch_effect run with
    | rejected ret registry c_eq => rw [c_eq]; rfl
    | refused ready e why ret registry c_eq => rw [c_eq]; rfl
    | served ready ret registry user replied =>
      rw [replied.kept.msg, replied.userid]
      rfl
    | login out cmd result =>
      have asked : loginId env m = m.userid := if_neg (named out cmd)
      cases result with
      | failed load ret registry user errCode kept userid =>
        rw [kept.msg, userid]
        exact congrArg (fun id => { m with userid := id }) asked
      | loggedIn u load ret registry user errCode kept userid =>
        rw [kept.msg, userid]
        exact congrArg (fun id => { m with userid := id }) asked

/-- `Store` writes the user it leaves behind, or nothing when the flag is clear. -/
theorem procMsg_upsert {env : Env} {online : Online κ} {o : Outcome κ} (h : procMsg cv env online c = .ok o) :
    (o.upsert = none ∨ o.upsert = some o.c.user.udb) ∧ (o.c.user.dirty = false → o.upsert = none) := by
  rcases procMsg_ok.1 h with ⟨-, rfl⟩ | ⟨-, ran, r, run, rfl⟩
  · exact ⟨.inl rfl, fun _ => rfl⟩
  · rw [finish_upsert, finish_user]
    split
    · next dirty => exact ⟨.inr rfl, fun clean => by rw [dirty] at clean; cases clean⟩
    · exact ⟨.inl rfl, fun _ => rfl⟩

/-- A call of `procMsg` drops the request or has one of the listed effects and
then stores and replies. -/
theorem procMsg_effect {env : Env} {online : Online κ} {o : Outcome κ} (h : procMsg cv env online c = .ok o) :
    (128 ≤ c.msg.cmd.val ∧ o = .dropped online c) ∨
      ∃ ran r, Effect cv env online c ran r ∧ o = finish env ran r := by
  rcases procMsg_ok.1 h with dropped | ⟨-, ran, r, run, done⟩
  · exact .inl dropped
  · exact .inr ⟨ran, r, dispatch_effect run, done⟩

end

end Crazyass.Server
