import Crazyass.Server.Answer

/-!
# What the replies carry

Each handler fills the body of its reply by hand. `Fills` lists what it puts
there when it serves a request; a request that no handler serves, and the login
of a client already logged in, leave the body empty.
-/

namespace Crazyass.Server
open Go

/-- Entries set one after the other. -/
def Msg.puts (m : Msg) (entries : List (String × Value)) : Msg := entries.foldl (fun m e => m.put e.1 e.2) m

section
variable {κ : Type} (cv : FloatConv)

/-- The entries of a reply to the request `m`, when `v` is the user afterwards. -/
inductive Fills (m : Msg) (v : User) : Handler → List (String × Value) → Prop where
  | t : Fills m v .t []
  | again : Fills m v .userLogin []
  | startPlay : Fills m v .startPlay [("Heart", .uint32 v.udb.heart), ("Stageid", .uint32 v.udb.nextStage)]
  | endPlay : Fills m v .endPlay [("Heart", .uint32 v.udb.heart), ("Stageid", .uint32 v.udb.nextStage)]
  | iapAddHeart : Fills m v .iapAddHeart [("Heart", .uint32 v.udb.heart)]
  | eventLock (x y : Float64) (stageid : m.body "stageid" = some (.json (.num x)))
      (eventid : m.body "eventid" = some (.json (.num y))) :
      Fills m v .eventLock [("Heart", .uint32 v.udb.heart), ("Stageid", .int (cv.int x)), ("Eventid", .int (cv.int y))]
  | useItem : Fills m v .useItem [("Heart", .uint32 v.udb.heart)]

variable {cv} in
theorem Fills.again_eq {m : Msg} {v : User} {entries : List (String × Value)} (fills : Fills cv m v .userLogin entries) :
    entries = [] := by
  cases fills
  rfl

variable {cv} in
/-- The login of a client already logged in leaves the user alone. -/
theorem Served.again_eq {m : Msg} {u v : User} (served : Served cv m u .userLogin v) : v = u := by
  cases served
  rfl

/-- The entries of the reply to a first login. -/
def loginEntries (v : User) : List (String × Value) :=
  [("Heart", .uint32 v.udb.heart), ("Stageid", .uint32 v.udb.nextStage), ("Panty", .json (.bool true)),
    ("Tapjoy", .json (.bool true)), ("EventLock", .ints v.udb.eventLock)]

/-- The client `d` has filled in the reply of `c`. -/
def Client.Filled (c d : Client κ) (h : Handler) : Prop :=
  ∃ entries, Fills cv c.msg d.user h entries ∧ d.replyMsg = c.replyMsg.puts entries

variable {cv} {c d : Client κ}

theorem procIAPAddHeart_filled (h : procIAPAddHeart cv c = .ok (.succ, d)) : c.Filled cv d .iapAddHeart := by
  unfold procIAPAddHeart at h
  split at h
  · cases h
  · obtain ⟨x, -, body⟩ := bind_ok.1 h
    cases body
    exact ⟨_, .iapAddHeart, rfl⟩

theorem procStartPlay_filled (h : procStartPlay cv c = .ok (.succ, d)) : c.Filled cv d .startPlay := by
  unfold procStartPlay at h
  split at h
  · cases h
  · obtain ⟨x, -, body⟩ := bind_ok.1 h
    dsimp only at body
    split at body
    · cases body
    · obtain ⟨price, -, pay⟩ := bind_ok.1 body
      split at pay
      · cases pay
      · cases pay
        exact ⟨_, .startPlay, rfl⟩

theorem procEndPlay_filled (h : procEndPlay cv c = .ok (.succ, d)) : c.Filled cv d .endPlay := by
  unfold procEndPlay at h
  split at h
  · cases h
  · obtain ⟨x, -, body⟩ := bind_ok.1 h
    dsimp only at body
    split at body
    · cases body
    · split at body
      · split at body
        · cases body
        · obtain ⟨b, -, advance⟩ := bind_ok.1 body
          split at advance
          · cases advance
            exact ⟨_, .endPlay, rfl⟩
          · cases advance
            exact ⟨_, .endPlay, rfl⟩
      · cases body
        exact ⟨_, .endPlay, rfl⟩

theorem procEventLock_filled (h : procEventLock cv c = .ok (.succ, d)) : c.Filled cv d .eventLock := by
  unfold procEventLock at h
  split at h
  · cases h
  · next v stageid =>
    split at h
    · cases h
    · next w eventid =>
      obtain ⟨x, hx, body⟩ := bind_ok.1 h
      cases assertFloat64_ok.1 hx
      obtain ⟨y, hy, unlock⟩ := bind_ok.1 body
      cases assertFloat64_ok.1 hy
      obtain ⟨lock, -, pay⟩ := bind_ok.1 unlock
      obtain ⟨c', hc, done⟩ := bind_ok.1 pay
      cases done
      cases useTable_ok hc
      exact ⟨_, .eventLock x y stageid eventid, rfl⟩

theorem procUseItem_filled (h : procUseItem cv c = .ok (.succ, d)) : c.Filled cv d .useItem := by
  unfold procUseItem at h
  split at h
  · cases h
  · obtain ⟨x, -, body⟩ := bind_ok.1 h
    obtain ⟨c', hc, done⟩ := bind_ok.1 body
    cases done
    cases useTable_ok hc
    exact ⟨_, .useItem, rfl⟩

/-- A handler that serves a client that is logged in. -/
theorem run_filled {env : Env} {online : Online κ} {h : Handler} {r : Called κ} (ready : c.user.ready = true)
    (run : h.run cv env online c = .ok r) (succ : r.ret = .succ) : c.Filled cv r.c h := by
  obtain ⟨ret, d, on⟩ := r
  cases (succ : ret = .succ)
  cases h with
  | t =>
    cases run
    exact ⟨[], .t, rfl⟩
  | userLogin =>
    have again : procUserLogin env online c = ⟨.succ, c, online⟩ := if_pos ready
    cases again.symm.trans (Except.ok.inj run)
    exact ⟨[], .again, rfl⟩
  | startPlay =>
    obtain ⟨⟨_, _⟩, done, same⟩ := map_ok.1 run
    cases same
    exact procStartPlay_filled done
  | endPlay =>
    obtain ⟨⟨_, _⟩, done, same⟩ := map_ok.1 run
    cases same
    exact procEndPlay_filled done
  | iapAddHeart =>
    obtain ⟨⟨_, _⟩, done, same⟩ := map_ok.1 run
    cases same
    exact procIAPAddHeart_filled done
  | eventLock =>
    obtain ⟨⟨_, _⟩, done, same⟩ := map_ok.1 run
    cases same
    exact procEventLock_filled done
  | useItem =>
    obtain ⟨⟨_, _⟩, done, same⟩ := map_ok.1 run
    cases same
    exact procUseItem_filled done

/-- The body of a login has the entries of its user. -/
theorem login_entries (env : Env) (online : Online κ) (out : c.user.ready = false)
    (succ : (procUserLogin env online c).ret = .succ) :
    (procUserLogin env online c).c.replyMsg.body =
      (c.replyMsg.puts (loginEntries (procUserLogin env online c).c.user)).body := by
  unfold procUserLogin at succ ⊢
  rw [named_eq, if_neg (by simp [Client.isLogin, out])] at succ ⊢
  dsimp only [Client.login] at succ ⊢
  cases load : (c.named env).user.load env (c.named env).msg.userid with
  | none => simp [load] at succ
  | some u =>
    have heart : (u.enter env).initEventLock.udb.heart = (u.enter env).udb.heart := by
      unfold User.initEventLock
      split <;> rfl
    have stage : (u.enter env).initEventLock.udb.nextStage = (u.enter env).udb.nextStage := by
      unfold User.initEventLock
      split <;> rfl
    simp only [loginEntries, Client.replyLogin, Client.reply, Msg.puts, List.foldl, Msg.put, heart, stage]
    rfl

/-! ## What the client is told -/

/-- A body with these entries. -/
def bodyOf (entries : List (String × Value)) : Body := (Msg.zero.puts entries).body

theorem puts_body {m : Msg} {b : Body} {entries : List (String × Value)} (empty : m.body = b) :
    (m.puts entries).body = ({ Msg.zero with body := b }.puts entries).body := by
  induction entries generalizing m b with
  | nil => exact empty
  | cons e es ih =>
    have head : (m.put e.1 e.2).body = Function.update b e.1 (some e.2) := by rw [← empty]; rfl
    exact ih head

/-- The stored flag of `procMsg`. -/
def User.stored (u : User) (env : Env) : Bool := (u.store env).2

/-- The ends of a request as its client sees them: the reply, and the user it
leaves behind. -/
inductive Told (cv : FloatConv) (env : Env) (c : Client κ) (m : Msg) (o : Outcome κ) (reply : Msg) : Prop where
  /-- No handler serves the request, or it is the login of a client already logged in. -/
  | unserved (which : chosen cv m c.user = none ∨ c.user.ready = true ∧ chosen cv m c.user = some .userLogin)
      (user : o.c.user = c.user) (body : reply.body = fun _ => none)
      (code : reply.errCode = 0 ↔ c.user.stored env = true)
  | refused (h : Handler) (e : UInt32) (ready : c.user.ready = true) (which : chosen cv m c.user = some h)
      (why : Refused cv m c.user h e) (user : o.c.user = c.user) (code : reply.errCode ≠ 0)
  | served (h : Handler) (entries : List (String × Value)) (ready : c.user.ready = true)
      (which : chosen cv m c.user = some h) (other : h ≠ .userLogin) (served : Served cv m c.user h o.c.user)
      (fills : Fills cv m o.c.user h entries) (body : reply.body = bodyOf entries)
      (code : reply.errCode = 0 ↔ o.c.user.stored env = true)
  | loadFailed (out : c.user.ready = false) (cmd : m.cmd = kCmdUserLogin)
      (load : c.user.load env (loginId env m) = none) (user : o.c.user = c.user) (code : reply.errCode ≠ 0)
  | loggedIn (u : User) (out : c.user.ready = false) (cmd : m.cmd = kCmdUserLogin)
      (load : c.user.load env (loginId env m) = some u) (user : o.c.user = u.loggedIn env)
      (body : reply.body = bodyOf (loginEntries (u.loggedIn env)))
      (code : reply.errCode = 0 ↔ (u.loggedIn env).stored env = true)

/-- The call of a registered handler. -/
theorem dispatch_run {env : Env} {online : Online κ} {h : Handler} {r : Called κ}
    (run : dispatch cv env online c = .ok (some h, r)) : h.run cv env online c.initReply = .ok r := by
  unfold dispatch at run
  dsimp only at run
  split at run
  · cases run
  · obtain ⟨entry, -, call⟩ := bind_ok.1 run
    cases entry with
    | none => cases call
    | some proc =>
      obtain ⟨r', done, same⟩ := bind_ok.1 call
      cases same
      exact done

section
variable {env : Env} {ran : Option Handler} {r : Called κ}

theorem finish_reply : (finish env ran r).c.replyMsg =
    if r.c.user.stored env then r.c.replyMsg else (r.c.setErrCode kErrWriteDB).replyMsg := by
  rw [finish_c]
  unfold User.stored
  split
  · split <;> rfl
  · rfl

/-- A reply has code 0 exactly when the handler set none and the store succeeded. -/
theorem finish_code : (finish env ran r).c.replyMsg.errCode = 0 ↔ r.c.user.stored env = true ∧ r.c.replyMsg.errCode = 0 := by
  rw [finish_reply]
  split
  · next stored => exact (and_iff_right stored).symm
  · next failed => exact iff_of_false (ofUInt32_ne_zero (by decide)) fun h => failed h.1

theorem finish_body : (finish env ran r).c.replyMsg.body = r.c.replyMsg.body := by
  rw [finish_reply]
  split <;> rfl

theorem finish_cmd : (finish env ran r).c.replyMsg.cmd = r.c.replyMsg.cmd := by
  rw [finish_reply]
  split <;> rfl

/-- A client whose `Store` failed is kicked. -/
theorem finish_enable (failed : r.c.user.stored env = false) : (finish env ran r).c.enable = false := by
  rw [finish_c, if_neg (by rw [show (r.c.user.store env).2 = false from failed]; decide)]

/-- Where the handler reports no error, only `Store` can, and then the client is kicked. -/
theorem finish_good (env : Env) (ran : Option Handler) (good : r.c.replyMsg.errCode = 0) :
    ((finish env ran r).c.replyMsg.errCode = 0 ↔ r.c.user.stored env = true) ∧
      ((finish env ran r).c.replyMsg.errCode ≠ 0 → (finish env ran r).c.enable ≠ true) := by
  have code : (finish env ran r).c.replyMsg.errCode = 0 ↔ r.c.user.stored env = true :=
    finish_code.trans (and_iff_left good)
  refine ⟨code, fun bad => ?_⟩
  rw [ne_eq, code, Bool.not_eq_true] at bad
  rw [finish_enable bad]
  decide

end

/-- **What a request leads to**: one reply, under its command; an error leaves a
client that goes on with the user it had. -/
theorem serve_told {env : Env} {online : Online κ} {m : Msg} {o : Outcome κ} (small : m.cmd.val < 128)
    (h : serve cv env online c m = .ok o) :
    ∃ reply, o.sent = [reply] ∧ o.c.replyMsg = reply ∧ reply.cmd = m.cmd ∧ Told cv env c m o reply ∧
      (reply.errCode ≠ 0 → o.c.enable = true → o.c.user = c.user) := by
  rcases procMsg_ok.1 h with ⟨big, -⟩ | ⟨-, ran, r, run, rfl⟩
  · exact absurd small (not_lt.2 big)
  · have picked : ran = chosen cv m c.user := dispatch_ran run
    refine ⟨(finish env ran r).c.replyMsg, finish_sent.trans (by rw [finish_reply]; rfl), rfl, ?_⟩
    rw [finish_cmd]
    cases dispatch_effect run with
    | rejected ret registry c_eq =>
      have user : r.c.user = c.user := by rw [c_eq]; rfl
      refine ⟨by rw [c_eq]; rfl, .unserved (.inl picked.symm) ?_ ?_ ?_, fun _ _ => ?_⟩
      · rw [finish_user, user]
      · rw [finish_body, c_eq]
        rfl
      · rw [finish_code, user]
        exact and_iff_left (by rw [c_eq]; rfl)
      · rw [finish_user, user]
    | @refused proc _ ready e why ret registry c_eq =>
      have user : r.c.user = c.user := by rw [c_eq]; rfl
      have bad : r.c.replyMsg.errCode ≠ 0 := by rw [c_eq]; exact ofUInt32_ne_zero why.ne_zero
      refine ⟨by rw [c_eq]; rfl, .refused proc e ready picked.symm why ?_ ?_, fun _ _ => ?_⟩
      · rw [finish_user, user]
      · exact fun zero => bad (finish_code.1 zero).2
      · rw [finish_user, user]
    | @served proc _ ready ret registry user replied =>
      obtain ⟨entries, fills, filled⟩ :=
        run_filled (c := (loopHead { c with msg := m }).initReply) ready (dispatch_run run) ret
      obtain ⟨code, kicked⟩ := finish_good env (some proc) replied.errCode
      refine ⟨replied.kept.replyCmd, ?_, fun bad enabled => ?_⟩
      · by_cases again : proc = .userLogin
        · subst again
          have same : r.c.user = c.user := user.again_eq
          obtain rfl := fills.again_eq
          refine .unserved (.inr ⟨ready, picked.symm⟩) (by rw [finish_user, same]) ?_ ?_
          · rw [finish_body, filled]
            rfl
          · rw [code, same]
        · refine .served proc entries ready picked.symm again (by rw [finish_user]; exact user) ?_ ?_ ?_
          · rw [finish_user]
            exact fills
          · rw [finish_body, filled]
            exact puts_body rfl
          · rw [code, finish_user]
      · exact absurd enabled (kicked bad)
    | login out cmd result =>
      have out : c.user.ready = false := out
      have call := dispatch_run run
      cases Except.ok.inj call
      have entries := login_entries (c := (loopHead { c with msg := m }).initReply) env online out
      generalize procUserLogin env online (loopHead { c with msg := m }).initReply = r at *
      cases result with
      | failed load ret registry user errCode kept userid =>
        have bad : r.c.replyMsg.errCode ≠ 0 := by rw [errCode]; exact ofUInt32_ne_zero (by decide)
        refine ⟨kept.replyCmd, .loadFailed out cmd load ?_ ?_, fun _ _ => ?_⟩
        · rw [finish_user, user]
          rfl
        · exact fun zero => bad (finish_code.1 zero).2
        · rw [finish_user, user]
          rfl
      | loggedIn u load ret registry user errCode kept userid =>
        obtain ⟨code, kicked⟩ := finish_good env (some .userLogin) errCode
        refine ⟨kept.replyCmd, .loggedIn u out cmd load ?_ ?_ ?_, fun bad enabled => ?_⟩
        · rw [finish_user, user]
        · rw [finish_body, entries ret, user]
          exact puts_body rfl
        · rw [code, user]
        · exact absurd enabled (kicked bad)

theorem Refused.le {m : Msg} {u : User} {h : Handler} {e : UInt32} (refused : Refused cv m u h e) : e.toNat ≤ 5 := by
  cases refused <;> decide

/-- A reply's code is one of the five errors, or 0. -/
theorem serve_code {env : Env} {online : Online κ} {m : Msg} {o : Outcome κ} (small : m.cmd.val < 128)
    (h : serve cv env online c m = .ok o) : ∃ e : UInt32, e.toNat ≤ 5 ∧ o.c.replyMsg.errCode = .ofUInt32 e := by
  rcases procMsg_ok.1 h with ⟨big, -⟩ | ⟨-, ran, r, run, rfl⟩
  · exact absurd small (not_lt.2 big)
  · have handler : ∃ e : UInt32, e.toNat ≤ 5 ∧ r.c.replyMsg.errCode = .ofUInt32 e := by
      cases dispatch_effect run with
      | rejected ret registry c_eq => exact ⟨0, by decide, by rw [c_eq]; rfl⟩
      | refused ready e why ret registry c_eq => exact ⟨e, why.le, by rw [c_eq]; rfl⟩
      | served ready ret registry user replied => exact ⟨0, by decide, replied.errCode⟩
      | login out cmd result =>
        cases result with
        | failed load ret registry user errCode kept userid => exact ⟨kErrReadDB, by decide, errCode⟩
        | loggedIn u load ret registry user errCode kept userid => exact ⟨0, by decide, errCode⟩
    rw [finish_reply]
    split
    · exact handler
    · exact ⟨kErrWriteDB, by decide, rfl⟩

end
end Crazyass.Server
