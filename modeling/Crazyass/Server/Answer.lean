import Crazyass.Server.Effect

/-!
# Replies

What `procMsg` tells the client. `Answered` is the contract: one reply, under
the request's command and sequence number, with `ErrCode` 0 exactly when a
registered handler succeeded and the user was stored. The dispatcher breaks it
when it turns a request away itself: it sets no error code, and a command out
of its range gets no reply at all.
-/

namespace Crazyass.Server
open Go

section
variable {κ : Type} {cv : FloatConv} {c : Client κ} {env : Env} {online : Online κ}

/-- The request `m` was answered once, and truthfully. -/
def Answered (m : Msg) (o : Outcome κ) : Prop :=
  ∃ r, o.sent = [r] ∧ r.cmd = m.cmd ∧ r.seq = m.seq ∧
    (r.errCode = 0 ↔ (∃ h, o.ran = some (h, .succ)) ∧ o.stored = true)

/-- The handler the dispatcher picks, if it picks one. -/
def chosen (cv : FloatConv) (m : Msg) (u : User) : Option Handler :=
  if u.ready = false ∧ m.cmd ≠ kCmdUserLogin then none
  else procFuncArray[(cv.int m.cmd).toInt.toNat]?.join

theorem dispatch_ran {ran : Option Handler} {r : Called κ} (h : dispatch cv env online c = .ok (ran, r)) :
    ran = chosen cv c.msg c.user := by
  unfold dispatch at h
  unfold chosen
  dsimp only at h
  split at h
  · next refused =>
    cases h
    rw [if_pos]
    exact ⟨by simpa [Client.isLogin, Client.initReply] using refused.1, refused.2⟩
  · next allowed =>
    have gate : ¬ (c.user.ready = false ∧ c.msg.cmd ≠ kCmdUserLogin) := by
      rintro ⟨out, other⟩
      exact allowed ⟨by simp [Client.isLogin, Client.initReply, out], other⟩
    obtain ⟨entry, lookup, call⟩ := bind_ok.1 h
    have found : procFuncArray[(cv.int c.msg.cmd).toInt.toNat]? = some entry := (index_ok.1 lookup).2
    rw [if_neg gate, found]
    cases entry with
    | none =>
      cases call
      rfl
    | some proc =>
      obtain ⟨r', -, done⟩ := bind_ok.1 call
      cases done
      rfl

/-- The user of a logged-in client after a request: served by the handler the
dispatcher picks, or as before. -/
theorem serve_user {m : Msg} {o : Outcome κ} (ready : c.user.ready = true) (run : serve cv env online c m = .ok o) :
    (o.c.user = c.user ∧ ∀ h, m.cmd.val < 128 → chosen cv m c.user = some h → ∃ e, Refused cv m c.user h e) ∨
      ∃ h, chosen cv m c.user = some h ∧ Served cv m c.user h o.c.user := by
  rcases procMsg_ok.1 run with ⟨big, rfl⟩ | ⟨-, ran, r, call, rfl⟩
  · exact .inl ⟨rfl, fun h small => absurd small (not_lt.2 big)⟩
  · have here : ran = chosen cv m c.user := dispatch_ran call
    rw [← here, finish_user]
    cases dispatch_effect call with
    | rejected ret registry c_eq => exact .inl ⟨by rw [c_eq]; rfl, by simp⟩
    | refused logged e why ret registry c_eq =>
      refine .inl ⟨by rw [c_eq]; rfl, fun h _ found => ?_⟩
      cases found
      exact ⟨e, why⟩
    | served logged ret registry user replied => exact .inr ⟨_, rfl, user⟩
    | login out cmd result =>
      have out : c.user.ready = false := out
      rw [ready] at out
      cases out

/-- Nothing logs a client out. -/
theorem serve_ready {m : Msg} {o : Outcome κ} (ready : c.user.ready = true) (run : serve cv env online c m = .ok o) :
    o.c.user.ready = true := by
  rcases serve_user ready run with ⟨same, -⟩ | ⟨h, -, served⟩
  · rw [same]
    exact ready
  · exact served.ready.trans ready

/-- A command that is a `uint32` is looked up as it is. -/
theorem lookup_of_cmd {m : Msg} {n : UInt32} (cmd : m.cmd = .ofUInt32 n) : (cv.int m.cmd).toInt.toNat = n.toNat := by
  rw [cmd, cv.int_ofUInt32, Int.toNat_natCast]

theorem chosen_of_ready {m : Msg} {u : User} (ready : u.ready = true) :
    chosen cv m u = procFuncArray[(cv.int m.cmd).toInt.toNat]?.join := by
  unfold chosen
  exact if_neg (fun h => by rw [ready] at h; cases h.1)

theorem finish_sent {ran : Option Handler} {r : Called κ} :
    (finish env ran r).sent =
      [if (r.c.user.store env).2 then r.c.replyMsg else (r.c.setErrCode kErrWriteDB).replyMsg] := by
  change [(finish env ran r).c.replyMsg] = _
  rw [finish_c]
  split
  · split <;> rfl
  · rfl

theorem ofUInt32_ne_zero {e : UInt32} (ne : e ≠ 0) : Float64.ofUInt32 e ≠ 0 :=
  fun h => ne (Float64.ofUInt32_inj h)

/-- A failed `Store` is always reported; a `Store` that succeeds leaves the
code the handler left. -/
theorem answered_finish {m : Msg} {ran : Option Handler} {r : Called κ} (cmd : r.c.replyMsg.cmd = m.cmd)
    (seq : r.c.replyMsg.seq = m.seq) :
    Answered m (finish env ran r) ↔
      ((r.c.user.store env).2 = true → (r.c.replyMsg.errCode = 0 ↔ ran.isSome ∧ r.ret = .succ)) := by
  have handled : (∃ h, (finish env ran r).ran = some (h, .succ)) ↔ ran.isSome ∧ r.ret = .succ := by
    cases ran <;> simp
  unfold Answered
  rw [handled, finish_sent, finish_stored]
  cases stored : (r.c.user.store env).2 with
  | true => simp [cmd, seq]
  | false =>
    refine iff_of_true ⟨_, rfl, cmd, seq, ?_⟩ (fun h => by cases h)
    simp [ofUInt32_ne_zero (show kErrWriteDB ≠ 0 by decide)]

theorem store_fails_iff {u : User} : (u.store env).2 = false ↔ u.dirty = true ∧ env.upsert = false := by
  unfold User.store
  split <;> simp_all

/-- **When a request is answered truthfully**: the command is in range, and a
handler was picked for it or the `Store` that follows fails. -/
theorem answered_iff (cv : FloatConv) (env : Env) (online : Online κ) (c : Client κ) (m : Msg) (o : Outcome κ)
    (h : serve cv env online c m = .ok o) :
    Answered m o ↔
      m.cmd.val < 128 ∧ ((chosen cv m c.user).isSome ∨ (c.user.dirty = true ∧ env.upsert = false)) := by
  rcases procMsg_ok.1 h with ⟨big, rfl⟩ | ⟨small, ran, r, run, rfl⟩
  · refine iff_of_false ?_ (fun h => absurd h.1 (not_lt.2 big))
    rintro ⟨r, sent, -⟩
    cases sent
  · have picked : ran = chosen cv m c.user := dispatch_ran run
    rw [← picked, and_iff_right (show m.cmd.val < 128 from small), ← store_fails_iff]
    cases dispatch_effect run with
    | rejected ret registry c_eq =>
      have user : r.c.user = c.user := by rw [c_eq]; rfl
      have code : r.c.replyMsg.errCode = 0 := by rw [c_eq]; rfl
      rw [answered_finish (by rw [c_eq]; rfl) (by rw [c_eq]; rfl), user, code]
      simp
    | refused ready e why ret registry c_eq =>
      have code : r.c.replyMsg.errCode ≠ 0 := by rw [c_eq]; exact ofUInt32_ne_zero why.ne_zero
      rw [answered_finish (by rw [c_eq]; rfl) (by rw [c_eq]; rfl)]
      simp [code, ret]
    | served ready ret registry user replied =>
      have code : r.c.replyMsg.errCode = 0 := replied.errCode
      rw [answered_finish (m := m) replied.kept.replyCmd replied.kept.replySeq]
      simp [code, ret]
    | login out cmd result =>
      cases result with
      | failed load ret registry user errCode kept userid =>
        have code : r.c.replyMsg.errCode ≠ 0 := by rw [errCode]; exact ofUInt32_ne_zero (by decide)
        rw [answered_finish (m := m) kept.replyCmd kept.replySeq]
        simp [code, ret]
      | loggedIn u load ret registry user errCode kept userid =>
        have code : r.c.replyMsg.errCode = 0 := errCode
        rw [answered_finish (m := m) kept.replyCmd kept.replySeq]
        simp [code, ret]

end

/-- What the first message of a connection leads to: the codes of the replies,
the handler that ran, and whether the connection goes on. -/
def firstReply (m : Msg) : Option (List Float64 × Option (Handler × ProcRet) × Bool) :=
  (serve amd64 (Env.answering fun _ => .notFound) .empty (Client.new ()) m).toOption.map fun o =>
    (o.sent.map Msg.errCode, o.ran, o.c.enable)

theorem firstReply_eq {m : Msg} {codes : List Float64} {ran : Option (Handler × ProcRet)} {enable : Bool}
    (h : firstReply m = some (codes, ran, enable)) :
    ∃ o, serve amd64 (Env.answering fun _ => .notFound) .empty (Client.new ()) m = .ok o ∧
      o.sent.map Msg.errCode = codes ∧ o.ran = ran ∧ o.c.enable = enable := by
  unfold firstReply at h
  cases run : serve amd64 (Env.answering fun _ => .notFound) .empty (Client.new ()) m with
  | error p => simp [run, Except.toOption] at h
  | ok o =>
    simp only [run, Except.toOption, Option.map_some, Option.some.injEq, Prod.mk.injEq] at h
    exact ⟨o, rfl, h⟩

/-- The condition at a login. -/
theorem answered_login :
    ∃ o, serve amd64 (Env.answering fun _ => .notFound) .empty (Client.new ()) (.request 1 "u" []) = .ok o ∧
      Answered (.request 1 "u" []) o := by
  have shown : firstReply (.request 1 "u" []) = some ([0], some (.userLogin, .succ), true) := by decide
  obtain ⟨o, run, -⟩ := firstReply_eq shown
  refine ⟨o, run, (answered_iff amd64 _ .empty (Client.new ()) _ o run).2 ⟨by decide, .inl ?_⟩⟩
  decide +kernel

/-- A request before any login is refused, the connection is closed, and the
reply says success; command 128 is not answered at all. -/
theorem refused_unanswered :
    (∃ o, serve amd64 (Env.answering fun _ => .notFound) .empty (Client.new ()) (.request 2 "u" []) = .ok o ∧
      o.c.enable = false ∧ ¬ Answered (.request 2 "u" []) o) ∧
    ∃ o, serve amd64 (Env.answering fun _ => .notFound) .empty (Client.new ()) (.request 128 "u" []) = .ok o ∧
      ¬ Answered (.request 128 "u" []) o := by
  constructor
  · have shown : firstReply (.request 2 "u" []) = some ([0], none, false) := by decide
    obtain ⟨o, run, codes, ran, kicked⟩ := firstReply_eq shown
    refine ⟨o, run, kicked, ?_⟩
    rintro ⟨r, sent, -, -, truthful⟩
    rw [sent] at codes
    have zero : r.errCode = 0 := List.singleton_inj.1 codes
    obtain ⟨⟨h, handled⟩, -⟩ := truthful.1 zero
    rw [ran] at handled
    cases handled
  · have shown : firstReply (.request 128 "u" []) = some ([], none, true) := by decide
    obtain ⟨o, run, codes, -⟩ := firstReply_eq shown
    refine ⟨o, run, ?_⟩
    rintro ⟨r, sent, -⟩
    rw [sent] at codes
    cases codes

end Crazyass.Server
