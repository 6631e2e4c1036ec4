import Crazyass.Sys.Run
import Crazyass.Server.Effect

/-!
# A connection acts on its own account

A run of one connection, with the history of what it did: the handlers that
ran, the documents it handed to `Upsert`, and the userid of its first
successful login. The invariant ties the three fields `ready`, `dirty` and
`UserId` to that history. Between two requests other connections may change
the registry and the database, so each request brings its own `Online` and its
own answers.
-/

namespace Crazyass.Server
open Go Sys

section
variable {κ : Type} {cv : FloatConv}

/-! ## Runs of one connection -/

/-- A connection and what it has done so far. -/
structure Session (κ : Type) where
  client : Client κ
  ran : List Handler
  upserts : List UserDb
  login : Option String

/-- One case of the `select` in `Proc`. -/
inductive SessionStep (κ : Type) where
  | request (env : Env) (online : Online κ) (m : Msg)
  | imsg (value : Int64)
  | timeout

/-- The userid recorded for a request, if it was a login that succeeded. -/
def loginOf (env : Env) (m : Msg) (o : Outcome κ) : Option String :=
  if o.ran = some (.userLogin, .succ) then some (loginId env m) else none

namespace Session

def start (self : κ) : Session κ := ⟨.new self, [], [], none⟩

/-- The history after a request `m` that ended in `o`. -/
def record (s : Session κ) (env : Env) (m : Msg) (o : Outcome κ) : Session κ :=
  { client := o.c
    ran := s.ran ++ (o.ran.map Prod.fst).toList
    upserts := s.upserts ++ o.upsert.toList
    login := s.login.or (loginOf env m o) }

/-- One round of the loop, while the client is enabled. -/
def step (cv : FloatConv) (s : Session κ) : SessionStep κ → Option (Session κ)
  | .request env online m =>
    if s.client.enable then
      match serve cv env online s.client m with
      | .error _ => none
      | .ok o => some (s.record env m o)
    else none
  | .imsg value => if s.client.enable then some { s with client := serveIMsg s.client value } else none
  | .timeout => if s.client.enable then some { s with client := procTimeout s.client } else none

theorem step_request {s t : Session κ} {env : Env} {online : Online κ} {m : Msg} :
    s.step cv (.request env online m) = some t ↔
      s.client.enable = true ∧ ∃ o, serve cv env online s.client m = .ok o ∧ t = s.record env m o := by
  unfold Session.step
  by_cases enable : s.client.enable = true
  · simp only [enable, if_true, true_and]
    cases serve cv env online s.client m <;> simp [eq_comm]
  · simp [enable]

theorem step_imsg {s t : Session κ} {value : Int64} :
    s.step cv (.imsg value) = some t ↔ s.client.enable = true ∧ t = { s with client := serveIMsg s.client value } := by
  unfold Session.step
  by_cases enable : s.client.enable = true <;> simp [enable, eq_comm]

theorem step_timeout {s t : Session κ} :
    s.step cv .timeout = some t ↔ s.client.enable = true ∧ t = { s with client := procTimeout s.client } := by
  unfold Session.step
  by_cases enable : s.client.enable = true <;> simp [enable, eq_comm]

/-- What ties `ready`, `dirty` and `UserId` to the history. -/
structure Inv (s : Session κ) : Prop where
  ready : s.client.user.ready = s.login.isSome
  clean : s.client.user.ready = false → s.client.user.dirty = false
  silent : s.login = none → (∀ h ∈ s.ran, h = .userLogin) ∧ s.upserts = []
  own : ∀ u, s.login = some u → s.client.user.udb.userId = u ∧ ∀ d ∈ s.upserts, d.userId = u

theorem start_inv (self : κ) : Inv (start self) where
  ready := rfl
  clean _ := rfl
  silent _ := ⟨by simp [start], rfl⟩
  own u h := by cases h

theorem Inv.out {s : Session κ} (inv : Inv s) (h : s.login = none) : s.client.user.ready = false := by
  rw [inv.ready, h]
  rfl

/-- The documents of the past stay within the account a round leaves behind. -/
theorem Inv.past {s : Session κ} (inv : Inv s) {new : Option String} {u : String} (h : s.login.or new = some u) :
    ∀ d ∈ s.upserts, d.userId = u := by
  cases hl : s.login with
  | none =>
    rw [(inv.silent hl).2]
    intro d hd
    cases hd
  | some v =>
    rw [hl, Option.some_or] at h
    cases h
    exact (inv.own u hl).2

/-- The invariant after a request, from what the request did. -/
theorem Inv.record {s : Session κ} (inv : Inv s) {env : Env} {m : Msg} {h : Option Handler} {r : Called κ}
    (ready : r.c.user.ready = (s.login.or (loginOf env m (finish env h r))).isSome)
    (clean : r.c.user.ready = false → r.c.user.dirty = false ∧ ∀ g ∈ h, g = Handler.userLogin)
    (own : ∀ u, s.login.or (loginOf env m (finish env h r)) = some u → r.c.user.udb.userId = u) :
    Inv (s.record env m (finish env h r)) := by
  refine ⟨(congrArg User.ready (finish_user env h r)).trans ready, ?_, ?_, ?_⟩
  · intro out
    change (finish env h r).c.user.ready = false at out
    change (finish env h r).c.user.dirty = false
    rw [finish_user] at out ⊢
    exact (clean out).1
  · intro none_yet
    have out : r.c.user.ready = false := by rw [ready]; exact congrArg Option.isSome none_yet
    obtain ⟨past_ran, past_upserts⟩ := inv.silent (Option.or_eq_none_iff.1 none_yet).1
    obtain ⟨not_dirty, ran_login⟩ := clean out
    constructor
    · intro g hg
      rcases List.mem_append.1 hg with past | now
      · exact past_ran g past
      · have here : g ∈ h := by simpa [Option.map_map] using now
        exact ran_login g here
    · change s.upserts ++ (finish env h r).upsert.toList = []
      rw [past_upserts, finish_upsert, not_dirty]
      rfl
  · intro u hu
    have mine := own u hu
    refine ⟨(congrArg (·.udb.userId) (finish_user env h r)).trans mine, ?_⟩
    intro d hd
    rcases List.mem_append.1 hd with past | now
    · exact inv.past hu d past
    · rw [finish_upsert] at now
      split at now
      · cases List.mem_singleton.1 now
        exact mine
      · cases now

/-- A request that is not a successful login keeps the account. -/
theorem Inv.keep {s : Session κ} (inv : Inv s) {env : Env} {m : Msg} {h : Option Handler} {r : Called κ}
    (ready : r.c.user.ready = s.client.user.ready) (userId : r.c.user.udb.userId = s.client.user.udb.userId)
    (clean : s.client.user.ready = false → r.c.user.dirty = false ∧ ∀ g ∈ h, g = Handler.userLogin)
    (old : s.client.user.ready = false → loginOf env m (finish env h r) = none) :
    Inv (s.record env m (finish env h r)) := by
  apply inv.record
  · rw [ready, inv.ready]
    cases hl : s.login with
    | some u => rfl
    | none => rw [old (inv.out hl)]; rfl
  · intro out
    exact clean (ready ▸ out)
  · intro u hu
    rw [userId]
    cases hl : s.login with
    | some v =>
      rw [hl] at hu
      cases hu
      exact (inv.own u hl).1
    | none =>
      rw [hl, old (inv.out hl)] at hu
      cases hu

theorem record_dropped (s : Session κ) (env : Env) (m : Msg) (online : Online κ) (c : Client κ) :
    s.record env m (.dropped online c) = { s with client := c } := by
  simp [Session.record, Outcome.dropped, loginOf]

/-- The first login fails, or it is the one recorded. -/
theorem Inv.login {s : Session κ} (inv : Inv s) {env : Env} {online : Online κ} {m : Msg} {r : Called κ}
    (out : s.client.user.ready = false)
    (result : LoginEnd env online (loopHead { s.client with msg := m }).initReply r) :
    Inv (s.record env m (finish env (some .userLogin) r)) := by
  have none_yet : s.login = none := by
    have known := inv.ready
    rw [out] at known
    simpa using known.symm
  cases result with
  | failed load ret registry user errCode kept userid =>
    have same : r.c.user = s.client.user := user
    apply inv.keep (congrArg User.ready same) (congrArg (·.udb.userId) same)
    · intro out
      exact ⟨by rw [same]; exact inv.clean out, by simp⟩
    · intro _
      simp [loginOf, ret]
  | loggedIn u load ret registry user errCode kept userid =>
    have new : loginOf env m (finish env (some .userLogin) r) = some (loginId env m) := by simp [loginOf, ret]
    apply inv.record
    · rw [user, new, none_yet, loggedIn_ready]
      rfl
    · intro out
      rw [user, loggedIn_ready] at out
      cases out
    · intro v hv
      rw [new, none_yet] at hv
      cases hv
      rw [user]
      exact loggedIn_userId load

theorem request_inv {s : Session κ} (inv : Inv s) {env : Env} {online : Online κ} {m : Msg} {o : Outcome κ}
    (h : serve cv env online s.client m = .ok o) : Inv (s.record env m o) := by
  rcases procMsg_effect h with ⟨-, rfl⟩ | ⟨ran, r, effect, rfl⟩
  · rw [record_dropped]
    exact ⟨inv.ready, inv.clean, inv.silent, inv.own⟩
  · cases effect with
    | rejected ret registry c_eq =>
      have user : r.c.user = s.client.user := by rw [c_eq]; rfl
      apply inv.keep (congrArg User.ready user) (congrArg (·.udb.userId) user)
      · intro out
        exact ⟨by rw [user]; exact inv.clean out, by simp⟩
      · intro _
        rfl
    | refused ready e why ret registry c_eq =>
      have user : r.c.user = s.client.user := by rw [c_eq]; rfl
      have logged : ¬ s.client.user.ready = false := by rw [show s.client.user.ready = true from ready]; simp
      exact inv.keep (congrArg User.ready user) (congrArg (·.udb.userId) user) (absurd · logged) (absurd · logged)
    | served ready ret registry user replied =>
      have logged : ¬ s.client.user.ready = false := by rw [show s.client.user.ready = true from ready]; simp
      exact inv.keep user.ready user.userId (absurd · logged) (absurd · logged)
    | login out cmd result => exact inv.login out result

/-- Every round of the loop keeps the invariant. -/
theorem step_inv {s t : Session κ} (inv : Inv s) {a : SessionStep κ} (h : s.step cv a = some t) : Inv t := by
  cases a with
  | request env online m =>
    obtain ⟨-, o, served, rfl⟩ := step_request.1 h
    exact request_inv inv served
  | imsg value =>
    obtain ⟨-, rfl⟩ := step_imsg.1 h
    exact ⟨inv.ready, inv.clean, inv.silent, inv.own⟩
  | timeout =>
    obtain ⟨-, rfl⟩ := step_timeout.1 h
    exact ⟨inv.ready, inv.clean, inv.silent, inv.own⟩

/-- A login that was recorded stays the recorded one. -/
theorem step_login {s t : Session κ} {a : SessionStep κ} {u : String} (h : s.step cv a = some t) (hu : s.login = some u) :
    t.login = some u := by
  cases a with
  | request env online m =>
    obtain ⟨-, o, -, rfl⟩ := step_request.1 h
    change s.login.or _ = some u
    rw [hu]
    rfl
  | imsg value =>
    obtain ⟨-, rfl⟩ := step_imsg.1 h
    exact hu
  | timeout =>
    obtain ⟨-, rfl⟩ := step_timeout.1 h
    exact hu

theorem run_inv {self : κ} {as : List (SessionStep κ)} {s : Session κ}
    (run : exec (step cv) (start self) as = some s) : Inv s :=
  exec_inv (Q := fun _ _ => True) (fun _ _ _ inv _ h => step_inv inv h) (start_inv self) (fun _ _ _ _ _ => trivial) run

theorem run_login {as : List (SessionStep κ)} {s t : Session κ} {u : String} (hu : s.login = some u)
    (run : exec (step cv) s as = some t) : t.login = some u :=
  exec_inv (I := fun s => s.login = some u) (Q := fun _ _ => True) (fun _ _ _ hu _ h => step_login h hu) hu
    (fun _ _ _ _ _ => trivial) run

/-- **A connection acts on its own account only.** In every state a run
reaches: before a login has succeeded only `ProcUserLogin` has run and nothing
has been written; after it, `UserId` is the userid of that login, every
document handed to `Upsert` carries it, and both stay so for the rest of the
run. -/
theorem acts_on_own_account (self : κ) (as : List (SessionStep κ)) (s : Session κ)
    (run : exec (step cv) (start self) as = some s) :
    (s.login = none → (∀ h ∈ s.ran, h = .userLogin) ∧ s.upserts = []) ∧
    ∀ u, s.login = some u →
      s.client.user.udb.userId = u ∧ (∀ d ∈ s.upserts, d.userId = u) ∧
      ∀ bs t, exec (step cv) s bs = some t → t.login = some u ∧ t.client.user.udb.userId = u := by
  have inv := run_inv run
  refine ⟨inv.silent, ?_⟩
  intro u hu
  obtain ⟨mine, written⟩ := inv.own u hu
  refine ⟨mine, written, ?_⟩
  intro bs t later
  have still := run_login hu later
  have whole : exec (step cv) (start self) (as ++ bs) = some t := by rw [exec_append, run]; exact later
  exact ⟨still, ((run_inv whole).own u still).1⟩

/-- A login under an empty userid and a request that names another user. -/
def ownRun : List (SessionStep Unit) :=
  [.request { Env.answering fun _ => .notFound with unixNano := 7 } .empty (.request 1 "" []),
   .request (Env.answering fun _ => .failed) .empty (.request 4 "mallory" [("addheart", .num (.ofUInt32 5))])]

theorem acts_on_own_account_run :
    ∃ s, exec (step amd64) (start ()) ownRun = some s ∧ s.upserts.map UserDb.userId = ["7", "7"] ∧
      s.client.user.udb.userId = "7" := by
  have ends : (exec (step amd64) (start ()) ownRun).map (fun s => (s.login, s.upserts.map UserDb.userId)) =
      some (some "7", ["7", "7"]) := by decide
  obtain ⟨s, run, shown⟩ := Option.map_eq_some_iff.1 ends
  cases hl : s.login with
  | none => simp [hl] at shown
  | some u =>
    simp only [hl, Prod.mk.injEq, Option.some.injEq] at shown
    obtain ⟨rfl, written⟩ := shown
    exact ⟨s, run, written, ((acts_on_own_account () ownRun s run).2 "7" hl).1⟩

end Session
end

end Crazyass.Server
