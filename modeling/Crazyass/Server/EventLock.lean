import Crazyass.Server.Heart
import Crazyass.Server.Reply
import Crazyass.Server.Service

/-!
# Event unlocking

`ProcEventLock` writes the requested level into the slice of six locks and
charges by the table of four prices. It compares neither the level with the lock
nor the stage with the table, so the write and the charge go together only for
some requests.
-/

namespace Crazyass.Server
open Go Sys

/-- Six locks, each at least 1. -/
def Levels (locks : List Int64) : Prop := locks.length = 6 ∧ ∀ l ∈ locks, 1 ≤ l.toInt

section
variable {κ : Type} (cv : FloatConv)

/-- The request reaches `ProcEventLock` with a number in both fields. -/
def EventRequest (m : Msg) (u : User) (x y : Float64) : Prop :=
  picked cv m u = some .eventLock ∧ m.body "stageid" = some (.json (.num x)) ∧ m.body "eventid" = some (.json (.num y))

/-- The float is an integer. -/
def IsInt (x : Float64) : Prop := ∃ n : ℤ, x.val = n

/-- The addressed lock is raised by one for its price. -/
def Bought (i : ℕ) (d d' : UserDb) : Prop :=
  ∃ price ∈ eventHeartConfig[i]?, ∃ l ∈ d.eventLock[i]?, ∃ l' ∈ d'.eventLock[i]?,
    l'.toInt = l.toInt + 1 ∧ d'.heart.toNat + price.toNat = d.heart.toNat

/-- **The law of an unlock**: the addressed lock is raised and paid for, or
nothing changes. -/
def Lawful (i : ℕ) (d d' : UserDb) : Prop :=
  (Bought i d d' ∨ d'.eventLock[i]? = d.eventLock[i]? ∧ d'.heart = d.heart) ∧
    ∀ j, j ≠ i → d'.eventLock[j]? = d.eventLock[j]?

/-- The law at a request of stage 1 to 6 and an integer event, if the hearts are
enough and the reply has `ErrCode` 0. -/
def LawfulRequest (env : Env) (online : Online κ) (c : Client κ) (m : Msg) : Prop :=
  ∀ x y, EventRequest cv m c.user x y → ∀ i : ℕ, i < 6 → x.val = i + 1 → IsInt y →
    eventHeartConfig[i]?.getD 0 ≤ c.user.udb.heart →
    ∀ o, serve cv env online c m = .ok o → (∃ r ∈ o.sent, r.errCode = 0) → Lawful i c.user.udb o.c.user.udb

/-- The event is at least 1, and for an integer stage it is the next level of a
lock that has a price, the present level of one that has none. -/
def NextLevel (env : Env) (m : Msg) (u : User) : Prop :=
  ∀ x y, EventRequest cv m u x y → ∀ (i : ℕ) (l : Int64), (cv.int x).toInt = i + 1 → u.udb.eventLock[i]? = some l →
    1 ≤ (cv.int y).toInt ∧
      (x.val = i + 1 → IsInt y → eventHeartConfig[i]?.getD 0 ≤ u.udb.heart → env.upsert = true →
        if i < eventHeartConfig.length then (cv.int y).toInt = l.toInt + 1 else cv.int y = l)

namespace Service

/-- Every user that is logged in has its locks. -/
def Locked (s : Service κ) : Prop :=
  ∀ k c w, s.process.conns k = .live c w → c.user.ready = true → Levels c.user.udb.eventLock

/-- Every request obeys the law. -/
def Exact (s : Service κ) : ServiceStep κ → Prop
  | .conn (.request k env m) => ∀ c, s.process.conns k = .live c true → c.user.ready = true →
      LawfulRequest cv env s.process.online c m
  | _ => True

/-- Every request of a logged-in client asks for the right level. -/
def Stepwise (s : Service κ) : ServiceStep κ → Prop
  | .conn (.request k env m) => ∀ c, s.process.conns k = .live c true → c.user.ready = true → NextLevel cv env m c.user
  | _ => True

end Service

variable {cv} {env : Env} {online : Online κ} {m : Msg} {c : Client κ} {o : Outcome κ} {u : User} {x y : Float64}
  {i : ℕ} {locks : List Int64} {e l : Int64}

/-! ## One request -/

/-- Setting one lock of six. -/
theorem levels_set (levels : Levels locks) (inside : i < 6) : Levels (locks.set i e) ↔ 1 ≤ e.toInt := by
  obtain ⟨six, low⟩ := levels
  constructor
  · rintro ⟨-, low'⟩
    apply low'
    exact List.mem_iff_getElem?.2 ⟨i, by rw [List.getElem?_set_self (by omega)]⟩
  · intro low_e
    refine ⟨by rw [List.length_set, six], fun l hl => ?_⟩
    rcases List.mem_or_eq_of_mem_set hl with old | rfl
    · exact low l old
    · exact low_e

theorem Levels.lock (levels : Levels locks) (inside : i < 6) : ∃ l, locks[i]? = some l :=
  ⟨_, List.getElem?_eq_getElem (by rw [levels.1]; exact inside)⟩

theorem EventRequest.small (req : EventRequest cv m u x y) : m.cmd.val < 128 := by
  by_contra big
  have none := req.1
  rw [picked, if_neg big] at none
  cases none

theorem EventRequest.chosen (req : EventRequest cv m u x y) : chosen cv m u = some .eventLock := by
  have found := req.1
  rw [picked, if_pos req.small] at found
  exact found

/-- The index `sid - 1` of a stage. -/
theorem pred_stage {sid : Int64} (stage : sid.toInt = i + 1) : (sid - 1).toInt = i := by
  rw [int_pred (by omega)]
  omega

/-- The price of a stage is the entry of the table, if it has one. -/
theorem eventPrice_eq {sid : Int64} (stage : sid.toInt = i + 1) : eventPrice sid = eventHeartConfig[i]? := by
  unfold eventPrice tablePrice
  rw [pred_stage stage, Int.toNat_natCast]
  split
  · rfl
  · next outside =>
    have beyond : eventHeartConfig.length ≤ i := by omega
    exact (List.getElem?_eq_none beyond).symm

/-- A stage from 1 to 6 is converted to itself. -/
theorem stage_int (cv : FloatConv) (stage : x.val = i + 1) (inside : i < 6) : (cv.int x).toInt = i + 1 := by
  have whole : x.trunc = ((i + 1 : ℕ) : ℤ) := Float64.trunc_intCast (by rw [stage]; push_cast; rfl)
  rw [cv.int_trunc x (by omega) (by omega), whole]
  rfl

/-- The user that `ProcEventLock` leaves behind. -/
theorem Served.unlocked {v : User} (served : Served cv m u .eventLock v) (stageid : m.body "stageid" = some (.json (.num x)))
    (eventid : m.body "eventid" = some (.json (.num y))) (stage : (cv.int x).toInt = i + 1) :
    v.udb.eventLock = u.udb.eventLock.set i (cv.int y) ∧
      v.udb.heart = u.udb.heart - eventHeartConfig[i]?.getD 0 ∧ v.dirty = true := by
  cases served with
  | eventLock x' y' stageid' eventid' inside =>
    cases stageid.symm.trans stageid'
    cases eventid.symm.trans eventid'
    rw [chargeOpt_eq, eventPrice_eq stage, pred_stage stage]
    exact ⟨rfl, rfl, rfl⟩

/-- **What an unlock does**: it sets the lock, charges what the table has, and is
answered with `ErrCode` 0 when the user is stored. -/
theorem event_served (ready : c.user.ready = true) (req : EventRequest cv m c.user x y)
    (stage : (cv.int x).toInt = i + 1) (run : serve cv env online c m = .ok o) :
    o.c.user.udb.eventLock = c.user.udb.eventLock.set i (cv.int y) ∧
      o.c.user.udb.heart = c.user.udb.heart - eventHeartConfig[i]?.getD 0 ∧
      ((∃ r ∈ o.sent, r.errCode = 0) ↔ env.upsert = true) := by
  obtain ⟨reply, sent, -, -, told, -⟩ := serve_told req.small run
  have code : (∃ r ∈ o.sent, r.errCode = 0) ↔ reply.errCode = 0 := by rw [sent]; simp
  obtain ⟨-, stageid, eventid⟩ := id req
  have which := req.chosen
  cases told with
  | unserved unpicked =>
    rcases unpicked with none | ⟨-, login⟩
    · cases which.symm.trans none
    · cases which.symm.trans login
  | refused h e _ picked why =>
    cases which.symm.trans picked
    cases why with
    | noEvent absent =>
      rw [stageid, eventid] at absent
      rcases absent with absent | absent <;> cases absent
  | served h entries _ picked _ served _ _ stored =>
    cases which.symm.trans picked
    obtain ⟨lock, heart, dirty⟩ := served.unlocked stageid eventid stage
    refine ⟨lock, heart, ?_⟩
    rw [code, stored, User.stored, User.store, if_pos dirty]
  | loadFailed out => exact absurd (ready.symm.trans out) (by decide)
  | loggedIn u out => exact absurd (ready.symm.trans out) (by decide)

/-- The law for a user whose lock was set and whose hearts were charged by the table. -/
theorem lawful_iff {d d' : UserDb} (lock : d.eventLock[i]? = some l) (enough : eventHeartConfig[i]?.getD 0 ≤ d.heart)
    (set : d'.eventLock = d.eventLock.set i e) (charged : d'.heart = d.heart - eventHeartConfig[i]?.getD 0) :
    Lawful i d d' ↔ if i < eventHeartConfig.length then e.toInt = l.toInt + 1 else e = l := by
  have inside : i < d.eventLock.length := (List.getElem?_eq_some_iff.1 lock).1
  have here : d'.eventLock[i]? = some e := by rw [set, List.getElem?_set_self inside]
  have others : ∀ j, j ≠ i → d'.eventLock[j]? = d.eventLock[j]? := by
    intro j other
    rw [set, List.getElem?_set_ne (Ne.symm other)]
  unfold Lawful Bought
  rw [and_iff_left others, here, lock]
  cases price : eventHeartConfig[i]? with
  | none =>
    have beyond := List.getElem?_eq_none_iff.1 price
    rw [price, Option.getD_none, UInt32.sub_zero] at charged
    rw [if_neg (by omega)]
    simp [charged]
  | some p =>
    have priced := (List.getElem?_eq_some_iff.1 price).1
    have prices : eventHeartConfig.all (fun p => p ≠ 0) = true := by decide
    have nonzero : p ≠ 0 := of_decide_eq_true (List.all_eq_true.1 prices p (List.mem_of_getElem? price))
    rw [price, Option.getD_some] at charged enough
    have paid : d'.heart.toNat + p.toNat = d.heart.toNat := by
      have le := UInt32.le_iff_toNat_le.1 enough
      rw [charged, UInt32.toNat_sub_of_le _ _ enough]
      omega
    have changed : d'.heart ≠ d.heart := by
      intro same
      rw [same] at paid
      exact nonzero (UInt32.toNat_inj.1 (show p.toNat = 0 by omega))
    rw [if_pos priced]
    simp [changed, paid]

/-- A request for a lock that is there returns. -/
theorem event_returns (env : Env) (online : Online κ) (req : EventRequest cv m c.user x y)
    (ready : c.user.ready = true) (stage : (cv.int x).toInt = i + 1) (lock : c.user.udb.eventLock[i]? = some l) :
    ∃ o, serve cv env online c m = .ok o := by
  apply (serve_accepts env online c m).2
  obtain ⟨-, stageid, eventid⟩ := id req
  have which := req.chosen
  rw [chosen_of_ready ready, Option.join_eq_some_iff] at which
  have low : 0 ≤ (cv.int m.cmd).toInt := by
    by_contra negative
    rw [Int.toNat_of_nonpos (by omega), procFuncArray_eq] at which
    cases which
  refine .inr (.inr ⟨inSlice_iff.2 ⟨low, _, which⟩, fun h found => ?_⟩)
  cases which.symm.trans found
  intro v w hv hw
  cases stageid.symm.trans hv
  cases eventid.symm.trans hw
  refine ⟨x, y, rfl, rfl, inSlice_iff.2 ⟨?_, l, ?_⟩⟩
  · rw [pred_stage stage]
    omega
  · rw [pred_stage stage]
    exact lock

/-- A request that changes the locks is an unlock of one of them. -/
theorem serve_locks (ready : c.user.ready = true) (levels : Levels c.user.udb.eventLock) (run : serve cv env online c m = .ok o) :
    o.c.user.udb.eventLock = c.user.udb.eventLock ∨
      ∃ x y i l, EventRequest cv m c.user x y ∧ (cv.int x).toInt = (i : ℕ) + 1 ∧ c.user.udb.eventLock[i]? = some l ∧
        o.c.user.udb.eventLock = c.user.udb.eventLock.set i (cv.int y) := by
  by_cases small : m.cmd.val < 128
  · rcases serve_user ready run with ⟨same, -⟩ | ⟨h, which, served⟩
    · exact .inl (by rw [same])
    · generalize o.c.user = v at served ⊢
      cases served with
      | eventLock x y stageid eventid inside =>
        obtain ⟨low, l, lock⟩ := inSlice_iff.1 inside
        right
        refine ⟨x, y, (cv.int x - 1).toInt.toNat, l, ⟨?_, stageid, eventid⟩, ?_, lock, ?_⟩
        · rw [picked, if_pos small]
          exact which
        · have short : (cv.int x - 1).toInt.toNat < 6 := levels.1 ▸ (List.getElem?_eq_some_iff.1 lock).1
          have back : (cv.int x - 1 + 1).toInt = (cv.int x - 1).toInt + 1 := by
            rw [Int64.toInt_add, Int64.toInt_one]
            exact Int.bmod_eq_of_le (by omega) (by omega)
          rw [Int64.sub_add_cancel] at back
          omega
        · rw [chargeOpt_eq]
          rfl
      | _ => left; simp [User.markDirty, User.credited, User.advance, User.setNextStage]
  · rcases procMsg_ok.1 run with ⟨-, rfl⟩ | ⟨small', -⟩
    · exact .inl rfl
    · exact absurd small' small

/-- What the law of an unlock asks of its level. -/
theorem LawfulRequest.level (lawful : LawfulRequest cv env online c m) (req : EventRequest cv m c.user x y)
    (ready : c.user.ready = true) (lock : c.user.udb.eventLock[i]? = some l) (inside : i < 6) (stage : x.val = i + 1)
    (event : IsInt y) (enough : eventHeartConfig[i]?.getD 0 ≤ c.user.udb.heart) (stored : env.upsert = true) :
    if i < eventHeartConfig.length then (cv.int y).toInt = l.toInt + 1 else cv.int y = l := by
  have stage' := stage_int cv stage inside
  obtain ⟨o, run⟩ := event_returns env online req ready stage' lock
  obtain ⟨set, charged, code⟩ := event_served ready req stage' run
  rw [← lawful_iff lock enough set charged]
  exact lawful x y req i inside stage event enough o run (code.2 stored)

/-- **One request of a client that is logged in**: afterwards it has its locks,
and the law was obeyed, exactly when it asked for the right level. -/
theorem request_exact (ready : c.user.ready = true) (levels : Levels c.user.udb.eventLock) :
    (∀ o, serve cv env online c m = .ok o → Levels o.c.user.udb.eventLock) ∧ LawfulRequest cv env online c m ↔
      NextLevel cv env m c.user := by
  constructor
  · rintro ⟨keeps, lawful⟩ x y req i l stage lock
    have inside : i < 6 := levels.1 ▸ (List.getElem?_eq_some_iff.1 lock).1
    refine ⟨?_, fun whole event enough stored => lawful.level req ready lock inside whole event enough stored⟩
    obtain ⟨o, run⟩ := event_returns env online req ready stage lock
    rw [← levels_set levels inside, ← (event_served ready req stage run).1]
    exact keeps o run
  · intro next
    refine ⟨fun o run => ?_, fun x y req i inside stage event enough o run answered => ?_⟩
    · rcases serve_locks ready levels run with same | ⟨x, y, i, l, req, stage, lock, set⟩
      · rw [same]
        exact levels
      · have inside : i < 6 := levels.1 ▸ (List.getElem?_eq_some_iff.1 lock).1
        rw [set, levels_set levels inside]
        exact (next x y req i l stage lock).1
    · have stage' := stage_int cv stage inside
      obtain ⟨l, lock⟩ := levels.lock inside
      obtain ⟨set, charged, code⟩ := event_served ready req stage' run
      rw [lawful_iff lock enough set charged]
      exact (next x y req i l stage' lock).2 stage event enough (code.1 answered)

/-! ## Runs -/

/-- A document from which `ProcUserLogin` gets the locks. -/
def Loadable (d : UserDb) : Prop := d.eventLock = [] ∨ Levels d.eventLock

theorem initEventLock_levels {u : User} (loadable : Loadable u.udb) : Levels u.initEventLock.udb.eventLock := by
  unfold User.initEventLock
  rcases loadable with empty | levels
  · rw [if_pos (by rw [empty]; rfl)]
    refine ⟨rfl, fun l one => ?_⟩
    rw [List.eq_of_mem_replicate one]
    decide
  · rw [if_neg (by rw [levels.1]; decide)]
    exact levels

namespace Service

/-- Clients that are not logged in have no locks yet, and every document can be loaded. -/
structure Ready (s : Service κ) : Prop where
  blank : ∀ k c w, s.process.conns k = .live c w → c.user.ready = false → c.user.udb.eventLock = []
  loadable : ∀ d ∈ s.docs, Loadable d

variable {s : Service κ}

/-- A load from these documents. -/
theorem load_loadable {u v : User} {id : String} (docs : ∀ d ∈ s.docs, Loadable d) (blank : u.udb.eventLock = [])
    (answers : s.Answers env id) (load : u.load env id = some v) : Loadable v.udb := by
  unfold User.load at load
  unfold Answers at answers
  split at load
  · next d owner found =>
    cases load
    rw [found] at answers
    exact docs d answers
  · cases load
    exact .inl blank
  · cases load

theorem loggedIn_levels {u : User} (loadable : Loadable u.udb) : Levels (u.loggedIn env).udb.eventLock := by
  apply initEventLock_levels
  unfold User.enter
  dsimp only
  split <;> exact loadable

/-- The locks after a request of a client that was not logged in. -/
theorem out_locks (ready : Ready s) (answers : s.Answers env (loginId env m)) (blank : c.user.udb.eventLock = [])
    (out : c.user.ready = false) (run : serve cv env online c m = .ok o) :
    (o.c.user.ready = true → Levels o.c.user.udb.eventLock) ∧
      (o.c.user.ready = false → o.c.user.udb.eventLock = []) := by
  have stays : o.c.user = c.user →
      (o.c.user.ready = true → Levels o.c.user.udb.eventLock) ∧
        (o.c.user.ready = false → o.c.user.udb.eventLock = []) := by
    intro same
    rw [same]
    exact ⟨fun ready => absurd (out.symm.trans ready) (by decide), fun _ => blank⟩
  by_cases cmd : m.cmd = kCmdUserLogin
  · rcases serve_login out cmd run with ⟨-, user, -⟩ | ⟨u, load, user, -⟩
    · exact stays user
    · rw [user]
      refine ⟨fun _ => loggedIn_levels (load_loadable ready.loadable blank answers load), fun out => ?_⟩
      rw [loggedIn_ready] at out
      cases out
  · exact stays (serve_out out cmd run).1

variable [DecidableEq κ] {t : Service κ} {a : ServiceStep κ} {k : κ}

theorem step_request {env : Env} {m : Msg} (h : step cv s (.conn (.request k env m)) = some t) :
    s.Answers env (loginId env m) ∧ ∃ c, s.process.conns k = .live c true ∧
      ((∃ o, serve cv env s.process.online c m = .ok o ∧ t.docs = s.docs ++ o.upsert.toList ∧
          t.process = { s.process.set k (.live o.c false) with online := o.online }) ∨
        (∃ p, serve cv env s.process.online c m = .error p) ∧ t.docs = s.docs ∧ t.process = s.process.set k .ended) := by
  obtain ⟨answers, next, docs⟩ := step_some.1 h
  obtain ⟨c, here, ends⟩ := Process.step_request next
  refine ⟨answers _ rfl, c, here, ?_⟩
  have written : s.written cv (.conn (.request k env m)) =
      (serve cv env s.process.online c m).toOption.elim [] fun o => o.upsert.toList := by
    simp only [Service.written, here]
  rw [written] at docs
  rcases ends with ⟨o, run, process⟩ | ⟨p, run, process⟩
  · rw [run] at docs
    exact .inl ⟨o, run, docs, process⟩
  · rw [run] at docs
    exact .inr ⟨⟨p, run⟩, by rw [docs]; exact List.append_nil _, process⟩

/-- Who has its locks after a request. -/
theorem locked_request (ready : Ready s) (locked : Locked s) (h : step cv s (.conn (.request k env m)) = some t)
    (here : s.process.conns k = .live c true) :
    Locked t ↔ (c.user.ready = true → ∀ o, serve cv env s.process.online c m = .ok o → Levels o.c.user.udb.eventLock) := by
  obtain ⟨answers, c', here', ends⟩ := step_request h
  cases here.symm.trans here'
  unfold Locked
  rcases ends with ⟨o, run, -, process⟩ | ⟨⟨p, run⟩, -, process⟩
  · rw [process]
    constructor
    · intro all logged o' run'
      cases run.symm.trans run'
      exact all k o.c false (by simp) (serve_ready logged run)
    · intro now j d w live logged
      rcases Process.set_live live with ⟨-, new⟩ | ⟨-, old⟩
      · cases new
        cases before : c.user.ready with
        | true => exact now before o run
        | false => exact (out_locks ready answers (ready.blank k c true here before) before run).1 logged
      · exact locked j d w old logged
  · rw [process, run]
    refine iff_of_true (fun j d w live logged => ?_) (fun _ o returns => by cases returns)
    rcases Process.set_live live with ⟨-, new⟩ | ⟨-, old⟩
    · cases new
    · exact locked j d w old logged

/-- A step that is not a request leaves the locks alone. -/
theorem step_quiet (h : step cv s a = some t) (other : ∀ k env m, a ≠ .conn (.request k env m)) {j : κ} {d : Client κ} {w : Bool}
    (live : t.process.conns j = .live d w) : Process.Resumes s.process j d := by
  obtain ⟨-, next, -⟩ := step_some.1 h
  cases a with
  | conn a =>
    refine Process.step_resumes next (fun k env m same => ?_) live
    exact other k env m (by rw [same])
  | async env userid count =>
    have same : s.process = t.process := Option.some.inj next
    rw [← same] at live
    exact .old live

theorem locked_quiet (locked : Locked s) (h : step cv s a = some t) (other : ∀ k env m, a ≠ .conn (.request k env m)) :
    Locked t := by
  intro j d w live logged
  rcases step_quiet h other live with rfl | ⟨d', w', before, ready, udb⟩
  · cases logged
  · rw [udb]
    exact locked j d' w' before (ready ▸ logged)

/-- **One step.** -/
theorem step_exact (ready : Ready s) (locked : Locked s) (h : step cv s a = some t) :
    Locked t ∧ Exact cv s a ↔ Stepwise cv s a := by
  by_cases request : ∃ k env m, a = .conn (.request k env m)
  · obtain ⟨k, env, m, rfl⟩ := request
    obtain ⟨-, c, here, -⟩ := step_request h
    rw [locked_request ready locked h here]
    have only : ∀ p : Client κ → Prop, (∀ c', s.process.conns k = .live c' true → p c') ↔ p c := by
      intro p
      constructor
      · exact fun all => all c here
      · intro hp c' here'
        cases here.symm.trans here'
        exact hp
    have exactly : Exact cv s (.conn (.request k env m)) ↔ (c.user.ready = true → LawfulRequest cv env s.process.online c m) :=
      only fun c => c.user.ready = true → LawfulRequest cv env s.process.online c m
    have stepwise : Stepwise cv s (.conn (.request k env m)) ↔ (c.user.ready = true → NextLevel cv env m c.user) :=
      only fun c => c.user.ready = true → NextLevel cv env m c.user
    rw [exactly, stepwise, ← imp_and]
    exact imp_congr_right fun logged => request_exact logged (locked k c true here logged)
  · have other : ∀ k env m, a ≠ .conn (.request k env m) := fun k env m same => request ⟨k, env, m, same⟩
    have idle : Exact cv s a ∧ Stepwise cv s a := by
      cases a with
      | async env userid count => exact ⟨trivial, trivial⟩
      | conn a =>
        cases a with
        | request k env m => exact absurd rfl (other k env m)
        | _ => exact ⟨trivial, trivial⟩
    exact iff_of_true ⟨locked_quiet locked h other, idle.1⟩ idle.2

/-- What a step has written can be loaded, if its users have their locks afterwards. -/
theorem written_loadable (ready : Ready s) (locked : Locked t) (h : step cv s a = some t)
    (blank : ∀ k c w, t.process.conns k = .live c w → c.user.ready = false → c.user.udb.eventLock = []) :
    ∀ d ∈ s.written cv a, Loadable d := by
  obtain ⟨answers, -, -⟩ := step_some.1 h
  cases a with
  | conn a =>
    cases a with
    | request k env m =>
      obtain ⟨-, c, here, ends⟩ := step_request h
      intro d hd
      simp only [written, here] at hd
      rcases ends with ⟨o, run, -, process⟩ | ⟨⟨p, run⟩, -, -⟩
      · rw [run] at hd
        have live : t.process.conns k = .live o.c false := by rw [process]; simp
        have stored : d = o.c.user.udb := by
          rcases (procMsg_upsert run).1 with none | some
          · rw [Except.toOption, Option.elim_some, none] at hd
            cases hd
          · rw [Except.toOption, Option.elim_some, some] at hd
            exact List.mem_singleton.1 hd
        rw [stored]
        cases logged : o.c.user.ready with
        | true => exact .inr (locked k o.c false live logged)
        | false => exact .inl (blank k o.c false live logged)
      · rw [run] at hd
        cases hd
    | _ => intro d hd; cases hd
  | async env userid count =>
    intro d hd
    simp only [written, addHeartAsync] at hd
    cases found : s.process.online.find userid with
    | some c => simp [found] at hd
    | none =>
      cases load : User.init.load env userid with
      | none => simp [found, load] at hd
      | some u =>
        have stored : d = (u.credited count).udb := by simpa [found, load, User.store, User.credited, User.markDirty] using hd
        rw [stored]
        have loaded : Loadable u.udb := load_loadable ready.loadable rfl (answers (env, userid) rfl) load
        exact loaded

theorem blank_step (ready : Ready s) (h : step cv s a = some t) :
    ∀ k c w, t.process.conns k = .live c w → c.user.ready = false → c.user.udb.eventLock = [] := by
  intro j d w live out
  by_cases request : ∃ k env m, a = .conn (.request k env m)
  · obtain ⟨k, env, m, rfl⟩ := request
    obtain ⟨answers, c, here, ends⟩ := step_request h
    rcases ends with ⟨o, run, -, process⟩ | ⟨-, -, process⟩
    · rw [process] at live
      rcases Process.set_live live with ⟨-, new⟩ | ⟨-, old⟩
      · cases new
        cases before : c.user.ready with
        | true => exact absurd ((serve_ready before run).symm.trans out) (by decide)
        | false => exact (out_locks ready answers (ready.blank k c true here before) before run).2 out
      · exact ready.blank j d w old out
    · rw [process] at live
      rcases Process.set_live live with ⟨-, new⟩ | ⟨-, old⟩
      · cases new
      · exact ready.blank j d w old out
  · have other : ∀ k env m, a ≠ .conn (.request k env m) := fun k env m same => request ⟨k, env, m, same⟩
    rcases step_quiet h other live with rfl | ⟨d', w', before, same, udb⟩
    · rfl
    · rw [udb]
      exact ready.blank j d' w' before (same ▸ out)

theorem step_ready (ready : Ready s) (locked : Locked t) (h : step cv s a = some t) : Ready t where
  blank := blank_step ready h
  loadable d hd := by
    obtain ⟨-, -, docs⟩ := step_some.1 h
    rw [docs] at hd
    rcases List.mem_append.1 hd with old | new
    · exact ready.loadable d old
    · exact written_loadable ready locked h (blank_step ready h) d new

/-- **When unlocking is charged exactly**: over every run of the service, every
user logged in has its six locks and every unlock answered with `ErrCode` 0 obeys
the law, exactly when every unlock asks for the right level. -/
theorem unlocks_iff_stepwise (cv : FloatConv) (docs : List UserDb) (loadable : ∀ d ∈ docs, Loadable d)
    (as : List (ServiceStep κ)) (s : Service κ) (run : exec (step cv) (start docs) as = some s) :
    Through (step cv) Locked (start docs) as ∧ Along (step cv) (Exact cv) (start docs) as ↔
      Along (step cv) (Stepwise cv) (start docs) as := by
  have ready : Ready (start docs : Service κ) := ⟨fun k c w live => (by cases live), loadable⟩
  have locked : Locked (start docs : Service κ) := fun k c w live => by cases live
  exact through_along_iff_between (fun _ _ _ ready _ locked h => step_ready ready locked h)
    (fun _ _ _ ready locked h => step_exact ready locked h) ready locked run

end Service

end

/-! ## Tests -/

def unlock (sid eid : UInt32) : Msg := .request 5 "u" [("stageid", .num (.ofUInt32 sid)), ("eventid", .num (.ofUInt32 eid))]

/-- The next unlock of the connection in the `select`. -/
def unlockStep (sid eid : UInt32) : ServiceStep Unit :=
  .conn (.request () (Env.answering fun _ => .failed) (unlock sid eid))

/-- A connection logs in and goes to the `select`. -/
def visit : List (ServiceStep Unit) := (arrive () "u").map .conn ++ [.conn (.test ())]

/-- The account of the connection in the `select`. -/
def Service.account (s : Service Unit) : Option (Bool × List Int64 × UInt32) :=
  match s.process.conns () with
  | .live c true => some (c.user.ready, c.user.udb.eventLock, c.user.udb.heart)
  | _ => none

theorem Service.account_eq {s : Service Unit} {ready : Bool} {locks : List Int64} {heart : UInt32}
    (h : s.account = some (ready, locks, heart)) :
    ∃ c, s.process.conns () = .live c true ∧ c.user.ready = ready ∧ c.user.udb.eventLock = locks ∧
      c.user.udb.heart = heart := by
  unfold account at h
  split at h
  · next c here =>
    simp only [Option.some.injEq, Prod.mk.injEq] at h
    exact ⟨c, here, h⟩
  · cases h

theorem unlock_request {u : User} (sid eid : UInt32) (ready : u.ready = true) :
    EventRequest amd64 (unlock sid eid) u (.ofUInt32 sid) (.ofUInt32 eid) := by
  have small : (Float64.ofUInt32 5).val < 128 := by decide
  have index : (amd64.int (unlock sid eid).cmd).toInt.toNat = (5 : UInt32).toNat := lookup_of_cmd rfl
  refine ⟨?_, rfl, rfl⟩
  rw [picked, if_pos (show (unlock sid eid).cmd.val < 128 from small), chosen_of_ready ready, index, procFuncArray_eq]
  rfl

/-- The first lock is bought. -/
theorem unlocks_iff_stepwise_first :
    ∃ s, exec (Service.step amd64) (Service.start []) (visit ++ [unlockStep 1 2]) = some s ∧ Service.Locked s ∧
      Along (Service.step amd64) (Service.Exact amd64) (Service.start []) (visit ++ [unlockStep 1 2]) := by
  have before : (exec (Service.step amd64) (Service.start []) (visit.take 2)).map Service.account =
      some (some (false, [], 0)) := by decide +kernel
  have after : (exec (Service.step amd64) (Service.start []) visit).map Service.account =
      some (some (true, [1, 1, 1, 1, 1, 1], 99)) := by decide +kernel
  have ends : (exec (Service.step amd64) (Service.start []) (visit ++ [unlockStep 1 2])).map (fun _ => ()) = some () := by
    decide +kernel
  obtain ⟨s, run, -⟩ := Option.map_eq_some_iff.1 ends
  have paid := (Service.unlocks_iff_stepwise amd64 [] (by simp) (visit ++ [unlockStep 1 2]) s run).2 ?_
  · exact ⟨s, run, paid.1.last run, paid.2⟩
  obtain ⟨s₁, accept, run⟩ := exec_cons_eq_some.1 run
  obtain ⟨s₂, test, run⟩ := exec_cons_eq_some.1 run
  obtain ⟨s₃, login, run⟩ := exec_cons_eq_some.1 run
  obtain ⟨s₄, test', run⟩ := exec_cons_eq_some.1 run
  obtain ⟨s₅, buy, run⟩ := exec_cons_eq_some.1 run
  refine (along_cons accept).2 ⟨trivial, (along_cons test).2 ⟨trivial, (along_cons login).2 ⟨?_,
    (along_cons test').2 ⟨trivial, (along_cons buy).2 ⟨?_, along_nil⟩⟩⟩⟩⟩
  · have two : exec (Service.step amd64) (Service.start []) (visit.take 2) = some s₂ :=
      exec_cons_eq_some.2 ⟨s₁, accept, exec_cons_eq_some.2 ⟨s₂, test, rfl⟩⟩
    rw [two] at before
    obtain ⟨c, here, out, -⟩ := Service.account_eq (Option.some.inj before)
    intro c' here' ready
    cases here.symm.trans here'
    cases out.symm.trans ready
  · have four : exec (Service.step amd64) (Service.start []) visit = some s₄ :=
      exec_cons_eq_some.2 ⟨s₁, accept, exec_cons_eq_some.2 ⟨s₂, test, exec_cons_eq_some.2 ⟨s₃, login,
        exec_cons_eq_some.2 ⟨s₄, test', rfl⟩⟩⟩⟩
    rw [four] at after
    obtain ⟨c, here, -, locks, -⟩ := Service.account_eq (Option.some.inj after)
    rintro c' here' ready x y ⟨-, stageid, eventid⟩ i l stage lock
    cases here.symm.trans here'
    cases stageid
    cases eventid
    rw [amd64.int_ofUInt32] at stage
    obtain rfl : i = 0 := by
      have one : ((1 : UInt32).toNat : ℤ) = 1 := rfl
      omega
    rw [locks] at lock
    cases lock
    exact ⟨by decide, fun _ _ _ _ => by decide⟩

/-- After a run in which the law is obeyed, the next unlock asks for the right level. -/
theorem exact_level {as : List (ServiceStep Unit)} {t : Service Unit} {sid eid : UInt32} {locks : List Int64} {heart : UInt32}
    {i : ℕ} {l : Int64} (run : exec (Service.step amd64) (Service.start []) as = some t)
    (account : t.account = some (true, locks, heart))
    (along : Along (Service.step amd64) (Service.Exact amd64) (Service.start []) (as ++ [unlockStep sid eid]))
    (lock : locks[i]? = some l) (inside : i < 6) (stage : sid.toNat = i + 1) (enough : eventHeartConfig[i]?.getD 0 ≤ heart) :
    if i < eventHeartConfig.length then (amd64.int (.ofUInt32 eid)).toInt = l.toInt + 1 else amd64.int (.ofUInt32 eid) = l := by
  obtain ⟨c, here, ready, rfl, rfl⟩ := Service.account_eq account
  have lawful : LawfulRequest amd64 _ t.process.online c (unlock sid eid) :=
    along as _ t (List.prefix_refl _) run c here ready
  apply lawful.level (unlock_request sid eid ready) ready lock inside ?_ ⟨eid.toNat, rfl⟩ enough rfl
  rw [Float64.ofUInt32_val, stage]
  push_cast
  rfl

/-- A level that is bought again is charged again; the fifth stage is unlocked
for free; a lock falls below 1. -/
theorem unlocks_broken :
    (∃ s, exec (Service.step amd64) (Service.start []) (visit ++ [unlockStep 1 2, .conn (.test ()), unlockStep 1 2]) = some s ∧
      ¬ Along (Service.step amd64) (Service.Exact amd64) (Service.start [])
        (visit ++ [unlockStep 1 2, .conn (.test ()), unlockStep 1 2])) ∧
    (∃ s, exec (Service.step amd64) (Service.start []) (visit ++ [unlockStep 5 2]) = some s ∧
      ¬ Along (Service.step amd64) (Service.Exact amd64) (Service.start []) (visit ++ [unlockStep 5 2])) ∧
    ∃ s, exec (Service.step amd64) (Service.start []) (visit ++ [unlockStep 1 0, .conn (.test ())]) = some s ∧
      ¬ Service.Locked s := by
  refine ⟨?_, ?_, ?_⟩
  · have shown : (exec (Service.step amd64) (Service.start []) (visit ++ [unlockStep 1 2, .conn (.test ())])).map
        (fun t => (t.account, (t.step amd64 (unlockStep 1 2)).isSome)) =
          some (some (true, [2, 1, 1, 1, 1, 1], 87), true) := by decide +kernel
    obtain ⟨t, run, seen⟩ := Option.map_eq_some_iff.1 shown
    obtain ⟨account, goes⟩ := Prod.mk.inj seen
    obtain ⟨s, again⟩ := Option.isSome_iff_exists.1 goes
    have whole : exec (Service.step amd64) (Service.start [])
        ((visit ++ [unlockStep 1 2, .conn (.test ())]) ++ [unlockStep 1 2]) = some s := by
      rw [exec_append, run]
      exact exec_cons_eq_some.2 ⟨s, again, rfl⟩
    refine ⟨s, whole, fun along => ?_⟩
    have level := exact_level (i := 0) run account along rfl (by decide) rfl (by decide)
    exact absurd level (by decide)
  · have shown : (exec (Service.step amd64) (Service.start []) visit).map
        (fun t => (t.account, (t.step amd64 (unlockStep 5 2)).isSome)) =
          some (some (true, [1, 1, 1, 1, 1, 1], 99), true) := by decide +kernel
    obtain ⟨t, run, seen⟩ := Option.map_eq_some_iff.1 shown
    obtain ⟨account, goes⟩ := Prod.mk.inj seen
    obtain ⟨s, free⟩ := Option.isSome_iff_exists.1 goes
    have whole : exec (Service.step amd64) (Service.start []) (visit ++ [unlockStep 5 2]) = some s := by
      rw [exec_append, run]
      exact exec_cons_eq_some.2 ⟨s, free, rfl⟩
    refine ⟨s, whole, fun along => ?_⟩
    have level := exact_level (i := 4) run account along rfl (by decide) rfl (by decide)
    exact absurd level (by decide)
  · have shown : (exec (Service.step amd64) (Service.start []) (visit ++ [unlockStep 1 0, .conn (.test ())])).map
        Service.account = some (some (true, [0, 1, 1, 1, 1, 1], 87)) := by decide +kernel
    obtain ⟨s, run, account⟩ := Option.map_eq_some_iff.1 shown
    obtain ⟨c, here, ready, locks, -⟩ := Service.account_eq account
    refine ⟨s, run, fun locked => ?_⟩
    have low := (locked () c true here ready).2 0 (by rw [locks]; simp)
    exact absurd low (by decide)

end Crazyass.Server
