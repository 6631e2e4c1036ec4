import Crazyass.Sys.Run
import Crazyass.Server.Answer
import Crazyass.Server.Panics

/-!
# The online registry

All connections of the process and the map they share. A connection is accepted,
goes round its loop and ends: it leaves the loop and deletes its userid, or a
handler panics, which unwinds `Proc` past that line. The reader of a connection
clears `enable` on its own when a read fails.
-/

namespace Crazyass.Server
open Go Sys

/-- A connection over time; `waiting` is true from the test of `enable` at the
head of the loop until the `select` has served a case. -/
inductive Life (κ : Type) where
  | unborn
  | live (c : Client κ) (waiting : Bool)
  | ended

/-- The process: every connection, and `CAOnline`. -/
structure Process (κ : Type) where
  conns : κ → Life κ
  online : Online κ

inductive ProcessStep (κ : Type) where
  | accept (k : κ)
  | test (k : κ)
  | request (k : κ) (env : Env) (m : Msg)
  | nilMsg (k : κ)
  | imsg (k : κ) (value : Int64)
  | timeout (k : κ)
  | readError (k : κ)
  | leave (k : κ)

namespace Process
section
variable {κ : Type} [DecidableEq κ] (cv : FloatConv)

def start : Process κ := ⟨fun _ => .unborn, .empty⟩

def set (s : Process κ) (k : κ) (l : Life κ) : Process κ := { s with conns := Function.update s.conns k l }

def step (s : Process κ) : ProcessStep κ → Option (Process κ)
  | .accept k =>
    match s.conns k with
    | .unborn => some (s.set k (.live (.new k) false))
    | _ => none
  | .test k =>
    match s.conns k with
    | .live c false => if c.enable then some (s.set k (.live c true)) else none
    | _ => none
  | .request k env m =>
    match s.conns k with
    | .live c true =>
      match serve cv env s.online c m with
      | .ok o => some { s.set k (.live o.c false) with online := o.online }
      -- the deferred Close runs, the rest of Proc does not
      | .error _ => some (s.set k .ended)
    | _ => none
  | .nilMsg k =>
    match s.conns k with
    | .live c true => some (s.set k (.live (loopHead c) false))
    | _ => none
  | .imsg k value =>
    match s.conns k with
    | .live c true => some (s.set k (.live (serveIMsg c value) false))
    | _ => none
  | .timeout k =>
    match s.conns k with
    | .live c true => some (s.set k (.live (procTimeout (loopHead c)) false))
    | _ => none
  | .readError k =>
    match s.conns k with
    | .live c waiting => some (s.set k (.live { c with enable := false } waiting))
    | _ => none
  | .leave k =>
    match s.conns k with
    | .live c false => if c.enable then none else some { s.set k .ended with online := leaveOnline s.online c }
    | _ => none

end
end Process

/-- The connection is live and logged in as the userid. -/
def Life.LoggedIn {κ : Type} (u : String) : Life κ → Prop
  | .live c _ => c.user.ready = true ∧ c.user.udb.userId = u
  | _ => False

/-- A live client knows its own address, and has a userid exactly when it is
logged in. -/
def Life.Known {κ : Type} (k : κ) : Life κ → Prop
  | .live c _ => c.self = k ∧ (c.user.ready = true ↔ c.user.udb.userId ≠ "")
  | _ => True

namespace Process
section
variable {κ : Type}

def LoggedIn (s : Process κ) (k : κ) (u : String) : Prop := (s.conns k).LoggedIn u

/-- **The contract of the registry.** -/
structure Registry (s : Process κ) : Prop where
  entry : ∀ u k, s.online.usermap u = some k ↔ s.LoggedIn k u
  unique : ∀ u k l, s.LoggedIn k u → s.LoggedIn l u → k = l

def Known (s : Process κ) : Prop := ∀ k, (s.conns k).Known k

/-- A login that loads its user finds the userid free, and a client that is
logged in sends only requests that are accepted. -/
def Orderly (cv : FloatConv) (s : Process κ) : ProcessStep κ → Prop
  | .request k env m => ∀ c, s.conns k = .live c true →
      (c.user.ready = false → m.cmd = kCmdUserLogin → c.user.load env (loginId env m) ≠ none →
        s.online.usermap (loginId env m) = none) ∧
      (c.user.ready = true → Accepts cv False m c.user)
  | _ => True

variable {cv : FloatConv} {s t : Process κ} {k : κ}

theorem Known.of (known : Known s) {l : Life κ} (here : s.conns k = l) : l.Known k := by
  rw [← here]
  exact known k

/-- Nobody is logged in under the empty userid. -/
theorem Known.loggedIn (known : Known s) {u : String} (logged : s.LoggedIn k u) : u ≠ "" := by
  unfold LoggedIn at logged
  cases here : s.conns k with
  | live c w =>
    rw [here] at logged
    obtain ⟨ready, rfl⟩ := logged
    exact (known.of here).2.1 ready
  | unborn =>
    rw [here] at logged
    exact logged.elim
  | ended =>
    rw [here] at logged
    exact logged.elim

/-- The registry is right as soon as its entries are. -/
theorem registry_of_entry (entry : ∀ u k, s.online.usermap u = some k ↔ s.LoggedIn k u) : Registry s where
  entry := entry
  unique u k l hk hl := by
    have first := (entry u k).2 hk
    have second := (entry u l).2 hl
    exact Option.some.inj (first.symm.trans second)

theorem loggedIn_of {c : Client κ} {w : Bool} (here : s.conns k = .live c w) (ready : c.user.ready = true) :
    s.LoggedIn k c.user.udb.userId := by
  unfold LoggedIn
  rw [here]
  exact ⟨ready, rfl⟩

theorem not_loggedIn_of {c : Client κ} {w : Bool} (here : s.conns k = .live c w) (out : c.user.ready = false)
    (u : String) : ¬ s.LoggedIn k u := by
  unfold LoggedIn
  rw [here]
  exact fun logged => absurd (out.symm.trans logged.1) (by decide)

/-- The registry is empty, and nobody is logged in. -/
theorem start_registry : Registry (start : Process κ) :=
  registry_of_entry fun u k => iff_of_false (fun h => by cases h) (fun h => h)

variable [DecidableEq κ]

/-- Everything a step can do, as far as the registry is concerned. -/
inductive Move (cv : FloatConv) (s : Process κ) : ProcessStep κ → Process κ → Prop where
  | accept {k : κ} (unborn : s.conns k = .unborn) : Move cv s (.accept k) (s.set k (.live (.new k) false))
  | keep {a : ProcessStep κ} {k : κ} {c d : Client κ} {w w' : Bool} (here : s.conns k = .live c w)
      (self : d.self = c.self) (ready : d.user.ready = c.user.ready) (userId : d.user.udb.userId = c.user.udb.userId)
      (orderly : Orderly cv s a) : Move cv s a (s.set k (.live d w'))
  | login {k : κ} {env : Env} {m : Msg} {c d : Client κ} {u : User} (here : s.conns k = .live c true)
      (out : c.user.ready = false) (cmd : m.cmd = kCmdUserLogin) (load : c.user.load env (loginId env m) = some u)
      (self : d.self = c.self) (user : d.user = u.loggedIn env) :
      Move cv s (.request k env m)
        { s.set k (.live d false) with online := (s.online.insert (loginId env m) c.self).1 }
  | panic {k : κ} {env : Env} {m : Msg} {c : Client κ} (here : s.conns k = .live c true)
      (ready : c.user.ready = true) (refused : ¬ Accepts cv False m c.user) :
      Move cv s (.request k env m) (s.set k .ended)
  | leave {k : κ} {c : Client κ} (here : s.conns k = .live c false) :
      Move cv s (.leave k) { s.set k .ended with online := leaveOnline s.online c }

/-- A request that returns logs in or changes nothing the registry depends on. -/
theorem request_move {env : Env} {m : Msg} {c : Client κ} {o : Outcome κ} (here : s.conns k = .live c true)
    (run : serve cv env s.online c m = .ok o) :
    Move cv s (.request k env m) { s.set k (.live o.c false) with online := o.online } := by
  have self := serve_self run
  cases ready : c.user.ready with
  | true =>
    rw [serve_online ready run]
    refine .keep here self ((serve_ready ready run).trans ready.symm) ?_ ?_
    · rcases serve_user ready run with ⟨same, -⟩ | ⟨h, -, served⟩
      · rw [same]
      · exact served.userId
    · intro c' here'
      cases here.symm.trans here'
      exact ⟨fun out => absurd (ready.symm.trans out) (by decide), fun _ => (serve_accepts env s.online c m).1 ⟨o, run⟩⟩
  | false =>
    have calm : (m.cmd = kCmdUserLogin → c.user.load env (loginId env m) = none) → Orderly cv s (.request k env m) := by
      intro failed c' here'
      cases here.symm.trans here'
      exact ⟨fun _ cmd loads => absurd (failed cmd) loads, fun logged => absurd (ready.symm.trans logged) (by decide)⟩
    by_cases cmd : m.cmd = kCmdUserLogin
    · rcases serve_login ready cmd run with ⟨failed, user, online⟩ | ⟨u, load, user, online⟩
      · rw [online]
        exact .keep here self (by rw [user]) (by rw [user]) (calm fun _ => failed)
      · rw [online]
        exact .login here ready cmd load self user
    · obtain ⟨user, online⟩ := serve_out ready cmd run
      rw [online]
      exact .keep here self (by rw [user]) (by rw [user]) (calm fun login => absurd login cmd)

/-- The steps that are not requests. -/
inductive Plain (s : Process κ) : ProcessStep κ → Process κ → Prop where
  | accept {k : κ} (unborn : s.conns k = .unborn) : Plain s (.accept k) (s.set k (.live (.new k) false))
  | keep {a : ProcessStep κ} {k : κ} {c d : Client κ} {w w' : Bool} (here : s.conns k = .live c w)
      (self : d.self = c.self) (ready : d.user.ready = c.user.ready)
      (udb : d.user.udb = { c.user.udb with heart := d.user.udb.heart }) : Plain s a (s.set k (.live d w'))
  | leave {k : κ} {c : Client κ} (here : s.conns k = .live c false) :
      Plain s (.leave k) { s.set k .ended with online := leaveOnline s.online c }

/-- A step that is no request changes no more of a user than its hearts. -/
theorem step_plain {a : ProcessStep κ} (h : step cv s a = some t) (other : ∀ k env m, a ≠ .request k env m) :
    Plain s a t := by
  cases a with
  | accept k =>
    simp only [step] at h
    split at h
    · next unborn =>
      cases h
      exact .accept unborn
    · cases h
  | test k =>
    simp only [step] at h
    split at h
    · next c here =>
      split at h
      · cases h
        exact .keep here rfl rfl rfl
      · cases h
    · cases h
  | request k env m => exact absurd rfl (other k env m)
  | nilMsg k =>
    simp only [step] at h
    split at h
    · next c here =>
      cases h
      exact .keep here rfl rfl rfl
    · cases h
  | imsg k value =>
    simp only [step] at h
    split at h
    · next c here =>
      cases h
      exact .keep here rfl rfl rfl
    · cases h
  | timeout k =>
    simp only [step] at h
    split at h
    · next c here =>
      cases h
      exact .keep here rfl rfl rfl
    · cases h
  | readError k =>
    simp only [step] at h
    split at h
    · next c w here =>
      cases h
      exact .keep here rfl rfl rfl
    · cases h
  | leave k =>
    simp only [step] at h
    split at h
    · next c here =>
      split at h
      · cases h
      · cases h
        exact .leave here
    · cases h

/-- The two ends of a request. -/
theorem step_request {env : Env} {m : Msg} (h : step cv s (.request k env m) = some t) :
    ∃ c, s.conns k = .live c true ∧
      ((∃ o, serve cv env s.online c m = .ok o ∧ t = { s.set k (.live o.c false) with online := o.online }) ∨
        (∃ p, serve cv env s.online c m = .error p ∧ t = s.set k .ended)) := by
  simp only [step] at h
  split at h
  · next c here =>
    refine ⟨c, here, ?_⟩
    split at h
    · next o run =>
      cases h
      exact .inl ⟨o, run, rfl⟩
    · next p run =>
      cases h
      exact .inr ⟨p, run, rfl⟩
  · cases h

omit [DecidableEq κ] in
/-- A step that is not a request has nothing to keep to. -/
theorem orderly_other {a : ProcessStep κ} (other : ∀ k env m, a ≠ .request k env m) : Orderly cv s a := by
  cases a with
  | request k env m => exact absurd rfl (other k env m)
  | _ => trivial

/-- **A step** is one of these moves. -/
theorem step_move {a : ProcessStep κ} (h : step cv s a = some t) : Move cv s a t := by
  by_cases request : ∃ k env m, a = .request k env m
  · obtain ⟨k, env, m, rfl⟩ := request
    obtain ⟨c, here, ⟨o, run, rfl⟩ | ⟨p, run, rfl⟩⟩ := step_request h
    · exact request_move here run
    · have refused : ¬ Accepts cv False m c.user := by
        intro accepts
        obtain ⟨o, returns⟩ := (serve_accepts env s.online c m).2 accepts
        rw [run] at returns
        cases returns
      cases ready : c.user.ready with
      | true => exact .panic here ready refused
      | false => exact absurd (accepts_of_out ready) refused
  · have other : ∀ k env m, a ≠ .request k env m := fun k env m same => request ⟨k, env, m, same⟩
    cases step_plain h other with
    | accept unborn => exact .accept unborn
    | keep here self ready udb => exact .keep here self ready (by rw [udb]) (orderly_other other)
    | leave here => exact .leave here

/-! ## The invariants -/

@[simp] theorem set_conns (s : Process κ) (k j : κ) (l : Life κ) :
    (s.set k l).conns j = if j = k then l else s.conns j := by
  unfold set
  dsimp only
  by_cases same : j = k
  · rw [same, Function.update_self, if_pos rfl]
  · rw [Function.update_of_ne same, if_neg same]

theorem Known.set (known : Known s) {l : Life κ} (h : l.Known k) : Known (s.set k l) := by
  intro j
  rw [set_conns]
  split
  · next same =>
    rw [same]
    exact h
  · exact known j

/-- **One step** keeps what is known of every connection. -/
theorem Move.known {a : ProcessStep κ} (move : Move cv s a t) (known : Known s) : Known t := by
  cases move with
  | accept unborn => exact known.set ⟨rfl, by simp [Client.new, User.init, UserDb.zero]⟩
  | keep here self ready userId orderly =>
    obtain ⟨address, named⟩ := known.of here
    refine known.set ⟨self.trans address, ?_⟩
    rw [ready, userId]
    exact named
  | login here out cmd load self user =>
    obtain ⟨address, -⟩ := known.of here
    have logged : (Life.live _ false).Known _ := ⟨self.trans address, by
      rw [user, loggedIn_userId load]
      simp [loginId_ne_empty]⟩
    exact fun j => (known.set logged) j
  | panic here ready refused => exact known.set trivial
  | leave here => exact fun j => (known.set (l := .ended) trivial) j

theorem set_loggedIn {l : Life κ} {j : κ} {u : String} :
    (s.set k l).LoggedIn j u ↔ if j = k then l.LoggedIn u else s.LoggedIn j u := by
  unfold LoggedIn
  rw [set_conns]
  split <;> rfl

/-- A connection that is as much logged in as before. -/
theorem registry_set_iff {l : Life κ} (same : ∀ u, l.LoggedIn u ↔ (s.conns k).LoggedIn u) :
    Registry (s.set k l) ↔ Registry s := by
  have all : ∀ j u, (s.set k l).LoggedIn j u ↔ s.LoggedIn j u := by
    intro j u
    rw [set_loggedIn]
    split
    · next here =>
      rw [here]
      exact same u
    · rfl
  constructor
  · rintro ⟨entry, unique⟩
    exact ⟨fun u j => (entry u j).trans (all j u),
      fun u i j hi hj => unique u i j ((all i u).2 hi) ((all j u).2 hj)⟩
  · rintro ⟨entry, unique⟩
    exact ⟨fun u j => (entry u j).trans (all j u).symm,
      fun u i j hi hj => unique u i j ((all i u).1 hi) ((all j u).1 hj)⟩

/-- A login keeps the registry right exactly when the userid was free. -/
theorem login_registry_iff {id : String} {d : Client κ} (registry : Registry s) (out : ∀ u, ¬ s.LoggedIn k u)
    (logged : d.user.ready = true) (named : d.user.udb.userId = id) :
    Registry { s.set k (.live d false) with online := (s.online.insert id k).1 } ↔ s.online.usermap id = none := by
  have now : ∀ j u, (s.set k (.live d false)).LoggedIn j u ↔ if j = k then u = id else s.LoggedIn j u := by
    intro j u
    rw [set_loggedIn]
    simp only [Life.LoggedIn, logged, named, true_and, eq_comm (a := id)]
  constructor
  · intro registry'
    cases taken : s.online.usermap id with
    | none => rfl
    | some l =>
      -- the refused insertion leaves the entry of the other connection
      have mine := (registry'.entry id k).2 ((now k id).2 (by rw [if_pos rfl]))
      have kept : (s.online.insert id k).1.usermap id = some l := by rw [Online.insert, taken]; exact taken
      have same : k = l := Option.some.inj (mine.symm.trans kept)
      rw [← same] at taken
      exact absurd ((registry.entry id k).1 taken) (out id)
  · intro free
    refine registry_of_entry fun u j => ?_
    have inserted : (s.online.insert id k).1.usermap u = if u = id then some k else s.online.usermap u := by
      rw [Online.insert, free]
      dsimp only
      by_cases mine : u = id
      · rw [mine, Function.update_self, if_pos rfl]
      · rw [Function.update_of_ne mine, if_neg mine]
    change (s.online.insert id k).1.usermap u = some j ↔ (s.set k (.live d false)).LoggedIn j u
    rw [inserted, now]
    by_cases mine : u = id
    · rw [if_pos mine]
      by_cases here : j = k
      · simp [here, mine]
      · rw [if_neg here, mine, Option.some.injEq, eq_comm]
        refine iff_of_false here fun other => ?_
        have entry := (registry.entry id j).2 other
        rw [free] at entry
        cases entry
    · rw [if_neg mine, registry.entry]
      by_cases here : j = k
      · rw [here]
        simp [out, mine]
      · rw [if_neg here]

/-- A connection that goes without deleting its entry must not have one. -/
theorem gone_registry {u : String} (registry : Registry s) (logged : s.LoggedIn k u) : ¬ Registry (s.set k .ended) := by
  intro registry'
  have entry := (registry.entry u k).2 logged
  have gone := (registry'.entry u k).1 entry
  rw [set_loggedIn, if_pos rfl] at gone
  exact gone

/-- A connection that leaves the loop takes its own entry with it. -/
theorem leave_registry {c : Client κ} (registry : Registry s) (known : Known s) (here : s.conns k = .live c false) :
    Registry { s.set k .ended with online := leaveOnline s.online c } := by
  have mine : ∀ u, s.LoggedIn k u → u = c.user.udb.userId := by
    intro u logged
    unfold LoggedIn at logged
    rw [here] at logged
    exact logged.2.symm
  refine registry_of_entry fun u j => ?_
  change (s.online.delete c.user.udb.userId).usermap u = some j ↔ (s.set k .ended).LoggedIn j u
  rw [set_loggedIn, Online.delete]
  dsimp only
  by_cases same : u = c.user.udb.userId
  · rw [same, Function.update_self]
    refine iff_of_false (by simp) fun logged => ?_
    split at logged
    · exact logged
    · next other =>
      have named := (known.loggedIn logged)
      have ready : c.user.ready = true := (known.of here).2.2 named
      exact other (registry.unique _ j k logged (loggedIn_of here ready))
  · rw [Function.update_of_ne same, registry.entry]
    split
    · next gone =>
      rw [gone]
      exact iff_of_false (fun logged => same (mine u logged)) (fun h => h)
    · rfl

/-- **One step** keeps the registry right exactly when it is orderly. -/
theorem Move.registry_iff {a : ProcessStep κ} (move : Move cv s a t) (known : Known s) (registry : Registry s) :
    Registry t ↔ Orderly cv s a := by
  cases move with
  | accept unborn =>
    refine iff_of_true ((registry_set_iff fun u => ?_).2 registry) trivial
    rw [unborn]
    simp [Life.LoggedIn, Client.new, User.init]
  | keep here self ready userId orderly =>
    refine iff_of_true ((registry_set_iff fun u => ?_).2 registry) orderly
    rw [here]
    simp only [Life.LoggedIn, ready, userId]
  | login here out cmd load self user =>
    have address := (known.of here).1
    rw [address]
    rw [login_registry_iff registry (not_loggedIn_of here out) (by rw [user, loggedIn_ready])
      (by rw [user, loggedIn_userId load])]
    constructor
    · intro free c' here'
      cases here.symm.trans here'
      exact ⟨fun _ _ _ => free, fun logged => absurd (out.symm.trans logged) (by decide)⟩
    · intro orderly
      exact (orderly _ here).1 out cmd (by rw [load]; simp)
  | panic here ready refused =>
    exact iff_of_false (gone_registry registry (loggedIn_of here ready)) fun orderly => refused ((orderly _ here).2 ready)
  | leave here => exact iff_of_true (leave_registry registry known here) trivial

/-- **When the registry is right.** It is in every state of a run exactly when
every step of the run is orderly. -/
theorem registry_iff_orderly (cv : FloatConv) (as : List (ProcessStep κ)) (u : Process κ)
    (run : exec (step cv) start as = some u) :
    Through (step cv) Registry start as ↔ Along (step cv) (Orderly cv) start as :=
  through_iff_along (J := Known) (fun _ _ _ known _ h => (step_move h).known known)
    (fun _ _ _ known registry h => (step_move h).registry_iff known registry) (fun _ => trivial) start_registry run

end
end Process

/-! ## Runs -/

instance {κ : Type} (u : String) (l : Life κ) : Decidable (l.LoggedIn u) :=
  match l with
  | .live _ _ => inferInstanceAs (Decidable (_ ∧ _))
  | .unborn => .isFalse id
  | .ended => .isFalse id

/-- A connection is accepted and logs in. -/
def arrive {κ : Type} (k : κ) (userid : String) : List (ProcessStep κ) :=
  [.accept k, .test k, .request k (Env.answering fun _ => .notFound) (.request 1 userid [])]

namespace Process

/-- A request is a first one, and no other connection has its userid. -/
def First {κ : Type} (s : Process κ) : ProcessStep κ → Prop
  | .request k env m =>
    match s.conns k with
    | .live c true => c.user.ready = false ∧ s.online.usermap (loginId env m) = none
    | _ => True
  | _ => True

instance {κ : Type} [DecidableEq κ] (s : Process κ) : ∀ a, Decidable (s.First a)
  | .request k env m =>
    match h : s.conns k with
    | .live c true => decidable_of_iff (c.user.ready = false ∧ s.online.usermap (loginId env m) = none) (by simp [First, h])
    | .live c false => .isTrue (by simp [First, h])
    | .unborn => .isTrue (by simp [First, h])
    | .ended => .isTrue (by simp [First, h])
  | .accept _ | .test _ | .nilMsg _ | .imsg .. | .timeout _ | .readError _ | .leave _ => .isTrue trivial

/-- A first request under a free userid is orderly. -/
theorem First.orderly {κ : Type} {cv : FloatConv} {s : Process κ} {a : ProcessStep κ} (first : s.First a) : Orderly cv s a := by
  cases a with
  | request k env m =>
    intro c here
    obtain ⟨out, free⟩ : c.user.ready = false ∧ s.online.usermap (loginId env m) = none := by simpa [First, here] using first
    exact ⟨fun _ _ _ => free, fun logged => absurd (out.symm.trans logged) (by decide)⟩
  | accept | test | nilMsg | imsg | timeout | readError | leave => trivial

end Process

/-- Two users come, and one of them goes. -/
def twoVisits : List (ProcessStep Bool) := arrive false "u" ++ arrive true "v" ++ [.readError false, .leave false]

/-- The contract over both logins and the end of one connection. -/
theorem registry_two_visits :
    (exec (Process.step amd64) Process.start twoVisits).map (fun s => (s.online.usermap "u", s.online.usermap "v")) =
        some (none, some true) ∧
      Through (Process.step amd64) Process.Registry Process.start twoVisits := by
  have ends : (exec (Process.step amd64) Process.start twoVisits).map
      (fun s => (s.online.usermap "u", s.online.usermap "v")) = some (none, some true) := by decide +kernel
  obtain ⟨s, run, -⟩ := Option.map_eq_some_iff.1 ends
  have first : Along (Process.step amd64) Process.First Process.start twoVisits := by decide +kernel
  exact ⟨ends, (Process.registry_iff_orderly amd64 twoVisits s run).2 (first.mono fun _ _ first => first.orderly)⟩

/-- Two connections log in as one user; and a panic leaves its entry behind. -/
theorem registry_broken :
    (∃ s, exec (Process.step amd64) (Process.start : Process Bool) (arrive false "u" ++ arrive true "u") = some s ∧
      ¬ Process.Registry s) ∧
    ∃ s, exec (Process.step amd64) (Process.start : Process Unit)
        (arrive () "u" ++ [.test (), .request () (Env.answering fun _ => .failed)
          (.request 6 "u" [("itemid", .num (.ofUInt32 8))])]) = some s ∧
      ¬ Process.Registry s := by
  constructor
  · have ends : (exec (Process.step amd64) (Process.start : Process Bool) (arrive false "u" ++ arrive true "u")).map
        (fun s => (decide ((s.conns false).LoggedIn "u"), decide ((s.conns true).LoggedIn "u"))) = some (true, true) := by
      decide +kernel
    obtain ⟨s, run, shown⟩ := Option.map_eq_some_iff.1 ends
    simp only [Prod.mk.injEq, decide_eq_true_eq] at shown
    refine ⟨s, run, fun registry => ?_⟩
    exact absurd (registry.unique "u" false true shown.1 shown.2) (by decide)
  · have ends : (exec (Process.step amd64) (Process.start : Process Unit)
        (arrive () "u" ++ [.test (), .request () (Env.answering fun _ => .failed)
          (.request 6 "u" [("itemid", .num (.ofUInt32 8))])])).map
        (fun s => (s.online.usermap "u", decide ((s.conns ()).LoggedIn "u"))) = some (some (), false) := by
      decide +kernel
    obtain ⟨s, run, shown⟩ := Option.map_eq_some_iff.1 ends
    simp only [Prod.mk.injEq, decide_eq_false_iff_not] at shown
    exact ⟨s, run, fun registry => shown.2 ((registry.entry "u" ()).1 shown.1)⟩

end Crazyass.Server
