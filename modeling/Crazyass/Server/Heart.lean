import Crazyass.Server.Answer
import Crazyass.Server.Panics

/-!
# Heart arithmetic

Every change of a balance goes through `uint32(int(Heart) + n)`, which is
reduced modulo `2 ^ 32`. `Amount` says what an operation is to do with the
balance, `Amount.Exact` that it did so exactly or left the balance alone.
`ProcStartPlay` compares the price with the balance first; the other callers
are exact only where their input happens to be.
-/

namespace Crazyass.Server
open Go Sys

/-! ## Amounts -/

/-- What an operation is to do with the balance. -/
inductive Amount where
  | none
  | credit (n : ℤ)
  | price (p : UInt32)

/-- `h` is `exact` reduced modulo `2 ^ 32`, and not `exact` itself. -/
def Wraps (exact : ℤ) (h : UInt32) : Prop := (h.toNat : ℤ) ≠ exact ∧ (h.toNat : ℤ) % 2 ^ 32 = exact % 2 ^ 32

/-- The balance went from `h` to `h'` as the amount allows; `codes` are the
error codes of the replies. A price above the balance must be refused. -/
def Amount.Exact (codes : List Float64) (h h' : UInt32) : Amount → Prop
  | .none => h' = h
  | .credit n => ¬ Wraps (h.toNat + n) h' ∧
      (h' = h ∨ (0 ≤ n ∧ h.toNat + n < 2 ^ 32 ∧ (h'.toNat : ℤ) = h.toNat + n))
  | .price p => ¬ Wraps (h.toNat - p.toNat) h' ∧
      if p ≤ h then h' = h ∨ h'.toNat = h.toNat - p.toNat
      else h' = h ∧ codes = [.ofUInt32 kErrHeartNotEnough]

/-- The amount may be added to the balance. -/
def Fits (h : UInt32) (n : ℤ) : Prop := 0 ≤ n ∧ h.toNat + n < 2 ^ 32

theorem credit_exact_iff {codes : List Float64} {h : UInt32} {n : Int64} :
    (Amount.credit n.toInt).Exact codes h (addInt h n) ↔ Fits h n.toInt := by
  have sum := addInt_toNat h n
  have lt := h.toNat_lt
  simp only [Amount.Exact, Wraps, Fits, ← UInt32.toNat_inj]
  omega

/-- A charge without a check is exact when the balance covers the price. -/
theorem charged_exact_iff {codes : List Float64} {h p : UInt32} :
    (Amount.price p).Exact codes h (h - p) ↔ p ≤ h := by
  have difference := UInt32.toNat_sub h p
  have lt := h.toNat_lt
  have lt' := p.toNat_lt
  have le : p ≤ h ↔ p.toNat ≤ h.toNat := UInt32.le_iff_toNat_le
  simp only [Amount.Exact, Wraps]
  by_cases covered : p ≤ h
  · have := le.1 covered
    simp only [covered, if_true, iff_true]
    omega
  · have := mt le.2 covered
    simp only [covered, if_false, iff_false, ← UInt32.toNat_inj]
    omega

theorem short_exact_iff {codes : List Float64} {h p : UInt32} (short : h < p) :
    (Amount.price p).Exact codes h h ↔ codes = [.ofUInt32 kErrHeartNotEnough] := by
  have lt := UInt32.lt_iff_toNat_lt.1 short
  have lt' := p.toNat_lt
  simp only [Amount.Exact, Wraps, UInt32.not_le.2 short, if_false, true_and, and_iff_right_iff_imp]
  omega

/-! ## The amount of a request -/

def Msg.num (m : Msg) (key : String) : Option Float64 := (m.body key).bind Value.float64?

theorem num_of_body {m : Msg} {key : String} {x : Float64} (h : m.body key = some (.json (.num x))) :
    m.num key = some x := by
  rw [Msg.num, h]
  rfl

theorem num_of_absent {m : Msg} {key : String} (h : m.body key = none) : m.num key = none := by
  rw [Msg.num, h]
  rfl

section
variable {κ : Type} (cv : FloatConv)

/-- The price a request asks its handler to charge. -/
def Handler.price (m : Msg) (u : User) : Handler → Option UInt32
  | .startPlay => (m.num "stageid").bind fun x =>
      if cv.uint32 x ≠ 0 ∧ cv.uint32 x ≤ u.udb.nextStage then stageHeartConfig[(cv.uint32 x - 1).toNat]? else none
  | .eventLock => (m.num "stageid").bind fun x => (m.num "eventid").bind fun _ => eventPrice (cv.int x)
  | .useItem => (m.num "itemid").bind fun x => itemPrice (cv.int x)
  | _ => none

/-- The amount a request asks its handler to credit. -/
def Handler.credit (m : Msg) : Handler → Option ℤ
  | .iapAddHeart => (m.num "addheart").map fun x => (cv.int x).toInt
  | _ => none

def Handler.amount (m : Msg) (u : User) (h : Handler) : Amount :=
  match h.credit cv m, h.price cv m u with
  | some n, _ => .credit n
  | none, some p => .price p
  | none, none => .none

/-- The handler a request reaches, if any. -/
def picked (m : Msg) (u : User) : Option Handler := if m.cmd.val < 128 then chosen cv m u else none

/-- The amount of a request, none if it reaches no handler. -/
def amountOf (m : Msg) (u : User) : Amount := (picked cv m u).elim .none (Handler.amount cv m u)

/-- The request stays within the balance: a credit is not negative and fits, a
price is covered. A `StartPlay` that is not covered need only be stored. -/
def Handler.Covered (env : Env) (m : Msg) (u : User) (h : Handler) : Prop :=
  (∀ n, h.credit cv m = some n → Fits u.udb.heart n) ∧
  ∀ p, h.price cv m u = some p → p ≤ u.udb.heart ∨ (h = .startPlay ∧ (u.dirty = true → env.upsert = true))

def CoveredRequest (env : Env) (m : Msg) (u : User) : Prop := ∀ h, picked cv m u = some h → h.Covered cv env m u

variable {cv} {m : Msg} {u v : User} {h : Handler} {env : Env} {codes : List Float64}

/-! ## One request -/

/-- A handler with nothing to credit and nothing to charge. -/
theorem idle_exact_iff (credit : h.credit cv m = none) (price : h.price cv m u = none) (same : v.udb.heart = u.udb.heart) :
    (h.amount cv m u).Exact codes u.udb.heart v.udb.heart ↔ h.Covered cv env m u := by
  have amount : h.amount cv m u = .none := by simp [Handler.amount, credit, price]
  rw [amount]
  exact iff_of_true same ⟨by simp [credit], by simp [price]⟩

theorem charged_iff (credit : h.credit cv m = none) (other : h ≠ .startPlay)
    (paid : v.udb.heart = u.udb.heart - (h.price cv m u).getD 0) :
    (h.amount cv m u).Exact codes u.udb.heart v.udb.heart ↔ h.Covered cv env m u := by
  cases price : h.price cv m u with
  | none =>
    rw [price, Option.getD_none, UInt32.sub_zero] at paid
    exact idle_exact_iff credit price paid
  | some p =>
    have amount : h.amount cv m u = .price p := by simp [Handler.amount, credit, price]
    rw [price, Option.getD_some] at paid
    rw [amount, paid, charged_exact_iff]
    simp [Handler.Covered, credit, price, other]

/-- What a served request did to the balance: it subtracted the price, if there
is one, or it added the amount of a purchase. -/
theorem Served.heart_eq (served : Served cv m u h v) :
    (h.credit cv m = none ∧ v.udb.heart = u.udb.heart - (h.price cv m u).getD 0) ∨
      ∃ n : Int64, h.credit cv m = some n.toInt ∧ h.price cv m u = none ∧ v.udb.heart = addInt u.udb.heart n := by
  cases served with
  | t => exact .inl ⟨rfl, by simp [Handler.price]⟩
  | again => exact .inl ⟨rfl, by simp [Handler.price]⟩
  | played x stageid stays => exact .inl ⟨rfl, by simp [Handler.price]⟩
  | passed x stageid pass top =>
    exact .inl ⟨rfl, by simp [Handler.price, User.markDirty, User.advance, User.setNextStage]⟩
  | startPlay x price stageid admitted priced enough =>
    exact .inl ⟨rfl, by simp [User.markDirty, Handler.price, num_of_body stageid, admitted, priced]⟩
  | iapAddHeart x addheart =>
    exact .inr ⟨cv.int x, by simp [Handler.credit, num_of_body addheart], rfl, rfl⟩
  | eventLock x y stageid eventid inside =>
    exact .inl ⟨rfl, by simp [User.markDirty, User.setEventLock, Handler.price, num_of_body stageid, num_of_body eventid]⟩
  | useItem x itemid => exact .inl ⟨rfl, by simp [User.markDirty, Handler.price, num_of_body itemid]⟩

/-- `ProcStartPlay` serves only what the balance covers. -/
theorem Served.covered (served : Served cv m u .startPlay v) {p : UInt32} (price : Handler.startPlay.price cv m u = some p) :
    p ≤ u.udb.heart := by
  cases served with
  | startPlay x price' stageid admitted priced enough =>
    simp only [Handler.price, num_of_body stageid, Option.bind_some, admitted, ne_eq, not_false_eq_true, and_self, if_true,
      priced, Option.some.injEq] at price
    rw [← price]
    exact enough

/-- A served request is exact when it is covered. -/
theorem Served.exact_iff (served : Served cv m u h v) :
    (h.amount cv m u).Exact codes u.udb.heart v.udb.heart ↔ h.Covered cv env m u := by
  rcases served.heart_eq with ⟨credit, paid⟩ | ⟨n, credit, price, added⟩
  · by_cases start : h = .startPlay
    · subst start
      cases price : Handler.startPlay.price cv m u with
      | none =>
        rw [price, Option.getD_none, UInt32.sub_zero] at paid
        exact idle_exact_iff credit price paid
      | some p =>
        have enough := served.covered price
        have amount : Handler.startPlay.amount cv m u = .price p := by simp [Handler.amount, credit, price]
        rw [price, Option.getD_some] at paid
        rw [amount, paid, charged_exact_iff]
        refine iff_of_true enough ⟨by simp [credit], fun q hq => .inl ?_⟩
        cases price.symm.trans hq
        exact enough
    · exact charged_iff credit start paid
  · have amount : h.amount cv m u = .credit n.toInt := by simp [Handler.amount, credit]
    rw [amount, added, credit_exact_iff]
    simp [Handler.Covered, credit, price]

/-- A refused request leaves the balance alone, so only the reply to a
`StartPlay` that costs too much can be wrong. -/
theorem Refused.exact_iff {e : UInt32} (refused : Refused cv m u h e)
    (answer : codes = [.ofUInt32 (if (u.store env).2 then e else kErrWriteDB)]) :
    (h.amount cv m u).Exact codes u.udb.heart u.udb.heart ↔ h.Covered cv env m u := by
  cases refused with
  | noAddheart absent => exact idle_exact_iff (by simp [Handler.credit, num_of_absent absent]) rfl rfl
  | noStart absent => exact idle_exact_iff rfl (by simp [Handler.price, num_of_absent absent]) rfl
  | farStart x stageid range =>
    refine idle_exact_iff rfl ?_ rfl
    simp only [Handler.price, num_of_body stageid, Option.bind_some]
    refine if_neg ?_
    rintro ⟨pos, le⟩
    rcases range with far | zero
    · exact absurd le (UInt32.not_le.2 far)
    · exact pos zero
  | noEnd absent => exact idle_exact_iff rfl rfl rfl
  | farEnd x stageid range => exact idle_exact_iff rfl rfl rfl
  | noPass absent => exact idle_exact_iff rfl rfl rfl
  | noEvent absent =>
    refine idle_exact_iff rfl ?_ rfl
    rcases absent with absent | absent <;> simp [Handler.price, num_of_absent absent]
  | noItem absent => exact idle_exact_iff rfl (by simp [Handler.price, num_of_absent absent]) rfl
  | shortStart x price stageid admitted priced short =>
    have asked : Handler.startPlay.price cv m u = some price := by
      simp [Handler.price, num_of_body stageid, admitted, priced]
    have amount : Handler.startPlay.amount cv m u = .price price := by simp [Handler.amount, Handler.credit, asked]
    have stored : (u.store env).2 = true ↔ (u.dirty = true → env.upsert = true) := by
      unfold User.store
      split <;> simp_all
    have uncovered : ¬ price ≤ u.udb.heart := UInt32.not_le.2 short
    rw [amount, short_exact_iff short, answer]
    simp only [Handler.Covered, asked, Handler.credit, Option.some.injEq, forall_eq', uncovered, false_or, true_and,
      reduceCtorEq, false_implies, implies_true, ← stored]
    cases (u.store env).2 with
    | true => simp
    | false =>
      have other : Float64.ofUInt32 kErrWriteDB ≠ .ofUInt32 kErrHeartNotEnough := by decide
      simp [other]

/-- **One request.** For a client that is logged in, the balance is exact when
the request is covered. -/
theorem serve_exact_iff {online : Online κ} {c : Client κ} {o : Outcome κ} (ready : c.user.ready = true)
    (run : serve cv env online c m = .ok o) :
    (amountOf cv m c.user).Exact (o.sent.map Msg.errCode) c.user.udb.heart o.c.user.udb.heart ↔
      CoveredRequest cv env m c.user := by
  unfold amountOf CoveredRequest
  rcases procMsg_ok.1 run with ⟨big, rfl⟩ | ⟨small, ran, r, call, rfl⟩
  · have unpicked : picked cv m c.user = none := if_neg (not_lt.2 big)
    rw [unpicked]
    exact iff_of_true rfl (by simp)
  · have here : ran = picked cv m c.user := by
      rw [picked, if_pos (show m.cmd.val < 128 from small)]
      exact dispatch_ran call
    rw [← here, finish_user, finish_sent]
    cases dispatch_effect call with
    | rejected ret registry c_eq =>
      rw [c_eq]
      exact iff_of_true rfl (by simp)
    | refused logged e why ret registry c_eq =>
      have same : r.c.user = c.user := by rw [c_eq]; rfl
      rw [Option.elim_some, same]
      simp only [Option.some.injEq, forall_eq']
      apply Refused.exact_iff why
      change [_] = [Float64.ofUInt32 (if (c.user.store env).2 then e else kErrWriteDB)]
      cases (c.user.store env).2 with
      | true =>
        rw [c_eq]
        rfl
      | false => rfl
    | served logged ret registry user replied =>
      rw [Option.elim_some]
      simp only [Option.some.injEq, forall_eq']
      exact Served.exact_iff user
    | login out cmd result =>
      have out : c.user.ready = false := out
      rw [ready] at out
      cases out

/-! ## Runs -/

/-- What can change a balance: a round of the connection's loop, or a call of
`AddHeartAsync` from another goroutine. -/
inductive HeartStep (κ : Type) where
  | loop (a : SessionStep κ)
  | async (env : Env) (on : Online κ) (userid : String) (count : Int64)

namespace HeartStep

/-- A call of `AddHeartAsync` touches a channel or a document of its own. -/
def step (cv : FloatConv) (s : Session κ) : HeartStep κ → Option (Session κ)
  | .loop a => s.step cv a
  | .async _ _ _ _ => some s

/-- The step treats the balance it touches exactly. -/
def Exact (cv : FloatConv) (s : Session κ) : HeartStep κ → Prop
  | .loop (.request env online m) => s.client.user.ready = true →
      ∀ o, serve cv env online s.client m = .ok o →
        (amountOf cv m s.client.user).Exact (o.sent.map Msg.errCode) s.client.user.udb.heart o.c.user.udb.heart
  | .loop (.imsg value) => s.client.user.ready = true →
      (Amount.credit value.toInt).Exact [] s.client.user.udb.heart (serveIMsg s.client value).user.udb.heart
  | .loop .timeout => (procTimeout s.client).user.udb.heart = s.client.user.udb.heart
  | .async env on userid count => ∀ before after ok, addHeartAsync env on userid count = .offline before after ok →
      (Amount.credit count.toInt).Exact [] before.udb.heart after.udb.heart

/-- The step stays within the balance. -/
def Covered (cv : FloatConv) (s : Session κ) : HeartStep κ → Prop
  | .loop (.request env _ m) =>
      s.client.user.ready = true → Accepts cv False m s.client.user → CoveredRequest cv env m s.client.user
  | .loop (.imsg value) => s.client.user.ready = true → Fits s.client.user.udb.heart value.toInt
  | .loop .timeout => True
  | .async env on userid count => on.find userid = none →
      ∀ u, User.init.load env userid = some u → Fits u.udb.heart count.toInt

theorem async_exact_iff {env : Env} {on : Online κ} {userid : String} {count : Int64} :
    (∀ before after ok, addHeartAsync env on userid count = .offline before after ok →
      (Amount.credit count.toInt).Exact [] before.udb.heart after.udb.heart) ↔
    (on.find userid = none → ∀ u, User.init.load env userid = some u → Fits u.udb.heart count.toInt) := by
  unfold addHeartAsync
  cases on.find userid with
  | some c => simp
  | none =>
    cases User.init.load env userid with
    | none => simp
    | some u =>
      have added : (u.credited count).udb.heart = addInt u.udb.heart count := rfl
      simp [added, credit_exact_iff]

/-- **When the balance is exact.** In every run, from any state, the steps that
treat the balance exactly are those that stay within it. -/
theorem exact_iff_covered (cv : FloatConv) (s : Session κ) (as : List (HeartStep κ)) :
    Along (step cv) (Exact cv) s as ↔ Along (step cv) (Covered cv) s as := by
  apply along_congr
  intro t a
  cases a with
  | async env on userid count => exact async_exact_iff
  | loop a =>
    cases a with
    | timeout => exact iff_of_true rfl trivial
    | imsg value => exact imp_congr_right fun _ => credit_exact_iff
    | request env online m =>
      refine imp_congr_right fun ready => ?_
      rw [← serve_accepts env online t.client m]
      constructor
      · rintro exact_run ⟨o, run⟩
        exact (serve_exact_iff ready run).1 (exact_run o run)
      · intro covered o run
        exact (serve_exact_iff ready run).2 (covered ⟨o, run⟩)

end HeartStep
end

/-- The login of a new user, and a purchase with a negative amount. -/
def refundLogin : HeartStep Unit := .loop (.request (Env.answering fun _ => .notFound) .empty (.request 1 "u" []))

def refund : Msg := .request 4 "u" [("addheart", .num (.ofInt (-100) (by decide)))]

/-- 99 hearts minus 100 are 4294967196 + 99. -/
theorem heart_wraps :
    ¬ Along (HeartStep.step amd64) (HeartStep.Exact amd64) (Session.start ())
      [refundLogin, .loop (.request (Env.answering fun _ => .failed) .empty refund)] := by
  intro exact_run
  have shown : (exec (HeartStep.step amd64) (Session.start ()) [refundLogin]).map (fun s =>
      (s.client.user.ready,
        (serve amd64 (Env.answering fun _ => .failed) .empty s.client refund).toOption.map fun o => o.c.user.udb.heart)) =
      some (true, some 4294967295) := by decide
  obtain ⟨s, run, result⟩ := Option.map_eq_some_iff.1 shown
  obtain ⟨ready, served⟩ := Prod.mk.inj result
  obtain ⟨o, served, -⟩ := Option.map_eq_some_iff.1 served
  have here := exact_run [refundLogin] _ s (List.prefix_refl _) run ready
  cases returned : serve amd64 (Env.answering fun _ => .failed) .empty s.client refund with
  | error p =>
    rw [returned] at served
    cases served
  | ok o' =>
    have covered := (serve_exact_iff ready returned).1 (here o' returned)
    have reached : picked amd64 refund s.client.user = some .iapAddHeart := by
      simp only [picked, chosen, ready]
      decide +kernel
    have amount := ((covered .iapAddHeart reached).1 (-100) (by decide)).1
    omega

end Crazyass.Server
