import Crazyass.Server.Account

/-!
# Which requests panic

`Accepts` is the exact condition under which `procMsg` returns. It is computed
from the code by two rules, one for a sequence of partial operations and one
for each kind of partial operation. The index into `StageHeartConfig` depends
on how far the player has come and is treated apart: with `stage` true it may
fail.
-/

namespace Crazyass.Server
open Go Sys

def panicOf {α : Type} : Except Panic α → Option Panic
  | .error p => some p
  | .ok _ => none

/-- No panic, except at the `StageHeartConfig` index where `stage` allows it. -/
def Returns (stage : Prop) {α : Type} (x : Except Panic α) : Prop :=
  ∀ p, panicOf x = some p → stage ∧ p = .stageHeartConfig

section
variable {α β κ : Type} {stage : Prop}

@[simp] theorem returns_ok (a : α) : Returns stage (.ok a : Except Panic α) := by
  intro p h
  cases h

theorem returns_error {p : Panic} (other : p ≠ .stageHeartConfig) : ¬ Returns stage (.error p : Except Panic α) := by
  intro h
  exact other (h p rfl).2

/-- A sequence returns exactly when each part does. -/
theorem returns_bind {x : Except Panic α} {f : α → Except Panic β} :
    Returns stage (x >>= f) ↔ Returns stage x ∧ ∀ a, x = .ok a → Returns stage (f a) := by
  cases x with
  | error p => simp [Returns, bind, Except.bind, panicOf]
  | ok a => simp [bind, Except.bind]

@[simp] theorem returns_map {x : Except Panic α} {f : α → β} : Returns stage (x.map f) ↔ Returns stage x := by
  cases x <;> simp [Returns, Except.map, panicOf]

theorem returns_false_iff {x : Except Panic α} : Returns False x ↔ ∃ a, x = .ok a := by
  cases x <;> simp [Returns, panicOf]

theorem inSlice_iff {l : List α} {i : ℤ} : InSlice i l.length ↔ 0 ≤ i ∧ ∃ a, l[i.toNat]? = some a := by
  unfold InSlice
  rw [← Option.isSome_iff_exists]
  simp only [isSome_getElem?]
  omega

/-- An index returns exactly when it is inside. -/
theorem returns_index {site : Panic} (other : site ≠ .stageHeartConfig) {l : List α} {i : ℤ} :
    Returns stage (index site l i) ↔ InSlice i l.length := by
  rw [inSlice_iff]
  unfold index
  by_cases low : 0 ≤ i
  · rw [if_pos low]
    cases l[i.toNat]? with
    | none => simp [returns_error other]
    | some a => simp [low]
  · rw [if_neg low]
    exact iff_of_false (returns_error other) (fun h => low h.1)

theorem returns_stage_index {l : List α} {i : ℤ} :
    Returns stage (index .stageHeartConfig l i) ↔ stage ∨ InSlice i l.length := by
  rw [inSlice_iff]
  unfold index
  by_cases low : 0 ≤ i
  · rw [if_pos low]
    cases l[i.toNat]? with
    | none => simp [Returns, panicOf]
    | some a => simp [low]
  · rw [if_neg low]
    simp [Returns, panicOf, low]

theorem returns_setIndex {site : Panic} (other : site ≠ .stageHeartConfig) {l : List α} {i : ℤ} {a : α} :
    Returns stage (setIndex site l i a) ↔ InSlice i l.length := by
  unfold setIndex
  by_cases inside : InSlice i l.length
  · simp [inside]
  · simp [inside, returns_error other]

/-- An assertion returns exactly when the value has its type. -/
theorem returns_float64 {v : Value} {f : Float64 → Except Panic β} :
    Returns stage (v.assertFloat64 >>= f) ↔ ∃ x, v = .json (.num x) ∧ Returns stage (f x) := by
  simp only [← float64?_eq_some]
  unfold Value.assertFloat64
  cases v.float64? with
  | none => simp [returns_bind, returns_error]
  | some x => simp [returns_bind]

theorem returns_bool {v : Value} {f : Bool → Except Panic β} :
    Returns stage (v.assertBool >>= f) ↔ ∃ b, v = .json (.bool b) ∧ Returns stage (f b) := by
  simp only [← bool?_eq_some]
  unfold Value.assertBool
  cases v.bool? with
  | none => simp [returns_bind, returns_error]
  | some x => simp [returns_bind]

/-- A table is read only where the id is not past it. -/
theorem returns_useTable {site : Panic} (other : site ≠ .stageHeartConfig) {c : Client κ} {table : List UInt32}
    {id : Int64} {i : ℤ} :
    Returns stage (c.useTable site table id i) ↔ (0 < id.toInt → id.toInt ≤ table.length → InSlice i table.length) := by
  unfold Client.useTable
  split
  · next priced => simp [returns_bind, returns_index other, priced]
  · next free => exact iff_of_true (returns_ok _) (fun lo hi => absurd ⟨lo, hi⟩ free)

/-- `sid - 1` of a `uint32` that is not zero. -/
theorem pred_toNat {sid : UInt32} (pos : sid ≠ 0) : (sid - 1).toNat + 1 = sid.toNat := by
  have nz : sid.toNat ≠ 0 := fun e => pos (UInt32.toNat_inj.1 e)
  have lt := sid.toNat_lt
  rw [UInt32.toNat_sub]
  simp only [UInt32.reduceToNat]
  omega

/-- `sid - 1` of a positive `int`. -/
theorem int_pred {sid : Int64} (pos : 0 < sid.toInt) : (sid - 1).toInt = sid.toInt - 1 := by
  have hi := sid.toInt_lt
  rw [Int64.toInt_sub, Int64.toInt_one]
  exact Int.bmod_eq_of_le (by omega) (by omega)

/-! ## The handlers -/

variable (cv : FloatConv)

/-- The body of a request suits its handler: each value that is asserted has
the asserted type, each index that is used is inside the slice. -/
def BodyFits (stage : Prop) (m : Msg) (u : User) : Handler → Prop
  | .t => True
  | .userLogin => True
  | .startPlay => ∀ v, m.body "stageid" = some v → ∃ x, v = .json (.num x) ∧
      (cv.uint32 x ≠ 0 → cv.uint32 x ≤ u.udb.nextStage → stage ∨ (cv.uint32 x).toNat ≤ stageHeartConfig.length)
  | .endPlay => ∀ v, m.body "stageid" = some v → ∃ x, v = .json (.num x) ∧
      (cv.uint32 x = u.udb.nextStage → ∀ w, m.body "pass" = some w → ∃ b, w = .json (.bool b))
  | .iapAddHeart => ∀ v, m.body "addheart" = some v → ∃ x, v = .json (.num x)
  | .eventLock => ∀ v w, m.body "stageid" = some v → m.body "eventid" = some w →
      ∃ x y, v = .json (.num x) ∧ w = .json (.num y) ∧ InSlice (cv.int x - 1).toInt u.udb.eventLock.length
  | .useItem => ∀ v, m.body "itemid" = some v → ∃ x, v = .json (.num x) ∧ (cv.int x).toInt ≠ itemHeartConfig.length

variable {cv} {c : Client κ}

theorem procIAPAddHeart_returns :
    Returns stage (procIAPAddHeart cv c) ↔ BodyFits cv stage c.msg c.user .iapAddHeart := by
  unfold procIAPAddHeart BodyFits
  cases c.msg.body "addheart" with
  | none => simp
  | some v => simp [returns_float64]

theorem procStartPlay_returns :
    Returns stage (procStartPlay cv c) ↔ BodyFits cv stage c.msg c.user .startPlay := by
  unfold procStartPlay BodyFits
  cases c.msg.body "stageid" with
  | none => simp
  | some v =>
    simp only [returns_float64, Option.some.injEq, forall_eq']
    refine exists_congr fun x => and_congr_right fun _ => ?_
    split
    · next refused =>
      refine iff_of_true (returns_ok _) fun pos le => ?_
      rcases refused with above | zero
      · exact absurd above (UInt32.not_lt.2 le)
      · exact absurd zero pos
    · next guard =>
      rw [not_or, gt_iff_lt, UInt32.not_lt] at guard
      have stages := pred_toNat guard.2
      rw [returns_bind, returns_stage_index, InSlice]
      constructor
      · rintro ⟨allowed | inside, -⟩ - -
        · exact .inl allowed
        · exact .inr (by omega)
      · intro h
        refine ⟨?_, fun price _ => by split <;> simp⟩
        rcases h guard.2 guard.1 with allowed | inside
        · exact .inl allowed
        · exact .inr (by omega)

theorem procEndPlay_returns :
    Returns stage (procEndPlay cv c) ↔ BodyFits cv stage c.msg c.user .endPlay := by
  unfold procEndPlay BodyFits
  cases c.msg.body "stageid" with
  | none => simp
  | some v =>
    simp only [returns_float64, Option.some.injEq, forall_eq']
    refine exists_congr fun x => and_congr_right fun _ => ?_
    split
    · next above => 
      refine iff_of_true (returns_ok _) fun top => ?_
      exact absurd above (by rw [top]; exact UInt32.lt_irrefl _)
    · split
      · next top =>
        cases c.msg.body "pass" with
        | none => simp
        | some w =>
          simp only [returns_bool, Option.some.injEq, forall_eq', top, true_implies]
          refine exists_congr fun b => and_iff_left ?_
          cases b <;> simp
      · next below => simp [below]

theorem procEventLock_returns :
    Returns stage (procEventLock cv c) ↔ BodyFits cv stage c.msg c.user .eventLock := by
  unfold procEventLock BodyFits
  cases c.msg.body "stageid" with
  | none => simp
  | some v =>
    cases c.msg.body "eventid" with
    | none => simp
    | some w =>
      simp only [returns_float64, Option.some.injEq]
      constructor
      · rintro ⟨x, rfl, y, rfl, h⟩ _ _ rfl rfl
        exact ⟨x, y, rfl, rfl, (returns_setIndex (by decide)).1 (returns_bind.1 h).1⟩
      · intro h
        obtain ⟨x, y, rfl, rfl, inside⟩ := h v w rfl rfl
        refine ⟨x, rfl, y, rfl, returns_bind.2 ⟨(returns_setIndex (by decide)).2 inside, fun lock _ => ?_⟩⟩
        refine returns_bind.2 ⟨(returns_useTable (by decide)).2 fun lo hi => ?_, fun d _ => returns_ok _⟩
        have at_stage := int_pred lo
        exact ⟨by omega, by omega⟩

theorem procUseItem_returns :
    Returns stage (procUseItem cv c) ↔ BodyFits cv stage c.msg c.user .useItem := by
  unfold procUseItem BodyFits
  cases c.msg.body "itemid" with
  | none => simp
  | some v =>
    simp only [returns_float64, Option.some.injEq, forall_eq']
    refine exists_congr fun x => and_congr_right fun _ => ?_
    rw [returns_bind, returns_useTable (by decide), InSlice]
    constructor
    · rintro ⟨inside, -⟩ last
      have small := inside (by rw [last]; decide) (le_of_eq last)
      omega
    · intro other
      exact ⟨fun lo hi => ⟨by omega, by omega⟩, fun d _ => returns_ok _⟩

/-! ## `procMsg` -/

/-- **A handler** returns exactly when the body fits it. -/
theorem run_returns {h : Handler} {env : Env} {online : Online κ} :
    Returns stage (h.run cv env online c) ↔ BodyFits cv stage c.msg c.user h := by
  cases h with
  | t => exact iff_of_true (returns_ok _) trivial
  | userLogin => exact iff_of_true (returns_ok _) trivial
  | startPlay => exact returns_map.trans procStartPlay_returns
  | endPlay => exact returns_map.trans procEndPlay_returns
  | iapAddHeart => exact returns_map.trans procIAPAddHeart_returns
  | eventLock => exact returns_map.trans procEventLock_returns
  | useItem => exact returns_map.trans procUseItem_returns

/-- The dispatcher drops the request, turns it away before it looks at the
table, or finds an entry in the table whose handler the body suits. -/
def Accepts (cv : FloatConv) (stage : Prop) (m : Msg) (u : User) : Prop :=
  128 ≤ m.cmd.val ∨ (u.ready = false ∧ m.cmd ≠ kCmdUserLogin) ∨
    InSlice (cv.int m.cmd).toInt procFuncArray.length ∧
      ∀ h, procFuncArray[(cv.int m.cmd).toInt.toNat]? = some (some h) → BodyFits cv stage m u h

/-- **The dispatcher** returns exactly when it refuses a request before the login,
or reaches a handler that returns. -/
theorem dispatch_returns {env : Env} {online : Online κ} :
    Returns stage (dispatch cv env online c) ↔
      (c.user.ready = false ∧ c.msg.cmd ≠ kCmdUserLogin) ∨
        InSlice (cv.int c.msg.cmd).toInt procFuncArray.length ∧
          ∀ h, procFuncArray[(cv.int c.msg.cmd).toInt.toNat]? = some (some h) → BodyFits cv stage c.msg c.user h := by
  unfold dispatch
  dsimp only
  split
  · next refused =>
    refine iff_of_true (returns_ok _) (.inl ?_)
    exact ⟨by simpa [Client.isLogin, Client.initReply] using refused.1, refused.2⟩
  · next allowed =>
    have gate : ¬ (c.user.ready = false ∧ c.msg.cmd ≠ kCmdUserLogin) := by
      rintro ⟨out, other⟩
      exact allowed ⟨by change ¬ c.user.ready = true; simp [out], other⟩
    rw [returns_bind, returns_index (by decide), or_iff_right gate]
    refine and_congr_right fun inside => ?_
    constructor
    · intro h proc entry
      have call := h (some proc) (index_ok.2 ⟨inside.1, entry⟩)
      exact (run_returns (c := c.initReply)).1 (returns_bind.1 call).1
    · intro h entry lookup
      cases entry with
      | none => exact returns_ok _
      | some proc =>
        have fits : BodyFits cv stage c.initReply.msg c.initReply.user proc := h proc (index_ok.1 lookup).2
        exact returns_bind.2 ⟨run_returns.2 fits, fun r _ => returns_ok _⟩

/-- **When a request panics.** On every client and message, `procMsg` returns,
or fails only at the `StageHeartConfig` index, exactly when it accepts. -/
theorem procMsg_returns {env : Env} {online : Online κ} :
    Returns stage (procMsg cv env online c) ↔ Accepts cv stage c.msg c.user := by
  unfold procMsg Accepts
  by_cases big : c.msg.cmd.val ≥ 128
  · rw [if_pos big]
    exact iff_of_true (returns_ok _) (.inl big)
  · rw [if_neg big, returns_bind, dispatch_returns, or_iff_right (show ¬ 128 ≤ c.msg.cmd.val from big)]
    exact and_iff_left fun r _ => returns_ok _

theorem serve_accepts (env : Env) (online : Online κ) (c : Client κ) (m : Msg) :
    (∃ o, serve cv env online c m = .ok o) ↔ Accepts cv False m c.user :=
  returns_false_iff.symm.trans procMsg_returns

/-- A client that is not logged in never panics. -/
theorem accepts_of_out {m : Msg} {u : User} (out : u.ready = false) : Accepts cv stage m u := by
  by_cases login : m.cmd = kCmdUserLogin
  · have entry := index_ok.1 (kCmdUserLogin_index cv)
    rw [← login] at entry
    refine .inr (.inr ⟨inSlice_iff.2 ⟨entry.1, _, entry.2⟩, fun h found => ?_⟩)
    cases entry.2.symm.trans found
    trivial
  · exact .inr (.inl ⟨out, login⟩)

/-- A request of the loop returns, or fails only at the `StageHeartConfig` index. -/
def Session.RequestReturns (cv : FloatConv) (s : Session κ) (a : SessionStep κ) : Prop :=
  ∀ env online m, a = .request env online m → Returns True (serve cv env online s.client m)

def Session.RequestAccepted (cv : FloatConv) (s : Session κ) (a : SessionStep κ) : Prop :=
  ∀ env online m, a = .request env online m → Accepts cv True m s.client.user

/-- **Which requests the loop survives**: in every run, from any state, the
requests that return are the accepted ones. -/
theorem Session.requests_return_iff (cv : FloatConv) (s : Session κ) (as : List (SessionStep κ)) :
    Along (step cv) (RequestReturns cv) s as ↔ Along (step cv) (RequestAccepted cv) s as := by
  apply along_congr
  intro t a
  exact forall_congr' fun env => forall_congr' fun online => forall_congr' fun m => imp_congr_right fun _ => procMsg_returns

end

/-- A session right after the login of a new user. -/
def freshLogin : List (SessionStep Unit) :=
  [.request (Env.answering fun _ => .notFound) .empty (.request 1 "u" [])]

/-- What the session after `freshLogin` does with a message. -/
def panicAfterLogin (m : Msg) : Option (Option Panic) :=
  (exec (Session.step amd64) (Session.start ()) freshLogin).map fun s =>
    panicOf (serve amd64 (Env.answering fun _ => .failed) .empty s.client m)

/-- Item 8 passes the guard `iid <= len(ItemHeartConfig)` and is no index of
the table; stage 7 is no index of the event locks; command -1 none of the
handler table; and an amount may be a string. -/
theorem panics_after_login :
    panicAfterLogin (.request 6 "u" [("itemid", .num (.ofUInt32 8))]) = some (some .itemHeartConfig) ∧
    panicAfterLogin (.request 5 "u" [("stageid", .num (.ofUInt32 7)), ("eventid", .num (.ofUInt32 1))]) =
      some (some .eventLock) ∧
    panicAfterLogin { Msg.zero with cmd := .ofInt (-1) (by decide) } = some (some .procFuncArray) ∧
    panicAfterLogin (.request 4 "u" [("addheart", .str "1")]) = some (some .typeAssertion) := by
  refine ⟨?_, ?_, ?_, ?_⟩ <;> decide +kernel

end Crazyass.Server
