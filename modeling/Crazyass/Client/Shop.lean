import Crazyass.Client.PlayScene

/-!
# The shop

`ShopScene`, the `CAIAP` of `test.mm` behind it and the queue of payments that
the system keeps for the app, from one process to the next. While `in_iap_` is
set the shop neither sells nor lets the player leave, and only a notification
clears it: `buyProduct` answers `YES` as soon as there are products, also where
the one to buy is not among them. A notification calls the shop of the latest
sale, which may have been left.

The contract is that the shop can be left, and that one which has been left is
not called.
-/

namespace Crazyass.Client
open Sys

def productId : List String :=
  ["com.qfkj.crazyass.peach5", "com.qfkj.crazyass.peach30", "com.qfkj.crazyass.peach60", "com.qfkj.crazyass.peach200",
    "com.qfkj.crazyass.peach700"]

def productHeart : List Int32 := [5, 30, 60, 200, 700]

/-- `addheart` after the loop of `CAProductByNotify`. -/
def addheart (name : String) : Int32 :=
  (productId.zip productHeart).foldl (fun addheart p => if p.1 = name then p.2 else addheart) 0

/-- One of the five buttons `BtnSale`, by its index in `productId`. -/
abbrev Sale := Fin 5

def Sale.name (i : Sale) : String := productId.get i

/-- `iap` tells whether there is an `iap_`, which observes the queue, `asking`
whether its request for the products is on its way, and `products` is
`_products` once `_isget` is set. The shops of a process are numbered: `made` is
the last, which is on display if `shown`, and `target` is `_target`. `queue` has
the products of the payments that are not finished, `credits` what has been added
to the hearts and told to the server with `cmd` 4, and `stale` is set by a call of
a shop that has been left. -/
structure Shop where
  iap : Bool
  asking : Bool
  products : Option (List String)
  inIap : Bool
  made : ℕ
  shown : Bool
  target : Option ℕ
  queue : List String
  credits : List Int32
  stale : Bool
deriving DecidableEq

/-- `enter` is a way from another scene to the shop, `response` the end of the
request for products, `purchased` and `failed` the end of a payment, and `exit`
the end of the process. -/
inductive ShopStep where
  | enter
  | response (products : Option (List String))
  | sale (i : Sale) (e : Touch)
  | back (e : Touch)
  | purchased (k : ℕ)
  | failed (k : ℕ)
  | exit
deriving DecidableEq

namespace Shop

/-- A process that starts, with the payments of those before it. -/
def start (queue : List String) : Shop := ⟨false, false, none, false, 0, false, none, queue, [], false⟩

/-- The next process. -/
def restart (s : Shop) : Shop := { start s.queue with credits := s.credits, stale := s.stale }

/-- `onEnter` of a new shop. -/
def onEnter (s : Shop) : Shop := { s with made := s.made + 1, shown := true, iap := true, asking := s.asking || !s.iap }

/-- The end of `requestProductsWithCompletionHandler`, with none for an error. -/
def received (s : Shop) (products : Option (List String)) : Shop :=
  { s with asking := false, products := products.orElse fun _ => s.products }

/-- `buyProduct` of `CAIAP`. -/
def buyProduct (s : Shop) (name : String) : Shop × Bool :=
  match s.products with
  | none => (s, false)
  | some products =>
    if products = [] then (s, false)
    else if name ∈ products then ({ s with queue := s.queue ++ [name] }, true)
    else (s, true)

def productBuy (s : Shop) (name : String) : Shop × Bool := { s with target := some s.made }.buyProduct name

def onBtnSale (s : Shop) (i : Sale) (e : Touch) : Shop :=
  if e = .began then s
  else if s.iap = false then s
  else if s.inIap = true then s
  else
    let sold := s.productBuy i.name
    { sold.1 with inIap := sold.2 }

def onBtnBack (s : Shop) (e : Touch) : Shop :=
  if e = .began then s
  else if s.inIap = true then s
  else { s with shown := false }

/-- What `DisableTextBox` is called on is not on display. -/
def misses (s : Shop) : Bool := s.target.any fun shop => !s.shown || shop != s.made

/-- `CAProductByNotify`, which is called without a name where a payment has
failed. -/
def byNotify (s : Shop) (name : Option String) : Shop :=
  let s := { s with inIap := false, stale := s.stale || s.misses }
  match name with
  | none => s
  | some name => { s with credits := s.credits ++ [addheart name], shown := false }

/-- `finishTransaction`, after the notification. -/
def finish (s : Shop) (k : ℕ) : Shop := { s with queue := s.queue.eraseIdx k }

/-- Touches reach the shop on display, the queue its observer. -/
def step (s : Shop) : ShopStep → Option Shop
  | .enter => if s.shown then none else some s.onEnter
  | .response products => if s.asking then some (s.received products) else none
  | .sale i e => if s.shown then some (s.onBtnSale i e) else none
  | .back e => if s.shown then some (s.onBtnBack e) else none
  | .purchased k => if s.iap then s.queue[k]?.map fun name => (s.byNotify (some name)).finish k else none
  | .failed k => if s.iap then s.queue[k]?.map fun _ => (s.byNotify none).finish k else none
  | .exit => some s.restart

/-! ## The contract -/

/-- The steps of one process. -/
def stepOn (s : Shop) : ShopStep → Option Shop
  | .exit => none
  | a => s.step a

/-- Those without a touch of a button `BtnSale`. -/
def stepQuiet (s : Shop) : ShopStep → Option Shop
  | .exit | .sale _ _ => none
  | a => s.step a

/-- Some steps of the process lead to another scene. -/
def CanLeave (s : Shop) : Prop := Leads stepOn (·.shown = false) s

/-- **The contract of the calls**: no shop that has been left is called, and none
will be unless something is bought. -/
def Spared (s : Shop) : Prop := ¬ Leads stepQuiet (·.stale = true) s

/-- What the store has listed. -/
def listed (s : Shop) : List String := s.products.getD []

/-- The store has listed products, but not this one. -/
def Unlisted (s : Shop) (i : Sale) : Prop := s.listed ≠ [] ∧ i.name ∉ s.listed

instance (s : Shop) (i : Sale) : Decidable (s.Unlisted i) := inferInstanceAs (Decidable (_ ∧ _))

/-- A sale of a product that is not listed finds a payment whose end is still to
come. -/
def Ends (s : Shop) : ShopStep → Prop
  | .sale i e => e ≠ .began → s.inIap = false → s.Unlisted i → s.queue ≠ []
  | _ => True

/-- A sale finds no payment, or one beside which there will be no other. -/
def Single (s : Shop) : ShopStep → Prop
  | .sale i e => e ≠ .began → s.inIap = false → s.queue = [] ∨ s.queue.length = 1 ∧ s.Unlisted i
  | _ => True

instance (s : Shop) : ∀ a, Decidable (s.Ends a)
  | .sale i e => inferInstanceAs (Decidable (e ≠ .began → s.inIap = false → s.Unlisted i → s.queue ≠ []))
  | .enter | .response _ | .back _ | .purchased _ | .failed _ | .exit => inferInstanceAs (Decidable True)

instance (s : Shop) : ∀ a, Decidable (s.Single a)
  | .sale i e =>
    inferInstanceAs (Decidable (e ≠ .began → s.inIap = false → s.queue = [] ∨ s.queue.length = 1 ∧ s.Unlisted i))
  | .enter | .response _ | .back _ | .purchased _ | .failed _ | .exit => inferInstanceAs (Decidable True)

/-- What every step keeps. -/
structure Inv (s : Shop) : Prop where
  inside : s.inIap = true → s.shown = true
  latest : s.inIap = true → s.target = some s.made
  iap : s.shown = true → s.iap = true
  observed : s.target ≠ none → s.iap = true

/-- The shop waits for a notification that nothing will bring. -/
structure Stuck (s : Shop) : Prop where
  shown : s.shown = true
  inIap : s.inIap = true
  queue : s.queue = []

/-- What has been called has been on display, and so will be what is called next. -/
structure Clear (s : Shop) : Prop where
  called : s.stale = false
  next : s.target = none ∨ s.queue = [] ∨ s.queue.length = 1 ∧ s.inIap = true

/-! ## What a step does -/

inductive Turns (s : Shop) : ShopStep → Shop → Prop where
  | enters (away : s.shown = false) : Turns s .enter s.onEnter
  | lists (products : Option (List String)) : Turns s (.response products) (s.received products)
  | ignores (i : Sale) {e : Touch} (shown : s.shown = true) (idle : e = .began ∨ s.iap = false ∨ s.inIap = true) :
    Turns s (.sale i e) s
  | refuses (i : Sale) {e : Touch} (shown : s.shown = true) (taken : e ≠ .began) (free : s.inIap = false)
      (empty : s.listed = []) :
    Turns s (.sale i e) { s with target := some s.made, inIap := false }
  | sells (i : Sale) {e : Touch} (shown : s.shown = true) (taken : e ≠ .began) (free : s.inIap = false)
      (offers : s.listed ≠ []) :
    Turns s (.sale i e)
      { s with
        target := some s.made
        inIap := true
        queue := if i.name ∈ s.listed then s.queue ++ [i.name] else s.queue }
  | stays {e : Touch} : Turns s (.back e) s
  | leaves {e : Touch} (free : s.inIap = false) : Turns s (.back e) { s with shown := false }
  | pays {k : ℕ} {name : String} (iap : s.iap = true) (paid : s.queue[k]? = some name) :
    Turns s (.purchased k) ((s.byNotify (some name)).finish k)
  | fails {k : ℕ} {name : String} (iap : s.iap = true) (failed : s.queue[k]? = some name) :
    Turns s (.failed k) ((s.byNotify none).finish k)
  | ends : Turns s .exit s.restart

section
variable {s t : Shop} {a : ShopStep} {i : Sale} {e : Touch} {as : List ShopStep}
  {names queue : List String}

/-- The products on display are those of the last answer. -/
theorem listed_of (set : s.products = some names) : s.listed = names := congrArg (Option.getD · []) set

/-- With nothing on display the answer is NO. -/
theorem buyProduct_empty (empty : s.listed = []) {name : String} : s.buyProduct name = (s, false) := by
  unfold buyProduct
  split
  · rfl
  · next set => exact if_pos ((listed_of set).symm.trans empty)

/-- With products on display the answer is YES, and a listed one is queued. -/
theorem buyProduct_offers (offers : s.listed ≠ []) {name : String} :
    s.buyProduct name = ({ s with queue := if name ∈ s.listed then s.queue ++ [name] else s.queue }, true) := by
  unfold buyProduct
  split
  · next unset => exact absurd (congrArg (Option.getD · []) unset) offers
  · next set =>
    rw [listed_of set] at offers ⊢
    rw [if_neg offers]
    split
    · rfl
    · rfl

/-- `onBtnSale` ignores the touch, or tries to buy. -/
theorem sale_turns (shown : s.shown = true) : Turns s (.sale i e) (s.onBtnSale i e) := by
  unfold onBtnSale
  split
  · next began => exact .ignores i shown (.inl began)
  · next taken =>
    split
    · next off => exact .ignores i shown (.inr (.inl off))
    · split
      · next held => exact .ignores i shown (.inr (.inr held))
      · next free =>
        have free := Bool.eq_false_iff.2 free
        have same : ({ s with target := some s.made } : Shop).listed = s.listed := rfl
        unfold productBuy
        by_cases empty : s.listed = []
        · rw [buyProduct_empty (same.trans empty)]
          exact .refuses i shown taken free empty
        · rw [buyProduct_offers (same.symm ▸ empty)]
          exact .sells i shown taken free empty

/-- **What a step is.** -/
theorem step_turns (h : step s a = some t) : Turns s a t := by
  cases a with
  | enter =>
    obtain ⟨away, h⟩ := Option.ite_none_left_eq_some.1 h
    cases h
    exact .enters (Bool.eq_false_iff.2 away)
  | response products =>
    obtain ⟨-, h⟩ := Option.ite_none_right_eq_some.1 h
    cases h
    exact .lists products
  | sale i e =>
    obtain ⟨shown, h⟩ := Option.ite_none_right_eq_some.1 h
    cases h
    exact sale_turns shown
  | back e =>
    obtain ⟨-, h⟩ := Option.ite_none_right_eq_some.1 h
    cases h
    unfold onBtnBack
    split
    · exact .stays
    · split
      · exact .stays
      · next free => exact .leaves (Bool.eq_false_iff.2 free)
  | purchased k =>
    obtain ⟨iap, h⟩ := Option.ite_none_right_eq_some.1 h
    obtain ⟨name, paid, rfl⟩ := Option.map_eq_some_iff.1 h
    exact .pays iap paid
  | failed k =>
    obtain ⟨iap, h⟩ := Option.ite_none_right_eq_some.1 h
    obtain ⟨name, failed, rfl⟩ := Option.map_eq_some_iff.1 h
    exact .fails iap failed
  | exit =>
    cases h
    exact .ends

/-- **One step** keeps the invariant. -/
theorem step_inv (inv : Inv s) (h : step s a = some t) : Inv t := by
  cases step_turns h with
  | enters away =>
    have free : s.inIap ≠ true := fun held => Bool.noConfusion (away.symm.trans (inv.inside held))
    exact ⟨fun _ => rfl, fun held => absurd held free, fun _ => rfl, fun _ => rfl⟩
  | lists | ignores | stays => exact ⟨inv.inside, inv.latest, inv.iap, inv.observed⟩
  | refuses _ shown => exact ⟨nofun, nofun, inv.iap, fun _ => inv.iap shown⟩
  | sells _ shown => exact ⟨fun _ => shown, fun _ => rfl, inv.iap, fun _ => inv.iap shown⟩
  | leaves free => exact ⟨fun held => absurd held (Bool.eq_false_iff.1 free), inv.latest, nofun, inv.observed⟩
  | pays iap => exact ⟨nofun, nofun, nofun, inv.observed⟩
  | fails iap => exact ⟨nofun, nofun, inv.iap, inv.observed⟩
  | ends => exact ⟨nofun, nofun, nofun, fun set => absurd rfl set⟩

/-- The process starts outside the shop, whatever the queue has. -/
theorem start_inv : Inv (start queue) := ⟨nofun, nofun, nofun, fun set => absurd rfl set⟩

/-- A touch that is not a begin is not ignored without a payment. -/
theorem Inv.acts (inv : Inv s) (shown : s.shown = true) (taken : e ≠ .began) (free : s.inIap = false) :
    ¬ (e = .began ∨ s.iap = false ∨ s.inIap = true) := by
  rintro (began | off | held)
  · exact taken began
  · exact Bool.noConfusion ((inv.iap shown).symm.trans off)
  · exact Bool.noConfusion (held.symm.trans free)

/-! ## Leaving -/

theorem stepOn_step (h : stepOn s a = some t) : step s a = some t ∧ a ≠ .exit := by
  cases a with
  | exit => cases h
  | _ => exact ⟨h, nofun⟩

/-- Within a process nothing helps a shop that is stuck. -/
theorem Stuck.stepOn (stuck : Stuck s) (h : Shop.stepOn s a = some t) : Stuck t := by
  obtain ⟨h, going⟩ := stepOn_step h
  cases step_turns h with
  | enters away => exact absurd (stuck.shown.symm.trans away) nofun
  | lists | ignores | stays => exact ⟨stuck.shown, stuck.inIap, stuck.queue⟩
  | refuses _ _ _ free | sells _ _ _ free | leaves free => exact absurd (stuck.inIap.symm.trans free) nofun
  | pays _ found | fails _ found =>
    rw [stuck.queue] at found
    cases found
  | ends => exact absurd rfl going

/-- **The shop can be left unless it is stuck.** -/
theorem canLeave_iff (inv : Inv s) : CanLeave s ↔ ¬ Stuck s := by
  constructor
  · rintro ⟨as, t, run, away⟩ stuck
    have still : Stuck t := exec_inv (Q := fun _ _ => True) (fun _ _ _ stuck _ h => stuck.stepOn h) stuck
      (fun _ _ _ _ _ => trivial) run
    exact absurd (still.shown.symm.trans away) nofun
  · intro free
    cases shown : s.shown with
    | false => exact .here shown
    | true =>
      have iap := inv.iap shown
      cases inIap : s.inIap with
      | false =>
        -- `onBtnBack` is open.
        have h : Shop.stepOn s (.back .ended) = some { s with shown := false } := by
          simp [Shop.stepOn, step, onBtnBack, shown, inIap]
        exact .after h (.here rfl)
      | true =>
        cases queue : s.queue with
        | nil => exact absurd ⟨shown, inIap, queue⟩ free
        | cons name names =>
          -- The first payment succeeds.
          have h : Shop.stepOn s (.purchased 0) = some ((s.byNotify (some name)).finish 0) := by
            simp [Shop.stepOn, step, iap, queue]
          exact .after h (.here rfl)

/-- **A shop that can be left** still can after a step exactly when the step ends what it began. -/
theorem step_stuck_iff (inv : Inv s) (free : ¬ Stuck s) (h : step s a = some t) : ¬ Stuck t ↔ Ends s a := by
  cases step_turns h with
  | enters away =>
    refine iff_of_true (fun stuck => ?_) trivial
    exact Bool.noConfusion (away.symm.trans (inv.inside stuck.inIap))
  | lists | stays => exact iff_of_true (fun stuck => free ⟨stuck.shown, stuck.inIap, stuck.queue⟩) trivial
  | ignores i shown idle => exact iff_of_true free fun taken inIap => (inv.acts shown taken inIap idle).elim
  | refuses i shown taken inIap empty =>
    exact iff_of_true (fun stuck => Bool.noConfusion stuck.inIap) fun _ _ unlisted => absurd empty unlisted.1
  | sells i shown taken inIap offers =>
    by_cases mem : i.name ∈ s.listed
    · refine iff_of_true (fun stuck => ?_) fun _ _ unlisted => absurd mem unlisted.2
      have queue := stuck.queue
      simp [mem] at queue
    · constructor
      · intro still _ _ _ queue
        exact still ⟨shown, rfl, (if_neg mem).trans queue⟩
      · intro waits stuck
        exact waits taken inIap ⟨offers, mem⟩ ((if_neg mem).symm.trans stuck.queue)
  | leaves | pays => exact iff_of_true (fun stuck => Bool.noConfusion stuck.shown) trivial
  | fails => exact iff_of_true (fun stuck => Bool.noConfusion stuck.inIap) trivial
  | ends => exact iff_of_true (fun stuck => Bool.noConfusion stuck.shown) trivial

/-- **The shop can be left** all along exactly when no product that is not listed
is sold while no payment is under way. -/
theorem can_leave_iff_ends (run : exec step (start queue) as = some t) :
    Through step CanLeave (start queue) as ↔ Along step Ends (start queue) as := by
  refine through_iff_along (J := Inv) (fun _ _ _ inv _ h => step_inv inv h) (fun u b u' inv leave h => ?_) start_inv ?_ run
  · rw [canLeave_iff (step_inv inv h)]
    exact step_stuck_iff inv ((canLeave_iff inv).1 leave) h
  · exact .here rfl

/-- The store lists one product, and another is bought. -/
def overlooked : List ShopStep := [.enter, .response (some [productId[1]]), .sale 0 .ended]

/-- A sale that finds no product leaves the shop waiting for good. -/
theorem can_leave_iff_ends_overlooked :
    (exec step (start []) overlooked).isSome = true ∧ ¬ Through step CanLeave (start []) overlooked :=
  ⟨by decide, fun through => absurd ((can_leave_iff_ends (Option.eq_some_of_isSome (by decide))).1 through) (by decide)⟩

/-! ## Calls of a shop that has been left -/

theorem stepQuiet_step (h : stepQuiet s a = some t) : step s a = some t ∧ a ≠ .exit ∧ ∀ i e, a ≠ .sale i e := by
  cases a with
  | exit | sale => cases h
  | _ => exact ⟨h, nofun, nofun⟩

theorem misses_eq (none : s.target = none) : s.misses = false := by
  unfold misses
  rw [none]
  rfl

/-- A notification reaches the shop that is shown. -/
theorem misses_latest (shown : s.shown = true) (latest : s.target = some s.made) : s.misses = false := by
  unfold misses
  rw [latest, Option.any_some, shown, bne_self_eq_false]
  rfl

/-- A notification after the shop has been left reaches one that is gone. -/
theorem misses_left (away : s.shown = false) (set : s.target ≠ none) : s.misses = true := by
  obtain ⟨shop, set⟩ := Option.ne_none_iff_exists'.1 set
  unfold misses
  rw [set, Option.any_some, away]
  rfl

/-- A notification calls nothing, or the shop on display at its only payment. -/
theorem Clear.misses (clear : Clear s) (inv : Inv s) {k : ℕ} {name : String} (found : s.queue[k]? = some name) :
    s.misses = false ∧ (s.target = none ∨ s.queue.eraseIdx k = []) := by
  rcases clear.next with none | empty | ⟨one, held⟩
  · exact ⟨misses_eq none, .inl none⟩
  · rw [empty] at found
    cases found
  · refine ⟨misses_latest (inv.inside held) (inv.latest held), .inr (List.eq_nil_of_length_eq_zero ?_)⟩
    have small := (List.getElem?_eq_some_iff.1 found).1
    rw [List.length_eraseIdx_of_lt small, one]

/-- What is not a sale keeps a clear state. -/
theorem Clear.step (clear : Clear s) (inv : Inv s) (h : Shop.step s a = some t) (other : ∀ i e, a ≠ .sale i e) :
    Clear t := by
  have open_ (free : s.inIap = false) : s.target = none ∨ s.queue = [] :=
    clear.next.imp_right fun next => next.resolve_right fun one => Bool.noConfusion (free.symm.trans one.2)
  cases step_turns h with
  | enters away =>
    have free : s.inIap = false := Bool.eq_false_iff.2 fun held => Bool.noConfusion (away.symm.trans (inv.inside held))
    exact ⟨clear.called, (open_ free).imp_right .inl⟩
  | lists | stays => exact ⟨clear.called, clear.next⟩
  | ignores i | refuses i | sells i => exact absurd rfl (other i _)
  | leaves free => exact ⟨clear.called, (open_ free).imp_right .inl⟩
  | pays _ found | fails _ found =>
    obtain ⟨spared, next⟩ := clear.misses inv found
    refine ⟨?_, next.imp_right .inl⟩
    change (s.stale || s.misses) = false
    rw [clear.called, spared]
    rfl
  | ends => exact ⟨clear.called, .inl rfl⟩

/-- A payment that ends when its shop has been left. -/
theorem leads_away (away : s.shown = false) (iap : s.iap = true) (set : s.target ≠ none) (waits : s.queue ≠ []) :
    Leads stepQuiet (·.stale = true) s := by
  obtain ⟨name, names, queue⟩ := List.exists_cons_of_ne_nil waits
  have h : stepQuiet s (.failed 0) = some ((s.byNotify none).finish 0) := by
    simp [stepQuiet, Shop.step, iap, queue]
  refine .after h (.here ?_)
  change (s.stale || s.misses) = true
  rw [misses_left away set, Bool.or_true]

/-- **What the calls come to** without a sale. -/
theorem spared_iff (inv : Inv s) : Spared s ↔ Clear s := by
  constructor
  · intro spared
    by_contra unclear
    by_cases called : s.stale = true
    · exact spared (.here called)
    · have next : ¬ (s.target = none ∨ s.queue = [] ∨ s.queue.length = 1 ∧ s.inIap = true) := fun next =>
        unclear ⟨Bool.eq_false_iff.2 called, next⟩
      push Not at next
      obtain ⟨set, waits, more⟩ := next
      have iap := inv.observed set
      refine spared ?_
      cases shown : s.shown with
      | false => exact leads_away shown iap set waits
      | true =>
        cases held : s.inIap with
        | false =>
          -- The player goes back first.
          have h : stepQuiet s (.back .ended) = some { s with shown := false } := by
            simp [stepQuiet, Shop.step, onBtnBack, shown, held]
          exact .after h (leads_away rfl iap set waits)
        | true =>
          -- The first payment leaves the shop, and there is a second.
          obtain ⟨name, names, queue⟩ := List.exists_cons_of_ne_nil waits
          have h : stepQuiet s (.purchased 0) = some ((s.byNotify (some name)).finish 0) := by
            simp [stepQuiet, Shop.step, iap, queue]
          refine .after h (leads_away rfl iap set fun last => more ?_ held)
          have last : s.queue.eraseIdx 0 = [] := last
          rw [queue, List.eraseIdx_cons_zero] at last
          rw [queue, last, List.length_singleton]
  · rintro clear ⟨as, t, run, called⟩
    have still : Inv t ∧ Clear t :=
      exec_inv (I := fun u => Inv u ∧ Clear u) (Q := fun _ _ => True)
        (fun u b u' both _ h =>
          have quiet := stepQuiet_step h
          ⟨step_inv both.1 quiet.1, both.2.step both.1 quiet.1 quiet.2.2⟩)
        ⟨inv, clear⟩ (fun _ _ _ _ _ => trivial) run
    exact Bool.noConfusion (still.2.called.symm.trans called)

/-- With no sale under way nothing may be queued. -/
theorem clear_free (called : s.stale = false) (set : s.target ≠ none) (free : s.inIap = false) : Clear s ↔ s.queue = [] :=
  ⟨fun clear => (clear.next.resolve_left set).resolve_right fun one => Bool.noConfusion (free.symm.trans one.2),
    fun empty => ⟨called, .inr (.inl empty)⟩⟩

/-- With a sale under way nothing else may be queued. -/
theorem clear_held (called : s.stale = false) (set : s.target ≠ none) (held : s.inIap = true) :
    Clear s ↔ s.queue.length ≤ 1 := by
  constructor
  · intro clear
    rcases clear.next.resolve_left set with empty | ⟨one, -⟩
    · rw [empty]
      exact Nat.zero_le 1
    · exact one.le
  · intro few
    refine ⟨called, .inr ?_⟩
    rcases Nat.le_one_iff_eq_zero_or_eq_one.1 few with zero | one
    · exact .inl (List.length_eq_zero_iff.1 zero)
    · exact .inr ⟨one, held⟩

theorem single_iff (taken : e ≠ .began) (free : s.inIap = false) :
    Single s (.sale i e) ↔ s.queue = [] ∨ s.queue.length = 1 ∧ s.Unlisted i :=
  ⟨fun single => single taken free, fun single _ _ => single⟩

/-- **One step** calls no shop that is gone exactly when it is single. -/
theorem step_clear_iff (inv : Inv s) (clear : Clear s) (h : step s a = some t) : Clear t ↔ Single s a := by
  by_cases other : ∀ i e, a ≠ .sale i e
  · refine iff_of_true (clear.step inv h other) ?_
    cases a with
    | sale i e => exact absurd rfl (other i e)
    | _ => trivial
  · push Not at other
    obtain ⟨i, e, rfl⟩ := other
    cases step_turns h with
    | ignores _ shown idle => exact iff_of_true clear fun taken inIap => (inv.acts shown taken inIap idle).elim
    | refuses i shown taken free empty =>
      rw [single_iff taken free]
      refine Iff.trans (clear_free ?called ?set rfl) ?_
      case called => exact clear.called
      case set => exact Option.some_ne_none _
      exact (or_iff_left fun one => one.2.1 empty).symm
    | sells i shown taken free offers =>
      rw [single_iff taken free]
      refine Iff.trans (clear_held ?called ?set rfl) ?_
      case called => exact clear.called
      case set => exact Option.some_ne_none _
      by_cases mem : i.name ∈ s.listed
      · rw [or_iff_left fun one => one.2.2 mem, ← List.length_eq_zero_iff]
        simp only [if_pos mem, List.length_append, List.length_singleton]
        omega
      · have unlisted : s.Unlisted i := ⟨offers, mem⟩
        rw [and_iff_left unlisted, ← List.length_eq_zero_iff]
        simp only [if_neg mem]
        omega

/-- **No shop that has been left is called**, nor will be, all along exactly when
every sale finds no other payment, or a last one. -/
theorem spared_iff_single (run : exec step (start queue) as = some t) :
    Through step Spared (start queue) as ↔ Along step Single (start queue) as := by
  refine through_iff_along (J := Inv) (fun _ _ _ inv _ h => step_inv inv h) (fun u b u' inv spared h => ?_) start_inv ?_ run
  · rw [spared_iff (step_inv inv h)]
    exact step_clear_iff inv ((spared_iff inv).1 spared) h
  · exact (spared_iff start_inv).2 ⟨rfl, .inl rfl⟩

/-- A payment that the last process left, and one of this process. -/
def leftover : List ShopStep := [.enter, .response (some productId), .sale 1 .ended]

/-- With a payment left over and one of its own, the shop may be left and then called. -/
theorem spared_iff_single_leftover :
    (exec step (start [productId[0]]) leftover).isSome = true ∧ ¬ Through step Spared (start [productId[0]]) leftover :=
  ⟨by decide, fun through =>
    absurd ((spared_iff_single (Option.eq_some_of_isSome (by decide))).1 through) (by decide)⟩

end
end Shop

end Crazyass.Client
