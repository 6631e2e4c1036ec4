import Crazyass.Dogrun.Dispatch

/-!
# What an operation on a dog costs

An entry of the configuration has a price in gold and one in hearts. Charging
is meant to take each from its own purse, or nothing at all. `Charges` says so
of a result of `setDogAttr`.
-/

namespace Crazyass.Dogrun
open Go

/-! ## Purses and prices -/

/-- The two purses of a user, or a price in each. -/
structure Purse where
  money : ℕ
  heart : ℕ
deriving DecidableEq, Repr

/-- All or nothing. -/
def Purse.charge (p price : Purse) : Option Purse :=
  if price.money ≤ p.money ∧ price.heart ≤ p.heart then some ⟨p.money - price.money, p.heart - price.heart⟩ else none

def UserDbAttr.purse (attr : UserDbAttr) : Purse := ⟨attr.money.toNat, attr.heart.toNat⟩

def Config.price (change : Config) : Purse := ⟨change.consumeGold.toNat, change.consumeHeart.toNat⟩

/-- The attributes after the change are the sums, as natural numbers. -/
structure Grown (dog : Dog) (change : Config) (dog' : Dog) : Prop where
  exp : dog'.exp.toNat = dog.exp.toNat + change.exp.toNat
  str : dog'.str.toNat = dog.str.toNat + change.strong.toNat
  speed : dog'.speed.toNat = dog.speed.toNat + change.speed.toNat
  intimacy : dog'.intimacy.toNat = dog.intimacy.toNat + change.intimacy.toNat

/-- No sum overflows. -/
structure Fits (dog : Dog) (change : Config) : Prop where
  exp : dog.exp.toNat + change.exp.toNat < 2 ^ 32
  str : dog.str.toNat + change.strong.toNat < 2 ^ 32
  speed : dog.speed.toNat + change.speed.toNat < 2 ^ 32
  intimacy : dog.intimacy.toNat + change.intimacy.toNat < 2 ^ 32

/-- **The contract** of charging the user `u` for a change of the dog at `i`: an
affordable price is taken and the dog grows, otherwise there is an error and
purses and dogs are as before. -/
def Charges (u : User) (i : ℕ) (change : Config) (result : Except Crash (User × Option Err)) : Prop :=
  match u.udb.attr.purse.charge change.price with
  | some left => ∃ u', result = .ok (u', none) ∧ u'.udb.attr.purse = left ∧
      ∃ dog dog', u.dogs[i]? = some dog ∧ u'.dogs[i]? = some dog' ∧ Grown dog change dog'
  | none => ∃ u' e, result = .ok (u', some e) ∧ u'.udb.attr = u.udb.attr ∧ u'.dogs = u.dogs

/-! ## What the code charges -/

section
variable {u u' : User} {i : ℕ} {dog dog' : Dog} {change : Config}

theorem charge_eq_some {p price left : Purse} : p.charge price = some left ↔
    price.money ≤ p.money ∧ price.heart ≤ p.heart ∧ left = ⟨p.money - price.money, p.heart - price.heart⟩ := by
  unfold Purse.charge
  split
  · next affordable =>
    simp only [Option.some.injEq, affordable, true_and]
    exact eq_comm
  · next short =>
    simp only [reduceCtorEq, false_iff]
    rintro ⟨money, heart, -⟩
    exact short ⟨money, heart⟩

theorem toNat_add_of_lt {a b : UInt32} (h : a.toNat + b.toNat < 2 ^ 32) : (a + b).toNat = a.toNat + b.toNat := by
  rw [UInt32.toNat_add, Nat.mod_eq_of_lt h]

theorem grow_grown (fits : Fits dog change) : Grown dog change (dog.grow change) where
  exp := toNat_add_of_lt fits.exp
  str := toNat_add_of_lt fits.str
  speed := toNat_add_of_lt fits.speed
  intimacy := toNat_add_of_lt fits.intimacy

/-- Both prices are taken from the money. -/
theorem purse_paid_iff (money heart gold hearts : UInt32) :
    (⟨money, heart⟩ : UserDbAttr).purse.charge ⟨gold.toNat, hearts.toNat⟩ =
        some (⟨money - gold - hearts, heart⟩ : UserDbAttr).purse ↔
      hearts = 0 ∧ gold ≤ money := by
  rw [charge_eq_some]
  constructor
  · rintro ⟨affordable, covered, left⟩
    replace covered : hearts.toNat ≤ heart.toNat := covered
    have kept : heart.toNat = heart.toNat - hearts.toNat := congrArg Purse.heart left
    refine ⟨UInt32.toNat_inj.1 ?_, UInt32.le_iff_toNat_le.2 affordable⟩
    change hearts.toNat = 0
    omega
  · rintro ⟨rfl, affordable⟩
    refine ⟨UInt32.le_iff_toNat_le.1 affordable, Nat.zero_le _, ?_⟩
    rw [UInt32.sub_zero, UserDbAttr.purse, UserDbAttr.purse, UInt32.toNat_sub_of_le _ _ affordable]
    rfl

/-- Where the code has charged, both prices from the money, and the dog has grown. -/
theorem charges_paid_iff (found : u.dogs[i]? = some dog)
    (paid : u'.udb.attr = ⟨u.udb.attr.money - change.consumeGold - change.consumeHeart, u.udb.attr.heart⟩)
    (found' : u'.dogs[i]? = some dog') (grown : Grown dog change dog') :
    Charges u i change (.ok (u', none)) ↔ change.consumeHeart = 0 ∧ change.consumeGold ≤ u.udb.attr.money := by
  have exact_purse := purse_paid_iff u.udb.attr.money u.udb.attr.heart change.consumeGold change.consumeHeart
  unfold Charges Config.price
  rw [← exact_purse, ← paid]
  cases u.udb.attr.purse.charge ⟨change.consumeGold.toNat, change.consumeHeart.toNat⟩ with
  | none => simp
  | some left =>
    rw [Option.some.injEq]
    constructor
    · rintro ⟨v, same, purse, -⟩
      cases same
      exact purse.symm
    · intro purse
      exact ⟨u', rfl, purse.symm, dog, dog', found, found', grown⟩

/-- **When `setDogAttr` charges as it should**: the price in hearts is zero, and
the gold is there. -/
theorem setDogAttr_charges_iff {dk : DogKeeper} (user : dk.user = .session) (found : u.dogs[i]? = some dog)
    (fits : Fits dog change) :
    Charges u i change (setDogAttr u dk i change) ↔
      change.consumeHeart = 0 ∧ change.consumeGold ≤ u.udb.attr.money := by
  rw [setDogAttr_session user]
  apply charges_paid_iff found rfl ?_ (grow_grown fits)
  rw [List.getElem?_modify_eq, found]
  rfl

/-- The same where `Feed`, `Play` and `Train` reach it. -/
theorem operate_charges_iff {k : Kind} {res : ResMap} {dk : DogKeeper} {req : DogReq} {now : UInt32} {cfg : List Config}
    (found : getDog u.dogs req.dogid = some (i, dog)) (due : dog.cd.get k.index ≤ now) (loaded : res.get k = .ok cfg)
    (entry : cfg[req.type.toNat]? = some change) (user : dk.user = .session) (fits : Fits dog change) :
    Charges u i change ((operate k res u dk req now).map fun r => (r.1, r.2.2)) ↔
      change.consumeHeart = 0 ∧ change.consumeGold ≤ u.udb.attr.money := by
  have place := getDog_some found
  have grown := grow_grown fits
  rw [operate_due found due loaded entry user]
  have place' : (u.operated i k change now).dogs[i]? = some ((dog.grow change).setCD k (now + change.cd)) := by
    change (u.dogs.modify i _)[i]? = _
    rw [List.getElem?_modify_eq, place]
    rfl
  exact charges_paid_iff place rfl place' ⟨grown.exp, grown.str, grown.speed, grown.intimacy⟩

end

/-! ## Tests -/

/-- A user with one dog. -/
def owner (money heart : UInt32) : User :=
  { User.init .session with udb := { UserDb.zero with attr := ⟨money, heart⟩ }, dogs := [rex] }

/-- Five gold, and hearts. -/
def fare (hearts : UInt32) : Config := ⟨60, hearts, 5, 1, 1, 1, 1⟩

theorem rex_fits (hearts : UInt32) : Fits rex (fare hearts) :=
  ⟨show 0 + 1 < 2 ^ 32 by decide, show 0 + 1 < 2 ^ 32 by decide, show 0 + 1 < 2 ^ 32 by decide, show 0 + 1 < 2 ^ 32 by decide⟩

theorem setDogAttr_charges_gold : Charges (owner 10 0) 0 (fare 0) (setDogAttr (owner 10 0) (owner 10 0).dk 0 (fare 0)) :=
  (setDogAttr_charges_iff rfl rfl (rex_fits 0)).2 ⟨rfl, by decide⟩

/-- Ten gold and ten hearts leave four gold and ten hearts; no gold at all leaves 2^32 - 5. -/
theorem setDogAttr_overcharges :
    ¬ Charges (owner 10 10) 0 (fare 1) (setDogAttr (owner 10 10) (owner 10 10).dk 0 (fare 1)) ∧
      ¬ Charges (owner 0 0) 0 (fare 0) (setDogAttr (owner 0 0) (owner 0 0).dk 0 (fare 0)) := by
  constructor
  · rw [setDogAttr_session rfl, charges_paid_iff rfl rfl rfl (grow_grown (rex_fits 1))]
    decide
  · rw [setDogAttr_session rfl, charges_paid_iff rfl rfl rfl (grow_grown (rex_fits 0))]
    decide

end Crazyass.Dogrun
