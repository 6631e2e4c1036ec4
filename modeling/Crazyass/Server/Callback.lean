import Crazyass.Server.User
import Mathlib.Algebra.BigOperators.Group.Finset.Basic
import Mathlib.Algebra.BigOperators.Ring.Finset

/-!
# The reward callback

`HandleTP` of `crazyassd`. The reward network reports a transaction `id` that
earned the user `snuid` an amount `currency`, with a `verifier` over the three
and a secret. The handler checks the verifier and hands the amount to
`AddHeartAsync`; it keeps no record of the transactions it has seen.
-/

namespace Crazyass.Server
open Go

/-! ## Library functions -/

def hexDigit (n : ℕ) : Char := if n < 10 then Char.ofNat (48 + n) else Char.ofNat (87 + n)

/-- `hex.EncodeToString`. -/
def hexEncode (bytes : List UInt8) : String :=
  String.ofList (bytes.flatMap fun b => [hexDigit (b.toNat / 16), hexDigit (b.toNat % 16)])

/-- Decimal digits, at least one. -/
def digits? (s : List Char) : Option ℕ :=
  if s ≠ [] ∧ s.all fun c => '0' ≤ c ∧ c ≤ '9' then some (s.foldl (fun n c => 10 * n + (c.toNat - 48)) 0) else none

/-- `strconv.Atoi`: an optional sign and a decimal number that fits an `int`. -/
def atoi (s : String) : Option Int64 :=
  match s.toList with
  | '-' :: ds => (digits? ds).bind fun n => if n ≤ 2 ^ 63 then some (Int64.ofInt (-n)) else none
  | '+' :: ds => (digits? ds).bind fun n => if n < 2 ^ 63 then some (Int64.ofNat n) else none
  | ds => (digits? ds).bind fun n => if n < 2 ^ 63 then some (Int64.ofNat n) else none

example : atoi "-42" = some (-42) ∧ atoi "" = none ∧ atoi "9223372036854775808" = none := by decide

/-! ## The handler -/

/-- The secret the verifier is made with. -/
def tapjoySecret : String := "OyOPgaTvwJg3jO6NtnqS"

/-- `req.Form`: the values of each field. -/
abbrev Form := String → List String

/-- `HandleTP`: the call of `AddHeartAsync` it makes, if any. It panics where a
field is missing. -/
def handleTP (md5 : String → List UInt8) (form : Form) : Option (Option (String × Int64)) := do
  let snuid ← (form "snuid").head?
  let id ← (form "id").head?
  let currency ← (form "currency").head?
  let verifier ← (form "verifier").head?
  if hexEncode (md5 (id ++ ":" ++ snuid ++ ":" ++ currency ++ ":" ++ tapjoySecret)) = verifier then
    match atoi currency with
    | some c => some (some (snuid, c))
    | none => some none
  else some none

/-- A request in which the four fields are present. -/
structure Callback where
  form : Form
  snuid : String
  id : String
  currency : String
  verifier : String
  has_snuid : (form "snuid").head? = some snuid
  has_id : (form "id").head? = some id
  has_currency : (form "currency").head? = some currency
  has_verifier : (form "verifier").head? = some verifier

namespace Callback
section
variable (md5 : String → List UInt8)

/-- The verifier is the one the reward network computes. -/
def Verified (r : Callback) : Prop :=
  hexEncode (md5 (r.id ++ ":" ++ r.snuid ++ ":" ++ r.currency ++ ":" ++ tapjoySecret)) = r.verifier

instance (r : Callback) : Decidable (r.Verified md5) := inferInstanceAs (Decidable (_ = _))

/-- The amount of a request that counts. -/
def amount (r : Callback) : Option Int64 := if r.Verified md5 then atoi r.currency else none

theorem handleTP_eq (r : Callback) : handleTP md5 r.form = some ((r.amount md5).map fun c => (r.snuid, c)) := by
  unfold handleTP amount
  simp only [r.has_snuid, r.has_id, r.has_currency, r.has_verifier, Option.bind_eq_bind, Option.bind_some]
  by_cases verified : r.Verified md5
  · rw [if_pos verified]
    unfold Verified at verified
    rw [if_pos verified]
    cases atoi r.currency <;> rfl
  · rw [if_neg verified]
    unfold Verified at verified
    rw [if_neg verified]
    rfl

/-- What a sequence of requests hands to `AddHeartAsync`, in order. -/
def handed (rs : List Callback) : List (String × Int64) := rs.filterMap fun r => (handleTP md5 r.form).join

/-- The total handed over for a user. -/
def total (user : String) (rs : List Callback) : ℤ :=
  (((handed md5 rs).filter (·.1 = user)).map fun e => e.2.toInt).sum

/-- The requests that count, for one user. -/
def deliveries (user : String) (rs : List Callback) : List Callback :=
  rs.filter fun r => r.snuid = user ∧ (r.amount md5).isSome

/-- The amount that goes with an id. -/
def amountOf (rs : List Callback) (id : String) : ℤ :=
  ((rs.find? fun r => r.id = id ∧ (r.amount md5).isSome).bind (amount md5)).elim 0 Int64.toInt

/-- An id is always used with the same user and the same currency. -/
def Consistent (rs : List Callback) : Prop :=
  ∀ r ∈ rs, ∀ r' ∈ rs, r.id = r'.id → r.snuid = r'.snuid ∧ r.currency = r'.currency

/-- **The contract**: the total is the sum over the distinct ids that count. -/
def Idempotent (user : String) (rs : List Callback) : Prop :=
  total md5 user rs = ∑ id ∈ ((deliveries md5 user rs).map Callback.id).toFinset, amountOf md5 rs id

variable {md5} {rs : List Callback} {r : Callback} {user : String}

theorem handed_eq : handed md5 rs = rs.filterMap fun r => (r.amount md5).map fun c => (r.snuid, c) := by
  apply List.filterMap_congr
  intro r _
  rw [handleTP_eq]
  rfl

/-- What one request adds. -/
def adds (md5 : String → List UInt8) (user : String) (r : Callback) : ℤ :=
  if r.snuid = user then (r.amount md5).elim 0 Int64.toInt else 0

theorem total_cons : total md5 user (r :: rs) = adds md5 user r + total md5 user rs := by
  unfold total adds
  rw [handed_eq, handed_eq, List.filterMap_cons]
  cases amount md5 r with
  | none => simp
  | some c => by_cases mine : r.snuid = user <;> simp [mine]

theorem total_append {rs' : List Callback} : total md5 user (rs ++ rs') = total md5 user rs + total md5 user rs' := by
  induction rs with
  | nil => simp [total, handed]
  | cons r rs ih =>
    rw [List.cons_append, total_cons, total_cons, ih]
    ring

/-- A request whose verifier does not match adds nothing. -/
theorem adds_unverified (wrong : ¬ r.Verified md5) : adds md5 user r = 0 := by
  unfold adds amount
  rw [if_neg wrong]
  exact ite_self 0

/-- The total over the requests that count. -/
theorem total_eq : total md5 user rs = ((deliveries md5 user rs).map (adds md5 user)).sum := by
  induction rs with
  | nil => rfl
  | cons r rs ih =>
    rw [total_cons, ih]
    unfold deliveries
    by_cases counts : r.snuid = user ∧ (r.amount md5).isSome
    · rw [List.filter_cons_of_pos (by simpa using counts), List.map_cons, List.sum_cons]
    · rw [List.filter_cons_of_neg (by simpa using counts)]
      have nothing : adds md5 user r = 0 := by
        unfold adds
        split
        · next mine =>
          have absent : r.amount md5 = none := by
            rw [← Option.not_isSome_iff_eq_none]
            exact fun some => counts ⟨mine, some⟩
          rw [absent]
          rfl
        · rfl
      rw [nothing, zero_add]

/-- Requests that count and have one id have one amount. -/
theorem amountOf_eq (consistent : Consistent rs) (hr : r ∈ deliveries md5 user rs) : amountOf md5 rs r.id = adds md5 user r := by
  obtain ⟨mem, counts⟩ := List.mem_filter.1 hr
  obtain ⟨mine, counts⟩ := of_decide_eq_true counts
  have found : ∃ q, (rs.find? fun q => q.id = r.id ∧ (q.amount md5).isSome) = some q := by
    rw [← Option.isSome_iff_exists, List.find?_isSome]
    exact ⟨r, mem, by simp [counts]⟩
  obtain ⟨q, found⟩ := found
  have same : q.id = r.id ∧ (q.amount md5).isSome := by simpa using List.find?_some found
  have currency := (consistent q (List.mem_of_find?_eq_some found) r mem same.1).2
  have verified : ∀ q : Callback, (q.amount md5).isSome → q.amount md5 = atoi q.currency := by
    intro q some
    unfold amount at some ⊢
    split at some
    · next ok => rw [if_pos ok]
    · cases some
  unfold amountOf adds
  rw [found, if_pos mine, Option.bind_some, verified q same.2, verified r counts, currency]

/-- **What a sequence of callbacks hands over.** With consistent ids, the total
is the sum over the distinct ids that count, each as often as it was delivered;
every further delivery that counts adds its amount again, and one whose verifier
does not match adds nothing. -/
theorem total_counts_deliveries (md5 : String → List UInt8) (rs : List Callback) (user : String)
    (consistent : Consistent rs) :
    (total md5 user rs = ∑ id ∈ ((deliveries md5 user rs).map Callback.id).toFinset,
        ((deliveries md5 user rs).map Callback.id).count id * amountOf md5 rs id) ∧
      (∀ r ∈ deliveries md5 user rs, total md5 user (rs ++ [r]) = total md5 user rs + amountOf md5 rs r.id) ∧
      ∀ r : Callback, ¬ r.Verified md5 → total md5 user (rs ++ [r]) = total md5 user rs := by
  have one : ∀ r, total md5 user [r] = adds md5 user r := fun r => by
    rw [total_cons]
    exact add_zero _
  refine ⟨?_, fun r hr => ?_, fun r wrong => ?_⟩
  · have amounts : (deliveries md5 user rs).map (adds md5 user) =
        ((deliveries md5 user rs).map Callback.id).map (amountOf md5 rs) := by
      rw [List.map_map]
      exact List.map_congr_left fun r hr => (amountOf_eq consistent hr).symm
    rw [total_eq, amounts, Finset.sum_list_map_count]
    simp only [nsmul_eq_mul]
  · rw [total_append, one, amountOf_eq consistent hr]
  · rw [total_append, one, adds_unverified wrong, add_zero]

/-! ## Tests -/

/-- A delivery, under a digest that is always one zero byte. -/
def delivery (id : String) : Callback where
  form key := if key = "snuid" then ["u"] else if key = "id" then [id] else if key = "currency" then ["5"] else ["00"]
  snuid := "u"
  id := id
  currency := "5"
  verifier := "00"
  has_snuid := rfl
  has_id := rfl
  has_currency := rfl
  has_verifier := rfl

theorem total_counts_deliveries_retry :
    total (fun _ => [0]) "u" ([delivery "a", delivery "b"] ++ [delivery "a"]) = 15 := by
  have consistent : Consistent [delivery "a", delivery "b"] := by
    intro r hr r' hr' _
    have fields : ∀ q ∈ [delivery "a", delivery "b"], q.snuid = "u" ∧ q.currency = "5" := by
      simp [delivery]
    rw [(fields r hr).1, (fields r hr).2, (fields r' hr').1, (fields r' hr').2]
    exact ⟨rfl, rfl⟩
  have again := (total_counts_deliveries (fun _ => [0]) [delivery "a", delivery "b"] "u" consistent).2.1 (delivery "a")
  have counts : delivery "a" ∈ deliveries (fun _ => [0]) "u" [delivery "a", delivery "b"] :=
    List.mem_filter.2 ⟨List.mem_cons_self, by decide⟩
  rw [again counts]
  decide

/-- A retried callback is credited twice. -/
theorem not_idempotent : ¬ ∀ (md5 : String → List UInt8) (rs : List Callback) (user : String),
    Consistent rs → Idempotent md5 user rs := by
  intro all
  have consistent : Consistent [delivery "a", delivery "a"] := by
    intro r hr r' hr' _
    have only : ∀ q ∈ [delivery "a", delivery "a"], q = delivery "a" := by simp
    rw [only r hr, only r' hr']
    exact ⟨rfl, rfl⟩
  have twice := all (fun _ => [0]) _ "u" consistent
  have sums : total (fun _ => [0]) "u" [delivery "a", delivery "a"] = 10 := by decide
  unfold Idempotent at twice
  rw [sums] at twice
  exact absurd twice (by decide)

end
end Callback
end Crazyass.Server
