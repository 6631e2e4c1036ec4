import Crazyass.Sys.Joined
import Crazyass.Server.Callback

/-!
# What a verifier binds

The verifier of a callback is the hash of the three fields and the secret,
joined by colons. The fields are what the caller sent, and a userid is whatever
its owner chose at login, so a colon can stand inside a field as well.
-/

namespace Crazyass.Server
open Go Sys

/-! ## Library functions -/

theorem hexDigit_inj {m n : ℕ} (hm : m < 16) (hn : n < 16) (h : hexDigit m = hexDigit n) : m = n := by
  have all : ∀ a b : Fin 16, hexDigit a = hexDigit b → a = b := by decide
  exact congrArg Fin.val (all ⟨m, hm⟩ ⟨n, hn⟩ h)

theorem hexEncode_inj {a b : List UInt8} (h : hexEncode a = hexEncode b) : a = b := by
  replace h := String.ofList_injective h
  induction a generalizing b with
  | nil =>
    cases b with
    | nil => rfl
    | cons y b => cases h
  | cons x a ih =>
    cases b with
    | nil => cases h
    | cons y b =>
      simp only [List.flatMap_cons, List.cons_append, List.nil_append, List.cons.injEq] at h
      obtain ⟨high, low, rest⟩ := h
      have hx := x.toNat_lt
      have hy := y.toNat_lt
      have high := hexDigit_inj (by omega) (by omega) high
      have low := hexDigit_inj (by omega) (by omega) low
      have byte : x = y := UInt8.toNat_inj.1 (by omega)
      rw [byte, ih rest]

theorem digits?_isDigit {s : List Char} (h : (digits? s).isSome) {c : Char} (mem : c ∈ s) : '0' ≤ c ∧ c ≤ '9' := by
  unfold digits? at h
  split at h
  · next digits => simpa using List.all_eq_true.1 digits.2 c mem
  · cases h

/-- A number has no colon in it. -/
theorem atoi_colon {s : String} (h : (atoi s).isSome) : ':' ∉ s.toList := by
  have signed : ∀ (sign : Char) (ds : List Char), (digits? ds).isSome → ':' ≠ sign → ':' ∉ sign :: ds := by
    intro sign ds digits other mem
    rcases List.mem_cons.1 mem with rfl | mem
    · exact other rfl
    · exact absurd (digits?_isDigit digits mem) (by decide)
  unfold atoi at h
  split at h
  · next ds eq =>
    rw [eq]
    exact signed '-' ds (Option.isSome_of_isSome_bind h) (by decide)
  · next ds eq =>
    rw [eq]
    exact signed '+' ds (Option.isSome_of_isSome_bind h) (by decide)
  · intro mem
    exact absurd (digits?_isDigit (Option.isSome_of_isSome_bind h) mem) (by decide)

/-! ## Transactions -/

/-- The signed fields of a request. -/
structure Transaction where
  id : String
  snuid : String
  currency : String
deriving DecidableEq, Repr

namespace Transaction

/-- The string that is hashed. -/
def plain (t : Transaction) : String := t.id ++ ":" ++ t.snuid ++ ":" ++ t.currency ++ ":" ++ tapjoySecret

/-- The verifier that the reward network computes. -/
def verifier (md5 : String → List UInt8) (t : Transaction) : String := hexEncode (md5 t.plain)

def fields (t : Transaction) : List (List Char) := [t.id.toList, t.snuid.toList, t.currency.toList]

/-- No field contains a colon. -/
def Plain (t : Transaction) : Prop := ':' ∉ t.id.toList ∧ ':' ∉ t.snuid.toList ∧ ':' ∉ t.currency.toList

instance (t : Transaction) : Decidable t.Plain := inferInstanceAs (Decidable (_ ∧ _))

theorem separate_iff (t : Transaction) : Separate ':' t.fields ↔ t.Plain := by
  simp [Separate, fields, Plain]

theorem fields_inj {t t' : Transaction} (h : t.fields = t'.fields) : t = t' := by
  obtain ⟨id, snuid, currency⟩ := t
  obtain ⟨id', snuid', currency'⟩ := t'
  simpa only [fields, List.cons.injEq, String.toList_inj, and_true, mk.injEq] using h

/-- Every three fields are those of a transaction. -/
theorem exists_fields {fs : List (List Char)} (three : fs.length = 3) : ∃ t : Transaction, t.fields = fs := by
  obtain ⟨a, b, c, rfl⟩ := List.length_eq_three.1 three
  exact ⟨⟨.ofList a, .ofList b, .ofList c⟩, by simp [fields]⟩

/-- The hashed string is the joined fields, and an end that is always the same. -/
theorem plain_toList (t : Transaction) : t.plain.toList = [':'].intercalate t.fields ++ ':' :: tapjoySecret.toList := by
  simp [plain, fields, String.toList_append]

theorem plain_eq_iff {t t' : Transaction} : t'.plain = t.plain ↔ [':'].intercalate t'.fields = [':'].intercalate t.fields := by
  rw [← String.toList_inj, plain_toList, plain_toList, List.append_left_inj]

/-- Who shares the hashed string with nobody. -/
theorem plain_unique_iff (t : Transaction) : (∀ t' : Transaction, t'.plain = t.plain → t' = t) ↔ t.Plain := by
  rw [← separate_iff, ← joined_unique_iff (show 2 ≤ t.fields.length by simp [fields])]
  constructor
  · intro unique fs length same
    obtain ⟨t', rfl⟩ := exists_fields length
    rw [unique t' (plain_eq_iff.2 same)]
  · intro unique t' same
    exact fields_inj (unique t'.fields rfl (plain_eq_iff.1 same))

/-- With a number for a currency, the string is shared with another user or id and the same currency. -/
theorem exists_same_currency {t : Transaction} (number : ':' ∉ t.currency.toList) (colon : ¬ t.Plain) :
    ∃ t' : Transaction, t'.plain = t.plain ∧ t'.currency = t.currency ∧ t' ≠ t := by
  have inside : ':' ∈ t.id.toList ∨ ':' ∈ t.snuid.toList := by
    by_contra outside
    obtain ⟨id, snuid⟩ := not_or.1 outside
    exact colon ⟨id, snuid, number⟩
  obtain ⟨a, b, other, same⟩ := exists_neighbours inside
  refine ⟨⟨.ofList a, .ofList b, t.currency⟩, plain_eq_iff.2 ?_, rfl, fun eq => other ?_⟩
  · simpa only [fields, String.toList_ofList, List.nil_append] using same [] [t.currency.toList]
  · have id := congrArg (fun t : Transaction => t.id.toList) eq
    have snuid := congrArg (fun t : Transaction => t.snuid.toList) eq
    simp only [String.toList_ofList] at id snuid
    rw [id, snuid]

end Transaction

namespace Callback

/-- What a request claims. -/
def transaction (r : Callback) : Transaction := ⟨r.id, r.snuid, r.currency⟩

/-- The request for a transaction with the verifier of the reward network. -/
def signed (md5 : String → List UInt8) (t : Transaction) : Callback where
  form name := if name = "snuid" then [t.snuid] else if name = "id" then [t.id]
    else if name = "currency" then [t.currency] else if name = "verifier" then [t.verifier md5] else []
  snuid := t.snuid
  id := t.id
  currency := t.currency
  verifier := t.verifier md5
  has_snuid := rfl
  has_id := rfl
  has_currency := rfl
  has_verifier := rfl

/-- Two requests whose hashed strings md5 tells apart, if they differ. -/
def Distinguished (md5 : String → List UInt8) (r r' : Callback) : Prop :=
  md5 r'.transaction.plain = md5 r.transaction.plain → r'.transaction.plain = r.transaction.plain

/-- **The contract** for one transaction: a verifier accepted for it is accepted for no other. -/
def Binds (md5 : String → List UInt8) (accepted : Callback → Prop) (t : Transaction) : Prop :=
  ∀ r r' : Callback, r.transaction = t → accepted r → accepted r' → r'.verifier = r.verifier →
    Distinguished md5 r r' → r'.transaction = t

/-- The amount of the request was handed to `AddHeartAsync`. -/
def Credited (md5 : String → List UInt8) (r : Callback) : Prop := ∃ c, handleTP md5 r.form = some (some (r.snuid, c))

section
variable {md5 : String → List UInt8} {r r' : Callback} {t : Transaction}

theorem signed_verified (md5 : String → List UInt8) (t : Transaction) : (signed md5 t).Verified md5 := rfl

theorem credited_iff : r.Credited md5 ↔ r.Verified md5 ∧ (atoi r.currency).isSome := by
  unfold Credited
  rw [handleTP_eq]
  unfold amount
  by_cases verified : r.Verified md5
  · simp [verified, Option.isSome_iff_exists]
  · simp [verified]

/-- Requests with one verifier have one hashed string. -/
theorem Verified.plain_eq (h : r.Verified md5) (h' : r'.Verified md5) (same : r'.verifier = r.verifier)
    (distinguished : Distinguished md5 r r') : r'.transaction.plain = r.transaction.plain := by
  apply distinguished
  apply hexEncode_inj
  exact h'.trans (same.trans h.symm)

theorem Binds.of_plain {accepted : Callback → Prop} (sound : ∀ r, accepted r → r.Verified md5) (plain : t.Plain) :
    Binds md5 accepted t := by
  rintro r r' rfl accepts accepts' same distinguished
  have hashed := (sound r accepts).plain_eq (sound r' accepts') same distinguished
  exact (Transaction.plain_unique_iff r.transaction).2 plain r'.transaction hashed

/-- Two transactions with one hashed string have one verifier. -/
theorem Binds.eq_of_plain_eq {accepted : Callback → Prop} {t' : Transaction} (binds : Binds md5 accepted t)
    (accepts : accepted (signed md5 t)) (accepts' : accepted (signed md5 t')) (same : t'.plain = t.plain) : t' = t :=
  binds (signed md5 t) (signed md5 t') rfl accepts accepts' (congrArg (fun p => hexEncode (md5 p)) same) fun _ => same

/-- **Which transactions a verifier binds**: those without a colon in a field. It
is the same for the check of the verifier and, where the currency is a number,
for the credit that follows it. -/
theorem binds_iff_plain (md5 : String → List UInt8) (t : Transaction) :
    (Binds md5 (Verified md5) t ↔ t.Plain) ∧
      ((atoi t.currency).isSome → (Binds md5 (Credited md5) t ↔ t.Plain)) := by
  refine ⟨⟨fun binds => ?_, fun plain => .of_plain (fun _ verified => verified) plain⟩,
    fun number => ⟨fun binds => ?_, fun plain => .of_plain (fun _ credited => (credited_iff.1 credited).1) plain⟩⟩
  · apply (Transaction.plain_unique_iff t).1
    intro t' same
    exact binds.eq_of_plain_eq (signed_verified md5 t) (signed_verified md5 t') same
  · by_contra colon
    obtain ⟨t', same, currency, other⟩ := Transaction.exists_same_currency (atoi_colon number) colon
    have credited : (signed md5 t).Credited md5 := credited_iff.2 ⟨signed_verified md5 t, number⟩
    have number' : (atoi (signed md5 t').currency).isSome := by
      change (atoi t'.currency).isSome
      rw [currency]
      exact number
    have credited' : (signed md5 t').Credited md5 := credited_iff.2 ⟨signed_verified md5 t', number'⟩
    exact other (binds.eq_of_plain_eq credited credited' same)

end

/-! ## Tests -/

/-- The bytes of a string, in the place of a hash that has no collisions. -/
def bytes (s : String) : List UInt8 := s.toByteArray.data.toList

theorem bytes_injective : Function.Injective bytes := by
  intro s t same
  apply String.toByteArray_inj.1
  apply ByteArray.ext
  exact Array.toList_inj.1 same

theorem binds_iff_plain_bytes :
    Binds bytes (Verified bytes) ⟨"1", "u", "5"⟩ ∧ Binds bytes (Credited bytes) ⟨"1", "u", "5"⟩ :=
  ⟨(binds_iff_plain bytes _).1.2 (by decide), ((binds_iff_plain bytes _).2 (by decide)).2 (by decide)⟩

/-- One verifier credits user "u" for the transaction "1:2" and user "2:u" for the transaction "1". -/
theorem verifier_shared :
    let r := signed bytes ⟨"1:2", "u", "5"⟩
    let r' := signed bytes ⟨"1", "2:u", "5"⟩
    Function.Injective bytes ∧ handleTP bytes r.form = some (some ("u", 5)) ∧
      handleTP bytes r'.form = some (some ("2:u", 5)) ∧ r'.verifier = r.verifier ∧ r'.transaction ≠ r.transaction := by
  have credit : ∀ t : Transaction, handleTP bytes (signed bytes t).form = some ((atoi t.currency).map fun c => (t.snuid, c)) := by
    intro t
    rw [handleTP_eq, amount, if_pos (signed_verified bytes t)]
    rfl
  have five : atoi "5" = some 5 := by decide
  refine ⟨bytes_injective, ?_, ?_, ?_, by decide⟩
  · rw [credit, five]
    rfl
  · rw [credit, five]
    rfl
  · have same : (⟨"1", "2:u", "5"⟩ : Transaction).plain = (⟨"1:2", "u", "5"⟩ : Transaction).plain := by decide
    exact congrArg (fun p => hexEncode (bytes p)) same

end Callback

end Crazyass.Server
