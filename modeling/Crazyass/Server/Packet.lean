import Crazyass.Sys.Run
import Crazyass.Server.Effect
import Mathlib.Data.Fintype.EquivFin
import Mathlib.Data.Option.Defs

/-!
# What a packet means

`readPacket` decodes every packet of a connection into one message cell. A
field of the cell is determined by a packet when some entry of the packet
writes it; otherwise it is what the packets before left there. The map of the
body is written key by key, and only `null` empties it.
-/

namespace Crazyass.Server
open Go Sys

/-! ## Writes of a packet -/

/-- The value has the type of the field its key names. -/
def FitsField (e : String × Json) : Prop :=
  match fieldOf e.1, e.2 with
  | none, _ => True
  | some _, .null => True
  | some .cmd, .num _ => True
  | some .errCode, .num _ => True
  | some .seq, .num _ => True
  | some .userid, .str _ => True
  | some .body, .obj _ => True
  | some _, _ => False

/-- A field is decoded exactly when its value has its type. -/
theorem decodeField_ok {m : Msg} {e : String × Json} : (decodeField m e).2 = true ↔ FitsField e := by
  obtain ⟨key, v⟩ := e
  unfold decodeField FitsField
  dsimp only
  cases fieldOf key with
  | none => simp
  | some f => cases f <;> cases v <;> simp

@[simp] theorem decodeFields_cons {m : Msg} {e : String × Json} {es : List (String × Json)} :
    decodeFields m (e :: es) =
      ((decodeFields (decodeField m e).1 es).1, (decodeField m e).2 && (decodeFields (decodeField m e).1 es).2) := rfl

/-- All fields are decoded exactly when each value has its type. -/
theorem decodeFields_ok {m : Msg} {es : List (String × Json)} :
    (decodeFields m es).2 = true ↔ ∀ e ∈ es, FitsField e := by
  induction es generalizing m with
  | nil => simp [decodeFields]
  | cons e es ih => simp [decodeField_ok, ih]

/-- `get` reads a part of the message that the entries in `writes` set, each to
a value of its own, and that the other entries keep. -/
structure Reads {α : Type} (writes : String × Json → Prop) (get : Msg → α) : Prop where
  keep : ∀ m e, ¬ writes e → get (decodeField m e).1 = get m
  set : ∀ m m' e, FitsField e → writes e → get (decodeField m e).1 = get (decodeField m' e).1

section
variable {α : Type} {writes : String × Json → Prop} {get : Msg → α} {m m' : Msg} {es : List (String × Json)}

/-- What no entry writes is what the cell had. -/
theorem Reads.unset (r : Reads writes get) (h : ∀ e ∈ es, ¬ writes e) : get (decodeFields m es).1 = get m := by
  induction es generalizing m with
  | nil => rfl
  | cons e es ih =>
    have first := r.keep m e (h e List.mem_cons_self)
    have rest := ih (m := (decodeField m e).1) fun e' he' => h e' (List.mem_cons_of_mem e he')
    exact rest.trans first

/-- Messages that differ in a part still do unless the packet writes it. -/
theorem Reads.exists_of_ne (r : Reads writes get) (ne : get m ≠ get m')
    (same : get (decodeFields m es).1 = get (decodeFields m' es).1) : ∃ e ∈ es, writes e := by
  by_contra unwritten
  push Not at unwritten
  rw [r.unset unwritten, r.unset unwritten] at same
  exact ne same

theorem Reads.agree (r : Reads writes get) (fits : ∀ e ∈ es, FitsField e) (same : get m = get m') :
    get (decodeFields m es).1 = get (decodeFields m' es).1 := by
  induction es generalizing m m' with
  | nil => exact same
  | cons e es ih =>
    have first : get (decodeField m e).1 = get (decodeField m' e).1 := by
      by_cases w : writes e
      · exact r.set m m' e (fits e List.mem_cons_self) w
      · rw [r.keep m e w, r.keep m' e w, same]
    exact ih (fun e' he' => fits e' (List.mem_cons_of_mem e he')) first

/-- What some entry writes does not depend on the cell. -/
theorem Reads.determined (r : Reads writes get) (fits : ∀ e ∈ es, FitsField e) (h : ∃ e ∈ es, writes e) :
    get (decodeFields m es).1 = get (decodeFields m' es).1 := by
  induction es generalizing m m' with
  | nil =>
    obtain ⟨e, he, -⟩ := h
    cases he
  | cons e es ih =>
    have fits' : ∀ e' ∈ es, FitsField e' := fun e' he' => fits e' (List.mem_cons_of_mem e he')
    by_cases w : writes e
    · have first := r.set m m' e (fits e List.mem_cons_self) w
      exact r.agree (m := (decodeField m e).1) fits' first
    · obtain ⟨e', he', w'⟩ := h
      rcases List.mem_cons.1 he' with rfl | later
      · exact absurd w' w
      · exact ih fits' ⟨e', later, w'⟩

end

/-- The entry gives the field a value. -/
def Gives (f : Field) (e : String × Json) : Prop := fieldOf e.1 = some f ∧ e.2 ≠ .null

/-- An entry of the other kinds leaves the field alone, whether it fits or not. -/
theorem reads_header :
    Reads (Gives .cmd) Msg.cmd ∧ Reads (Gives .seq) Msg.seq ∧ Reads (Gives .userid) Msg.userid := by
  refine ⟨⟨?_, ?_⟩, ⟨?_, ?_⟩, ⟨?_, ?_⟩⟩
  all_goals
    first
    | rintro m ⟨key, v⟩ other
      unfold Gives at other
      unfold decodeField
      dsimp only at other ⊢
      split <;> simp_all
    | rintro m m' ⟨key, v⟩ fits gives
      unfold Gives at gives
      unfold FitsField at fits
      unfold decodeField
      dsimp only at gives fits ⊢
      rw [gives.1] at fits ⊢
      cases v <;> simp_all

/-- The entry sets the key of the body, or empties the body. -/
def GivesKey (k : String) (e : String × Json) : Prop :=
  fieldOf e.1 = some .body ∧ (e.2 = .null ∨ ∃ entries, e.2 = .obj entries ∧ k ∈ entries.map Prod.fst)

theorem decodeEntries_of_notMem {b : Body} {k : String} {entries : List (String × Json)}
    (h : k ∉ entries.map Prod.fst) : decodeEntries b entries k = b k := by
  induction entries generalizing b with
  | nil => rfl
  | cons e es ih =>
    rw [List.map_cons, List.mem_cons, not_or] at h
    have rest := ih (b := Function.update b e.1 (some (.json e.2))) h.2
    exact rest.trans (Function.update_of_ne h.1 _ _)

theorem decodeEntries_of_mem {b b' : Body} {k : String} {entries : List (String × Json)}
    (h : k ∈ entries.map Prod.fst) : decodeEntries b entries k = decodeEntries b' entries k := by
  induction entries generalizing b b' with
  | nil => simp at h
  | cons e es ih =>
    by_cases later : k ∈ es.map Prod.fst
    · exact ih later
    · have here : k = e.1 := by simpa [later] using h
      have set : ∀ c : Body, decodeEntries c (e :: es) k = some (.json e.2) := fun c => by
        have rest := decodeEntries_of_notMem (b := Function.update c e.1 (some (.json e.2))) later
        exact rest.trans (by rw [here, Function.update_self])
      rw [set b, set b']

theorem reads_key (k : String) : Reads (GivesKey k) fun m => m.body k where
  keep m e other := by
    obtain ⟨key, v⟩ := e
    unfold GivesKey at other
    unfold decodeField
    dsimp only at other ⊢
    split
    all_goals try rfl
    · next entries field =>
      refine decodeEntries_of_notMem fun mem => other ⟨field, .inr ⟨entries, rfl, mem⟩⟩
    · next field => exact absurd ⟨field, .inl rfl⟩ other
  set m m' e fits gives := by
    obtain ⟨key, v⟩ := e
    obtain ⟨field, rfl | ⟨entries, rfl, mem⟩⟩ := gives
    · have empty : ∀ c : Msg, (decodeField c (key, .null)).1.body = fun _ => none := fun c => by
        simp only [decodeField, show fieldOf key = some .body from field]
      rw [empty m, empty m']
    · have filled : ∀ c : Msg, (decodeField c (key, .obj entries)).1.body = decodeEntries c.body entries := fun c => by
        simp only [decodeField, show fieldOf key = some .body from field]
      rw [filled m, filled m']
      exact decodeEntries_of_mem mem

/-! ## Histories -/

/-- What happens to the message cell of a connection: a packet is decoded into
it, or `ProcUserLogin` writes a generated userid. -/
inductive CellStep where
  | receive (p : Json)
  | generate (env : Env)

def cellStep (m : Msg) : CellStep → Option Msg
  | .receive p => readPacket m p
  | .generate env => some { m with userid := loginId env m }

theorem exec_receive {m m' : Msg} {p : Json} (h : readPacket m p = some m') :
    exec cellStep m [.receive p] = some m' :=
  exec_cons_eq_some.2 ⟨m', h, rfl⟩

/-- Two messages a handler cannot tell apart. -/
structure Msg.Same (m m' : Msg) : Prop where
  cmd : m.cmd = m'.cmd
  seq : m.seq = m'.seq
  userid : m.userid = m'.userid
  body : m.body = m'.body

/-- The packet means the same after every two histories. -/
def Independent (p : Json) : Prop :=
  ∀ h h' m m', exec cellStep .zero h = some m → exec cellStep .zero h' = some m' →
    Option.Rel Msg.Same (readPacket m p) (readPacket m' p)

/-- The packet is an object, or `null`, whose values have the types of their fields. -/
def WellFormed : Json → Prop
  | .null => True
  | .obj fields => ∀ e ∈ fields, FitsField e
  | _ => False

theorem readPacket_none {m : Msg} {p : Json} (h : ¬ WellFormed p) : readPacket m p = none := by
  cases p with
  | null => exact absurd trivial h
  | obj fields =>
    have failed : (decodeFields m fields).2 = false := by
      rw [← Bool.not_eq_true, decodeFields_ok]
      exact h
    unfold readPacket unmarshal
    split
    · next decoded => simp [decoded] at failed
    · rfl
  | _ => rfl

theorem readPacket_obj {m : Msg} {fields : List (String × Json)} (h : ∀ e ∈ fields, FitsField e) :
    readPacket m (.obj fields) = some (decodeFields m fields).1 := by
  have decoded := decodeFields_ok (m := m).2 h
  unfold readPacket unmarshal
  dsimp only
  split
  · next other => rw [other]
  · next other => simp [other] at decoded

/-- The packet gives every field of the header and empties the body. -/
structure Complete (fields : List (String × Json)) : Prop where
  cmd : ∃ e ∈ fields, Gives .cmd e
  seq : ∃ e ∈ fields, Gives .seq e
  userid : ∃ e ∈ fields, Gives .userid e
  body : ∃ e ∈ fields, fieldOf e.1 = some .body ∧ e.2 = .null

/-- A packet that has every field means the same in every cell. -/
theorem Complete.same {fields : List (String × Json)} (complete : Complete fields) (fits : ∀ e ∈ fields, FitsField e)
    (m m' : Msg) : Msg.Same (decodeFields m fields).1 (decodeFields m' fields).1 where
  cmd := reads_header.1.determined fits complete.cmd
  seq := reads_header.2.1.determined fits complete.seq
  userid := reads_header.2.2.determined fits complete.userid
  body := by
    obtain ⟨e, he, field, empties⟩ := complete.body
    funext k
    exact (reads_key k).determined fits ⟨e, he, field, .inl empties⟩

/-- A packet that gives every field and one key of the body. -/
def stalePacket (k : String) : Json :=
  .obj [("Cmd", .num (.ofUInt32 1)), ("Seq", .num (.ofUInt32 1)), ("Userid", .str "u"), ("Body", .obj [(k, .bool true)])]

def staleMsg (k : String) : Msg :=
  ⟨.ofUInt32 1, 0, .ofUInt32 1, "u", Function.update (fun _ => none) k (some (.json (.bool true)))⟩

theorem readPacket_stale (k : String) : readPacket .zero (stalePacket k) = some (staleMsg k) := by
  have cmd : fieldOf "Cmd" = some .cmd := by decide
  have seq : fieldOf "Seq" = some .seq := by decide
  have userid : fieldOf "Userid" = some .userid := by decide
  have body : fieldOf "Body" = some .body := by decide
  simp [readPacket, unmarshal, stalePacket, decodeFields, decodeField, cmd, seq, userid, body, decodeEntries]
  rfl

theorem exists_fresh_key (fields : List (String × Json)) :
    ∃ k, ∀ e ∈ fields, ∀ entries, e.2 = .obj entries → k ∉ entries.map Prod.fst := by
  classical
  let keys (j : Json) : List String := match j with
    | .obj entries => entries.map Prod.fst
    | _ => []
  obtain ⟨k, fresh⟩ := Infinite.exists_notMem_finset (fields.flatMap fun e => keys e.2).toFinset
  refine ⟨k, fun e he entries obj mem => fresh ?_⟩
  rw [List.mem_toFinset, List.mem_flatMap]
  exact ⟨e, he, by rw [obj]; exact mem⟩

/-- A part of the message the packet does not write shows the history. -/
theorem complete_of_same {fields : List (String × Json)}
    (same : ∀ k, Msg.Same (decodeFields .zero fields).1 (decodeFields (staleMsg k) fields).1) : Complete fields where
  cmd := reads_header.1.exists_of_ne (by decide) (same "").cmd
  seq := reads_header.2.1.exists_of_ne (by decide) (same "").seq
  userid := reads_header.2.2.exists_of_ne (by decide) (same "").userid
  body := by
    obtain ⟨k, fresh⟩ := exists_fresh_key fields
    have ne : Msg.zero.body k ≠ (staleMsg k).body k := by simp [Msg.zero, staleMsg]
    obtain ⟨e, he, field, empties | ⟨entries, obj, mem⟩⟩ := (reads_key k).exists_of_ne ne (congrFun (same k).body k)
    · exact ⟨e, he, field, empties⟩
    · exact absurd mem (fresh e he entries obj)

/-- A packet that means the same in every cell means it in one with a stale key. -/
theorem same_of_independent {fields : List (String × Json)} (fits : ∀ e ∈ fields, FitsField e)
    (independent : Independent (.obj fields)) (k : String) :
    Msg.Same (decodeFields .zero fields).1 (decodeFields (staleMsg k) fields).1 := by
  have related := independent [] _ .zero (staleMsg k) rfl (exec_receive (readPacket_stale k))
  rw [readPacket_obj fits, readPacket_obj fits] at related
  cases related with
  | some same => exact same

/-- **Which packets mean the same after every history**: those that are not
well formed, and those that give Cmd, Seq and Userid and empty the body. -/
theorem independent_iff (p : Json) :
    Independent p ↔ (WellFormed p → ∃ fields, p = .obj fields ∧ Complete fields) := by
  constructor
  · intro independent formed
    cases p with
    | null =>
      have related := independent [] _ .zero (staleMsg "") rfl (exec_receive (readPacket_stale ""))
      cases related with
      | some same => exact absurd same.userid (by decide)
    | obj fields => exact ⟨fields, rfl, complete_of_same (same_of_independent formed independent)⟩
    | _ => exact formed.elim
  · intro determined h h' m m' _ _
    by_cases formed : WellFormed p
    · obtain ⟨fields, rfl, complete⟩ := determined formed
      rw [readPacket_obj formed, readPacket_obj formed]
      exact .some (complete.same formed m m')
    · rw [readPacket_none formed, readPacket_none formed]
      exact .none

/-- `EndPlay` of a stage; the second entry of the body is optional. -/
def endPlayPacket (stage : UInt32) (pass : List (String × Json)) : Json :=
  .obj [("Cmd", .num (.ofUInt32 3)), ("Body", .obj (("stageid", .num (.ofUInt32 stage)) :: pass))]

def endPlayMsg (m : Msg) (stage : UInt32) (pass : List (String × Json)) : Msg :=
  { m with cmd := .ofUInt32 3, body := decodeEntries m.body (("stageid", .num (.ofUInt32 stage)) :: pass) }

theorem readPacket_endPlay (m : Msg) (stage : UInt32) (pass : List (String × Json)) :
    readPacket m (endPlayPacket stage pass) = some (endPlayMsg m stage pass) := by
  have cmd : fieldOf "Cmd" = some .cmd := by decide
  have body : fieldOf "Body" = some .body := by decide
  simp [readPacket, unmarshal, endPlayPacket, decodeFields, decodeField, cmd, body, endPlayMsg]

/-- `pass` of one request is still there in the next, which does not send it. -/
theorem pass_is_remembered :
    ¬ Independent (endPlayPacket 2 []) ∧
      ∃ m r, exec cellStep .zero [.receive (endPlayPacket 1 [("pass", .bool true)])] = some m ∧
        readPacket m (endPlayPacket 2 []) = some r ∧ r.body "pass" = some (.json (.bool true)) := by
  have run := exec_receive (readPacket_endPlay .zero 1 [("pass", .bool true)])
  refine ⟨fun independent => ?_, _, _, run, readPacket_endPlay _ _ _, rfl⟩
  have related := independent [] _ .zero _ rfl run
  rw [readPacket_endPlay, readPacket_endPlay] at related
  cases related with
  | some same => exact absurd (congrFun same.body "pass") (by simp [endPlayMsg, decodeEntries, Msg.zero])

end Crazyass.Server
