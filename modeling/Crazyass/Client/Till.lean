import Mathlib.Data.List.ReduceOption
import Crazyass.Client.Shop
import Crazyass.Client.Line

/-!
# A purchase on its way to the account

`CAProductByNotify` adds the hearts of a payment to the client's user, and sends
a request with `cmd` 4 for which no scene waits, so that the next request may
follow it at once. The server's reader decodes both into one message cell.

The contract is that the account gets what the shop has added, each payment once.
-/

namespace Crazyass.Client
open Go Server Sys

/-- What `CAProductByNotify` writes. -/
def purchasePacket (u : RemoteUser) (seq addheart : Int32) : Json :=
  requestPacket 4 u seq [("addheart", Json.int addheart), ("token", .str "")]

/-- `granted` has what the requests with `cmd` 4 have added to the hearts of the
account, once it has been stored. -/
structure Till (κ : Type) where
  shop : Shop
  line : Line κ
  granted : List UInt32

/-- The scenes other than the shop may send whatever they send. -/
inductive TillStep (κ : Type) where
  | shop (a : ShopStep)
  | line (a : LineStep κ)

namespace Till
section
variable {κ : Type} (cv : FloatConv) (cs : CSJson)

/-- A process of a player who has logged in, with the payments of those before it. -/
def start (queue : List String) (c : Client κ) (u : RemoteUser) (d : MyDelegate Press) : Till κ :=
  ⟨.start queue, .idle c u d, []⟩

/-- What `CAProductByNotify` does to the user and to the connection. -/
def notify (s : Line κ) (name : String) : Option (Line κ) :=
  s.user.map fun u =>
    { s with
      user := some { u with heart := u.heart + addheart name }
      delegate := s.delegate.sendServer none
      asked := s.asked ++ [purchasePacket u s.delegate.seq (addheart name)] }

/-- The hearts that a request with `cmd` 4 is for. -/
def bought (m : Msg) : Option UInt32 :=
  if m.cmd = .ofUInt32 4 then ((m.body "addheart").bind Value.float64?).map fun x => (cv.int x).toUInt64.toUInt32 else none

/-- What a turn of the loop adds to the stored account for such a request. -/
def gain (s : Line κ) : LineStep κ → List UInt32
  | .serve env online =>
    match Server.serve cv env online s.client s.client.msg with
    | .ok o =>
      if o.stored then ((bought cv s.client.msg).map fun _ => o.c.user.udb.heart - s.client.user.udb.heart).toList else []
    | .error _ => []
  | _ => []

/-- The steps of one process. -/
def step (s : Till κ) : TillStep κ → Option (Till κ)
  | .shop (.purchased k) => do
    let name ← s.shop.queue[k]?
    let shop ← s.shop.step (.purchased k)
    let line ← notify s.line name
    some { s with shop, line }
  | .shop a => (s.shop.stepOn a).map fun shop => { s with shop }
  | .line a => (s.line.step cv cs a).map fun line => { s with line, granted := s.granted ++ gain cv s.line a }

/-! ## The contract -/

/-- The hearts that a packet is for. -/
def asks (packet : Json) : Option UInt32 := (readPacket .zero packet).bind (bought cv)

/-- The hearts that the server has been asked for, and has not added yet: those of
the cell, as often as its address is on its way, and those of the packets. -/
def onItsWay (s : Line κ) : List UInt32 :=
  (List.replicate s.pending (bought cv s.client.msg) ++ s.asked.map (asks cv)).reduceOption

/-- **The contract**: what the account has got, and what is on its way to it, is
what the shop has added, payment by payment. -/
def Balanced (s : Till κ) : Prop :=
  s.line.up = true → s.granted ++ onItsWay cv s.line = s.shop.credits.map Int32.toUInt32

/-- A packet that is decoded ahead of the loop is for what the cell is for, and the
document with a purchase can be stored. -/
def InTurn (s : Till κ) : TillStep κ → Prop
  | .line .decode => s.line.pending = 0 ∨ s.line.asked.head?.bind (asks cv) = bought cv s.line.client.msg
  | .line (.serve env _) => bought cv s.line.client.msg ≠ none → env.upsert = true
  | _ => True

instance (s : Till κ) : ∀ a, Decidable (s.InTurn cv a)
  | .line .decode => inferInstanceAs (Decidable (_ ∨ _))
  | .line (.serve env _) => inferInstanceAs (Decidable (_ → env.upsert = true))
  | .line (.press _) | .line .check | .line .receive | .line .lose | .shop _ => inferInstanceAs (Decidable True)

/-- The packet is for the same whatever has been in the cell. -/
def Uniform (packet : Json) : Prop := ∀ c m, readPacket c packet = some m → bought cv m = asks cv packet

/-- What the steps of an open connection keep. -/
structure Sane (s : Line κ) : Prop where
  ready : s.client.user.ready = true
  packets : ∀ packet ∈ s.asked, Uniform cv packet

end

/-! ## Requests -/

section
variable {κ : Type} {cv : FloatConv} {cs : CSJson} {c : Client κ} {env : Env} {online : Online κ} {m : Msg} {o : Outcome κ}
  {u : RemoteUser} {seq n : Int32} {hearts : UInt32} {packet : Json}

/-- A message that buys is a `cmd` 4 with a number. -/
theorem bought_some (buys : bought cv m = some hearts) :
    m.cmd = .ofUInt32 4 ∧ ∃ x, m.body "addheart" = some (.json (.num x)) ∧ hearts = (cv.int x).toUInt64.toUInt32 := by
  unfold bought at buys
  split at buys
  · next cmd =>
    obtain ⟨x, found, rfl⟩ := Option.map_eq_some_iff.1 buys
    obtain ⟨v, body, number⟩ := Option.bind_eq_some_iff.1 found
    refine ⟨cmd, x, ?_, rfl⟩
    rw [body, float64?_eq_some.1 number]
  · cases buys

/-- The message of a purchase buys its hearts. -/
theorem bought_purchase (cmd : m.cmd = .ofUInt32 4) (addheart : m.body "addheart" = some (.json (Json.int n))) :
    bought cv m = some n.toUInt32 := by
  unfold bought
  rw [if_pos cmd, addheart]
  change some (cv.int (numOf n)).toUInt64.toUInt32 = some n.toUInt32
  rw [int_asked cv rfl, toUInt32_toInt64]

/-- A packet that can be decoded into every cell, and is for the same there. -/
theorem uniform_of {buys : Option UInt32} (same : ∀ c, ∃ m, readPacket c packet = some m ∧ bought cv m = buys) :
    Uniform cv packet ∧ asks cv packet = buys := by
  have first : asks cv packet = buys := by
    obtain ⟨m, read, here⟩ := same .zero
    unfold asks
    rw [read]
    exact here
  refine ⟨fun c m read => ?_, first⟩
  obtain ⟨m', read', here⟩ := same c
  cases read'.symm.trans read
  exact here.trans first.symm

/-- The packet of a purchase buys the same whatever the cell had before. -/
theorem purchase_asks (u : RemoteUser) (seq n : Int32) :
    Uniform cv (purchasePacket u seq n) ∧ asks cv (purchasePacket u seq n) = some n.toUInt32 :=
  uniform_of fun _ => ⟨_, readPacket_request _ _, bought_purchase rfl (by simp [decodeEntries])⟩

/-- The packet of a scene buys nothing. -/
theorem press_asks {press : Press} (written : press.packet u seq = some packet) :
    Uniform cv packet ∧ asks cv packet = none := by
  refine uniform_of fun c => ?_
  obtain ⟨m, read, cmd, -⟩ := packet_read (c := c) written
  refine ⟨m, read, if_neg fun same => ?_⟩
  have four : press.cmd = 4 := Float64.ofUInt32_inj (cmd.symm.trans same)
  cases press <;> cases four

/-! ## The server -/

/-- A client that is logged in is served its purchase. -/
theorem chosen_purchase (ready : c.user.ready = true) (cmd : m.cmd = .ofUInt32 4) :
    chosen cv m c.user = some .iapAddHeart := by
  rw [chosen_of_ready ready, lookup_of_cmd cmd, procFuncArray_eq]
  rfl

/-- A purchase does not make its handler panic. -/
theorem serve_returns (c : Client κ) (env : Env) (online : Online κ) (buys : bought cv m = some hearts) :
    ∃ o, Server.serve cv env online c m = .ok o := by
  obtain ⟨cmd, x, addheart, -⟩ := bought_some buys
  have entry : procFuncArray[(cv.int m.cmd).toInt.toNat]? = some (some .iapAddHeart) := by
    rw [lookup_of_cmd cmd, procFuncArray_eq]
    rfl
  refine (serve_accepts env online c m).2 (.inr (.inr ⟨inSlice_iff.2 ⟨?_, _, entry⟩, fun h found => ?_⟩))
  · rw [cmd, cv.int_ofUInt32]
    exact Int.natCast_nonneg _
  · cases entry.symm.trans found
    intro v there
    cases addheart.symm.trans there
    exact ⟨x, rfl⟩

/-- What is stored is the user after the handler. -/
theorem serve_store (small : m.cmd.val < 128) (served : Server.serve cv env online c m = .ok o) :
    o.stored = (o.c.user.store env).2 := by
  rcases procMsg_ok.1 served with ⟨big, -⟩ | ⟨-, ran, r, -, rfl⟩
  · exact absurd small (not_lt.2 big)
  · rw [finish_stored, finish_user]

/-- **The server adds the hearts** of a purchase, and tries to store them. -/
theorem serve_purchase (ready : c.user.ready = true) (buys : bought cv m = some hearts)
    (served : Server.serve cv env online c m = .ok o) :
    o.c.user.udb.heart - c.user.udb.heart = hearts ∧ o.stored = env.upsert := by
  obtain ⟨cmd, x, addheart, rfl⟩ := bought_some buys
  have small : m.cmd.val < 128 := by
    rw [cmd]
    decide
  rw [serve_store small served]
  have which : chosen cv m c.user = some .iapAddHeart := chosen_purchase ready cmd
  rcases serve_user ready served with ⟨-, why⟩ | ⟨h, picked, by_handler⟩
  · obtain ⟨e, refused⟩ := why _ small which
    cases refused with
    | noAddheart absent => cases addheart.symm.trans absent
  · cases which.symm.trans picked
    generalize o.c.user = after at by_handler
    cases by_handler with
    | iapAddHeart y found =>
      cases addheart.symm.trans found
      refine ⟨?_, rfl⟩
      change addInt c.user.udb.heart (cv.int x) - c.user.udb.heart = _
      rw [addInt_eq, UInt32.add_comm, UInt32.add_sub_cancel]

variable {l l' : Line κ}

/-- A turn that serves no purchase gives nothing. -/
theorem gain_none (buys : bought cv l.client.msg = none) : gain cv l (.serve env online) = [] := by
  unfold gain
  simp only [buys]
  split
  · exact ite_self _
  · rfl

/-- A turn that serves a purchase gives its hearts, if they are stored. -/
theorem gain_some (ready : l.client.user.ready = true) (buys : bought cv l.client.msg = some hearts)
    (served : Server.serve cv env online l.client l.client.msg = .ok o) :
    gain cv l (.serve env online) = if env.upsert then [hearts] else [] := by
  obtain ⟨adds, stored⟩ := serve_purchase ready buys served
  simp only [gain, served, buys, stored, Option.map_some, adds, Option.toList_some]

/-- No other step of the line gives anything. -/
theorem gain_other {a : LineStep κ} (other : ∀ env online, a ≠ .serve env online) : gain cv l a = [] := by
  cases a with
  | serve env online => exact absurd rfl (other env online)
  | _ => rfl

/-! ## The books -/

section
variable {α : Type} {front whole : List α} {b b' : Option α} {k : ℕ} {rest : List (Option α)}

theorem head_reduceOption_replicate (k : ℕ) (b : Option α) : (List.replicate (k + 1) b).reduceOption.head? = b := by
  cases b with
  | none =>
    rw [List.reduceOption_replicate_none]
    rfl
  | some x => rfl

theorem reduceOption_replicate_inj :
    (List.replicate k b').reduceOption = (List.replicate k b).reduceOption ↔ k = 0 ∨ b' = b := by
  constructor
  · intro same
    cases k with
    | zero => exact .inl rfl
    | succ k =>
      have heads := congrArg List.head? same
      rw [head_reduceOption_replicate, head_reduceOption_replicate] at heads
      exact .inr heads
  · rintro (rfl | rfl)
    · rfl
    · rfl

/-- One more of the next kind, in the place of it and of those before. -/
theorem balance_decode (balance : front ++ (List.replicate k b ++ b' :: rest).reduceOption = whole) :
    front ++ (List.replicate (k + 1) b' ++ rest).reduceOption = whole ↔ k = 0 ∨ b' = b := by
  rw [← balance, List.append_cancel_left_eq, List.replicate_succ', List.append_assoc, List.singleton_append,
    List.reduceOption_append, List.reduceOption_append, List.append_cancel_right_eq, reduceOption_replicate_inj]

/-- The first is taken, and something is added for it. -/
theorem balance_serve {adds : List α} (balance : front ++ (b :: rest).reduceOption = whole) :
    front ++ adds ++ rest.reduceOption = whole ↔ adds = b.toList := by
  have first : (b :: rest).reduceOption = b.toList ++ rest.reduceOption := by cases b <;> rfl
  rw [← balance, first, List.append_assoc, List.append_cancel_left_eq, List.append_cancel_right_eq]

end

variable {s t : Till κ} {d : MyDelegate Press} {queue : List String} {as : List (TillStep κ)}

/-- A step of the shop that pays nothing. -/
theorem credits_kept {p q : Shop} {a : ShopStep} (h : p.step a = some q) (other : ∀ k, a ≠ .purchased k) :
    q.credits = p.credits := by
  cases Shop.step_turns h with
  | pays => exact absurd rfl (other _)
  | _ => rfl

/-- What a step of the shop is: a payment, which the user and the server are told
of, or nothing for the line. -/
theorem step_shop {a : ShopStep} (h : step cv cs s (.shop a) = some t) :
    (∃ u user delegate addheart, t.line = { s.line with
        user, delegate, asked := s.line.asked ++ [purchasePacket u s.line.delegate.seq addheart] } ∧
      t.shop.credits = s.shop.credits ++ [addheart] ∧ t.granted = s.granted) ∨
    (t.line = s.line ∧ t.shop.credits = s.shop.credits ∧ t.granted = s.granted) := by
  by_cases paid : ∃ k, a = .purchased k
  · obtain ⟨k, rfl⟩ := paid
    obtain ⟨name, found, h⟩ := Option.bind_eq_some_iff.1 h
    obtain ⟨shop, moved, h⟩ := Option.bind_eq_some_iff.1 h
    obtain ⟨line, told, h⟩ := Option.bind_eq_some_iff.1 h
    cases h
    obtain ⟨u, user, rfl⟩ := Option.map_eq_some_iff.1 told
    cases Shop.step_turns moved with
    | pays iap found' =>
      cases found.symm.trans found'
      exact .inl ⟨u, _, _, addheart name, rfl, rfl, rfl⟩
  · have other : ∀ k, a ≠ .purchased k := fun k same => paid ⟨k, same⟩
    have h : (s.shop.stepOn a).map (fun shop => { s with shop }) = some t := by
      cases a with
      | purchased k => exact absurd rfl (other k)
      | _ => exact h
    obtain ⟨shop, moved, rfl⟩ := Option.map_eq_some_iff.1 h
    exact .inr ⟨rfl, credits_kept (Shop.stepOn_step moved).1 other, rfl⟩

/-- What a step of the line is to the requests, but for the reader and the loop. -/
theorem step_line {a : LineStep κ} (h : l.step cv cs a = some l') (reader : a ≠ .decode)
    (loop : ∀ env online, a ≠ .serve env online) :
    l'.up = false ∨ l'.up = l.up ∧ l'.client = l.client ∧ l'.pending = l.pending ∧
      (l'.asked = l.asked ∨ ∃ packet, l'.asked = l.asked ++ [packet] ∧ Uniform cv packet ∧ asks cv packet = none) := by
  cases a with
  | press press =>
    obtain ⟨u, packet, -, written, rfl⟩ := Line.step_press h
    exact .inr ⟨rfl, rfl, rfl, .inr ⟨packet, rfl, press_asks written⟩⟩
  | check =>
    rw [(Line.step_check h).1]
    exact .inr ⟨rfl, rfl, rfl, .inl rfl⟩
  | decode => exact absurd rfl reader
  | serve env online => exact absurd rfl (loop env online)
  | receive =>
    obtain ⟨reply, rest, -, rfl⟩ := Line.step_receive h
    obtain ⟨user, delegate, same, -⟩ := Line.onMessage_eq cs { l with told := rest } reply
    rw [same]
    exact .inr ⟨rfl, rfl, rfl, .inl rfl⟩
  | lose =>
    cases Line.step_lose h
    exact .inl rfl

/-- A packet more that means the same in every cell keeps the line sane. -/
theorem Sane.append (sane : Sane cv l) (client : l'.client = l.client) (asked : l'.asked = l.asked ++ [packet])
    (uniform : Uniform cv packet) : Sane cv l' := by
  refine ⟨client ▸ sane.ready, fun packet' mem => ?_⟩
  rw [asked] at mem
  rcases List.mem_append.1 mem with old | new
  · exact sane.packets packet' old
  · rwa [List.mem_singleton.1 new]

/-- What a packet more buys is on its way. -/
theorem onItsWay_append (client : l'.client = l.client) (pending : l'.pending = l.pending)
    (asked : l'.asked = l.asked ++ [packet]) : onItsWay cv l' = onItsWay cv l ++ (asks cv packet).toList := by
  unfold onItsWay
  rw [client, pending, asked, List.map_append, ← List.append_assoc, List.reduceOption_append _ (List.map _ [packet])]
  rfl

/-- **One step** keeps the line sane while it is open. -/
theorem step_sane {a : TillStep κ} (sane : s.line.up = true → Sane cv s.line) (h : step cv cs s a = some t)
    (open_ : t.line.up = true) : Sane cv t.line := by
  cases a with
  | shop a =>
    rcases step_shop h with ⟨u, user, delegate, addheart, line, -, -⟩ | ⟨line, -, -⟩
    · rw [line] at open_ ⊢
      exact (sane open_).append rfl rfl (purchase_asks u _ addheart).1
    · rw [line] at open_ ⊢
      exact sane open_
  | line a =>
    obtain ⟨l, moved, rfl⟩ := Option.map_eq_some_iff.1 h
    have before := sane (Line.step_up moved open_)
    by_cases reader : a = .decode
    · subst reader
      obtain ⟨packet, rest, msg, waits, -, read, rfl⟩ := Line.step_decode moved
      exact ⟨before.ready, fun packet' mem => before.packets packet' (waits ▸ List.mem_cons_of_mem _ mem)⟩
    · by_cases loop : ∃ env online, a = .serve env online
      · obtain ⟨env, online, rfl⟩ := loop
        obtain ⟨-, -, -, ⟨rfl, -⟩ | ⟨o, served, rfl⟩⟩ := Line.step_serve moved
        · cases open_
        · exact ⟨serve_ready before.ready served, before.packets⟩
      · rcases step_line moved reader fun env online same => loop ⟨env, online, same⟩ with
          closed | ⟨-, client, -, asked | ⟨packet, asked, uniform, -⟩⟩
        · exact absurd (open_.symm.trans closed) nofun
        · exact ⟨client ▸ before.ready, asked ▸ before.packets⟩
        · exact before.append client asked uniform

/-- **The reader** keeps the balance when it is not ahead of the loop, or makes no
difference. -/
theorem decode_balanced (sane : Sane cv s.line) (balanced : Balanced cv s) (h : s.line.step cv cs .decode = some l) :
    Balanced cv { s with line := l } ↔ InTurn cv s (.line .decode) := by
  obtain ⟨packet, rest, msg, waits, up, read, rfl⟩ := Line.step_decode h
  have kind : bought cv msg = asks cv packet := sane.packets packet (waits ▸ List.mem_cons_self) _ msg read
  have balance := balanced up
  unfold onItsWay at balance
  rw [waits, List.map_cons] at balance
  have turn : InTurn cv s (.line .decode) ↔ s.line.pending = 0 ∨ asks cv packet = bought cv s.line.client.msg := by
    change (_ ∨ s.line.asked.head?.bind (asks cv) = _) ↔ _
    rw [waits]
    rfl
  rw [turn, ← balance_decode balance, ← kind]
  exact forall_prop_of_true up

/-- **The loop** keeps the balance when a purchase is stored. -/
theorem serve_balanced (sane : Sane cv s.line) (balanced : Balanced cv s)
    (h : s.line.step cv cs (.serve env online) = some l) :
    Balanced cv { s with line := l, granted := s.granted ++ gain cv s.line (.serve env online) } ↔
      InTurn cv s (.line (.serve env online)) := by
  obtain ⟨up, waits, -, result⟩ := Line.step_serve h
  obtain ⟨k, more⟩ := Nat.exists_eq_succ_of_ne_zero waits.ne'
  have balance := balanced up
  unfold onItsWay at balance
  rw [more, List.replicate_succ, List.cons_append] at balance
  obtain ⟨rfl, panics⟩ | ⟨o, served, rfl⟩ := result
  · refine iff_of_true nofun fun buys => ?_
    obtain ⟨hearts, buys⟩ := Option.ne_none_iff_exists'.1 buys
    obtain ⟨o, served⟩ := serve_returns s.line.client env online buys
    exact absurd served (panics o)
  · have cell : o.c.msg = s.line.client.msg := serve_msg (fun out => Bool.noConfusion (out.symm.trans sane.ready)) served
    have after : Balanced cv
        { s with
          line := { s.line with client := o.c, pending := s.line.pending - 1, told := s.line.told ++ o.sent }
          granted := s.granted ++ gain cv s.line (.serve env online) } ↔
        s.granted ++ gain cv s.line (.serve env online) ++
          (List.replicate k (bought cv s.line.client.msg) ++ s.line.asked.map (asks cv)).reduceOption =
            s.shop.credits.map Int32.toUInt32 := by
      unfold Balanced onItsWay
      dsimp only
      rw [cell, more, Nat.succ_sub_one]
      exact forall_prop_of_true up
    rw [after, balance_serve balance]
    change _ ↔ (bought cv s.line.client.msg ≠ none → env.upsert = true)
    cases buys : bought cv s.line.client.msg with
    | none =>
      rw [gain_none buys]
      exact iff_of_true rfl fun some => absurd rfl some
    | some hearts =>
      rw [gain_some sane.ready buys served]
      cases env.upsert with
      | true => exact iff_of_true rfl fun _ => rfl
      | false => exact iff_of_false nofun fun stored => Bool.noConfusion (stored nofun)

/-- **One step** keeps the balance exactly when it is in turn. -/
theorem step_balanced {a : TillStep κ} (sane : s.line.up = true → Sane cv s.line) (balanced : Balanced cv s)
    (h : step cv cs s a = some t) : Balanced cv t ↔ InTurn cv s a := by
  cases a with
  | shop a =>
    refine iff_of_true (fun open_ => ?_) trivial
    rcases step_shop h with ⟨u, user, delegate, addheart, line, credits, granted⟩ | ⟨line, credits, granted⟩
    · rw [line] at open_
      have client : t.line.client = s.line.client := by rw [line]
      have pending : t.line.pending = s.line.pending := by rw [line]
      have asked : t.line.asked = s.line.asked ++ [purchasePacket u s.line.delegate.seq addheart] := by rw [line]
      have way : onItsWay cv t.line = onItsWay cv s.line ++ [addheart.toUInt32] := by
        rw [onItsWay_append client pending asked, (purchase_asks u _ addheart).2]
        rfl
      rw [granted, way, credits, ← List.append_assoc, balanced open_, List.map_append]
      rfl
    · rw [line] at open_
      rw [granted, line, credits]
      exact balanced open_
  | line a =>
    obtain ⟨l, moved, rfl⟩ := Option.map_eq_some_iff.1 h
    by_cases loop : ∃ env online, a = .serve env online
    · obtain ⟨env, online, rfl⟩ := loop
      have up := (Line.step_serve moved).1
      exact serve_balanced (sane up) balanced moved
    · have other : ∀ env online, a ≠ .serve env online := fun env online same => loop ⟨env, online, same⟩
      rw [gain_other other, List.append_nil]
      by_cases reader : a = .decode
      · subst reader
        obtain ⟨_, _, _, -, up, -, -⟩ := Line.step_decode moved
        exact decode_balanced (sane up) balanced moved
      · have turn : InTurn cv s (.line a) := by
          cases a with
          | decode => exact absurd rfl reader
          | serve env online => exact absurd rfl (other env online)
          | _ => trivial
        refine iff_of_true (fun open_ => ?_) turn
        have before := balanced (Line.step_up moved open_)
        rcases step_line moved reader other with closed | ⟨-, client, pending, asked | ⟨packet, asked, -, none⟩⟩
        · exact absurd (open_.symm.trans closed) nofun
        · unfold onItsWay at before ⊢
          rw [client, pending, asked]
          exact before
        · rw [onItsWay_append client pending asked, none, Option.toList_none, List.append_nil]
          exact before

/-- Once all that has been sent is served, the account has what the shop has added. -/
theorem Balanced.settled (balanced : Balanced cv s) (open_ : s.line.up = true) (sent : s.line.asked = [])
    (served : s.line.pending = 0) : s.granted = s.shop.credits.map Int32.toUInt32 := by
  have balance := balanced open_
  unfold onItsWay at balance
  rw [sent, served] at balance
  exact (List.append_nil _).symm.trans balance

/-- **What is paid for reaches the account**, once and in the order of the
payments, exactly when every request is served in turn and every purchase is stored. -/
theorem balanced_iff (cv : FloatConv) (cs : CSJson) (c : Client κ) (u : RemoteUser) (d : MyDelegate Press)
    (queue : List String) (as : List (TillStep κ)) (ready : c.user.ready = true)
    (run : exec (step cv cs) (start queue c u d) as = some t) :
    Through (step cv cs) (Balanced cv) (start queue c u d) as ↔ Along (step cv cs) (InTurn cv) (start queue c u d) as :=
  through_iff_along (J := fun s => s.line.up = true → Sane cv s.line) (fun _ _ _ sane _ h => step_sane sane h)
    (fun _ _ _ sane balanced h => step_balanced sane balanced h) (fun _ => ⟨ready, nofun⟩) (fun _ => rfl) run

end

/-- A payment of five hearts. -/
def payment : List (TillStep Unit) :=
  [.shop .enter, .shop (.response (some productId)), .shop (.sale ⟨0, Nat.succ_pos 4⟩ .ended), .shop (.purchased 0)]

def answer : LineStep Unit := .serve (Env.answering fun _ => .notFound) .empty

/-- The player goes on to a play at once, and the reader decodes both requests
before the first is served: the payment is lost, and the play is paid twice. -/
def followed : List (TillStep Unit) :=
  payment ++ [.line (.press (.play Pair.firstStage)), .line .decode, .line .decode, .line answer, .line answer]

/-- The packet of a play replaces that of a purchase before it is served, and the
hearts that were paid for are never given. -/
theorem balanced_iff_followed :
    ¬ Through (step amd64 Pair.strict) (Balanced amd64) (start [] Line.member Line.memberUser (.init none)) followed ∧
      (exec (step amd64 Pair.strict) (start [] Line.member Line.memberUser (.init none)) followed).map
        (fun s => (s.granted, s.shop.credits, s.line.client.user.udb.heart)) = some ([], [5], 27) := by
  have ends : (exec (step amd64 Pair.strict) (start [] Line.member Line.memberUser (.init none)) followed).map
      (fun s => (s.granted, s.shop.credits, s.line.client.user.udb.heart)) = some ([], [5], 27) := by decide +kernel
  obtain ⟨s, run, -⟩ := Option.map_eq_some_iff.1 ends
  refine ⟨fun through => ?_, ends⟩
  have along := (balanced_iff amd64 Pair.strict Line.member Line.memberUser (.init none) [] followed rfl run).1 through
  exact absurd along (by decide +kernel)

end Till

end Crazyass.Client
