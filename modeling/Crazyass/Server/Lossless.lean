import Crazyass.Server.Dirty
import Crazyass.Server.Ledger

/-!
# Runs without a lost update

One lemma for each step of the writers: it keeps the books when the step is
`Unlost`. A run of such steps that ends with nothing left to do has stored
every credit and every charge.
-/

namespace Crazyass.Server
open Go Sys

namespace Writers
section
variable {κ γ : Type} [DecidableEq κ] [DecidableEq γ] {cv : FloatConv} {id : String} {amount : γ → Int64}
  {s t : Writers κ γ} {k : κ} {j : γ} {h : Hearts}

/-! ## Parts of a state -/

theorem books_setConn (c : Conn κ) :
    (s.setConn k c).books cv id amount = (s.books cv id amount).owe (.inl k) (c.due cv) := by
  have dues : (fun l => Conn.due cv (Function.update s.conns k c l)) =
      Function.update (fun l => (s.conns l).due cv) k (c.due cv) :=
    funext (Function.apply_update (fun _ => Conn.due cv) s.conns k c)
  unfold books setConn Books.owe
  dsimp only
  rw [Sum.update_elim_inl, dues]
  rfl

theorem books_setCall (c : Call κ) :
    (s.setCall j c).books cv id amount = (s.books cv id amount).owe (.inr j) (c.due (amount j)) := by
  have dues : (fun l => Call.due (amount l) (Function.update s.calls j c l)) =
      Function.update (fun l => (s.calls l).due (amount l)) j (c.due (amount j)) :=
    funext (Function.apply_update (fun l => Call.due (amount l)) s.calls j c)
  unfold books setCall Books.owe
  dsimp only
  rw [Sum.update_elim_inr, dues]
  rfl

/-- A connection writes the document. -/
theorem books_store (c : Conn κ) (db : Collection) (iap charged : ℤ) :
    { s.setConn k c with db := db, iap := iap, charged := charged }.books cv id amount =
      (s.books cv id amount).write (.inl k) ((db.docs id).elim 0 fun d => residue d.heart) (c.due cv) := by
  change Books.mk _ ((s.setConn k c).books cv id amount).due = _
  rw [books_setConn]
  rfl

/-- A call writes the document. -/
theorem books_save (c : Call κ) (db : Collection) :
    { s.setCall j c with db := db }.books cv id amount =
      (s.books cv id amount).write (.inr j) ((db.docs id).elim 0 fun d => residue d.heart) (c.due (amount j)) := by
  change Books.mk _ ((s.setCall j c).books cv id amount).due = _
  rw [books_setCall]
  rfl

omit [DecidableEq γ] in
theorem ready_setConn {c : Conn κ} {l : κ}
    (stay : (s.conns k).client.user.ready = true → c.client.user.ready = true)
    (here : (s.conns l).client.user.ready = true) : ((s.setConn k c).conns l).client.user.ready = true := by
  by_cases same : l = k
  · subst same
    simpa [setConn] using stay here
  · simpa [setConn, same] using here

omit [DecidableEq γ] in
theorem Sane.setConn (sane : s.Sane id) {c : Conn κ} (ok : c.Ok id k)
    (stay : (s.conns k).client.user.ready = true → c.client.user.ready = true) : (s.setConn k c).Sane id := by
  have conn : ∀ l, ((s.setConn k c).conns l).Ok id l :=
    (Function.forall_update_iff s.conns fun l c => c.Ok id l).2 ⟨ok, fun l _ => sane.conn l⟩
  exact ⟨sane.doc, conn, fun l e => ready_setConn stay (sane.entry l e),
    fun i l e => ready_setConn stay (sane.sending i l e), sane.loaded⟩

omit [DecidableEq κ] in
theorem Sane.setCall (sane : s.Sane id) {c : Call κ}
    (sending : ∀ k, c = .sending k → (s.conns k).client.user.ready = true)
    (loaded : ∀ user, c = .loaded user → user.udb.userId = id) : (s.setCall j c).Sane id where
  doc := sane.doc
  conn := sane.conn
  entry := sane.entry
  sending :=
    (Function.forall_update_iff s.calls fun _ c => ∀ k, c = .sending k → (s.conns k).client.user.ready = true).2
      ⟨sending, fun i _ => sane.sending i⟩
  loaded :=
    (Function.forall_update_iff s.calls fun _ c => ∀ user, c = .loaded user → user.udb.userId = id).2
      ⟨loaded, fun i _ => sane.loaded i⟩

/-- `NextStage` as it is stored. -/
def stage (id : String) (s : Writers κ γ) : UInt32 := (s.db.docs id).elim 0 UserDb.nextStage

variable [Fintype κ] [Fintype γ]

variable (cv id amount h) in
/-- What every step does that loses nothing. -/
structure Next (s t : Writers κ γ) : Prop where
  sane : t.Sane id
  balanced : t.Balanced cv id amount h
  rise : s.stage id ≤ t.stage id

/-- A connection that stays due what it was keeps the books. -/
theorem Next.conn (sane : s.Sane id) (bal : s.Balanced cv id amount h) {c : Conn κ} (ok : c.Ok id k)
    (stay : (s.conns k).client.user.ready = true → c.client.user.ready = true) (due : c.due cv = (s.conns k).due cv) :
    Next cv id amount h s (s.setConn k c) where
  sane := sane.setConn ok stay
  balanced := by
    have same : (s.books cv id amount).due (.inl k) = c.due cv := due.symm
    unfold Balanced
    rw [books_setConn, Books.balance_owe, same, sub_self, add_zero]
    exact bal
  rise := UInt32.le_refl _

/-- A call that stays due what it was keeps the books. -/
theorem Next.call (sane : s.Sane id) (bal : s.Balanced cv id amount h) {c : Call κ}
    (sending : ∀ k, c = .sending k → (s.conns k).client.user.ready = true)
    (loaded : ∀ user, c = .loaded user → user.udb.userId = id) (due : c.due (amount j) = (s.calls j).due (amount j)) :
    Next cv id amount h s (s.setCall j c) where
  sane := sane.setCall sending loaded
  balanced := by
    have same : (s.books cv id amount).due (.inr j) = c.due (amount j) := due.symm
    unfold Balanced
    rw [books_setCall, Books.balance_owe, same, sub_self, add_zero]
    exact bal
  rise := UInt32.le_refl _

omit [DecidableEq κ] [DecidableEq γ] in
theorem Next.online (next : Next cv id amount h s t) {on : Online κ}
    (entry : ∀ l, on.usermap id = some l → (t.conns l).client.user.ready = true) :
    Next cv id amount h s { t with online := on } :=
  ⟨{ next.sane with entry }, next.balanced, next.rise⟩

/-! ## Steps of a connection -/

/-- A step that leaves user, channel and document alone. -/
theorem Next.still (sane : s.Sane id) (bal : s.Balanced cv id amount h) {c : Conn κ}
    (idle : (s.conns k).phase = .head ∨ (s.conns k).phase = .select) (rest : c.phase = .head ∨ c.phase = .select)
    (self : c.client.self = (s.conns k).client.self) (user : c.client.user = (s.conns k).client.user)
    (ichan : c.client.ichan = (s.conns k).client.ichan) (base : c.base = (s.conns k).base) :
    Next cv id amount h s (s.setConn k c) := by
  have ok : c.Ok id k := by
    apply (sane.conn k).congr self user ichan base
    intro m t e found
    rcases rest with here | here <;> cases here.symm.trans found
  apply Next.conn sane bal ok
  · intro ready
    rw [user]
    exact ready
  · rw [due_idle (rest.imp_right .inl), due_idle (idle.imp_right .inl), unsaved_congr user ichan base]

theorem find_next (sane : s.Sane id) (bal : s.Balanced cv id amount h) {m : Msg} {c : Clock} {d : UserDb}
    (select : (s.conns k).phase = .select) (doc : s.db.docs id = some d) (rich : ¬ d.heart < 30)
    (out : (s.conns k).client.user.ready = false) (cmd : m.cmd = kCmdUserLogin) (named : loginId (s.db.env c) m = id) :
    Next cv id amount h s (s.setConn k { s.conns k with phase := .found m c d, base := d }) := by
  apply Next.conn sane bal
  · refine ⟨(sane.conn k).self, ?_, (sane.conn k).out, ?_⟩
    · intro ready
      have ready : (s.conns k).client.user.ready = true := ready
      rw [out] at ready
      cases ready
    · intro m' c' d' same
      cases same
      exact ⟨out, cmd, named, s.db.id_eq id d doc, rfl, rich⟩
  · exact fun ready => ready
  · rw [due_idle (.inr (.inr ⟨m, c, d, rfl⟩)), due_idle (.inr (.inl select)), unsaved_out out]
    exact unsaved_out out

/-- A login keeps the books. -/
theorem login_next (sane : s.Sane id) (bal : s.Balanced cv id amount h) {m : Msg} {c : Clock} {d : UserDb}
    (found : (s.conns k).phase = .found m c d) : Next cv id amount h s (s.call cv k (Env.found d c) m) := by
  obtain ⟨out, cmd, named, owner, base, rich⟩ := (sane.conn k).found m c d found
  have run := dispatch_login cv (Env.found d c) s.online (c := loopHead { (s.conns k).client with msg := m }) cmd
  have result := procUserLogin_end (c := (loopHead { (s.conns k).client with msg := m }).initReply)
    (Env.found d c) s.online out
  unfold call
  dsimp only
  rw [run]
  dsimp only
  generalize procUserLogin (Env.found d c) s.online (loopHead { (s.conns k).client with msg := m }).initReply = r at result
  have answer : (s.conns k).client.user.load (Env.found d c) (loginId (Env.found d c) m) =
      some { (s.conns k).client.user with udb := d } := by
    rw [named]
    exact load_foundEnv owner
  cases result with
  | failed load ret registry user errCode kept userid => cases answer.symm.trans load
  | loggedIn u load ret registry user errCode kept userid =>
    obtain rfl : { (s.conns k).client.user with udb := d } = u := Option.some_inj.1 (answer.symm.trans load)
    have heart : r.c.user.udb.heart = (s.conns k).base.heart := by
      rw [user, loggedIn_udb, base]
      exact if_neg rich
    have stage : r.c.user.udb.nextStage = (s.conns k).base.nextStage := by
      rw [user, loggedIn_udb, base]
    have ready : r.c.user.ready = true := by
      rw [user]
      exact loggedIn_ready _ _
    have empty : r.c.ichan = [] := kept.ichan.trans ((sane.conn k).out out).2
    generalize (loopHead { (s.conns k).client with msg := m }).user = u
    have granted : asked cv m u (some .userLogin) = 0 := rfl
    apply Next.online
    · apply Next.conn sane bal
      · refine ⟨kept.self.trans (sane.conn k).self, fun _ => ⟨?_, ?_⟩, ?_, by simp⟩
        · rw [user, loggedIn_udb]
          exact owner
        · rw [stage]
          exact UInt32.le_refl _
        · intro still
          cases ready.symm.trans still
      · exact fun _ => ready
      · rw [due_storing rfl, due_idle (.inr (.inr ⟨m, c, d, found⟩)), unsaved_out out, unsaved_ready ready]
        simp only [Conn.queued, Conn.granted, granted, empty, heart]
        simp
    · intro l here
      have inserted : (s.online.insert (loginId (Env.found d c) m) (s.conns k).client.self).1.usermap id = some l :=
        (congrArg (fun on => on.usermap id) registry).symm.trans here
      rcases Online.usermap_insert inserted with old | new
      · exact ready_setConn (fun _ => ready) (sane.entry l old)
      · have here : l = k := new.trans (sane.conn k).self
        subst here
        simpa [setConn] using ready

/-- A request that was not served. -/
theorem Next.unserved (sane : s.Sane id) (bal : s.Balanced cv id amount h) {m : Msg} {ran : Option Handler} {r : Called κ}
    (select : (s.conns k).phase = .select) (registry : r.online = s.online)
    (self : r.c.self = (s.conns k).client.self) (user : r.c.user = (s.conns k).client.user)
    (ichan : r.c.ichan = (s.conns k).client.ichan)
    (granted : Conn.granted cv ⟨r.c, .storing m (s.conns k).client.user ran r.ret, (s.conns k).base⟩ = 0) :
    Next cv id amount h s { s.setConn k { s.conns k with
      client := r.c, phase := .storing m (s.conns k).client.user ran r.ret } with online := r.online } := by
  have stay : (s.conns k).client.user.ready = true → r.c.user.ready = true := by
    rw [user]
    exact fun ready => ready
  have unsaved : Conn.unsaved ⟨r.c, .storing m (s.conns k).client.user ran r.ret, (s.conns k).base⟩ = (s.conns k).unsaved :=
    unsaved_congr user ichan rfl
  apply Next.online
  · apply Next.conn sane bal
    · exact (sane.conn k).congr self user ichan rfl (by simp)
    · exact stay
    · rw [due_storing rfl, due_idle (.inr (.inl select)), unsaved, granted, Int.cast_zero, sub_zero]
  · rw [registry]
    exact fun l e => ready_setConn stay (sane.entry l e)

/-- A request that was served: what it granted is owed until the reply is sent. -/
theorem Next.served (sane : s.Sane id) (bal : s.Balanced cv id amount h) {m : Msg} {p : Handler} {r : Called κ}
    (select : (s.conns k).phase = .select) (registry : r.online = s.online)
    (self : r.c.self = (s.conns k).client.self) (ichan : r.c.ichan = (s.conns k).client.ichan)
    (ready : (s.conns k).client.user.ready = true) (errCode : r.c.replyMsg.errCode = 0)
    (served : Served cv m (s.conns k).client.user p r.c.user) (picked : chosen cv m (s.conns k).client.user = some p)
    (room : Raises cv m (s.conns k).client.user → (s.conns k).client.user.udb.nextStage.toNat + 1 < 2 ^ 32) :
    Next cv id amount h s { s.setConn k { s.conns k with
      client := r.c, phase := .storing m (s.conns k).client.user (some p) r.ret } with online := r.online } := by
  have account := sane.conn k
  have ready' : r.c.user.ready = true := served.ready.trans ready
  have granted : Conn.granted cv ⟨r.c, .storing m (s.conns k).client.user (some p) r.ret, (s.conns k).base⟩ =
      asked cv m (s.conns k).client.user (some p) := granted_served rfl errCode
  have queued : Conn.queued ⟨r.c, .storing m (s.conns k).client.user (some p) r.ret, (s.conns k).base⟩ =
      (s.conns k).queued := congrArg (fun q : List Int64 => (q.map Int64.toInt).sum) ichan
  apply Next.online
  · apply Next.conn sane bal
    · refine ⟨self.trans account.self, fun _ => ⟨?_, ?_⟩, ?_, by simp⟩
      · exact served.userId.trans (account.account ready).1
      · exact UInt32.le_trans (account.account ready).2 (served.nextStage_le picked room)
      · intro out
        cases ready'.symm.trans out
    · exact fun _ => ready'
    · rw [due_storing rfl, due_idle (.inr (.inl select)), unsaved_ready ready, unsaved_ready ready', granted, queued]
      dsimp only
      rw [served.residue_eq]
      abel
  · rw [registry]
    exact fun l e => ready_setConn (fun _ => ready') (sane.entry l e)

/-- The middle of a request that is no first login. -/
theorem call_next (sane : s.Sane id) (bal : s.Balanced cv id amount h) {m : Msg} (select : (s.conns k).phase = .select)
    (later : ¬ ((s.conns k).client.user.ready = false ∧ m.cmd = kCmdUserLogin))
    (panics : ¬ Accepts cv False m (s.conns k).client.user → (s.conns k).Clear)
    (room : Raises cv m (s.conns k).client.user → (s.conns k).client.user.udb.nextStage.toNat + 1 < 2 ^ 32)
    (small : ¬ m.cmd.val ≥ 128) : Next cv id amount h s (s.call cv k (Env.answering fun _ => .failed) m) := by
  have account := sane.conn k
  have idle : (s.conns k).due cv = (s.conns k).unsaved := due_idle (.inr (.inl select))
  unfold call
  dsimp only
  cases run : dispatch cv (Env.answering fun _ => .failed) s.online (loopHead { (s.conns k).client with msg := m }) with
  | error p =>
    have clear : (s.conns k).Clear := by
      apply panics
      intro accepts
      obtain ⟨o, ok⟩ := (serve_accepts (Env.answering fun _ => .failed) s.online (s.conns k).client m).2 accepts
      rcases procMsg_ok.1 ok with ⟨big, -⟩ | ⟨-, ran, r, ok, -⟩
      · exact small big
      · cases run.symm.trans ok
    apply Next.conn sane bal
    · exact account.congr rfl rfl rfl rfl (by simp)
    · exact fun ready => ready
    · rw [idle, clear.unsaved]
      rfl
  | ok result =>
    obtain ⟨ran, r⟩ := result
    have here : ran = chosen cv m (s.conns k).client.user := dispatch_ran run
    dsimp only
    cases dispatch_effect run with
    | rejected ret registry c_eq =>
      exact .unserved sane bal select registry (by rw [c_eq]; rfl) (by rw [c_eq]; rfl) (by rw [c_eq]; rfl) (granted_none rfl)
    | refused ready e why ret registry c_eq =>
      apply Next.unserved sane bal select registry (by rw [c_eq]; rfl) (by rw [c_eq]; rfl) (by rw [c_eq]; rfl)
      apply granted_refused rfl
      rw [c_eq]
      exact ofUInt32_ne_zero why.ne_zero
    | served ready ret registry user replied =>
      exact .served sane bal select registry replied.kept.self replied.kept.ichan ready replied.errCode user here.symm room
    | login out cmd result => exact absurd ⟨out, cmd⟩ later

omit [DecidableEq γ] [Fintype κ] in
/-- What the reply grants is counted. -/
theorem movement_settle {m : Msg} {u : User} {ran : Option Handler} {ret : ProcRet}
    (storing : (s.conns k).phase = .storing m u ran ret) :
    (s.settle cv k m u ran ret).movement amount = s.movement amount + (s.conns k).granted cv := by
  have sent : (finish (Env.answering fun _ => .failed) ran ⟨ret, (s.conns k).client, s.online⟩).sent =
      [(s.conns k).client.replyMsg] := by
    have works : ((s.conns k).client.user.store (Env.answering fun _ => .failed)).2 = true := by
      rw [← Bool.not_eq_false, store_fails_iff]
      simp [Env.answering]
    rw [finish_sent, if_pos works]
  unfold settle movement Conn.granted asked
  rw [storing]
  dsimp only
  rw [sent]
  by_cases done : (s.conns k).client.replyMsg.errCode = 0
  · simp only [List.any_cons, List.any_nil, Bool.or_false, done, decide_true, if_true]
    ring
  · simp [done]

/-- A connection writes the document, or not, and `g` more is counted. -/
theorem Next.written (sane : s.Sane id) (bal : s.Balanced cv id amount h) {c : Conn κ} {db : Collection}
    {iap charged g : ℤ} {e : UserDb} (ok : c.Ok id k) (stay : c.client.user = (s.conns k).client.user)
    (doc : db.docs id = some e) (rise : s.stage id ≤ e.nextStage)
    (moved : ∑ j, (amount j).toInt + iap - charged = s.movement amount + g)
    (kept : residue e.heart + c.due cv = s.stored id + (s.conns k).due cv + g) :
    Next cv id amount h s { s.setConn k c with db := db, iap := iap, charged := charged } where
  sane := { sane.setConn ok (by rw [stay]; exact fun ready => ready) with doc := ⟨e, doc⟩ }
  balanced := by
    have cell : ((db.docs id).elim 0 fun d => residue d.heart) = residue e.heart := by rw [doc]; rfl
    have due : (s.books cv id amount).cell + (s.books cv id amount).due (.inl k) = s.stored id + (s.conns k).due cv := rfl
    have now : { s.setConn k c with db := db, iap := iap, charged := charged }.movement amount = s.movement amount + g :=
      moved
    unfold Balanced
    rw [books_store, Books.balance_write, cell, kept, due, bal, now, Int.cast_add]
    abel
  rise := by
    change s.stage id ≤ (db.docs id).elim 0 UserDb.nextStage
    rw [doc]
    exact rise

/-- A dirty user is stored over the document as it was last seen. -/
theorem Next.stored (sane : s.Sane id) (bal : s.Balanced cv id amount h) {m : Msg} {u : User} {ran : Option Handler}
    {ret : ProcRet} {c : Client κ} {iap charged : ℤ} (storing : (s.conns k).phase = .storing m u ran ret)
    (self : c.self = (s.conns k).client.self) (user : c.user = (s.conns k).client.user)
    (ichan : c.ichan = (s.conns k).client.ichan)
    (moved : ∑ j, (amount j).toInt + iap - charged = s.movement amount + (s.conns k).granted cv)
    (dirty : (s.conns k).client.user.dirty = true) (fresh : s.Fresh id (s.conns k).base) :
    Next cv id amount h s { s.setConn k ⟨c, .head, (s.conns k).client.user.udb⟩ with
      db := s.db.upsert (s.conns k).client.user.udb, iap := iap, charged := charged } := by
  have account := sane.conn k
  have ready : (s.conns k).client.user.ready = true := by
    by_contra out
    have clean := (account.out (by simpa using out)).1
    cases dirty.symm.trans clean
  have ready' : c.user.ready = true := by
    rw [user]
    exact ready
  obtain ⟨owner, above⟩ := account.account ready
  obtain ⟨d, doc⟩ := sane.doc
  obtain ⟨heart, stage⟩ := fresh d doc
  apply Next.written sane bal (e := (s.conns k).client.user.udb)
  · refine ⟨self.trans account.self, fun _ => ⟨?_, ?_⟩, ?_, by simp⟩
    · rw [user]
      exact owner
    · rw [user]
      exact UInt32.le_refl _
    · intro out
      cases ready'.symm.trans out
  · exact user
  · rw [← owner, Collection.docs_upsert]
  · rw [Writers.stage, doc]
    change d.nextStage ≤ _
    rw [stage]
    exact above
  · exact moved
  · rw [due_idle (.inl rfl), due_storing storing, unsaved_ready ready', unsaved_ready ready, stored_eq doc, heart]
    simp only [Conn.queued, user, ichan]
    abel

/-- A clean user is not stored. -/
theorem Next.skipped (sane : s.Sane id) (bal : s.Balanced cv id amount h) {m : Msg} {u : User} {ran : Option Handler}
    {ret : ProcRet} {c : Client κ} {iap charged : ℤ} (storing : (s.conns k).phase = .storing m u ran ret)
    (self : c.self = (s.conns k).client.self) (user : c.user = (s.conns k).client.user)
    (ichan : c.ichan = (s.conns k).client.ichan)
    (moved : ∑ j, (amount j).toInt + iap - charged = s.movement amount + (s.conns k).granted cv) :
    Next cv id amount h s { s.setConn k ⟨c, .head, (s.conns k).base⟩ with iap := iap, charged := charged } := by
  obtain ⟨d, doc⟩ := sane.doc
  have unsaved : Conn.unsaved ⟨c, .head, (s.conns k).base⟩ = (s.conns k).unsaved := unsaved_congr user ichan rfl
  apply Next.written sane bal (e := d)
  · exact (sane.conn k).congr self user ichan rfl (by simp)
  · exact user
  · exact doc
  · rw [Writers.stage, doc]
    exact UInt32.le_refl _
  · exact moved
  · rw [due_idle (.inl rfl), due_storing storing, unsaved, stored_eq doc]
    abel

/-- A store of a fresh copy settles what is due. -/
theorem store_next (sane : s.Sane id) (bal : s.Balanced cv id amount h) {m : Msg} {u : User} {ran : Option Handler}
    {ret : ProcRet} (storing : (s.conns k).phase = .storing m u ran ret)
    (fresh : (s.conns k).client.user.dirty = true → s.Fresh id (s.conns k).base) :
    Next cv id amount h s (s.settle cv k m u ran ret) := by
  have moved : (s.settle cv k m u ran ret).movement amount = s.movement amount + (s.conns k).granted cv :=
    movement_settle storing
  have self := finish_self (Env.answering fun _ => .failed) ran ⟨ret, (s.conns k).client, s.online⟩
  have user := finish_user (Env.answering fun _ => .failed) ran ⟨ret, (s.conns k).client, s.online⟩
  have ichan := finish_ichan (Env.answering fun _ => .failed) ran ⟨ret, (s.conns k).client, s.online⟩
  have upsert := finish_upsert (Env.answering fun _ => .failed) ran ⟨ret, (s.conns k).client, s.online⟩
  unfold settle at moved ⊢
  dsimp only at moved ⊢
  generalize finish (Env.answering fun _ => .failed) ran ⟨ret, (s.conns k).client, s.online⟩ = o at *
  dsimp only at self user ichan upsert
  by_cases dirty : (s.conns k).client.user.dirty = true
  · rw [if_pos dirty] at upsert
    rw [upsert] at moved ⊢
    exact .stored sane bal storing self user ichan moved dirty (fresh dirty)
  · rw [if_neg dirty] at upsert
    rw [upsert] at moved ⊢
    exact .skipped sane bal storing self user ichan moved

/-- A value from `ichan` becomes hearts that are not stored. -/
theorem imsg_next (sane : s.Sane id) (bal : s.Balanced cv id amount h) {v : Int64} {rest : List Int64}
    (select : (s.conns k).phase = .select) (ichan : (s.conns k).client.ichan = v :: rest) :
    Next cv id amount h s (s.setConn k
      { s.conns k with client := serveIMsg { (s.conns k).client with ichan := rest } v, phase := .head }) := by
  have account := sane.conn k
  have ready : (s.conns k).client.user.ready = true := by
    by_contra out
    have empty := (account.out (by simpa using out)).2
    rw [ichan] at empty
    cases empty
  apply Next.conn sane bal
  · refine ⟨account.self, fun _ => account.account ready, ?_, by simp⟩
    intro out
    have out : (s.conns k).client.user.ready = false := out
    cases ready.symm.trans out
  · exact fun ready => ready
  · have heart : residue (addInt (s.conns k).client.user.udb.heart v) =
        residue (s.conns k).client.user.udb.heart + (v.toInt : Hearts) := residue_addInt _ _
    have queued : (s.conns k).queued = v.toInt + (rest.map Int64.toInt).sum := by rw [Conn.queued, ichan]; rfl
    rw [due_idle (.inl rfl), due_idle (.inr (.inl select)), unsaved_ready ready, unsaved_ready (by exact ready)]
    change residue (addInt (s.conns k).client.user.udb.heart v) - _ + ((rest.map Int64.toInt).sum : Hearts) = _
    rw [heart, queued, Int.cast_add]
    abel

/-- A connection that owes nothing may leave. -/
theorem leave_next (sane : s.Sane id) (bal : s.Balanced cv id amount h) (head : (s.conns k).phase = .head)
    (clear : (s.conns k).Clear) :
    Next cv id amount h s { s.setConn k { s.conns k with phase := .closed } with
      online := leaveOnline s.online (s.conns k).client } := by
  apply Next.online
  · apply Next.conn sane bal
    · exact (sane.conn k).congr rfl rfl rfl rfl (by simp)
    · exact fun ready => ready
    · rw [due_idle (.inl head), clear.unsaved]
      rfl
  · intro l here
    exact ready_setConn (fun ready => ready) (sane.entry l (Online.usermap_delete here))

/-- The reader's error takes effect at the test of `enable` only. -/
theorem readError_next (sane : s.Sane id) (bal : s.Balanced cv id amount h) :
    Next cv id amount h s (s.setConn k
      { s.conns k with client := { (s.conns k).client with enable := false } }) := by
  apply Next.conn sane bal
  · exact (sane.conn k).congr rfl rfl rfl rfl fun _ _ _ found => found
  · exact fun ready => ready
  · rfl

/-! ## Steps of a call -/

theorem lookup_next (sane : s.Sane id) (bal : s.Balanced cv id amount h) (idle : s.calls j = .idle) :
    Next cv id amount h s (s.setCall j (match s.online.find id with
      | some c => .sending c
      | none => .loading)) := by
  cases found : s.online.find id with
  | none => exact .call sane bal (by simp) (by simp) (by rw [idle]; rfl)
  | some c =>
    apply Next.call sane bal
    · intro k same
      cases same
      exact sane.entry c found
    · simp
    · rw [idle]
      rfl

theorem load_next (sane : s.Sane id) (bal : s.Balanced cv id amount h) {t : Clock} {user : User}
    (loading : s.calls j = .loading) (load : User.init.load (s.db.env t) id = some user) :
    Next cv id amount h s (s.setCall j (.loaded user)) := by
  apply Next.call sane bal
  · simp
  · intro v same
    cases same
    exact load_userId load
  · rw [loading]
    rfl

/-- A call that finds its connection alive hands over what it owes. -/
theorem send_next (sane : s.Sane id) (bal : s.Balanced cv id amount h) (sending : s.calls j = .sending k)
    (alive : (s.conns k).phase ≠ .closed ∨ amount j = 0) :
    Next cv id amount h s ((s.setConn k { s.conns k with
      client := { (s.conns k).client with ichan := (s.conns k).client.ichan ++ [amount j] } }).setCall j .returned) := by
  have account := sane.conn k
  have ready := sane.sending j k sending
  have ok : Conn.Ok id k { s.conns k with
      client := { (s.conns k).client with ichan := (s.conns k).client.ichan ++ [amount j] } } := by
    refine ⟨account.self, account.account, ?_, account.found⟩
    intro out
    have out : (s.conns k).client.user.ready = false := out
    cases ready.symm.trans out
  refine ⟨(sane.setConn ok fun ready => ready).setCall (by simp) (by simp), ?_, UInt32.le_refl _⟩
  have owed : (s.books cv id amount).due (.inl k) = (s.conns k).due cv := rfl
  have paid : (s.books cv id amount).due (.inr j) = (amount j).toInt := by
    change (s.calls j).due (amount j) = _
    rw [sending]
    rfl
  have handed := (s.books cv id amount).balance_hand ((amount j).toInt : Hearts) (i := .inl k) (j := .inr j) (by simp)
  rw [owed, paid, sub_self, ← due_send ready alive] at handed
  unfold Balanced
  rw [books_setCall, books_setConn]
  exact handed.trans bal

/-- A call that loaded a fresh copy stores what it owes. -/
theorem save_next (sane : s.Sane id) (bal : s.Balanced cv id amount h) {user : User}
    (loaded : s.calls j = .loaded user) (fresh : s.Fresh id user.udb) :
    Next cv id amount h s { s.setCall j .returned with
      db := s.db.upsert? ((user.credited (amount j)).store (Env.answering fun _ => .failed)).1 } := by
  obtain ⟨d, doc⟩ := sane.doc
  obtain ⟨heart, stage⟩ := fresh d doc
  have owner := sane.loaded j user loaded
  have written : (s.db.upsert (user.credited (amount j)).udb).docs id = some (user.credited (amount j)).udb := by
    have owner' : (user.credited (amount j)).udb.userId = id := owner
    rw [← owner', Collection.docs_upsert]
  have now : residue (user.credited (amount j)).udb.heart = residue user.udb.heart + ((amount j).toInt : Hearts) :=
    residue_addInt _ _
  have due : (s.books cv id amount).cell + (s.books cv id amount).due (.inr j) = s.stored id + (s.calls j).due (amount j) :=
    rfl
  change Next cv id amount h s { s.setCall j .returned with db := s.db.upsert (user.credited (amount j)).udb }
  refine ⟨{ sane.setCall (by simp) (by simp) with doc := ⟨_, written⟩ }, ?_, ?_⟩
  · unfold Balanced
    rw [books_save, Books.balance_write, written, due, bal, loaded, stored_eq doc, heart]
    change h + (s.movement amount : Hearts) + (residue (user.credited (amount j)).udb.heart + 0 -
      (residue user.udb.heart + ((amount j).toInt : Hearts))) = h + (s.movement amount : Hearts)
    rw [now]
    abel
  · change (s.db.docs id).elim 0 UserDb.nextStage ≤
      ((s.db.upsert (user.credited (amount j)).udb).docs id).elim 0 UserDb.nextStage
    rw [doc, written]
    change d.nextStage ≤ user.udb.nextStage
    rw [stage]
    exact UInt32.le_refl _

/-! ## Runs -/

/-- **One step.** A step that is `Unlost` keeps the books. -/
theorem step_next {a : WriterStep κ γ} (sane : s.Sane id) (bal : s.Balanced cv id amount h) (topUp : s.NoTopUp id a)
    (unlost : s.Unlost cv id amount a) (run : step cv id amount s a = some t) : Next cv id amount h s t := by
  cases a with
  | test k =>
    simp only [step] at run
    split at run
    · next head =>
      split at run
      · cases run
        exact .still sane bal (.inl head) (.inr rfl) rfl rfl rfl rfl
      · cases run
    · cases run
  | find k m c =>
    simp only [step] at run
    split at run
    · next d select doc =>
      split at run
      · next login =>
        cases run
        exact find_next sane bal select doc (topUp d doc) login.1 login.2.1 login.2.2
      · cases run
    · cases run
  | login k =>
    simp only [step] at run
    split at run
    · next m c d found =>
      cases run
      exact login_next sane bal found
    · cases run
  | body k m =>
    simp only [step] at run
    split at run
    · next select =>
      split at run
      · cases run
      · next later =>
        split at run
        · cases run
          exact .still sane bal (.inr select) (.inl rfl) rfl rfl rfl rfl
        · next small =>
          cases run
          exact call_next sane bal select later unlost.1 unlost.2 small
    · cases run
  | store k =>
    simp only [step] at run
    split at run
    · next m u ran ret storing =>
      cases run
      exact store_next sane bal storing unlost
    · cases run
  | imsg k =>
    simp only [step] at run
    split at run
    · next v rest select ichan =>
      cases run
      exact imsg_next sane bal select ichan
    · cases run
  | nilMsg k =>
    simp only [step] at run
    split at run
    · next select =>
      cases run
      exact .still sane bal (.inr select) (.inl rfl) rfl rfl rfl rfl
    · cases run
  | timeout k =>
    simp only [step] at run
    split at run
    · next select =>
      cases run
      exact .still sane bal (.inr select) (.inl rfl) rfl rfl rfl rfl
    · cases run
  | readError k =>
    cases run
    exact readError_next sane bal
  | leave k =>
    simp only [step] at run
    split at run
    · next head =>
      split at run
      · cases run
      · cases run
        exact leave_next sane bal head unlost
    · cases run
  | lookup j =>
    simp only [step] at run
    split at run
    · next idle =>
      cases run
      exact lookup_next sane bal idle
    · cases run
  | send j =>
    simp only [step] at run
    split at run
    · next k sending =>
      split at run
      · cases run
        exact send_next sane bal sending (unlost k sending)
      · cases run
    · cases run
  | load j c =>
    simp only [step] at run
    split at run
    · next loading =>
      obtain ⟨user, load, rfl⟩ := Option.map_eq_some_iff.1 run
      exact load_next sane bal loading load
    · cases run
  | save j =>
    simp only [step] at run
    split at run
    · next user loaded =>
      cases run
      exact save_next sane bal loaded (unlost user loaded)
    · cases run

omit [DecidableEq κ] [DecidableEq γ] [Fintype κ] [Fintype γ] in
theorem start_sane {db : Collection} {d : UserDb} (doc : db.docs id = some d) : (start db : Writers κ γ).Sane id where
  doc := ⟨d, doc⟩
  conn k :=
    { self := rfl
      account := fun ready => by cases ready
      out := fun _ => ⟨rfl, rfl⟩
      found := fun m t e found => by cases found }
  entry k here := by cases here
  sending j k here := by cases here
  loaded j user here := by cases here

omit [DecidableEq κ] [DecidableEq γ] in
/-- At the start the books are those of the document. -/
theorem start_balanced {db : Collection} {d : UserDb} (doc : db.docs id = some d) :
    (start db : Writers κ γ).Balanced cv id amount (residue d.heart) := by
  have cell : (start db : Writers κ γ).stored id = residue d.heart := stored_eq doc
  have conns : ∀ k, ((start db : Writers κ γ).conns k).due cv = 0 := by
    intro k
    rw [due_idle (.inl rfl)]
    exact unsaved_out rfl
  have calls : ∀ j, ((start db : Writers κ γ).calls j).due (amount j) = ((amount j).toInt : Hearts) := fun j => rfl
  unfold Balanced books Books.balance movement
  dsimp only
  rw [Fintype.sum_sum_type]
  simp only [Sum.elim_inl, Sum.elim_inr, cell, conns, calls]
  simp [start]

omit [DecidableEq κ] [DecidableEq γ] [Fintype κ] [Fintype γ] in
/-- At the end nothing is owed. -/
theorem Finished.settled (finished : s.Finished) (i : κ ⊕ γ) : (s.books cv id amount).due i = 0 := by
  cases i with
  | inl k =>
    change (s.conns k).due cv = 0
    unfold Conn.due
    rw [finished.1 k]
  | inr j =>
    change (s.calls j).due (amount j) = 0
    rw [finished.2 j]
    rfl

variable (cv amount id) in
/-- The stored `NextStage` is not lowered by the step. -/
def Rises (s : Writers κ γ) (a : WriterStep κ γ) : Prop :=
  ∀ t, step cv id amount s a = some t →
    ∀ d, s.db.docs id = some d → ∀ e, t.db.docs id = some e → d.nextStage ≤ e.nextStage

omit [Fintype κ] [Fintype γ] in
instance (s : Writers κ γ) : DecidablePred (s.Rises cv id amount) := fun a =>
  inferInstanceAs (Decidable (∀ t, step cv id amount s a = some t →
    ∀ d, s.db.docs id = some d → ∀ e, t.db.docs id = some e → d.nextStage ≤ e.nextStage))

/-- **No lost update.** In a run whose steps are all `Unlost` the stored stage
never goes down, and once all connections are closed and all calls have
returned, the stored balance is the first one, plus all credits, less all
charges. -/
theorem no_lost_update (cv : FloatConv) (id : String) (amount : γ → Int64) (db : Collection) (d₀ : UserDb)
    (as : List (WriterStep κ γ)) (u : Writers κ γ) (doc : db.docs id = some d₀)
    (run : exec (step cv id amount) (start db) as = some u)
    (topUp : Along (step cv id amount) (NoTopUp id) (start db) as)
    (unlost : Along (step cv id amount) (Unlost cv id amount) (start db) as) :
    Along (step cv id amount) (Rises cv id amount) (start db) as ∧
      (u.Finished → 0 ≤ d₀.heart.toNat + u.movement amount → d₀.heart.toNat + u.movement amount < 2 ^ 32 →
        ∃ d, u.db.docs id = some d ∧ (d.heart.toNat : ℤ) = d₀.heart.toNat + u.movement amount) := by
  have both : Along (step cv id amount) (fun s a => s.NoTopUp id a ∧ s.Unlost cv id amount a) (start db) as :=
    fun bs a t pre run => ⟨topUp bs a t pre run, unlost bs a t pre run⟩
  have keep : ∀ (s : Writers κ γ) a t, s.Sane id ∧ s.Balanced cv id amount (residue d₀.heart) →
      s.NoTopUp id a ∧ s.Unlost cv id amount a → step cv id amount s a = some t →
      t.Sane id ∧ t.Balanced cv id amount (residue d₀.heart) := by
    intro s a t inv cond here
    have next := step_next inv.1 inv.2 cond.1 cond.2 here
    exact ⟨next.sane, next.balanced⟩
  have init : (start db : Writers κ γ).Sane id ∧ (start db : Writers κ γ).Balanced cv id amount (residue d₀.heart) :=
    ⟨start_sane doc, start_balanced doc⟩
  constructor
  · refine along_inv (T := Rises cv id amount) keep ?_ init both
    intro s a inv cond t here d old e new
    have rise := (step_next inv.1 inv.2 cond.1 cond.2 here).rise
    unfold stage at rise
    rw [old, new] at rise
    exact rise
  · intro finished lo hi
    obtain ⟨sane, balanced⟩ := exec_inv keep init both run
    obtain ⟨d, now⟩ := sane.doc
    refine ⟨d, now, toNat_of_residue ?_ lo hi⟩
    have cell : (u.books cv id amount).cell = residue d.heart := stored_eq now
    rw [← cell, ← Books.balance_settled finished.settled, balanced, residue]
    push_cast
    rfl

end
end Writers

/-! ## Three histories -/

/-- A connection logs in as the user. -/
def enters {κ γ : Type} (k : κ) : List (WriterStep κ γ) :=
  [.test k, .find k (.request 1 "u" []) ⟨0, 0, 0⟩, .login k, .store k]

/-- It makes one request. -/
def requests {κ γ : Type} (k : κ) (m : Msg) : List (WriterStep κ γ) := [.test k, .body k m, .store k]

/-- It takes a value from its channel. -/
def receives {κ γ : Type} (k : κ) : List (WriterStep κ γ) := [.test k, .imsg k]

/-- It ends. -/
def leaves {κ γ : Type} (k : κ) : List (WriterStep κ γ) := [.readError k, .leave k]

/-- A call finds the user online and sends. -/
def sends {κ γ : Type} (j : γ) : List (WriterStep κ γ) := [.lookup j, .send j]

/-- `StartPlay` of the first stage. -/
def startFirst : Msg := .request 2 "u" [("stageid", .num (.ofUInt32 1))]

/-- `EndPlay` of the first stage, passed. -/
def endFirst : Msg := .request 3 "u" [("stageid", .num (.ofUInt32 1)), ("pass", .bool true)]

/-- A user logs in, gets hearts from a call and plays. -/
def played : List (WriterStep Unit Unit) := enters () ++ sends () ++ receives () ++ requests () startFirst ++ leaves ()

/-- The same without the play. -/
def unplayed : List (WriterStep Unit Unit) := enters () ++ sends () ++ receives () ++ leaves ()

/-- Of two connections of one user, one passes a stage and then the other plays. -/
def stale : List (WriterStep Bool Empty) :=
  enters false ++ enters true ++ requests false endFirst ++ requests true startFirst ++ leaves false ++ leaves true

section
variable {κ γ : Type} [DecidableEq κ] [DecidableEq γ] [Fintype κ] [Fintype γ]

/-- What a run on the document `returning` shows of its last state: whether it
is finished, the stored balance, and the movements. -/
def lastBooks (amount : γ → Int64) (as : List (WriterStep κ γ)) : Option (Bool × Option UInt32 × ℤ) :=
  (exec (Writers.step amd64 "u" amount) (Writers.start (emptyDb.upsert returning)) as).map fun u =>
    (decide u.Finished, (u.db.docs "u").map UserDb.heart, u.movement amount)

theorem lastBooks_eq {amount : γ → Int64} {as : List (WriterStep κ γ)} {heart : Option UInt32} {n : ℤ}
    (h : lastBooks amount as = some (true, heart, n)) :
    ∃ u, exec (Writers.step amd64 "u" amount) (Writers.start (emptyDb.upsert returning)) as = some u ∧
      u.Finished ∧ (u.db.docs "u").map UserDb.heart = heart ∧ u.movement amount = n := by
  obtain ⟨u, run, shown⟩ := Option.map_eq_some_iff.1 h
  simp only [Prod.mk.injEq, decide_eq_true_eq] at shown
  exact ⟨u, run, shown⟩

end

/-- The hearts of the call are stored with the price of the play. -/
theorem no_lost_update_played :
    ∃ u, exec (Writers.step amd64 "u" fun _ => 5) (Writers.start (emptyDb.upsert returning)) played = some u ∧
      Along (Writers.step amd64 "u" fun _ => 5) (Writers.Rises amd64 "u" fun _ => 5)
        (Writers.start (emptyDb.upsert returning)) played ∧
      u.movement (fun _ => 5) = 3 ∧ ∃ d, u.db.docs "u" = some d ∧ (d.heart.toNat : ℤ) = 50 + 3 := by
  have shown : lastBooks (fun _ => 5) played = some (true, some 53, 3) := by decide +kernel
  obtain ⟨u, run, finished, -, movement⟩ := lastBooks_eq shown
  obtain ⟨rises, kept⟩ := Writers.no_lost_update amd64 "u" (fun _ => 5) (emptyDb.upsert returning) returning played u
    (by decide +kernel) run (by decide +kernel) (by decide +kernel)
  rw [movement] at kept
  exact ⟨u, run, rises, movement, kept finished (by decide) (by decide)⟩

/-- Hearts that reach a connection which does not play any more are not stored;
and a connection that has not seen the stage of another puts it back. -/
theorem update_lost :
    (∃ u, exec (Writers.step amd64 "u" fun _ => 5) (Writers.start (emptyDb.upsert returning)) unplayed = some u ∧
      Along (Writers.step amd64 "u" fun _ => 5) (Writers.NoTopUp "u") (Writers.start (emptyDb.upsert returning)) unplayed ∧
      u.Finished ∧ returning.heart.toNat + u.movement (fun _ => 5) = 55 ∧ (u.db.docs "u").map UserDb.heart = some 50) ∧
    ∃ u, exec (Writers.step amd64 "u" Empty.elim) (Writers.start (emptyDb.upsert returning)) stale = some u ∧
      Along (Writers.step amd64 "u" Empty.elim) (Writers.NoTopUp "u") (Writers.start (emptyDb.upsert returning)) stale ∧
      u.Finished ∧ ¬ Along (Writers.step amd64 "u" Empty.elim) (Writers.Rises amd64 "u" Empty.elim)
        (Writers.start (emptyDb.upsert returning)) stale := by
  constructor
  · have shown : lastBooks (fun _ => 5) unplayed = some (true, some 50, 5) := by decide +kernel
    obtain ⟨u, run, finished, heart, movement⟩ := lastBooks_eq shown
    refine ⟨u, run, by decide +kernel, finished, ?_, heart⟩
    rw [movement]
    rfl
  · have shown : lastBooks Empty.elim stale = some (true, some 48, -2) := by decide +kernel
    obtain ⟨u, run, finished, -, -⟩ := lastBooks_eq shown
    exact ⟨u, run, by decide +kernel, finished, by decide +kernel⟩

end Crazyass.Server
