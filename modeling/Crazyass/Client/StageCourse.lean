import Crazyass.Client.PlayStage

/-!
# The course of a stage

What each listener and callback of the scene does to the phase it shows. A touch
may reach its widget rounds after it began, so the phase also fixes what a touch
under way can still do. The steps that may lead off the course are the ticks
that execute an item's effect.
-/

namespace Crazyass.Client
open Sys

/-! ## The callbacks of the cards -/

namespace CardMgr
section
variable {config : StageInfo} {m m' : CardMgr}

theorem runActionByPlayCount_finished (ran : m.runActionByPlayCount config = .finished m') : m' = m.finishSubStage := by
  unfold runActionByPlayCount at ran
  split at ran
  · cases ran
  · split at ran
    · cases ran
      rfl
    · split at ran <;> cases ran

theorem runActionByPlayCount_moving (ran : m.runActionByPlayCount config = .moving m') : m'.subStage = m.subStage := by
  unfold runActionByPlayCount at ran
  split at ran
  · cases ran
  · split at ran
    · cases ran
    · split at ran <;> cases ran
      rfl

end
end CardMgr

namespace Table

/-- What a callback leaves alone: the winning card, and `sub_stage_` up to the
rounds it finishes. -/
structure Goes (s t : Table) : Prop where
  bingo : t.mgr.bingoIndex = s.mgr.bingoIndex
  started : t.log.count .started = s.log.count .started
  subStage : t.mgr.subStage - t.log.count .finished = s.mgr.subStage - s.log.count .finished

section
variable {config : StageInfo} {s t : Table} {a : CardStep} {i : ℕ} {flight : Flight}

/-- `RunActionByPlayCount` starts the next step, or the round is over. -/
theorem run_goes (config : StageInfo) (s : Table) : Goes s (run config s) := by
  unfold run
  cases ran : s.mgr.runActionByPlayCount config with
  | finished m =>
    obtain rfl := CardMgr.runActionByPlayCount_finished ran
    refine ⟨rfl, by simp, ?_⟩
    change s.mgr.subStage + 1 - ((s.log ++ [CardEvent.finished]).count CardEvent.finished : ℤ) = _
    rw [List.count_append]
    push_cast
    rw [show List.count CardEvent.finished [.finished] = 1 from rfl]
    omega
  | moving m =>
    have same := CardMgr.runActionByPlayCount_moving ran
    refine ⟨(CardMgr.runActionByPlayCount_kept config s.mgr m (.inr ran)).bingo, by simp, ?_⟩
    simp [same]
  | fault => exact ⟨rfl, rfl, rfl⟩

/-- `MoveEnd` does so too, when the last card has landed. -/
theorem moveEnd_goes (config : StageInfo) (s : Table) (i : ℕ) (flight : Flight) : Goes s (s.moveEnd config i flight) := by
  unfold moveEnd
  dsimp only
  split
  · have goes := run_goes config
      { s with mgr := { s.mgr.land i flight with showWrongTimes := 0 }, log := s.log ++ [.landed] }
    exact ⟨goes.bingo, goes.started.trans (by simp), goes.subStage.trans (by simp [CardMgr.land])⟩
  · exact ⟨rfl, rfl, rfl⟩

/-- **A callback** comes while the round is under way, and finishes it or not. -/
theorem callback_spec (interval : 0 < config.interval) (inv : Inv config s) (callback : a.isCallback = true)
    (h : step config s a = some t) : Inv config t ∧ Goes s t ∧ s.InFlight ∧
      (t.InFlight ∧ t.mgr.subStage = s.mgr.subStage ∧ ¬ s.log.count .finished < t.log.count .finished ∨
        ¬ t.InFlight ∧ t.mgr.subStage = s.mgr.subStage + 1 ∧ s.log.count .finished < t.log.count .finished) := by
  have inv' := (step_inv interval inv h).1
  have both : Goes s t ∧ s.InFlight := by
    unfold step at h
    rw [if_neg (by simp [inv.inRange])] at h
    cases a with
    | start rand shuffles => cases callback
    | restart => cases callback
    | beginEnd =>
      dsimp only at h
      split at h
      · next begun =>
        cases h
        have goes := run_goes config { s with begun := false }
        exact ⟨⟨goes.bingo, goes.started, goes.subStage⟩, .inl begun⟩
      · cases h
    | moveEnd i =>
      obtain ⟨flight, found, rfl⟩ := Option.map_eq_some_iff.1 h
      exact ⟨moveEnd_goes config s i flight, .inr (List.ne_nil_of_mem (List.mem_of_getElem? found))⟩
  obtain ⟨goes, flying⟩ := both
  refine ⟨inv', goes, flying, ?_⟩
  have before := inv.books.finished
  have after := inv'.books.finished
  have started := goes.started
  have subStage := goes.subStage
  rw [if_pos flying] at before
  by_cases flying' : t.InFlight
  · rw [if_pos flying'] at after
    exact .inl ⟨flying', by omega, by omega⟩
  · rw [if_neg flying'] at after
    exact .inr ⟨flying', by omega, by omega⟩

end
end Table

/-- `CARecvDone` does not change the stage. -/
theorem PlayScene.caRecvDone_stageid (c : PlayScene) : c.caRecvDone.1.stageid = c.stageid := by
  unfold caRecvDone
  split
  · rfl
  · split <;> rfl

namespace Play

/-- Nothing but `SendEndPlay` adds an end of play. -/
theorem step_endPlays {s t : Play} {a : PlayStep} (h : step s a = some t) (other : a ≠ .sendEndPlay) :
    t.endPlays = s.endPlays ∧ t.scene.stageid = s.scene.stageid := by
  cases a with
  | use item e =>
    cases h
    split
    · exact ⟨rfl, rfl⟩
    · exact ⟨by simp [use, send, endPlays], rfl⟩
  | sendEndPlay => exact absurd rfl other
  | tick =>
    obtain ⟨-, update⟩ := step_tick.1 h
    unfold Play.update at update
    split at update
    · cases update
      exact ⟨rfl, rfl⟩
    · cases update
      exact ⟨rfl, rfl⟩
    · cases update
      exact ⟨rfl, rfl⟩
    · obtain rfl := Option.some.inj update
      exact ⟨rfl, s.scene.caRecvDone_stageid⟩
    · cases update
  | lapse =>
    obtain ⟨-, rfl⟩ := step_lapse.1 h
    exact ⟨rfl, rfl⟩
  | reply i errCode =>
    obtain ⟨r, -, -, rfl⟩ := step_reply.1 h
    unfold receive
    dsimp only
    split
    · refine ⟨rfl, ?_⟩
      unfold PlayScene.caRecv
      split <;> rfl
    · exact ⟨rfl, rfl⟩

/-- Every `cmd` 3 that is sent is counted. -/
theorem endPlays_send (s : Play) : (s.send .endPlay).endPlays = s.endPlays + 1 := by
  simp [send, endPlays]

end Play

/-! ## The clothes -/

/-- The piece of round `k`. -/
theorem btnName_take {k : ℕ} (small : k < 4) :
    ∃ c, btnName[k]? = some c ∧ btnName.take (k + 1) = btnName.take k ++ [c] ∧ c ∉ btnName.take k := by
  interval_cases k <;> exact ⟨_, rfl, rfl, by decide⟩

/-- The clothes off tell how many they are. -/
theorem take_inj {j k : ℕ} (hj : j ≤ 4) (hk : k ≤ 4) (same : btnName.take j = btnName.take k) : j = k := by
  have length := congrArg List.length same
  rw [List.length_take, List.length_take, show btnName.length = 4 from rfl] at length
  omega

namespace StagePhase

variable {p q : StagePhase} {k : ℕ} {w : Bool}

theorem isReady_iff : p.isReady = true ↔ ∃ k, p = ready k := by cases p <;> simp [isReady]

theorem isShuffling_iff : p.isShuffling = true ↔ ∃ k, p = shuffling k := by cases p <;> simp [isShuffling]

theorem isChoosing_iff : p.isChoosing = true ↔ ∃ k, p = choosing k := by cases p <;> simp [isChoosing]

/-- Without a result there is no banner. -/
theorem banner_eq_none (unknown : p.result = none) : p.banner = none := by
  cases p with
  | won | lost => cases unknown
  | _ => rfl

/-- There are four pieces to take off. -/
theorem undressed_le (valid : p.Valid) : p.undressed ≤ 4 := by
  cases p with
  | cleared => exact le_rfl
  | _ => exact Nat.le_of_lt valid

/-- There are four pieces to touch. -/
theorem loosened_le (valid : p.Valid) : p.loosened ≤ 4 := by
  cases p with
  | undressing => exact valid
  | cleared => exact le_rfl
  | _ => exact Nat.le_of_lt valid

/-- A piece is loose and not off only while it is being taken off. -/
theorem loose {c : Clothes} (valid : p.Valid) (loose : c ∈ btnName.take p.loosened) (on : c ∉ btnName.take p.undressed) :
    ∃ k, p = undressing k ∧ k < 4 ∧ btnName[k]? = some c ∧ btnName.take (k + 1) = btnName.take k ++ [c] := by
  cases p with
  | undressing k =>
    obtain ⟨d, found, next, -⟩ := btnName_take valid
    change c ∈ btnName.take (k + 1) at loose
    rw [next] at loose
    rcases List.mem_append.1 loose with old | new
    · exact absurd old on
    · rw [List.mem_singleton.1 new]
      exact ⟨k, rfl, valid, found, next⟩
  | _ => exact absurd loose on

end StagePhase

namespace PlayStage
section
variable {config : StageInfo} {s t : PlayStage} {p q : StagePhase} {w : Widget} {e : Touch} {o : Outside} {k : ℕ}

/-- The phase of a scene after a change of what no phase looks at. -/
theorem Shows.congr (shows : Shows s p) (subStage : t.table.mgr.subStage = s.table.mgr.subStage)
    (inFlight : t.table.InFlight ↔ s.table.InFlight) (touchable : t.touchable = s.touchable)
    (startPlay : t.startPlay = s.startPlay) (items : t.items = true → s.items = true)
    (panel : t.gone = false → s.gone = false ∧ t.panel.banner = s.panel.banner)
    (listening : t.listening = s.listening) (off : t.off = s.off) (endPlays : t.play.endPlays = s.play.endPlays)
    (stageids : t.stageids = s.stageids) (stageid : t.play.scene.stageid = s.play.scene.stageid) (pop : t.pop = s.pop)
    (result : t.subStageId = s.subStageId ∧ t.subWin = s.subWin ∧ t.allFinish = s.allFinish) (held : t.held = s.held) :
    Shows t p where
  valid := shows.valid
  subStage := subStage.trans shows.subStage
  inFlight := inFlight.trans shows.inFlight
  touchable := touchable.trans shows.touchable
  startPlay := startPlay.trans shows.startPlay
  items shown := shows.items (items shown)
  panel here := (panel here).2.trans (shows.panel (panel here).1)
  listening := listening.trans shows.listening
  off := off.trans shows.off
  endPlays := endPlays.trans shows.endPlays
  stageids := by rw [stageids, stageid]; exact shows.stageids
  pop := pop.trans shows.pop
  result k w known := by rw [result.1, result.2.1, result.2.2]; exact shows.result k w known
  tapped touched unknown := by rw [result.1, result.2.1]; exact shows.tapped (held ▸ touched) unknown
  pressed touched := startPlay.trans (shows.pressed (held ▸ touched))
  released c gone := by rw [held]; exact shows.released c (off ▸ gone)

/-- A request that is not the end of the play does not show. -/
theorem Shows.withPlay (shows : Shows s p) {a : PlayStep} {play : Play} (h : s.play.step a = some play)
    (other : a ≠ .sendEndPlay) : Shows { s with play } p :=
  shows.congr rfl Iff.rfl rfl rfl id (fun here => ⟨here, rfl⟩) rfl rfl (Play.step_endPlays h other).1 rfl
    (Play.step_endPlays h other).2 rfl ⟨rfl, rfl, rfl⟩ rfl

/-- What has been left shows what it did. -/
theorem Shows.leave (shows : Shows s p) : Shows s.leave p :=
  shows.congr rfl Iff.rfl rfl rfl id nofun rfl rfl rfl rfl rfl rfl ⟨rfl, rfl, rfl⟩ rfl

/-- A touch of the panel begins while it shows a result. -/
theorem Shows.accepts_panel (shows : Shows s p) (here : s.gone = false) (accepts : s.Accepts .panel) : p.result ≠ none := by
  intro unknown
  have banner := shows.panel here
  rw [StagePhase.banner_eq_none unknown] at banner
  rcases accepts with win | lose
  · rw [win] at banner
    cases banner
  · rw [lose] at banner
    cases banner

/-- A touch that begins is taken by what accepts it. -/
theorem proceeds_began (proceeds : s.Proceeds w .began) : s.Accepts w := by
  unfold Proceeds at proceeds
  rw [if_pos rfl] at proceeds
  exact proceeds.1

/-- A touch that goes on is taken by what it began on. -/
theorem proceeds_held (proceeds : s.Proceeds w e) (later : e ≠ .began) : w ∈ s.held := by
  unfold Proceeds at proceeds
  rwa [if_neg later] at proceeds

/-- A touch that begins or ends. -/
theorem Shows.hold (shows : Shows s p) (here : s.gone = false) (proceeds : s.Proceeds w e) : Shows (s.hold w e) p := by
  have fewer : ∀ {v}, v ∈ s.held.filter (· ≠ w) → v ∈ s.held := fun mem => List.mem_of_mem_filter mem
  cases e with
  | began =>
    have accepts := proceeds_began proceeds
    refine { shows with tapped := ?_, pressed := ?_, released := ?_ }
    · intro touched unknown
      rcases List.mem_cons.1 touched with rfl | old
      · exact absurd unknown (shows.accepts_panel here accepts)
      · exact shows.tapped old unknown
    · intro touched
      rcases List.mem_cons.1 touched with rfl | old
      · exact accepts
      · exact shows.pressed old
    · intro c gone touched
      rcases List.mem_cons.1 touched with rfl | old
      · exact accepts gone
      · exact shows.released c gone old
  | moved => exact shows
  | ended | canceled =>
    exact { shows with
      tapped := fun touched => shows.tapped (fewer touched)
      pressed := fun touched => shows.pressed (fewer touched)
      released := fun c gone touched => shows.released c gone (fewer touched) }

/-! ### The panel and the clothes -/

/-- The button of a sub-stage is that of the table. -/
theorem button_eq {c : Clothes} (id : s.subStageId = k) (found : btnName[k]? = some c) : s.button = some c := by
  unfold button
  rw [id, if_pos (Int.natCast_nonneg k), Int.toNat_natCast]
  exact found

/-- `TakeOff` for a piece that is loose already changes nothing. -/
theorem takeOff_known {c : Clothes} (button : s.button = some c) (loose : c ∈ s.listening) : s.takeOff = s := by
  unfold takeOff
  rw [button]
  dsimp only
  rw [if_pos loose]

/-- A piece that is taken off can be touched from then on. -/
theorem takeOff_new {c : Clothes} (button : s.button = some c) (tight : c ∉ s.listening) :
    s.takeOff = { s with listening := s.listening ++ [c] } := by
  unfold takeOff
  rw [button]
  dsimp only
  rw [if_neg tight]

/-- The panel put away in a phase that shows no result, or by a scene that goes. -/
theorem Shows.withPanel (shows : Shows s p) (quiet : p.banner = none) (panel : ResultPanel) (plain : panel.banner = none) :
    Shows { s with panel } p :=
  { shows with panel := fun _ => plain.trans quiet.symm }

/-- **`onPanelSecond`**, whose touch may have begun in an earlier round. -/
theorem Shows.onPanelSecond (shows : Shows s p)
    (tapped : p.result = none → 0 < p.undressed ∧ s.subStageId = p.undressed - 1 ∧ s.subWin = true) :
    (s.onPanelSecond e).table = s.table ∧ ∃ q, (q = p ∨ p.Next q) ∧ Shows (s.onPanelSecond e) q := by
  unfold PlayStage.onPanelSecond
  split
  · exact ⟨rfl, p, .inl rfl, shows⟩
  · -- a piece that is loose already is asked for again
    have idle : ∀ c, btnName[s.subStageId.toNat]? = some c → 0 ≤ s.subStageId → s.subWin = true → c ∈ s.listening →
        p.banner = none →
          let t := if s.subWin = true then takeOff { s with panel := .normal } else PlayStage.leave { s with panel := .normal }
          t.table = s.table ∧ ∃ q, (q = p ∨ p.Next q) ∧ Shows t q := by
      intro c found positive won loose quiet t
      have known : t = { s with panel := .normal } := by
        change (if _ then _ else _) = _
        rw [if_pos won, takeOff_known (s := { s with panel := .normal }) (c := c) ?_ loose]
        exact (if_pos positive).trans found
      rw [known]
      exact ⟨rfl, p, .inl rfl, shows.withPanel quiet .normal rfl⟩
    have small := StagePhase.undressed_le shows.valid
    dsimp only
    cases p with
    | ready k | shuffling k | choosing k =>
      obtain ⟨more, id, won⟩ := tapped rfl
      change 0 < k at more
      change s.subStageId = (k : ℤ) - 1 at id
      have valid : k < 4 := shows.valid
      have last : s.subStageId.toNat = k - 1 := by omega
      obtain ⟨c, found, next, -⟩ := btnName_take (k := k - 1) (by omega)
      refine idle c (last ▸ found) (by omega) won ?_ rfl
      rw [shows.listening]
      change c ∈ btnName.take k
      rw [← Nat.sub_add_cancel more, next]
      exact List.mem_append_right _ (List.mem_singleton.2 rfl)
    | won k =>
      obtain ⟨id, won, all⟩ := shows.result k true rfl
      obtain ⟨c, found, next, new⟩ := btnName_take shows.valid
      have tight : c ∉ s.listening := by rw [shows.listening]; exact new
      rw [if_pos won, takeOff_new (s := { s with panel := .normal }) (button_eq id found) tight]
      refine ⟨rfl, .undressing k, .inr (.loosen k), ?_⟩
      refine { shows with items := fun shown => ?_, panel := fun _ => rfl, listening := ?_, tapped := nofun }
      · cases shows.items shown
      · change s.listening ++ [c] = btnName.take (k + 1)
        rw [next, shows.listening]
        rfl
    | lost k =>
      obtain ⟨-, lost, -⟩ := shows.result k false rfl
      rw [if_neg (by rw [lost]; decide)]
      exact ⟨rfl, .lost k, .inl rfl, { shows with panel := nofun }⟩
    | undressing k =>
      obtain ⟨id, won, -⟩ := shows.result k true rfl
      obtain ⟨c, found, next, -⟩ := btnName_take shows.valid
      refine idle c ?_ (by omega) won ?_ rfl
      · rw [id, Int.toNat_natCast]
        exact found
      · rw [shows.listening]
        change c ∈ btnName.take (k + 1)
        rw [next]
        exact List.mem_append_right _ (List.mem_singleton.2 rfl)
    | cleared =>
      obtain ⟨id, won, -⟩ := shows.result 3 true rfl
      refine idle .panty ?_ (by omega) won ?_ rfl
      · rw [id]
        rfl
      · rw [shows.listening]
        decide

/-- **`onBtnClothes`**, for a piece that is loose and not off. -/
theorem Shows.onBtnClothes (shows : Shows s p) {c : Clothes} (loose : c ∈ s.listening) (on : c ∉ s.off)
    (released : e = .ended → .clothes c ∉ s.held) :
    (s.onBtnClothes e).table = s.table ∧ ∃ q, (q = p ∨ p.Next q) ∧ Shows (s.onBtnClothes e) q := by
  obtain ⟨k, rfl, small, found, next⟩ := StagePhase.loose shows.valid (shows.listening ▸ loose) (shows.off ▸ on)
  obtain ⟨current, won, all⟩ := shows.result k true rfl
  have same : ∀ pos btnStartPos, Shows { s with pos, btnStartPos } (.undressing k) := fun pos btnStartPos =>
    shows.congr rfl Iff.rfl rfl rfl id (fun here => ⟨here, rfl⟩) rfl rfl rfl rfl rfl rfl ⟨rfl, rfl, rfl⟩ rfl
  have off : s.off ++ [c] = btnName.take (k + 1) := by
    rw [next, shows.off]
    rfl
  unfold PlayStage.onBtnClothes
  rw [button_eq current found]
  dsimp only
  cases e with
  | began => exact ⟨rfl, _, .inl rfl, same s.pos (s.pos c)⟩
  | moved | canceled => exact ⟨rfl, _, .inl rfl, shows⟩
  | ended =>
    have gone : ∀ d ∈ s.off ++ [c], .clothes d ∉ s.held := by
      intro d mem
      rcases List.mem_append.1 mem with old | new
      · exact shows.released d old
      · rw [List.mem_singleton.1 new]
        exact released rfl
    dsimp only
    split
    · exact ⟨rfl, _, .inl rfl, same _ s.btnStartPos⟩
    · split
      · next last =>
        rw [all, decide_eq_true_iff] at last
        subst last
        refine ⟨rfl, .cleared, .inr .finish, ?_⟩
        refine { shows with
          valid := trivial, off, stageids := ?_, pop := rfl, released := gone, tapped := nofun, result := ?_ }
        · change s.stageids ++ [s.play.scene.stageid + 1] = _
          rw [shows.stageids]
          rfl
        · intro j w same
          cases same
          exact ⟨current, won, all⟩
      · next more =>
        rw [all, decide_eq_true_iff] at more
        refine ⟨rfl, .ready (k + 1), .inr (.undress (by omega)), ?_⟩
        refine { shows with
          valid := ?_, startPlay := rfl, off, endPlays := ?_, released := gone, result := nofun, tapped := ?_,
          pressed := fun _ => rfl, listening := shows.listening, panel := shows.panel }
        · change k + 1 < 4
          omega
        · exact shows.endPlays.trans (if_neg more)
        · rintro - -
          exact ⟨Nat.succ_pos k, by rw [current]; simp [StagePhase.undressed], won⟩

/-! ### Rounds -/

/-- What the scene keeps while it flows. -/
structure Inv (config : StageInfo) (s : PlayStage) : Prop where
  table : s.table.Inv config
  bingo : s.table.mgr.bingoIndex < config.cardCount
  rounds : s.table.mgr.subStage ≤ s.table.log.count .finished

/-- The scene where `StartSubStage` may be called for round `k`. -/
structure Ready (config : StageInfo) (s : PlayStage) (k : ℕ) : Prop where
  table : s.table.Inv config
  rounds : s.table.mgr.subStage ≤ s.table.log.count .finished
  still : ¬ s.table.InFlight
  small : k < 4
  subStage : s.table.mgr.subStage = k
  startPlay : s.startPlay = false
  items : s.items = false
  listening : s.listening = btnName.take k
  off : s.off = btnName.take k
  endPlays : s.play.endPlays = 0
  stageids : s.stageids = []
  pop : s.pop = false
  tapped : .panel ∈ s.held → 0 < k ∧ s.subStageId = k - 1 ∧ s.subWin = true
  pressed : .startPlay ∉ s.held
  released : ∀ c ∈ s.off, .clothes c ∉ s.held

/-- **`StartSubStage`** starts a round. -/
theorem Ready.start (ready : Ready config s k) (interval : 0 < config.interval) (enough : 0 < config.cardCount)
    (h : s.startSubStage config o = some t) : Inv config t ∧ Shows t (.shuffling k) := by
  obtain ⟨begun, empty⟩ := not_or.1 ready.still
  rw [ne_eq, not_not] at empty
  have inside : 0 ≤ s.table.mgr.subStage ∧ s.table.mgr.subStage < 4 := by
    have small := ready.small
    rw [ready.subStage]
    omega
  have same : { s.table.mgr with flights := [] } = s.table.mgr := by rw [← empty]
  unfold startSubStage at h
  rw [if_pos inside, same] at h
  obtain ⟨mgr, started, rfl⟩ := Option.map_eq_some_iff.1 h
  -- the cards take the step that the shuffling knows
  have taken : s.table.step config (.start o.rand o.shuffles) =
      some { s.table with mgr, begun := true, log := s.table.log ++ [.started] } := by
    unfold Table.step
    rw [if_neg (by simp [ready.table.inRange])]
    dsimp only
    rw [if_neg (not_or.2 ⟨ready.still, not_not.2 inside⟩), started]
    rfl
  have laid := (CardMgr.startSubStage_laid enough started).1
  have subStage : mgr.subStage = s.table.mgr.subStage := by
    obtain ⟨plays, -, made⟩ := Option.bind_eq_some_iff.1 started
    obtain ⟨⟨all, lines⟩, -, rfl⟩ := Option.map_eq_some_iff.1 made
    rfl
  refine ⟨⟨(Table.step_inv interval ready.table taken).1, laid.bingo, ?_⟩, ?_⟩
  · change mgr.subStage ≤ ((s.table.log ++ [CardEvent.started]).count CardEvent.finished : ℤ)
    simpa [subStage] using ready.rounds
  exact {
    valid := ready.small
    subStage := subStage.trans ready.subStage
    inFlight := iff_of_true (.inl rfl) rfl
    touchable := rfl
    startPlay := ready.startPlay
    items := fun shown => absurd (ready.items.symm.trans shown) (by decide)
    panel := fun _ => rfl
    listening := ready.listening
    off := ready.off
    endPlays := ready.endPlays
    stageids := ready.stageids
    pop := ready.pop
    result := nofun
    tapped := fun touched _ => ready.tapped touched
    pressed := fun touched => absurd touched ready.pressed
    released := ready.released }

/-- The scene before round `k`, with its button disabled. -/
theorem Shows.ready (shows : Shows s (.ready k)) (inv : Inv config s) (pressed : .startPlay ∉ s.held) :
    Ready config { s with startPlay := false } k where
  table := inv.table
  rounds := inv.rounds
  still flying := by cases shows.inFlight.1 flying
  small := shows.valid
  subStage := shows.subStage
  startPlay := rfl
  items := by
    cases items : s.items with
    | false => rfl
    | true => cases shows.items items
  listening := shows.listening
  off := shows.off
  endPlays := shows.endPlays
  stageids := shows.stageids
  pop := shows.pop
  tapped touched := shows.tapped touched rfl
  pressed := pressed
  released := shows.released

/-- **`ReStartSubStage`** in a phase from which a replay may start the round again. -/
theorem Shows.replay (shows : Shows s p) (inv : Inv config s) (interval : 0 < config.interval)
    (rounds : p.subStage = k + 1) (undressed : p.undressed = k) (loosened : p.loosened = k) (still : p.isShuffling = false)
    (waits : p.isReady = false) (endPlays : p.endPlays = 0) (playing : p ≠ .cleared)
    (tapped : .panel ∈ s.held → p.result = none) (small : k < 4) {play : Play} (sent : play.endPlays = s.play.endPlays) :
    Ready config { s with play, items := false }.reStartSubStage k := by
  have still : ¬ s.table.InFlight := fun flying => by
    rw [shows.inFlight.1 flying] at still
    cases still
  have taken : s.table.step config .restart = some { s.table with mgr := s.table.mgr.reStartSubStage } := by
    unfold Table.step
    rw [if_neg (by simp [inv.table.inRange])]
    exact if_neg still
  exact {
    table := (Table.step_inv interval inv.table taken).1
    rounds := by
      have rounds := inv.rounds
      change s.table.mgr.subStage - 1 ≤ (s.table.log.count .finished : ℤ)
      omega
    still := still
    small := small
    subStage := by
      change s.table.mgr.subStage - 1 = _
      rw [shows.subStage, rounds]
      simp
    startPlay := shows.startPlay.trans waits
    items := rfl
    listening := loosened ▸ shows.listening
    off := undressed ▸ shows.off
    endPlays := (sent.trans shows.endPlays).trans endPlays
    stageids := shows.stageids.trans (if_neg playing)
    pop := shows.pop.trans (decide_eq_false playing)
    tapped := fun touched => undressed ▸ shows.tapped touched (tapped touched)
    pressed := fun touched => by
      have on := shows.pressed touched
      rw [shows.startPlay, waits] at on
      cases on
    released := shows.released }

/-- **`OnTouch`** while the cards wait. -/
theorem Shows.onTouch (shows : Shows s (.choosing k)) (tag : ℕ) :
    ∃ q, (StagePhase.choosing k).Next q ∧ Shows (s.onTouch tag) q := by
  have small : k < 4 := shows.valid
  have rounds : s.table.mgr.subStage = k + 1 := shows.subStage
  have last : decide (s.table.mgr.subStage < 0 ∨ 4 ≤ s.table.mgr.subStage) = decide (k = 3) := by
    rw [rounds]
    apply decide_eq_decide.2
    omega
  have current : s.table.mgr.subStage - 1 = k := by omega
  have none_out : s.play.endPlays = 0 := shows.endPlays
  unfold PlayStage.onTouch subStageEnd
  dsimp only
  rw [last, current]
  cases won : (tag == s.table.mgr.bingoIndex) with
  | false =>
    refine ⟨.lost k, .lose k, ?_⟩
    rw [Bool.and_false, if_neg (by decide)]
    exact { shows with
      touchable := rfl
      items := nofun
      panel := fun _ => rfl
      result := fun j w same => by
        cases same
        exact ⟨rfl, rfl, rfl⟩
      tapped := nofun }
  | true =>
    refine ⟨.won k, .win k, ?_⟩
    have told : ∀ play : Play, play.endPlays = (StagePhase.won k).endPlays → play.scene.stageid = s.play.scene.stageid →
        Shows { s with
          touchable := false, items := false, subWin := true, subStageId := k, allFinish := decide (k = 3), panel := .win, play }
          (.won k) := fun play endPlays stageid =>
      { shows with
        touchable := rfl
        items := nofun
        panel := fun _ => rfl
        endPlays
        stageids := shows.stageids
        result := fun j w same => by
          cases same
          exact ⟨rfl, rfl, rfl⟩
        tapped := nofun }
    rw [Bool.and_true]
    split
    · next last =>
      refine told _ ?_ rfl
      rw [Play.endPlays_send, none_out, StagePhase.endPlays, if_pos (decide_eq_true_iff.1 last)]
    · next more =>
      refine told s.play ?_ rfl
      rw [none_out, StagePhase.endPlays, if_neg (by simpa using more)]

/-- A callback of the cards that has not changed anything else. -/
theorem Shows.afterRun (shows : Shows s p) (inv : Inv config s) (interval : 0 < config.interval) {a : CardStep}
    (callback : a.isCallback = true) {table : Table} (h : s.table.step config a = some table) {panel : ResultPanel}
    (plain : s.gone = false → panel.banner = none ∨ panel = s.panel) :
    Inv config { s.afterRun table with panel } ∧ ∃ q, (q = p ∨ p.Next q) ∧ Shows { s.afterRun table with panel } q := by
  obtain ⟨inv', goes, flying, effect⟩ := Table.callback_spec interval inv.table callback h
  have small : table.mgr.bingoIndex < config.cardCount := goes.bingo ▸ inv.bingo
  have rounds : table.mgr.subStage ≤ table.log.count .finished := by
    have before := inv.rounds
    have same := goes.subStage
    omega
  obtain ⟨k, rfl⟩ := StagePhase.isShuffling_iff.1 (shows.inFlight.1 flying)
  have quiet : s.gone = false → panel.banner = none := fun here => by
    rcases plain here with none_shown | rfl
    · exact none_shown
    · exact shows.panel here
  unfold PlayStage.afterRun
  rcases effect with ⟨flying', same, unfinished⟩ | ⟨still, more, finished⟩
  · rw [if_neg unfinished]
    refine ⟨⟨inv', small, rounds⟩, .shuffling k, .inl rfl, ?_⟩
    exact { shows with
      subStage := same.trans shows.subStage
      inFlight := iff_of_true flying' rfl
      panel := quiet }
  · rw [if_pos finished]
    refine ⟨⟨inv', small, rounds⟩, .choosing k, .inr (.settle k), ?_⟩
    exact { shows with
      subStage := more.trans (congrArg (· + 1) shows.subStage)
      inFlight := iff_of_false still nofun
      touchable := rfl
      items := fun _ => rfl
      panel := quiet }

/-- The invariant is about the cards alone. -/
theorem Inv.congr (inv : Inv config s) (same : t.table = s.table) : Inv config t :=
  ⟨same ▸ inv.table, same ▸ inv.bingo, same ▸ inv.rounds⟩

/-- A search that ends lets its card blink. -/
theorem showWrongCard_eq {mgr : CardMgr} {time : ℕ} (found : s.table.mgr.showWrongCard time = some mgr) :
    s.showWrongCard time = { s with table := { s.table with mgr }, blinks := s.blinks ++ [mgr.wrongIdx] } := by
  unfold PlayStage.showWrongCard
  rw [found]

/-- The cards shown or hidden by a blink or by `ShowWrongCard`. -/
theorem Inv.withMgr (inv : Inv config s) {mgr : CardMgr} (kept : mgr.bingoIndex = s.table.mgr.bingoIndex)
    (moves : mgr.movedCardNums = s.table.mgr.movedCardNums ∧ mgr.playCount = s.table.mgr.playCount ∧
      mgr.subStage = s.table.mgr.subStage ∧ mgr.flights = s.table.mgr.flights)
    (lines : mgr.allCardIndex = s.table.mgr.allCardIndex ∧ mgr.cardLines = s.table.mgr.cardLines)
    (seats : mgr.children.length = s.table.mgr.children.length ∧ ∀ c, mgr.seat c = s.table.mgr.seat c) :
    Inv config { s with table := { s.table with mgr } } := by
  obtain ⟨moved, count, rounds, flights⟩ := moves
  have flying : { s.table with mgr }.InFlight ↔ s.table.InFlight := by
    unfold Table.InFlight
    rw [flights]
  refine ⟨?_, kept ▸ inv.bingo, rounds ▸ inv.rounds⟩
  exact {
    inRange := inv.table.inRange
    lines := inv.table.lines.congr lines.1 lines.2
    drawn := fun up => by
      obtain ⟨plays, found, length⟩ := inv.table.drawn (flying.1 up)
      exact ⟨plays, by rw [rounds]; exact found, by rw [lines.2]; exact length⟩
    seated := fun started => by
      obtain ⟨final, seated⟩ := inv.table.seated started
      refine ⟨final, seats.1.trans seated.size, seated.taken, ?_, ?_, ?_⟩
      · rw [flights]
        exact seated.apart
      · rw [flights]
        exact seated.bound
      · intro card inside unmoved
        rw [seats.2]
        exact seated.still card inside (flights ▸ unmoved)
    moved := by rw [moved, flights]; exact inv.table.moved
    fresh := fun none_up => count.trans (inv.table.fresh (flights ▸ none_up))
    alone := fun begun => flights.trans (inv.table.alone begun)
    books := by simpa only [flying, flights] using inv.table.books }

/-- What a blink does to the cards does not show, and items only go away. -/
theorem Shows.withMgr (shows : Shows s p) (mgr : CardMgr) (rounds : mgr.subStage = s.table.mgr.subStage)
    (flights : mgr.flights = s.table.mgr.flights) (blinks : List ℕ) {items : Bool} (fewer : items = true → s.items = true) :
    Shows { s with table := { s.table with mgr }, blinks, items } p := by
  refine shows.congr rounds ?_ rfl rfl fewer (fun here => ⟨here, rfl⟩) rfl rfl rfl rfl rfl rfl ⟨rfl, rfl, rfl⟩ rfl
  unfold Table.InFlight
  rw [flights]

/-- Hiding a sprite leaves it in its seat. -/
theorem seat_setVisible (m : CardMgr) (card : ℕ) (visible : Bool) (c : ℕ) :
    (m.setVisible card visible).seat c = m.seat c := by
  unfold CardMgr.setVisible CardMgr.seat
  dsimp only
  rw [List.getElem?_modify]
  cases m.children[c]? with
  | none => rfl
  | some sprite =>
    dsimp only [Option.map_some]
    split <;> rfl

/-- A blink leaves the order of the cards alone. -/
theorem Inv.setVisible (inv : Inv config s) (card : ℕ) (visible : Bool) :
    Inv config { s with table := { s.table with mgr := s.table.mgr.setVisible card visible } } :=
  inv.withMgr rfl ⟨rfl, rfl, rfl, rfl⟩ ⟨rfl, rfl⟩ ⟨CardMgr.length_setVisible, seat_setVisible _ _ _⟩

/-- **`update`** at a time for the effect it executes. -/
theorem Shows.update (shows : Shows s p) (inv : Inv config s) (here : s.gone = false) (interval : 0 < config.interval)
    (careful : s.Careful (.tick o)) (h : s.update config o = some t) :
    Inv config t ∧ ∃ q, (q = p ∨ p.Next q) ∧ Shows t q := by
  obtain ⟨play, ticked, h⟩ := Option.bind_eq_some_iff.1 h
  have sent := (Play.step_endPlays ticked nofun).1
  have shows' := shows.withPlay ticked nofun
  obtain ⟨replay, finger⟩ := careful
  have enough : 0 < config.cardCount := Nat.zero_lt_of_lt inv.bingo
  split at h
  · cases h
    exact ⟨inv.congr rfl, p, .inl rfl, shows'⟩
  · next effect =>
    cases h
    have cards : s.table.mgr.allCardIndex.length = config.cardCount := by
      rw [inv.table.lines.cards.length_eq, List.length_range]
    have ends : (s.table.mgr.showWrongCard o.time).isSome :=
      (CardMgr.showWrongCard_isSome (cards ▸ inv.bingo)).2 (finger effect)
    obtain ⟨mgr, found⟩ := Option.isSome_iff_exists.1 ends
    obtain ⟨r, picked, -⟩ := CardMgr.showWrongCard_some (cards ▸ inv.bingo) found
    rw [showWrongCard_eq (s := { s with play }) found]
    subst picked
    have inv' : Inv config { s with play } := inv.congr rfl
    refine ⟨Inv.congr (inv'.withMgr ?_ ?_ ?_ ?_) rfl, p, .inl rfl, shows'.withMgr _ ?_ ?_ _ id⟩
    · rfl
    · exact ⟨rfl, rfl, rfl, rfl⟩
    · exact ⟨rfl, rfl⟩
    · exact ⟨rfl, fun _ => rfl⟩
    · rfl
    · rfl
  · next effect =>
    -- the round is started again
    have restart : ∀ k, k < 4 → p.subStage = k + 1 → p.undressed = k → p.loosened = k → p.isShuffling = false →
        p.isReady = false → p.endPlays = 0 → p ≠ .cleared → (.panel ∈ s.held → p.result = none) →
        p.Next (.shuffling k) → Inv config t ∧ ∃ q, (q = p ∨ p.Next q) ∧ Shows t q := by
      intro k small rounds undressed loosened still waits endPlays playing tapped next
      obtain ⟨inv', started⟩ := (shows.replay inv interval rounds undressed loosened still waits endPlays playing tapped small
        sent).start interval enough h
      exact ⟨inv', _, .inr next, started⟩
    rcases replay effect with waits | ⟨banner, untouched, open_⟩
    · obtain ⟨k, rfl⟩ := StagePhase.isChoosing_iff.1 (shows.touchable.symm.trans waits)
      exact restart k shows.valid rfl rfl rfl rfl rfl rfl nofun (fun _ => rfl) (.again k)
    · rw [shows.panel here] at banner
      cases p with
      | won k =>
        obtain ⟨-, won, last⟩ := shows.result k true rfl
        have more : k ≠ 3 := fun three => open_ ⟨last.trans (decide_eq_true three), won⟩
        have valid : k < 4 := shows.valid
        exact restart k valid rfl rfl rfl rfl rfl (if_neg more) nofun (fun touched => absurd touched untouched)
          (.redo (by omega))
      | lost k =>
        exact restart k shows.valid rfl rfl rfl rfl rfl rfl nofun (fun touched => absurd touched untouched) (.retry k)
      | _ => exact absurd rfl banner

/-- **A touch** keeps to the course of a stage. -/
theorem Shows.touch (shows : Shows s p) (inv : Inv config s) (here : s.gone = false) (interval : 0 < config.interval)
    (proceeds : s.Proceeds w e) (h : (s.hold w e).handle config o e w = some t) :
    Inv config t ∧ ∃ q, (q = p ∨ p.Next q) ∧ Shows t q := by
  have held := shows.hold here proceeds
  have inv' : Inv config (s.hold w e) := by cases e <;> exact inv.congr rfl
  cases w with
  | startPlay =>
    dsimp only [handle, PlayStage.onBtnStartPlay] at h
    split at h
    · cases h
      exact ⟨inv', p, .inl rfl, held⟩
    · next ended =>
      obtain rfl : e = .ended := not_not.1 ended
      split at h
      · cases h
        exact ⟨inv'.congr rfl, p, .inl rfl, held.leave⟩
      · have on := shows.pressed (proceeds_held proceeds nofun)
        obtain ⟨k, rfl⟩ := StagePhase.isReady_iff.1 (shows.startPlay.symm.trans on)
        have enough : 0 < config.cardCount := Nat.zero_lt_of_lt inv.bingo
        obtain ⟨inv'', started⟩ := (held.ready inv' (by simp [PlayStage.hold])).start interval enough h
        exact ⟨inv'', _, .inr (.start k), started⟩
  | panel =>
    cases h
    have tapped : p.result = none → 0 < p.undressed ∧ s.subStageId = p.undressed - 1 ∧ s.subWin = true := by
      intro unknown
      refine shows.tapped (proceeds_held proceeds ?_) unknown
      rintro rfl
      exact shows.accepts_panel here (proceeds_began proceeds) unknown
    have same : (s.hold .panel e).subStageId = s.subStageId ∧ (s.hold .panel e).subWin = s.subWin := by
      cases e <;> exact ⟨rfl, rfl⟩
    obtain ⟨table, q, course, shows'⟩ := held.onPanelSecond (e := e) (by rw [same.1, same.2]; exact tapped)
    exact ⟨inv'.congr table, q, course, shows'⟩
  | clothes c =>
    cases h
    split
    · next loose =>
      have same : (s.hold (.clothes c) e).off = s.off := by cases e <;> rfl
      have on : c ∉ s.off := by
        by_cases began : e = .began
        · subst began
          exact proceeds_began proceeds
        · exact fun gone => shows.released c gone (proceeds_held proceeds began)
      have released : e = .ended → Widget.clothes c ∉ (s.hold (.clothes c) e).held := by
        rintro rfl
        simp [PlayStage.hold]
      obtain ⟨table, q, course, shows'⟩ := held.onBtnClothes loose (same ▸ on) released
      exact ⟨inv'.congr table, q, course, shows'⟩
    · exact ⟨inv', p, .inl rfl, held⟩
  | item x =>
    dsimp only [handle] at h
    obtain ⟨play, used, rfl⟩ := Option.map_eq_some_iff.1 h
    exact ⟨inv'.congr rfl, p, .inl rfl, held.withPlay used nofun⟩
  | pop =>
    cases h
    unfold PlayStage.onPopBack
    split
    · exact ⟨inv'.congr rfl, p, .inl rfl, held.leave⟩
    · exact ⟨inv', p, .inl rfl, held⟩
  | back =>
    cases h
    unfold PlayStage.onBtnBack
    split
    · exact ⟨inv', p, .inl rfl, held⟩
    · exact ⟨inv'.congr rfl, p, .inl rfl, held.leave⟩

/-- **`onBtnMoveClothes`** moves the piece that is loose. -/
theorem Shows.drag (shows : Shows s p) {c : Clothes} (touched : .clothes c ∈ s.held) (loose : c ∈ s.listening)
    (there : ℤ × ℤ) : (s.onBtnMoveClothes there).table = s.table ∧ Shows (s.onBtnMoveClothes there) p := by
  have on : c ∉ s.off := fun gone => shows.released c gone touched
  obtain ⟨k, rfl, -, found, -⟩ := StagePhase.loose shows.valid (shows.listening ▸ loose) (shows.off ▸ on)
  obtain ⟨current, -⟩ := shows.result k true rfl
  unfold PlayStage.onBtnMoveClothes
  rw [button_eq current found]
  refine ⟨rfl, ?_⟩
  exact shows.congr rfl Iff.rfl rfl rfl id (fun here => ⟨here, rfl⟩) rfl rfl rfl rfl rfl rfl ⟨rfl, rfl, rfl⟩ rfl

/-- Nothing happens after a read out of range, or once the scene is gone. -/
theorem step_running {a : PlayStageStep} (h : step config s a = some t) : s.table.fault = false ∧ s.gone = false := by
  unfold step at h
  split at h
  · cases h
  · next running => simpa using running

/-- **One step** at a time for its effect keeps to the course of a stage. -/
theorem step_flows {a : PlayStageStep} (interval : 0 < config.interval) (inv : Inv config s) (shows : Shows s p)
    (careful : s.Careful a) (h : step config s a = some t) : Inv config t ∧ ∃ q, (q = p ∨ p.Next q) ∧ Shows t q := by
  obtain ⟨fine, here⟩ := step_running h
  unfold step at h
  rw [if_neg (by simp [fine, here])] at h
  cases a with
  | touch w e o =>
    dsimp only at h
    split at h
    · next proceeds => exact shows.touch inv here interval proceeds h
    · cases h
  | drag c there =>
    dsimp only at h
    split at h
    · next touched =>
      cases h
      split
      · next loose =>
        obtain ⟨table, shows'⟩ := shows.drag touched loose there
        exact ⟨inv.congr table, p, .inl rfl, shows'⟩
      · exact ⟨inv, p, .inl rfl, shows⟩
    · cases h
  | card tag =>
    dsimp only at h
    split at h
    · next touched =>
      cases h
      obtain ⟨k, rfl⟩ := StagePhase.isChoosing_iff.1 (shows.touchable.symm.trans touched.1)
      obtain ⟨q, next, shows'⟩ := shows.onTouch tag
      refine ⟨inv.congr ?_, q, .inr next, shows'⟩
      unfold PlayStage.onTouch subStageEnd
      dsimp only
      split <;> rfl
    · cases h
  | beginEnd =>
    obtain ⟨table, called, rfl⟩ := Option.map_eq_some_iff.1 h
    exact shows.afterRun inv interval rfl called fun _ => .inl rfl
  | moveEnd i =>
    obtain ⟨table, called, rfl⟩ := Option.map_eq_some_iff.1 h
    have after := shows.afterRun inv interval rfl called fun _ => .inr rfl
    unfold PlayStage.afterRun at after ⊢
    split <;> simpa [*] using after
  | flicker card visible =>
    dsimp only at h
    split at h
    · cases h
      exact ⟨inv.setVisible card visible, p, .inl rfl,
        shows.withMgr (s.table.mgr.setVisible card visible) rfl rfl s.blinks id⟩
    · cases h
  | blinkEnd card =>
    dsimp only at h
    split at h
    · cases h
      have inv' := (inv.setVisible card true).setVisible s.table.mgr.wrongIdx false
      refine ⟨inv'.congr rfl, p, .inl rfl, shows.withMgr ((s.table.mgr.setVisible card true).blinkEnd).1 rfl rfl _ ?_⟩
      exact fun shown => (Bool.and_eq_true_iff.1 shown).1
    · cases h
  | tick o => exact shows.update inv here interval careful h
  | lapse =>
    obtain ⟨play, lapsed, rfl⟩ := Option.map_eq_some_iff.1 h
    exact ⟨inv.congr rfl, p, .inl rfl, shows.withPlay lapsed nofun⟩
  | reply i errCode =>
    obtain ⟨play, replied, rfl⟩ := Option.map_eq_some_iff.1 h
    exact ⟨inv.congr rfl, p, .inl rfl, shows.withPlay replied nofun⟩

/-! ### Exactness -/

/-- `StartSubStage` moves the cards, and leaves the rest of the stage alone. -/
theorem startSubStage_some (h : s.startSubStage config o = some t) :
    t.table.fault = true ∨ t.table.InFlight ∧ t.table.mgr.subStage = s.table.mgr.subStage ∧ t.startPlay = s.startPlay ∧
      t.listening = s.listening ∧ t.off = s.off ∧ t.play = s.play ∧ t.stageids = s.stageids ∧ t.held = s.held ∧
      t.subStageId = s.subStageId ∧ t.subWin = s.subWin := by
  unfold startSubStage at h
  split at h
  · obtain ⟨mgr, started, rfl⟩ := Option.map_eq_some_iff.1 h
    obtain ⟨plays, -, made⟩ := Option.bind_eq_some_iff.1 started
    obtain ⟨⟨all, lines⟩, -, rfl⟩ := Option.map_eq_some_iff.1 made
    exact .inr ⟨.inl rfl, rfl, rfl, rfl, rfl, rfl, rfl, rfl, rfl, rfl⟩
  · cases h
    exact .inl rfl

/-- A replay that starts a round again without leaving the course had its time. -/
theorem Shows.replayable (shows : Shows s p) (here : s.gone = false) {play : Play} (sent : play.endPlays = s.play.endPlays)
    (h : { s with play, items := false }.reStartSubStage.startSubStage config o = some t) (running : t.table.fault = false)
    (shows' : Shows t q) : s.Replayable := by
  rcases startSubStage_some h with fault | ⟨flying, rounds, startPlay, listening, off, played, stageids, held, last, won⟩
  · rw [running] at fault
    cases fault
  obtain ⟨k, rfl⟩ := StagePhase.isShuffling_iff.1 (shows'.inFlight.1 flying)
  have small : k < 4 := shows'.valid
  -- what the phase before has in common with the round started again
  have undressed : p.undressed = k :=
    take_inj (StagePhase.undressed_le shows.valid) small.le ((shows.off.symm.trans off.symm).trans shows'.off)
  have loosened : p.loosened = k :=
    take_inj (StagePhase.loosened_le shows.valid) small.le ((shows.listening.symm.trans listening.symm).trans shows'.listening)
  have before : p.subStage = k + 1 := by
    have now := shows'.subStage
    rw [rounds] at now
    change s.table.mgr.subStage - 1 = (k : ℤ) at now
    have then_ := shows.subStage
    omega
  have out : p.endPlays = 0 := by
    have now := shows'.endPlays
    rw [played] at now
    exact (shows.endPlays.symm.trans sent.symm).trans now
  have untapped : ∀ w, p.result = some (k, w) → .panel ∉ s.held := by
    intro w known touched
    have old : t.subStageId = (k : ℤ) - 1 := (shows'.tapped (held ▸ touched) rfl).2.1
    rw [last] at old
    have current := (shows.result k w known).1
    change s.subStageId = (k : ℤ) - 1 at old
    omega
  have banner := shows.panel here
  cases p with
  | ready j | shuffling j =>
    change j = k at undressed
    change j = k + 1 at before
    omega
  | choosing j => exact .inl shows.touchable
  | won j =>
    obtain rfl : j = k := undressed
    obtain ⟨-, -, all⟩ := shows.result j true rfl
    refine .inr ⟨by rw [banner]; nofun, untapped true rfl, fun both => ?_⟩
    rw [all, decide_eq_true_iff] at both
    rw [StagePhase.endPlays, if_pos both.1] at out
    cases out
  | lost j =>
    obtain rfl : j = k := undressed
    obtain ⟨-, lost, -⟩ := shows.result j false rfl
    refine .inr ⟨by rw [banner]; nofun, untapped false rfl, fun both => ?_⟩
    rw [lost] at both
    cases both.2
  | undressing j =>
    change j = k at undressed
    change j + 1 = k at loosened
    omega
  | cleared =>
    change 4 = k at undressed
    omega

/-- A step that keeps to the course is careful. -/
theorem careful_of_shows {a : PlayStageStep} (inv : Inv config s) (shows : Shows s p) (h : step config s a = some t)
    (running : t.table.fault = false) (shows' : Shows t q) : s.Careful a := by
  obtain ⟨fine, here⟩ := step_running h
  cases a with
  | tick o =>
    unfold step at h
    rw [if_neg (by simp [fine, here])] at h
    obtain ⟨play, ticked, h⟩ := Option.bind_eq_some_iff.1 h
    have sent := (Play.step_endPlays ticked nofun).1
    constructor
    · intro effect
      rw [effect] at h
      exact shows.replayable here sent h running shows'
    · intro effect
      rw [effect] at h
      cases h
      have cards : s.table.mgr.allCardIndex.length = config.cardCount := by
        rw [inv.table.lines.cards.length_eq, List.length_range]
      cases search : s.table.mgr.showWrongCard o.time with
      | some mgr => exact (CardMgr.showWrongCard_isSome (cards ▸ inv.bingo)).1 (by rw [search]; rfl)
      | none =>
        unfold PlayStage.showWrongCard at running
        rw [show ({ s with play } : PlayStage).table.mgr.showWrongCard o.time = none from search] at running
        cases running
  | _ => trivial

/-! ### Runs -/

/-- The stage starts with its cards in order. -/
theorem onEnter_inv (enough : 0 < config.cardCount) (play : Play) (u : Unset) : Inv config (onEnter config play u) :=
  ⟨Table.init_inv config, enough, le_rfl⟩

/-- The stage starts with the start button shown. -/
theorem onEnter_shows (config : StageInfo) {play : Play} (fresh : play.endPlays = 0) (u : Unset) :
    Shows (onEnter config play u) (.ready 0) where
  valid := Nat.zero_lt_succ 3
  subStage := rfl
  inFlight := iff_of_false (Table.not_inFlight rfl rfl) nofun
  touchable := rfl
  startPlay := rfl
  items := nofun
  panel _ := rfl
  listening := rfl
  off := rfl
  endPlays := fresh
  stageids := rfl
  pop := rfl
  result := nofun
  tapped := nofun
  pressed := nofun
  released := nofun

/-- A stage that has just been entered runs its course. -/
theorem onEnter_flows (interval : 0 < config.interval) {play : Play} (fresh : play.endPlays = 0) (u : Unset) :
    Flows config (onEnter config play u) :=
  ⟨(Table.init_inv config).shuffled interval, .ready 0, .refl, onEnter_shows config fresh u⟩

/-- **A stage runs its course**: through every run of the scene its cards are
shuffled as they should be and it shows a phase of a stage, exactly when every
effect that a tick executes comes at a time for it. -/
theorem flows_iff_careful (config : StageInfo) (interval : 0 < config.interval) (enough : 0 < config.cardCount)
    (stageid cmd : Int32) (delegate : MyDelegate Unit) (u : Unset) (as : List PlayStageStep) (s : PlayStage)
    (run : exec (step config) (onEnter config (.start stageid cmd delegate) u) as = some s) :
    Through (step config) (Flows config) (onEnter config (.start stageid cmd delegate) u) as ↔
      Along (step config) Careful (onEnter config (.start stageid cmd delegate) u) as := by
  refine through_iff_along_kept (J := Inv config) ?_ ?_ (onEnter_inv enough _ u) (onEnter_flows interval rfl u) run
  · rintro t a t' inv ⟨-, p, -, shows⟩ careful h
    exact (step_flows interval inv shows careful h).1
  · rintro t a t' inv ⟨-, p, reached, shows⟩ h
    constructor
    · rintro ⟨shuffled, q, -, shows'⟩
      exact careful_of_shows inv shows h shuffled.inRange shows'
    · intro careful
      obtain ⟨inv', q, course, shows'⟩ := step_flows interval inv shows careful h
      refine ⟨inv'.table.shuffled interval, q, ?_, shows'⟩
      rcases course with rfl | next
      · exact reached
      · exact reached.tail next

end

/-- Nothing from outside but two shuffles. -/
def plain : Outside := ⟨false, 0, [[1, 0], [0, 1]], 0⟩

/-- A scene of two cards. -/
def twoCards : PlayStage := onEnter Table.twoCards (.start 1 0 (.init none)) ⟨fun _ => (0, 0), (0, 0), 0, false, false⟩

/-- A round up to the pick of a card. -/
def shuffled : List PlayStageStep :=
  [.touch .startPlay .began plain, .touch .startPlay .ended plain, .beginEnd, .moveEnd 0, .moveEnd 0]

/-- A round that is won, and its piece of clothing dragged off. -/
def roundWon (c : Clothes) : List PlayStageStep :=
  shuffled ++ [.card 0, .touch .panel .began plain, .touch .panel .ended plain, .touch (.clothes c) .began plain,
    .drag c (200, 0), .touch (.clothes c) .ended plain]

/-- The four rounds. -/
def stageWon : List PlayStageStep := btnName.flatMap roundWon

/-- A stage that is won runs its course. -/
theorem flows_iff_careful_won :
    (∃ s, exec (step Table.twoCards) twoCards stageWon = some s ∧ s.stageids = [2] ∧ s.play.endPlays = 1) ∧
      Through (step Table.twoCards) (Flows Table.twoCards) twoCards stageWon :=
  ⟨⟨_, rfl, rfl, rfl⟩,
    (flows_iff_careful Table.twoCards (by decide) (by decide) 1 0 (.init none) _ stageWon _ rfl).2 (by decide +kernel)⟩

/-- A replay that is answered after the pick: its effect comes when the piece of
clothing is loose, and the button comes back during the round. -/
def lateReplay : List PlayStageStep :=
  shuffled ++ [.touch (.item .replay) .began plain, .touch (.item .replay) .ended plain, .card 0,
    .touch .panel .began plain, .touch .panel .ended plain, .reply 0 0, .tick plain,
    .touch (.clothes .shirt) .began plain, .drag .shirt (200, 0), .touch (.clothes .shirt) .ended plain]

/-- The start button is back while the cards of the round are in flight. -/
theorem lateReplay_strays : ∃ s, exec (step Table.twoCards) twoCards lateReplay = some s ∧
    s.startPlay = true ∧ s.table.InFlight ∧ ¬ Flows Table.twoCards s := by
  refine ⟨_, rfl, rfl, .inl rfl, ?_⟩
  rintro ⟨-, p, -, shows⟩
  obtain ⟨k, rfl⟩ := StagePhase.isShuffling_iff.1 (shows.inFlight.1 (.inl rfl))
  cases shows.startPlay

end PlayStage
end Crazyass.Client
