import Crazyass.Client.StageCourse

/-!
# A stage can be won

From every phase of a stage but a lost round the player has a way to the end:
the cards of a round come to rest, the winning card can be picked, and its piece
of clothing can be dragged off.
-/

namespace Crazyass.Client
open Sys

/-! ## Rows can be drawn -/

namespace CardMgr

/-- Cards in another order. -/
theorem rotate_ne {all : List ℕ} (apart : all.Nodup) (two : 2 ≤ all.length) : all ≠ all.rotate 1 := by
  match all, two with
  | a :: b :: rest, _ =>
    rw [List.rotate_cons_succ, List.rotate_zero]
    intro same
    have first : a = b := List.head_eq_of_cons_eq same
    exact (List.nodup_cons.1 apart).1 (first ▸ List.mem_cons_self)

/-- There are shuffles from which the rows of a round can be drawn. -/
theorem exists_shuffles (times : ℕ) : ∀ {all : List ℕ} {lines : List (List ℕ)}, all.Nodup → 2 ≤ all.length →
    lines.getLastD [] = all → ∃ shuffles, (addLines times all lines shuffles).isSome := by
  induction times with
  | zero => exact fun _ _ _ => ⟨[], rfl⟩
  | succ times ih =>
    intro all lines apart two last
    have next : (lines ++ [all.rotate 1]).getLastD [] = all.rotate 1 := by simp
    obtain ⟨shuffles, drawn⟩ := ih (List.nodup_rotate.2 apart) (by rw [List.length_rotate]; exact two) next
    have perm : (all.rotate 1).isPerm all = true := List.isPerm_iff.2 (List.rotate_perm all 1)
    refine ⟨all.rotate 1 :: shuffles, ?_⟩
    unfold addLines shuffleCards
    rw [last, if_pos perm, if_neg (rotate_ne apart two)]
    exact drawn

end CardMgr

theorem StageInfo.plays_isSome (config : StageInfo) {k : ℕ} (small : k < 4) : ∃ plays, config.plays k = some plays := by
  unfold StageInfo.plays
  rw [if_pos (Int.natCast_nonneg k), Int.toNat_natCast]
  exact ⟨_, by rw [Vector.getElem?_eq_getElem small]; rfl⟩

namespace PlayStage

/-- A scene that is there and shows a phase. -/
structure Live (config : StageInfo) (s : PlayStage) (p : StagePhase) : Prop where
  inv : Inv config s
  shows : Shows s p
  here : s.gone = false

section
variable {config : StageInfo} {s t : PlayStage} {p q : StagePhase} {w : Widget} {e : Touch} {o : Outside} {k : ℕ} {c : Clothes}

theorem Live.running (live : Live config s p) : ¬ (s.table.fault = true ∨ s.gone = true) := by
  simp [live.inv.table.inRange, live.here]

/-- A step to a scene that is there comes to the same phase or a next one. -/
theorem Live.next (live : Live config s p) (interval : 0 < config.interval) {a : PlayStageStep} (careful : s.Careful a)
    (h : step config s a = some t) (here : t.gone = false) : ∃ q, (q = p ∨ p.Next q) ∧ Live config t q := by
  obtain ⟨inv, q, course, shows⟩ := step_flows interval live.inv live.shows careful h
  exact ⟨q, course, inv, shows, here⟩

/-- A touch of a widget whose listener does nothing at its begin. -/
theorem Live.press (live : Live config s p) (quiet : ∀ s : PlayStage, s.handle config o .began w = some s)
    (accepts : s.Accepts w ∨ w ∈ s.held) :
    Leads (step config) (fun t => Live config t p ∧ w ∈ t.held ∧ t = { s with held := t.held }) s := by
  by_cases held : w ∈ s.held
  · exact .here ⟨live, held, rfl⟩
  · have proceeds : s.Proceeds w .began := by
      unfold Proceeds
      rw [if_pos rfl]
      exact ⟨accepts.resolve_right held, held⟩
    have taken : step config s (.touch w .began o) = some (s.hold w .began) := by
      unfold step
      rw [if_neg live.running]
      dsimp only
      rw [if_pos proceeds, quiet]
    exact .after taken (.here ⟨⟨live.inv.congr rfl, live.shows.hold live.here proceeds, live.here⟩, List.mem_cons_self, rfl⟩)

/-- The end of a touch. -/
theorem Live.release (live : Live config s p) (held : w ∈ s.held) :
    step config s (.touch w .ended o) = (s.hold w .ended).handle config o .ended w := by
  have proceeds : s.Proceeds w .ended := by
    unfold Proceeds
    rwa [if_neg (by decide)]
  unfold step
  rw [if_neg live.running]
  dsimp only
  rw [if_pos proceeds]

/-- With the right shuffles a round can be started. -/
theorem startSubStage_exists (cards : s.table.mgr.allCardIndex.Perm (List.range config.cardCount)) (two : 2 ≤ config.cardCount)
    (small : k < 4) (rounds : s.table.mgr.subStage = k) :
    ∃ shuffles t, s.startSubStage config ⟨false, 0, shuffles, 0⟩ = some t ∧ t.gone = s.gone := by
  obtain ⟨plays, found⟩ := config.plays_isSome small
  have apart : s.table.mgr.allCardIndex.Nodup := cards.nodup_iff.2 List.nodup_range
  have many : 2 ≤ s.table.mgr.allCardIndex.length := by
    rw [cards.length_eq, List.length_range]
    exact two
  obtain ⟨shuffles, drawn⟩ :=
    CardMgr.exists_shuffles plays apart many (show [s.table.mgr.allCardIndex].getLastD [] = _ from rfl)
  obtain ⟨⟨all, lines⟩, added⟩ := Option.isSome_iff_exists.1 drawn
  have made : ∃ mgr, CardMgr.startSubStage config 0 shuffles { s.table.mgr with flights := [] } = some mgr := by
    unfold CardMgr.startSubStage CardMgr.makeLinesData
    rw [show ({ s.table.mgr with flights := [] } : CardMgr).subStage = k from rounds, found]
    exact ⟨_, congrArg (Option.map _) added⟩
  obtain ⟨mgr, made⟩ := made
  refine ⟨shuffles, ?_⟩
  unfold startSubStage
  rw [if_pos (by omega), made]
  exact ⟨_, rfl, rfl⟩

/-- **The button** starts a round. -/
theorem Live.ready_leads (live : Live config s (.ready k)) (interval : 0 < config.interval) (two : 2 ≤ config.cardCount) :
    Leads (step config) (Live config · (.shuffling k)) s := by
  have pressed := live.press (o := ⟨false, 0, [], 0⟩) (w := .startPlay) (fun _ => rfl) (.inl live.shows.startPlay)
  refine pressed.trans fun t ⟨live, held, _⟩ => ?_
  have ended : t.Proceeds .startPlay .ended := by
    unfold Proceeds
    rwa [if_neg (by decide)]
  have ready := (live.shows.hold live.here ended).ready (live.inv.congr rfl) (by simp [hold])
  obtain ⟨shuffles, u, started, here⟩ := startSubStage_exists ready.table.lines.cards two ready.small ready.subStage
  have taken : step config t (.touch .startPlay .ended ⟨false, 0, shuffles, 0⟩) = some u := by
    rw [live.release held]
    exact started
  obtain ⟨inv, shows⟩ := ready.start interval (by omega) started
  exact .after taken (.here ⟨inv, shows, here.trans live.here⟩)

/-- **The cards** of a round come to rest. -/
theorem Live.shuffling_leads (live : Live config s (.shuffling k)) (interval : 0 < config.interval) :
    Leads (step config) (Live config · (.choosing k)) s := by
  refine leads_of_measure (I := fun t => Live config t (.choosing k) ∨ Live config t (.shuffling k))
    (fun t => t.table.left config) (fun t or => ?_) (.inr live)
  rcases or with live | live
  · exact .inl live
  · right
    -- a callback that the cards wait for
    have flying := live.shows.inFlight.2 rfl
    obtain ⟨a, callback, some⟩ := live.inv.table.goes flying
    obtain ⟨table, called⟩ := Option.isSome_iff_exists.1 some
    have less := (Table.step_inv interval live.inv.table called).2 callback
    obtain ⟨b, u, careful, taken, same, here⟩ : ∃ b u, t.Careful b ∧ step config t b = Option.some u ∧ u.table = table ∧
        u.gone = t.gone := by
      have after : (t.afterRun table).table = table ∧ (t.afterRun table).gone = t.gone := by
        unfold afterRun
        split <;> exact ⟨rfl, rfl⟩
      cases a with
      | start | restart => cases callback
      | beginEnd =>
        refine ⟨.beginEnd, { t.afterRun table with panel := .normal }, trivial, ?_, after⟩
        unfold step
        rw [if_neg live.running]
        exact congrArg (Option.map _) called
      | moveEnd i =>
        refine ⟨.moveEnd i, t.afterRun table, trivial, ?_, after⟩
        unfold step
        rw [if_neg live.running]
        exact congrArg (Option.map _) called
    obtain ⟨q, course, live'⟩ := live.next interval careful taken (here.trans live.here)
    refine ⟨b, u, taken, ?_, by rw [same]; exact less⟩
    rcases course with rfl | next
    · exact .inr live'
    · cases next
      exact .inl live'

/-- **The winning card** is picked. -/
theorem Live.choosing_leads (live : Live config s (.choosing k)) (interval : 0 < config.interval) :
    Leads (step config) (Live config · (.won k)) s := by
  have started : .started ∈ s.table.log := by
    have rounds := live.inv.rounds
    have now : s.table.mgr.subStage = k + 1 := live.shows.subStage
    have books := live.inv.table.books.finished
    rw [← List.count_pos_iff]
    omega
  obtain ⟨final, seated⟩ := live.inv.table.seated started
  have inside : s.table.mgr.bingoIndex < s.table.mgr.children.length := by
    rw [seated.size]
    exact live.inv.bingo
  have taken : step config s (.card s.table.mgr.bingoIndex) = some (s.onTouch s.table.mgr.bingoIndex) := by
    unfold step
    rw [if_neg live.running]
    exact if_pos ⟨live.shows.touchable, inside⟩
  have told : (s.onTouch s.table.mgr.bingoIndex).panel = .win ∧ (s.onTouch s.table.mgr.bingoIndex).gone = s.gone := by
    unfold onTouch subStageEnd
    simp only [beq_self_eq_true, if_true]
    split <;> exact ⟨rfl, rfl⟩
  have careful : s.Careful (.card s.table.mgr.bingoIndex) := trivial
  obtain ⟨q, course, live'⟩ := live.next interval careful taken (told.2.trans live.here)
  refine .after taken (.here ?_)
  have banner := live'.shows.panel live'.here
  rw [told.1] at banner
  rcases course with rfl | next
  · cases banner
  · cases next with
    | win => exact live'
    | lose | again => cases banner

/-- **The panel** of a win loosens a piece of clothing. -/
theorem Live.won_leads (live : Live config s (.won k)) (interval : 0 < config.interval) :
    Leads (step config) (Live config · (.undressing k)) s := by
  have win : s.panel = .win := by
    have banner := live.shows.panel live.here
    cases panel : s.panel with
    | win => rfl
    | normal | lose | start =>
      rw [panel] at banner
      cases banner
  have pressed := live.press (o := ⟨false, 0, [], 0⟩) (w := .panel) (fun _ => rfl) (.inl (.inl win))
  refine pressed.trans fun t ⟨live, held, _⟩ => ?_
  have taken := live.release (o := ⟨false, 0, [], 0⟩) held
  obtain ⟨-, won, -⟩ := live.shows.result k true rfl
  have told : ((t.hold .panel .ended).onPanelSecond .ended).panel = .normal ∧
      ((t.hold .panel .ended).onPanelSecond .ended).gone = t.gone ∧
      ((t.hold .panel .ended).onPanelSecond .ended).table.InFlight = t.table.InFlight := by
    unfold onPanelSecond takeOff
    rw [if_neg (by decide)]
    dsimp only
    rw [if_pos (show (t.hold .panel .ended).subWin = true from won)]
    split <;> exact ⟨rfl, rfl, rfl⟩
  have careful : t.Careful (.touch .panel .ended ⟨false, 0, [], 0⟩) := trivial
  obtain ⟨q, course, live'⟩ := live.next interval careful taken (told.2.1.trans live.here)
  refine .after taken (.here ?_)
  have banner := live'.shows.panel live'.here
  rw [told.1] at banner
  rcases course with rfl | next
  · cases banner
  · cases next with
    | loosen => exact live'
    | redo more =>
      have flying := live'.shows.inFlight.2 rfl
      rw [told.2.2] at flying
      cases live.shows.inFlight.1 flying

theorem Live.loose (live : Live config s (.undressing k)) (found : btnName[k]? = some c) : c ∈ s.listening ∧ c ∉ s.off := by
  obtain ⟨d, found', next, new⟩ := btnName_take live.shows.valid
  obtain rfl : c = d := Option.some.inj (found.symm.trans found')
  rw [live.shows.listening, live.shows.off]
  refine ⟨?_, new⟩
  change c ∈ btnName.take (k + 1)
  rw [next]
  exact List.mem_append_right _ (List.mem_singleton.2 rfl)

/-- A step that takes no piece off. -/
theorem Live.stays (live : Live config s (.undressing k)) (interval : 0 < config.interval) {a : PlayStageStep}
    (careful : s.Careful a) (h : step config s a = some t) (here : t.gone = false) (same : t.off = s.off) :
    Live config t (.undressing k) := by
  have small : k < 4 := live.shows.valid
  obtain ⟨q, rfl | next, live'⟩ := live.next interval careful h here
  · exact live'
  · have off : btnName.take q.undressed = btnName.take k := live'.shows.off.symm.trans (same.trans live.shows.off)
    cases next with
    | undress more => exact absurd (take_inj (show k + 1 ≤ 4 from small) small.le off) (by omega)
    | finish => exact absurd off (by decide)

/-- A step that takes one off. -/
theorem Live.undresses (live : Live config s (.undressing k)) (interval : 0 < config.interval) {a : PlayStageStep}
    (careful : s.Careful a) (h : step config s a = some t) (here : t.gone = false) (other : t.off ≠ s.off) :
    ∃ q, (StagePhase.undressing k).Next q ∧ Live config t q := by
  obtain ⟨q, rfl | next, live'⟩ := live.next interval careful h here
  · exact absurd (live'.shows.off.trans live.shows.off.symm) other
  · exact ⟨q, next, live'⟩

/-- The piece comes into the player's hand. -/
theorem Live.grab (live : Live config s (.undressing k)) (interval : 0 < config.interval) (found : btnName[k]? = some c) :
    Leads (step config) (fun t => Live config t (.undressing k) ∧ .clothes c ∈ t.held) s := by
  obtain ⟨loose, on⟩ := live.loose found
  by_cases held : .clothes c ∈ s.held
  · exact .here ⟨live, held⟩
  · have proceeds : s.Proceeds (.clothes c) .began := by
      unfold Proceeds
      rw [if_pos rfl]
      exact ⟨on, held⟩
    have button : (s.hold (.clothes c) .began).button = some c := button_eq (live.shows.result k true rfl).1 found
    have taken : step config s (.touch (.clothes c) .began ⟨false, 0, [], 0⟩) =
        some { s.hold (.clothes c) .began with btnStartPos := s.pos c } := by
      unfold step
      rw [if_neg live.running]
      dsimp only
      rw [if_pos proceeds]
      refine congrArg some ((if_pos loose).trans ?_)
      unfold onBtnClothes
      rw [button]
      rfl
    have careful : s.Careful (.touch (.clothes c) .began ⟨false, 0, [], 0⟩) := trivial
    exact .after taken (.here ⟨live.stays interval careful taken live.here rfl, List.mem_cons_self⟩)

/-- It is dragged away from its place. -/
theorem Live.pull (live : Live config s (.undressing k)) (interval : 0 < config.interval) (found : btnName[k]? = some c)
    (held : .clothes c ∈ s.held) : Leads (step config) (fun t => Live config t (.undressing k) ∧ .clothes c ∈ t.held ∧
      fuzzyEquals t.btnStartPos (t.pos c) 100 = false) s := by
  let away : ℤ × ℤ := (s.btnStartPos.1 + 101, s.btnStartPos.2)
  have taken : step config s (.drag c away) = some { s with pos := Function.update s.pos c away } := by
    unfold step
    rw [if_neg live.running]
    dsimp only
    rw [if_pos held, if_pos (live.loose found).1]
    unfold onBtnMoveClothes
    rw [button_eq (live.shows.result k true rfl).1 found]
  have careful : s.Careful (.drag c away) := trivial
  refine .after taken (.here ⟨live.stays interval careful taken live.here rfl, held, ?_⟩)
  dsimp only
  rw [Function.update_self]
  apply decide_eq_false
  rintro ⟨-, near, -⟩
  change s.btnStartPos.1 + 101 ≤ s.btnStartPos.1 + 100 at near
  omega

/-- It is let go of. -/
theorem Live.drop (live : Live config s (.undressing k)) (interval : 0 < config.interval) (found : btnName[k]? = some c)
    (held : .clothes c ∈ s.held) (far : fuzzyEquals s.btnStartPos (s.pos c) 100 = false) :
    Leads (step config) (fun t => ∃ q, (StagePhase.undressing k).Next q ∧ Live config t q) s := by
  have taken := live.release (o := ⟨false, 0, [], 0⟩) held
  have button : (s.hold (.clothes c) .ended).button = some c := button_eq (live.shows.result k true rfl).1 found
  have loose : c ∈ (s.hold (.clothes c) .ended).listening := (live.loose found).1
  have away : fuzzyEquals (s.hold (.clothes c) .ended).btnStartPos ((s.hold (.clothes c) .ended).pos c) 100 = false := far
  have told : ((s.hold (.clothes c) .ended).onBtnClothes .ended).off = s.off ++ [c] ∧
      ((s.hold (.clothes c) .ended).onBtnClothes .ended).gone = s.gone := by
    unfold onBtnClothes
    rw [button]
    dsimp only
    rw [if_neg (ne_true_of_eq_false away)]
    split <;> exact ⟨rfl, rfl⟩
  rw [show (s.hold (.clothes c) .ended).handle config ⟨false, 0, [], 0⟩ .ended (.clothes c) =
    some ((s.hold (.clothes c) .ended).onBtnClothes .ended) from congrArg some (if_pos loose)] at taken
  have careful : s.Careful (.touch (.clothes c) .ended ⟨false, 0, [], 0⟩) := trivial
  have other : ((s.hold (.clothes c) .ended).onBtnClothes .ended).off ≠ s.off := by
    rw [told.1]
    simp
  exact .after taken (.here (live.undresses interval careful taken (told.2.trans live.here) other))

/-- **A loose piece of clothing** can be taken off. -/
theorem Live.undressing_leads (live : Live config s (.undressing k)) (interval : 0 < config.interval) :
    Leads (step config) (fun t => ∃ q, (StagePhase.undressing k).Next q ∧ Live config t q) s := by
  obtain ⟨c, found, -⟩ := btnName_take live.shows.valid
  refine (live.grab interval found).trans fun t ⟨live, held⟩ => ?_
  exact (live.pull interval found held).trans fun u ⟨live, held, far⟩ => live.drop interval found held far

/-! ## To the end -/

/-- From a piece that is loose to the end, by induction on the rounds left. -/
theorem Live.undressing_clears (interval : 0 < config.interval) (two : 2 ≤ config.cardCount) :
    ∀ {n k : ℕ} {s : PlayStage}, k + n = 3 → Live config s (.undressing k) → Leads (step config) (Live config · .cleared) s := by
  intro n
  induction n with
  | zero =>
    intro k s last live
    obtain rfl : k = 3 := last
    refine (live.undressing_leads interval).trans fun t ⟨q, next, live⟩ => .here ?_
    cases next with
    | undress more => exact absurd more (by decide)
    | finish => exact live
  | succ n ih =>
    intro k s left live
    refine (live.undressing_leads interval).trans fun t ⟨q, next, live⟩ => ?_
    cases next with
    | finish => omega
    | undress more =>
      refine (live.ready_leads interval two).trans fun t live => ?_
      refine (live.shuffling_leads interval).trans fun t live => ?_
      refine (live.choosing_leads interval).trans fun t live => ?_
      exact (live.won_leads interval).trans fun t live => ih (by omega) live

/-- From every phase but a lost round. -/
theorem Live.clears (live : Live config s p) (interval : 0 < config.interval) (two : 2 ≤ config.cardCount)
    (unlost : ∀ k, p ≠ .lost k) : Leads (step config) (Live config · .cleared) s := by
  have undressing : ∀ {k s}, Live config s (.undressing k) → Leads (step config) (Live config · .cleared) s := by
    intro k s live
    have small : k < 4 := live.shows.valid
    exact Live.undressing_clears interval two (n := 3 - k) (by omega) live
  have won : ∀ {k s}, Live config s (.won k) → Leads (step config) (Live config · .cleared) s :=
    fun live => (live.won_leads interval).trans fun t => undressing
  have choosing : ∀ {k s}, Live config s (.choosing k) → Leads (step config) (Live config · .cleared) s :=
    fun live => (live.choosing_leads interval).trans fun t => won
  have shuffling : ∀ {k s}, Live config s (.shuffling k) → Leads (step config) (Live config · .cleared) s :=
    fun live => (live.shuffling_leads interval).trans fun t => choosing
  cases p with
  | ready k => exact (live.ready_leads interval two).trans fun t => shuffling
  | shuffling k => exact shuffling live
  | choosing k => exact choosing live
  | won k => exact won live
  | lost k => exact absurd rfl (unlost k)
  | undressing k => exact undressing live
  | cleared => exact .here live

/-- **A stage can be won** from every state of a run that keeps to its course,
unless the scene is replaced or shows a lost round: some run comes to a state
where the next stage is set, once, and one end of play is sent. -/
theorem can_be_won (config : StageInfo) (interval : 0 < config.interval) (two : 2 ≤ config.cardCount)
    (stageid cmd : Int32) (delegate : MyDelegate Unit) (u : Unset) (as : List PlayStageStep) (s : PlayStage)
    (run : exec (step config) (onEnter config (.start stageid cmd delegate) u) as = some s)
    (careful : Along (step config) Careful (onEnter config (.start stageid cmd delegate) u) as)
    (here : s.gone = false) (unlost : s.panel ≠ .lose) :
    Leads (step config) (fun t => t.stageids = [t.play.scene.stageid + 1] ∧ t.play.endPlays = 1 ∧ t.pop = true) s := by
  obtain ⟨inv, p, shows⟩ : Inv config s ∧ ∃ p, Shows s p := by
    refine exec_inv (I := fun s => Inv config s ∧ ∃ p, Shows s p) (Q := Careful) ?_ ?_ careful run
    · rintro t a t' ⟨inv, p, shows⟩ careful h
      obtain ⟨inv', q, -, shows'⟩ := step_flows interval inv shows careful h
      exact ⟨inv', q, shows'⟩
    · exact ⟨onEnter_inv (by omega) _ u, .ready 0, onEnter_shows config rfl u⟩
  have live : Live config s p := ⟨inv, shows, here⟩
  refine (live.clears interval two ?_).trans fun t live => .here ?_
  · rintro k rfl
    have banner := shows.panel here
    cases panel : s.panel with
    | lose => exact unlost panel
    | normal | win | start =>
      rw [panel] at banner
      cases banner
  · exact ⟨live.shows.stageids, live.shows.endPlays, live.shows.pop⟩

end

/-- With the cards of the first round lying still. -/
theorem can_be_won_shuffled :
    (∃ s, exec (step Table.twoCards) twoCards shuffled = some s ∧ s.gone = false ∧ s.panel = .normal) ∧
      ∀ s, exec (step Table.twoCards) twoCards shuffled = some s →
        Leads (step Table.twoCards) (fun t => t.stageids = [t.play.scene.stageid + 1] ∧ t.play.endPlays = 1 ∧ t.pop = true) s := by
  refine ⟨⟨_, rfl, rfl, rfl⟩, fun s run => ?_⟩
  have same := run
  cases same
  exact can_be_won Table.twoCards (by decide) (by decide) 1 0 (.init none) _ shuffled _ run (by decide +kernel) rfl nofun

end PlayStage
end Crazyass.Client
