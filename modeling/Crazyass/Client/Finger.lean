import Crazyass.Client.PlayScene
import Crazyass.Client.Shuffle
import Crazyass.Client.WrongCard

/-!
# The finger

A press of the finger sends a request. When its reply has come, `CARecvDone`
calls `ShowWrongCard`, which picks a card and lets it blink, and the end of the
blink calls `BlinkEnd`, which hides the card of `wrong_idx_`. A `CCBlink` turns
its card on and off, and leaves it visible.
-/

namespace Crazyass.Client
open Sys

namespace CardMgr

/-- The cards that are not visible. -/
def hidden (m : CardMgr) : List ℕ := (List.range m.children.length).filter fun c => !m.isVisible c

end CardMgr

/-- The finger in one sub-stage. `waiting` tells whether a press has not been
answered; of several presses the last one is. `blinks` are the cards that blink,
`picked` are those `ShowWrongCard` has picked, the newest first, and `stuck`
tells whether its loop does not end. -/
structure Hunt where
  scene : PlayScene
  waiting : Bool
  cards : CardMgr
  finger : Bool
  blinks : List ℕ
  picked : List ℕ
  stuck : Bool
deriving DecidableEq, Repr

/-- `done` is a call of `CARecvDone` after a successful reply, at a time of the
clock; `flicker` is what a blink does to its card. -/
inductive HuntStep where
  | press (touch : Touch)
  | done (time : ℕ)
  | flicker (card : ℕ) (visible : Bool)
  | blinkEnd (card : ℕ)
deriving DecidableEq, Repr

namespace Hunt

/-- After the shuffle the finger is shown, and `wrong_idx_` is whatever it was. -/
def start (scene : PlayScene) (cards : CardMgr) (wrongIdx : ℕ) : Hunt :=
  ⟨scene, false, { cards with wrongIdx }, true, [], [], false⟩

/-- `onUseFinger`. -/
def press (s : Hunt) : Hunt :=
  { s with scene := { s.scene with propertyState := s.scene.itemid .finger }, waiting := true }

/-- `CARecv` and `CARecvDone`. The effect of the other item starts the sub-stage
again. -/
def done (s : Hunt) (time : ℕ) : Option Hunt :=
  match (s.scene.caRecv 0 6).caRecvDone with
  | (scene, some .finger) =>
    match s.cards.showWrongCard time with
    | some cards =>
      some
        { s with
          scene
          waiting := false
          cards
          blinks := s.blinks ++ [cards.wrongIdx]
          picked := cards.wrongIdx :: s.picked }
    | none => some { s with scene, waiting := false, stuck := true }
  | (_, some .replay) | (_, none) => none

/-- The end of a blink, and `BlinkEnd`. -/
def blinkEnd (s : Hunt) (card : ℕ) : Hunt :=
  let (cards, withdrawn) := (s.cards.setVisible card true).blinkEnd
  { s with cards, finger := s.finger && !withdrawn, blinks := s.blinks.erase card }

def step (s : Hunt) (a : HuntStep) : Option Hunt :=
  if s.stuck then none
  else
    match a with
    | .press touch => if s.finger = true ∧ touch ≠ .began then some s.press else none
    | .done time => if s.waiting then s.done time else none
    | .flicker card visible =>
      if card ∈ s.blinks then some { s with cards := s.cards.setVisible card visible } else none
    | .blinkEnd card => if card ∈ s.blinks then some (s.blinkEnd card) else none

/-! ## The contract -/

/-- **The contract**: `ShowWrongCard` ends, at a card that does not win and has
not been picked before; and when no card blinks, the hidden cards are as many as
`show_wrong_times_` says, and the winning card is visible. -/
structure Fair (s : Hunt) : Prop where
  running : s.stuck = false
  wrong : s.cards.bingoIndex ∉ s.picked
  fresh : s.picked.Nodup
  settled : s.blinks = [] →
    (s.cards.hidden.length : ℤ) = s.cards.showWrongTimes ∧ s.cards.isVisible s.cards.bingoIndex = true

/-- **When a step is harmless**: `ShowWrongCard` is called when no card blinks
and there is a wrong card to show. -/
def Careful (s : Hunt) : HuntStep → Prop
  | .done _ => s.blinks = [] ∧ CardMgr.Candidate s.cards.isVisible s.cards.bingoIndex s.cards.allCardIndex.length
  | .press _ | .flicker .. | .blinkEnd _ => True

instance (s : Hunt) : ∀ a, Decidable (s.Careful a)
  | .done _ => inferInstanceAs (Decidable (_ ∧ _))
  | .press _ | .flicker .. | .blinkEnd _ => inferInstanceAs (Decidable True)

end Hunt

/-! ## What the operations do -/

namespace CardMgr
section
variable {m m' : CardMgr} {a c time : ℕ} {v : Bool}

/-- Only the card that is set changes. -/
theorem isVisible_setVisible (inside : a < m.children.length) :
    (m.setVisible a v).isVisible c = if a = c then v else m.isVisible c := by
  unfold isVisible setVisible
  dsimp only
  rw [List.getElem?_modify]
  split
  · next same =>
    rw [← same, List.getElem?_eq_getElem inside]
    rfl
  · cases m.children[c]? <;> rfl

theorem length_setVisible : (m.setVisible a v).children.length = m.children.length := List.length_modify _ _ _

/-- The hidden cards are those with a sprite that does not show. -/
theorem mem_hidden : c ∈ m.hidden ↔ c < m.children.length ∧ m.isVisible c = false := by
  unfold hidden
  rw [List.mem_filter, List.mem_range, Bool.not_eq_true']

theorem hidden_nodup (m : CardMgr) : m.hidden.Nodup := List.nodup_range.filter _

/-- The pick of `ShowWrongCard`. -/
theorem showWrongCard_some (inside : m.bingoIndex < m.allCardIndex.length) (h : m.showWrongCard time = some m') :
    ∃ r, m' = { m with wrongIdx := r, showWrongTimes := m.showWrongTimes + 1 } ∧ r < m.allCardIndex.length ∧
      m.isVisible r = true ∧ r ≠ m.bingoIndex := by
  obtain ⟨r, found, rfl⟩ := Option.map_eq_some_iff.1 h
  obtain ⟨shown, wrong⟩ := probe_some found
  exact ⟨r, rfl, probe_lt (Nat.mod_lt _ (Nat.zero_lt_of_lt inside)) found, shown, wrong⟩

/-- `ShowWrongCard` ends exactly when there is a card to show. -/
theorem showWrongCard_isSome (inside : m.bingoIndex < m.allCardIndex.length) :
    (m.showWrongCard time).isSome ↔ Candidate m.isVisible m.bingoIndex m.allCardIndex.length := by
  constructor
  · intro some
    obtain ⟨m', found⟩ := Option.isSome_iff_exists.1 some
    obtain ⟨r, -, small, shown, wrong⟩ := showWrongCard_some inside found
    exact ⟨r, small, shown, wrong⟩
  · intro candidate
    obtain ⟨r, found⟩ := probe_enough (i := 2) (w := (time + 1) % m.allCardIndex.length) candidate
    unfold showWrongCard
    dsimp only
    rw [found]
    rfl

end
end CardMgr

/-! ## After the shuffle -/

namespace CardMgr
section
variable {config : StageInfo} {m m' : CardMgr} {all all' : List ℕ} {lines lines' shuffles : List (List ℕ)} {rand times : ℕ}

/-- Every card has a visible sprite, and one of them wins. -/
structure Laid (config : StageInfo) (m : CardMgr) : Prop where
  size : m.children.length = config.cardCount
  shown : ∀ sprite ∈ m.children, sprite.visible = true
  bingo : m.bingoIndex < config.cardCount

/-- After `StartSubStage` every card shows. -/
theorem Laid.isVisible (laid : Laid config m) {c : ℕ} (small : c < config.cardCount) : m.isVisible c = true := by
  unfold CardMgr.isVisible
  rw [List.getElem?_eq_getElem (by rw [laid.size]; exact small)]
  exact laid.shown _ (List.getElem_mem _)

/-- A shuffle drops no card. -/
theorem addLines_length (h : addLines times all lines shuffles = some (all', lines')) : all'.length = all.length := by
  induction times generalizing all lines shuffles with
  | zero => cases h; rfl
  | succ times ih =>
    unfold addLines at h
    split at h
    · next next_all rest drawn =>
      obtain ⟨perm, -⟩ := shuffleCards_some drawn
      exact (ih h).trans perm.length_eq
    · cases h

/-- **`StartSubStage`** lays the cards out afresh. -/
theorem startSubStage_laid (enough : 0 < config.cardCount) (h : m.startSubStage config rand shuffles = some m') :
    Laid config m' ∧ m'.allCardIndex.length = m.allCardIndex.length ∧ m'.flights = m.flights := by
  obtain ⟨plays, -, made⟩ := Option.bind_eq_some_iff.1 h
  obtain ⟨⟨all, lines⟩, drawn, rfl⟩ := Option.map_eq_some_iff.1 made
  refine ⟨⟨?_, fun sprite mem => ?_, Nat.mod_lt rand enough⟩, addLines_length drawn, rfl⟩
  · change (List.map _ (List.range config.cardCount)).length = _
    rw [List.length_map, List.length_range]
  · obtain ⟨tag, -, rfl⟩ := List.mem_map.1 mem
    rfl

/-- `RunActionByPlayCount` leaves the cards as they are. -/
structure Kept (m m' : CardMgr) : Prop where
  children : m'.children = m.children
  bingo : m'.bingoIndex = m.bingoIndex
  all : m'.allCardIndex = m.allCardIndex
  times : m'.showWrongTimes = m.showWrongTimes

/-- `RunActionByPlayCount` moves cards, and neither hides nor counts. -/
theorem runActionByPlayCount_kept (config : StageInfo) (m m' : CardMgr)
    (ran : m.runActionByPlayCount config = .finished m' ∨ m.runActionByPlayCount config = .moving m') : Kept m m' := by
  unfold runActionByPlayCount at ran
  split at ran
  · rcases ran with ran | ran <;> cases ran
  · split at ran
    · rcases ran with ran | ran <;> cases ran
      exact ⟨rfl, rfl, rfl, rfl⟩
    · split at ran
      · rcases ran with ran | ran <;> cases ran
      · rcases ran with ran | ran <;> cases ran
        exact ⟨rfl, rfl, rfl, rfl⟩

/-- What leaves the cards alone leaves them laid out. -/
theorem Laid.kept (laid : Laid config m) (kept : Kept m m') : Laid config m' where
  size := by rw [kept.children]; exact laid.size
  shown := by rw [kept.children]; exact laid.shown
  bingo := by rw [kept.bingo]; exact laid.bingo

/-- A card that lands stays visible. -/
theorem Laid.land (laid : Laid config m) (i : ℕ) (flight : Flight) : Laid config (m.land i flight) where
  size := (List.length_modify _ _ _).trans laid.size
  shown sprite mem := by
    obtain ⟨j, found⟩ := List.getElem?_of_mem mem
    change (m.children.modify flight.card _)[j]? = some sprite at found
    rw [List.getElem?_modify] at found
    obtain ⟨old, there, rfl⟩ := Option.map_eq_some_iff.1 found
    have visible := laid.shown old (List.mem_of_getElem? there)
    split <;> exact visible
  bingo := laid.bingo

end
end CardMgr

namespace Table

/-- A manager before a round, whatever the rounds before have left in it. -/
def used (mgr : CardMgr) : Table := ⟨mgr, false, false, []⟩

/-- The last step of a round has landed, and the round is over. -/
def Over (log : List CardEvent) : Prop := ∃ before, log = before ++ [.landed, .finished]

/-- What rounds keep of what the finger needs. -/
structure Dealt (config : StageInfo) (s : Table) : Prop where
  all : s.mgr.allCardIndex.length = config.cardCount
  laid : s.log ≠ [] → s.mgr.Laid config
  reset : Over s.log → s.mgr.showWrongTimes = 0
  begun : s.begun = true → s.log.getLast? = some .started ∧ s.mgr.flights = []
  moving : s.mgr.flights ≠ [] → s.log ≠ []

section
variable {config : StageInfo} {s t : Table} {a : CardStep} {log : List CardEvent} {e : CardEvent}

/-- A round is over with a last event `finished` after a landing. -/
theorem over_concat (ended : Over (log ++ [e])) : e = .finished ∧ log.getLast? = some .landed := by
  obtain ⟨before, same⟩ := ended
  have parts : log ++ [e] = (before ++ [.landed]) ++ [.finished] := by
    rw [same, List.append_assoc]
    rfl
  obtain ⟨rfl, last⟩ := List.append_inj' parts rfl
  exact ⟨List.head_eq_of_cons_eq last, List.getLast?_concat⟩

/-- The next step of a round, or its end right after a landing. -/
theorem run_dealt (all : s.mgr.allCardIndex.length = config.cardCount) (laid : s.mgr.Laid config) (begun : s.begun = false)
    (reset : s.log.getLast? = some .landed → s.mgr.showWrongTimes = 0) (some : s.log ≠ []) (unfinished : ¬ Over s.log) :
    Dealt config (run config s) := by
  have idle : s.begun ≠ true := Bool.eq_false_iff.1 begun
  unfold run
  cases ran : s.mgr.runActionByPlayCount config with
  | finished m =>
    have kept := CardMgr.runActionByPlayCount_kept config s.mgr m (.inl ran)
    refine ⟨(congrArg List.length kept.all).trans all, fun _ => laid.kept kept, fun ended => ?_,
      fun running => absurd running idle, fun _ => List.concat_ne_nil _ _⟩
    exact kept.times.trans (reset (over_concat ended).2)
  | moving m =>
    have kept := CardMgr.runActionByPlayCount_kept config s.mgr m (.inr ran)
    refine ⟨(congrArg List.length kept.all).trans all, fun _ => laid.kept kept, fun ended => ?_,
      fun running => absurd running idle, fun _ => List.concat_ne_nil _ _⟩
    cases (over_concat ended).1
  | fault =>
    exact ⟨all, fun _ => laid, fun ended => absurd ended unfinished, fun running => absurd running idle, fun _ => some⟩

theorem not_over (last : log.getLast? ≠ some .finished) : ¬ Over log := by
  rintro ⟨before, rfl⟩
  exact last (by simp)

theorem not_over_nil : ¬ Over [] := not_over nofun

/-- Nothing is asked of the sprites before a round, nor of `show_wrong_times_`:
`StartSubStage` makes new sprites, and `MoveEnd` counts the uses from 0 again. -/
theorem used_dealt {mgr : CardMgr} (all : mgr.allCardIndex.length = config.cardCount) (idle : mgr.flights = []) :
    Dealt config (used mgr) where
  all := all
  laid some := absurd rfl some
  reset ended := absurd ended not_over_nil
  begun := nofun
  moving some := absurd idle some

/-- **`MoveEnd`** counts the uses from 0 again when the last card of a step has landed. -/
theorem moveEnd_dealt (dealt : Dealt config s) {i : ℕ} {flight : Flight} (found : s.mgr.flights[i]? = some flight) :
    Dealt config (s.moveEnd config i flight) := by
  have flying : s.mgr.flights ≠ [] := List.ne_nil_of_mem (List.mem_of_getElem? found)
  have begun : s.begun = false := Bool.eq_false_iff.2 fun running => flying (dealt.begun running).2
  have laid := (dealt.laid (dealt.moving flying)).land i flight
  unfold moveEnd
  dsimp only
  split
  · refine run_dealt dealt.all ⟨laid.size, laid.shown, laid.bingo⟩ begun (fun _ => rfl) (List.concat_ne_nil _ _) ?_
    exact not_over (by simp)
  · exact ⟨dealt.all, fun _ => laid, dealt.reset, fun running => absurd running (Bool.eq_false_iff.1 begun),
      fun _ => dealt.moving flying⟩

/-- **One step** of a round keeps what the finger needs. -/
theorem step_dealt (enough : 0 < config.cardCount) (dealt : Dealt config s) (h : step config s a = some t) :
    Dealt config t := by
  unfold step at h
  split at h
  · cases h
  · cases a with
    | start rand shuffles =>
      dsimp only at h
      split at h
      · cases h
      · next idle =>
        obtain ⟨m, started, rfl⟩ := Option.map_eq_some_iff.1 h
        obtain ⟨laid, all, flights⟩ := CardMgr.startSubStage_laid enough started
        obtain ⟨still, -⟩ := not_or.1 idle
        obtain ⟨-, empty⟩ := not_or.1 still
        refine ⟨all.trans dealt.all, fun _ => laid, fun ended => ?_, fun _ => ⟨List.getLast?_concat, ?_⟩,
          fun _ => List.concat_ne_nil _ _⟩
        · cases (over_concat ended).1
        · exact flights.trans (not_not.1 empty)
    | restart =>
      dsimp only at h
      split at h
      · cases h
      · cases h
        exact ⟨dealt.all, fun some => ⟨(dealt.laid some).size, (dealt.laid some).shown, (dealt.laid some).bingo⟩,
          dealt.reset, dealt.begun, dealt.moving⟩
    | beginEnd =>
      dsimp only at h
      split at h
      · next begun =>
        cases h
        obtain ⟨last, empty⟩ := dealt.begun begun
        have some : s.log ≠ [] := List.ne_nil_of_mem (List.mem_of_getLast? last)
        have laid := dealt.laid some
        refine run_dealt dealt.all ⟨laid.size, laid.shown, laid.bingo⟩ rfl (fun landed => ?_) some (not_over ?_)
        · cases last.symm.trans landed
        · rw [last]
          exact nofun
      · cases h
    | moveEnd i =>
      obtain ⟨flight, found, rfl⟩ := Option.map_eq_some_iff.1 h
      exact moveEnd_dealt dealt found

end
end Table

/-! ## What every run keeps -/

namespace Hunt

/-- What every step keeps, harmless or not. -/
structure Known (s : Hunt) : Prop where
  size : s.cards.children.length = s.cards.allCardIndex.length
  bingo : s.cards.bingoIndex < s.cards.allCardIndex.length
  inside : ∀ c ∈ s.picked, c < s.cards.allCardIndex.length
  wrong : s.cards.bingoIndex ∉ s.picked
  times : s.cards.showWrongTimes = s.picked.length
  last : s.picked ≠ [] → s.cards.wrongIdx ∈ s.picked
  blinking : ∀ c ∈ s.blinks, c ∈ s.picked
  covered : ∀ c < s.cards.allCardIndex.length, s.cards.isVisible c = false → c ∈ s.picked
  waiting : s.waiting = true → s.scene.propertyState = 7

/-- A picked card that `wrong_idx_` does not stand for, and that is not hidden. -/
def Doomed (s : Hunt) : Prop := ∃ a ∈ s.picked, a ≠ s.cards.wrongIdx ∧ (a ∈ s.blinks ∨ s.cards.isVisible a = true)

/-- What the harmless steps keep: at most the last picked card blinks, and those
before it are hidden. -/
structure Clean (s : Hunt) : Prop where
  running : s.stuck = false
  fresh : s.picked.Nodup
  single : ∀ c ∈ s.blinks, s.blinks = [c] ∧ c = s.cards.wrongIdx
  gone : ∀ c ∈ s.picked, c ∉ s.blinks → s.cards.isVisible c = false

/-- What `CARecvDone` does after a reply to the finger. -/
inductive Shows (s : Hunt) (scene : PlayScene) : Hunt → Prop where
  | picks {r : ℕ} (inside : r < s.cards.allCardIndex.length) (shown : s.cards.isVisible r = true)
    (wrong : r ≠ s.cards.bingoIndex) :
    Shows s scene
      { s with
        scene
        waiting := false
        cards := { s.cards with wrongIdx := r, showWrongTimes := s.cards.showWrongTimes + 1 }
        blinks := s.blinks ++ [r]
        picked := r :: s.picked }
  | sticks (absent : ¬ CardMgr.Candidate s.cards.isVisible s.cards.bingoIndex s.cards.allCardIndex.length) :
    Shows s scene { s with scene, waiting := false, stuck := true }

section
variable {s t : Hunt} {a : HuntStep} {card : ℕ}

/-- A successful reply to the finger has its effect. -/
theorem caRecvDone_finger {scene : PlayScene} (pressed : scene.propertyState = 7) :
    ∃ scene', (scene.caRecv 0 6).caRecvDone = (scene', some .finger) := by
  have effect : (scene.caRecv 0 6).caRecvDone.2 = some .finger := by
    rw [PlayScene.caRecvDone_item rfl]
    exact congrArg some (if_pos pressed)
  exact ⟨_, Prod.ext rfl effect⟩

/-- **`CARecvDone`** picks a card or searches for ever. -/
theorem Known.shows (known : Known s) (waiting : s.waiting = true) (time : ℕ) :
    ∃ t scene, s.done time = some t ∧ Shows s scene t := by
  obtain ⟨scene, effect⟩ := caRecvDone_finger (known.waiting waiting)
  unfold done
  rw [effect]
  dsimp only
  cases found : s.cards.showWrongCard time with
  | some cards =>
    obtain ⟨r, rfl, small, shown, wrong⟩ := CardMgr.showWrongCard_some known.bingo found
    exact ⟨_, scene, rfl, .picks small shown wrong⟩
  | none =>
    refine ⟨_, scene, rfl, .sticks fun candidate => ?_⟩
    have some : (s.cards.showWrongCard time).isSome := (CardMgr.showWrongCard_isSome known.bingo).2 candidate
    rw [found] at some
    cases some

/-- A pick adds a wrong card that shows to those picked. -/
theorem shows_known (known : Known s) {scene : PlayScene} (shows : Shows s scene t) : Known t := by
  cases shows with
  | picks inside shown wrong =>
    refine ⟨known.size, known.bingo, fun c mem => ?_, fun mem => ?_, ?_, fun _ => List.mem_cons_self, fun c mem => ?_,
      fun c small out => List.mem_cons_of_mem _ (known.covered c small out), nofun⟩
    · rcases List.mem_cons.1 mem with rfl | old
      · exact inside
      · exact known.inside c old
    · rcases List.mem_cons.1 mem with same | old
      · exact wrong same.symm
      · exact known.wrong old
    · change s.cards.showWrongTimes + 1 = ((_ :: s.picked).length : ℤ)
      rw [known.times, List.length_cons]
      rfl
    · rcases List.mem_append.1 mem with old | new
      · exact List.mem_cons_of_mem _ (known.blinking c old)
      · rw [List.mem_singleton.1 new]
        exact List.mem_cons_self
  | sticks absent =>
    exact ⟨known.size, known.bingo, known.inside, known.wrong, known.times, known.last, known.blinking, known.covered, nofun⟩

/-- A card that blinks has a sprite. -/
theorem Known.sprite (known : Known s) (mem : card ∈ s.blinks) : card < s.cards.children.length := by
  rw [known.size]
  exact known.inside card (known.blinking card mem)

theorem flicker_visible (known : Known s) (mem : card ∈ s.blinks) (visible : Bool) (c : ℕ) :
    (s.cards.setVisible card visible).isVisible c = if card = c then visible else s.cards.isVisible c :=
  CardMgr.isVisible_setVisible (known.sprite mem)

/-- Blinking changes nothing but whether the card is visible. -/
theorem flicker_known (known : Known s) (mem : card ∈ s.blinks) (visible : Bool) :
    Known { s with cards := s.cards.setVisible card visible } where
  size := CardMgr.length_setVisible.trans known.size
  bingo := known.bingo
  inside := known.inside
  wrong := known.wrong
  times := known.times
  last := known.last
  blinking := known.blinking
  covered c small out := by
    by_cases same : card = c
    · rw [← same]
      exact known.blinking card mem
    · rw [flicker_visible known mem, if_neg same] at out
      exact known.covered c small out
  waiting := known.waiting

/-- The end of a blink hides the card of `wrong_idx_`. -/
theorem blinkEnd_visible (known : Known s) (mem : card ∈ s.blinks) (c : ℕ) : (s.blinkEnd card).cards.isVisible c =
    if s.cards.wrongIdx = c then false else if card = c then true else s.cards.isVisible c := by
  have last := known.inside _ (known.last (List.ne_nil_of_mem (known.blinking card mem)))
  have inside : s.cards.wrongIdx < (s.cards.setVisible card true).children.length := by
    rw [CardMgr.length_setVisible, known.size]
    exact last
  change ((s.cards.setVisible card true).setVisible s.cards.wrongIdx false).isVisible c = _
  rw [CardMgr.isVisible_setVisible inside, flicker_visible known mem]

/-- The end of a blink hides the last pick, which has been picked. -/
theorem blinkEnd_known (known : Known s) (mem : card ∈ s.blinks) : Known (s.blinkEnd card) where
  size := (CardMgr.length_setVisible.trans CardMgr.length_setVisible).trans known.size
  bingo := known.bingo
  inside := known.inside
  wrong := known.wrong
  times := known.times
  last := known.last
  blinking c blinks := known.blinking c (List.mem_of_mem_erase blinks)
  covered c small out := by
    have picked := known.blinking card mem
    rw [blinkEnd_visible known mem] at out
    split at out
    · next same =>
      rw [← same]
      exact known.last (List.ne_nil_of_mem picked)
    · split at out
      · cases out
      · exact known.covered c small out
  waiting := known.waiting

/-- What a step does. -/
inductive Stepped (s : Hunt) : HuntStep → Hunt → Prop where
  | press {touch : Touch} : Stepped s (.press touch) s.press
  | done {time : ℕ} {scene : PlayScene} {t : Hunt} (shows : Shows s scene t) : Stepped s (.done time) t
  | flicker {card : ℕ} {visible : Bool} (mem : card ∈ s.blinks) :
    Stepped s (.flicker card visible) { s with cards := s.cards.setVisible card visible }
  | blinkEnd {card : ℕ} (mem : card ∈ s.blinks) : Stepped s (.blinkEnd card) (s.blinkEnd card)

/-- A step of the finger is one of these. -/
theorem stepped (known : Known s) (h : step s a = some t) : s.stuck = false ∧ Stepped s a t := by
  unfold step at h
  split at h
  · cases h
  · next running =>
    refine ⟨Bool.eq_false_iff.2 running, ?_⟩
    cases a with
    | press touch =>
      dsimp only at h
      split at h
      · cases h
        exact .press
      · cases h
    | done time =>
      dsimp only at h
      split at h
      · next waiting =>
        obtain ⟨t', scene, ran, shows⟩ := known.shows waiting time
        cases ran.symm.trans h
        exact .done shows
      · cases h
    | flicker card visible =>
      dsimp only at h
      split at h
      · next mem =>
        cases h
        exact .flicker mem
      · cases h
    | blinkEnd card =>
      dsimp only at h
      split at h
      · next mem =>
        cases h
        exact .blinkEnd mem
      · cases h

/-- **One step** keeps what is known of the picks. -/
theorem step_known (known : Known s) (h : step s a = some t) : Known t := by
  obtain ⟨-, st⟩ := stepped known h
  cases st with
  | press =>
    exact ⟨known.size, known.bingo, known.inside, known.wrong, known.times, known.last, known.blinking, known.covered,
      fun _ => rfl⟩
  | done shows => exact shows_known known shows
  | flicker mem => exact flicker_known known mem _
  | blinkEnd mem => exact blinkEnd_known known mem

/-! ## Harmless runs -/

/-- **A careful step** never lets two cards blink. -/
theorem step_clean (known : Known s) (clean : Clean s) (careful : s.Careful a) (h : step s a = some t) : Clean t := by
  obtain ⟨-, st⟩ := stepped known h
  cases st with
  | press => exact ⟨clean.running, clean.fresh, clean.single, clean.gone⟩
  | done shows =>
    obtain ⟨quiet, candidate⟩ := careful
    cases shows with
    | @picks r inside shown wrong =>
      have new : r ∉ s.picked := fun old => by
        rw [clean.gone r old (by rw [quiet]; exact List.not_mem_nil)] at shown
        cases shown
      have alone : s.blinks ++ [r] = [r] := by rw [quiet, List.nil_append]
      refine ⟨clean.running, List.nodup_cons.2 ⟨new, clean.fresh⟩, fun c mem => ?_, fun c mem still => ?_⟩
      · change c ∈ s.blinks ++ [r] at mem
        change s.blinks ++ [r] = [c] ∧ c = r
        rw [alone] at mem ⊢
        rw [List.mem_singleton.1 mem]
        exact ⟨rfl, rfl⟩
      · rcases List.mem_cons.1 mem with rfl | old
        · exact absurd (List.mem_append_right _ List.mem_cons_self) still
        · exact clean.gone c old (by rw [quiet]; exact List.not_mem_nil)
    | sticks absent => exact absurd candidate absent
  | @flicker card visible mem =>
    refine ⟨clean.running, clean.fresh, clean.single, fun c picked still => ?_⟩
    have differ : card ≠ c := by
      rintro rfl
      exact still mem
    change (s.cards.setVisible card visible).isVisible c = false
    rw [flicker_visible known mem, if_neg differ]
    exact clean.gone c picked still
  | @blinkEnd card mem =>
    obtain ⟨alone, last⟩ := clean.single card mem
    have none_left : s.blinks.erase card = [] := by rw [alone, List.erase_cons_head]
    refine ⟨clean.running, clean.fresh, fun c mem => ?_, fun c picked _ => ?_⟩
    · change c ∈ s.blinks.erase card at mem
      rw [none_left] at mem
      cases mem
    · rw [blinkEnd_visible known mem]
      split
      · rfl
      · next other =>
        rw [if_neg (by rw [last]; exact other)]
        refine clean.gone c picked fun blinks => other ?_
        exact (clean.single c blinks).2.symm

/-- With no card blinking, the hidden cards are the picked ones. -/
theorem fair_of_clean (known : Known s) (clean : Clean s) : Fair s where
  running := clean.running
  wrong := known.wrong
  fresh := clean.fresh
  settled quiet := by
    constructor
    · have same : s.cards.hidden.Perm s.picked := by
        refine (List.perm_ext_iff_of_nodup s.cards.hidden_nodup clean.fresh).2 fun c => ?_
        rw [CardMgr.mem_hidden, known.size]
        constructor
        · rintro ⟨small, out⟩
          exact known.covered c small out
        · intro picked
          exact ⟨known.inside c picked, clean.gone c picked (by rw [quiet]; exact List.not_mem_nil)⟩
      rw [same.length_eq, known.times]
    · by_contra out
      exact known.wrong (known.covered _ known.bingo (Bool.eq_false_iff.2 out))

/-! ## Overlapping uses -/

/-- Where no card blinks, a doomed card is missing among the hidden ones. -/
theorem not_fair_of_doomed (known : Known s) (doomed : Doomed s) (quiet : s.blinks = []) : ¬ Fair s := by
  intro fair
  obtain ⟨a, picked, -, shown⟩ := doomed
  have visible : s.cards.isVisible a = true := by
    rcases shown with blinks | visible
    · rw [quiet] at blinks
      cases blinks
    · exact visible
  obtain ⟨count, -⟩ := fair.settled quiet
  have more : (a :: s.cards.hidden).Nodup := by
    refine List.nodup_cons.2 ⟨fun out => ?_, s.cards.hidden_nodup⟩
    rw [(CardMgr.mem_hidden.1 out).2] at visible
    cases visible
  have sub : a :: s.cards.hidden ⊆ s.picked := by
    refine List.cons_subset.2 ⟨picked, fun c out => ?_⟩
    obtain ⟨small, out⟩ := CardMgr.mem_hidden.1 out
    exact known.covered c (known.size ▸ small) out
  have le := (List.subperm_of_subset more sub).length_le
  rw [known.times] at count
  rw [List.length_cons] at le
  omega

/-- A card that is picked while another one blinks dooms the other one. -/
theorem doomed_of_careless (known : Known s) (fair : Fair t) (careless : ¬ s.Careful a) (h : step s a = some t) :
    Doomed t := by
  obtain ⟨-, st⟩ := stepped known h
  cases st with
  | done shows =>
    cases shows with
    | @picks r inside shown wrong =>
      have busy : s.blinks ≠ [] := fun quiet => careless ⟨quiet, r, inside, shown, wrong⟩
      obtain ⟨b, blinks⟩ := List.exists_mem_of_ne_nil _ busy
      have picked := known.blinking b blinks
      refine ⟨b, List.mem_cons_of_mem _ picked, ?_, .inl (List.mem_append_left _ blinks)⟩
      rintro rfl
      exact (List.nodup_cons.1 fair.fresh).1 picked
    | sticks absent => exact absurd fair.running (by simp)
  | press => exact absurd trivial careless
  | flicker mem => exact absurd trivial careless
  | blinkEnd mem => exact absurd trivial careless

/-- It stays so. -/
theorem step_doomed (known : Known s) (doomed : Doomed s) (fair : Fair t) (h : step s a = some t) : Doomed t := by
  obtain ⟨b, picked, other, shown⟩ := doomed
  obtain ⟨-, st⟩ := stepped known h
  cases st with
  | press => exact ⟨b, picked, other, shown⟩
  | done shows =>
    cases shows with
    | @picks r inside visible wrong =>
      refine ⟨b, List.mem_cons_of_mem _ picked, ?_, shown.imp_left (List.mem_append_left _)⟩
      rintro rfl
      exact (List.nodup_cons.1 fair.fresh).1 picked
    | sticks absent => exact absurd fair.running (by simp)
  | @flicker card visible mem =>
    refine ⟨b, picked, other, ?_⟩
    by_cases same : card = b
    · rw [← same]
      exact .inl mem
    · refine shown.imp_right fun shown => ?_
      change (s.cards.setVisible card visible).isVisible b = true
      rw [flicker_visible known mem, if_neg same]
      exact shown
  | @blinkEnd card mem =>
    refine ⟨b, picked, other, ?_⟩
    rw [blinkEnd_visible known mem, if_neg other.symm]
    by_cases same : card = b
    · exact .inr (if_pos same)
    · rw [if_neg same]
      exact shown.imp_left (List.mem_erase_of_ne (Ne.symm same)).2

/-- After a shuffle no card is picked or hidden, and no use is counted. -/
theorem start_known {config : StageInfo} {m : CardMgr} (laid : m.Laid config)
    (all : m.allCardIndex.length = config.cardCount) (reset : m.showWrongTimes = 0) (scene : PlayScene) (wrongIdx : ℕ) :
    Known (start scene m wrongIdx) where
  size := laid.size.trans all.symm
  bingo := all ▸ laid.bingo
  inside := nofun
  wrong := List.not_mem_nil
  times := reset
  last some := absurd rfl some
  blinking := nofun
  covered c small out := by
    have visible : m.isVisible c = true := laid.isVisible (all ▸ small)
    cases visible.symm.trans out
  waiting := nofun

/-- After a shuffle no card blinks. -/
theorem start_clean (scene : PlayScene) (m : CardMgr) (wrongIdx : ℕ) : Clean (start scene m wrongIdx) :=
  ⟨rfl, List.nodup_nil, nofun, nofun⟩

/-- **Which uses of the finger meet the contract**, after any shuffle of any
manager: those that pick their cards with no card blinking and a wrong one left.
No others do once the blinks have ended. -/
theorem fair_iff_careful (config : StageInfo) (enough : 2 ≤ config.cardCount) (mgr : CardMgr)
    (all : mgr.allCardIndex.length = config.cardCount) (idle : mgr.flights = []) (rounds : List CardStep) (table : Table)
    (shuffled : exec (Table.step config) (Table.used mgr) rounds = some table) (ended : Table.Over table.log)
    (scene : PlayScene) (wrongIdx : ℕ) (as : List HuntStep) (s : Hunt)
    (run : exec step (start scene table.mgr wrongIdx) as = some s) :
    (Along step Careful (start scene table.mgr wrongIdx) as → Through step Fair (start scene table.mgr wrongIdx) as) ∧
      (s.blinks = [] → Through step Fair (start scene table.mgr wrongIdx) as →
        Along step Careful (start scene table.mgr wrongIdx) as) := by
  have dealt : Table.Dealt config table := exec_inv (Q := fun _ _ => True)
    (fun _ _ _ dealt _ h => Table.step_dealt (by omega) dealt h) (Table.used_dealt all idle) (fun _ _ _ _ _ => trivial)
    shuffled
  have some : table.log ≠ [] := by
    obtain ⟨before, log⟩ := ended
    rw [log]
    simp
  have known := start_known (dealt.laid some) dealt.all (dealt.reset ended) scene wrongIdx
  have known_end : Known s := exec_inv (Q := fun _ _ => True) (fun _ _ _ known _ h => step_known known h) known
    (fun _ _ _ _ _ => trivial) run
  constructor
  · intro careful
    have both := through_inv (I := fun s => Known s ∧ Clean s)
      (fun _ _ _ here careful h => ⟨step_known here.1 h, step_clean here.1 here.2 careful h⟩)
      ⟨known, start_clean scene table.mgr wrongIdx⟩ careful
    exact fun bs t pre run => fair_of_clean (both bs t pre run).1 (both bs t pre run).2
  · intro quiet through
    refine along_of_through (fun _ _ _ known h => step_known known h) (fun _ _ _ known fair careless h =>
      doomed_of_careless known fair careless h) (fun _ _ _ known doomed fair h => step_doomed known doomed fair h)
      known through run ?_
    exact fun doomed => not_fair_of_doomed known_end doomed quiet (through.last run)

/-- After a shuffle of two cards. -/
def twoTable : Table :=
  (exec (Table.step Table.twoCards) (Table.init Table.twoCards) Table.twoSteps).getD (Table.init Table.twoCards)

/-- The finger after it. -/
def twoHunt : Hunt := start (PlayScene.onEnter 1 0) twoTable.mgr 0

/-- One use, in which a press is repeated. -/
def oneUse : List HuntStep := [.press .moved, .press .ended, .done 0, .flicker 1 false, .blinkEnd 1]

/-- The manager after it: the wrong card is hidden, and one use is counted. -/
def oneUsed : CardMgr := ((exec step twoHunt oneUse).getD twoHunt).cards

/-- After the shuffle of the next round. -/
def nextTable : Table :=
  (exec (Table.step Table.twoCards) (Table.used oneUsed) Table.twoSteps).getD (Table.used oneUsed)

/-- A use in the round after one in which a card was hidden and counted. -/
theorem fair_iff_careful_two : oneUsed.hidden = [1] ∧ oneUsed.showWrongTimes = 1 ∧
    Through step Fair (start (PlayScene.onEnter 1 0) nextTable.mgr oneUsed.wrongIdx) oneUse := by
  have shuffled : exec (Table.step Table.twoCards) (Table.used oneUsed) Table.twoSteps = some nextTable := by
    decide +kernel
  have ended : Table.Over nextTable.log := ⟨[.started, .moved 2], by decide +kernel⟩
  refine ⟨by decide +kernel, by decide +kernel, ?_⟩
  exact (fair_iff_careful Table.twoCards (by decide) oneUsed (by decide +kernel) (by decide +kernel) Table.twoSteps nextTable
    shuffled ended (PlayScene.onEnter 1 0) oneUsed.wrongIdx oneUse _ rfl).1 (by decide +kernel)

def fourCards : StageInfo := { Table.twoCards with cardCount := 4 }

/-- A shuffle of four cards, of which two change places. -/
def fourSteps : List CardStep := [.start 0 [[1, 0, 2, 3], [0, 1, 2, 3]], .beginEnd, .moveEnd 0, .moveEnd 0]

def fourTable : Table := (exec (Table.step fourCards) (Table.init fourCards) fourSteps).getD (Table.init fourCards)

def fourHunt : Hunt := start (PlayScene.onEnter 1 0) fourTable.mgr 0

/-- A press while the only wrong card blinks, and its reply when it is hidden. -/
def stalled : List HuntStep := [.press .ended, .done 0, .press .ended, .blinkEnd 1, .done 0]

/-- Two uses that pick one card, in the same second. -/
def repeated : List HuntStep := [.press .ended, .done 0, .press .ended, .done 0]

/-- Two uses whose blinks overlap: both hide the card of the second one. -/
def overlapping : List HuntStep := [.press .ended, .done 0, .press .ended, .done 1, .blinkEnd 1, .blinkEnd 2]

/-- None of the three runs meets the contract. -/
theorem unfair_overlapping :
    ¬ Through step Fair twoHunt stalled ∧ ¬ Through step Fair fourHunt repeated ∧
      ¬ Through step Fair fourHunt overlapping := by
  refine ⟨fun through => ?_, fun through => ?_, fun through => ?_⟩
  · exact absurd (through.last rfl).running (by decide +kernel)
  · exact absurd (through.last rfl).fresh (by decide +kernel)
  · obtain ⟨count, -⟩ := (through.last rfl).settled (by decide +kernel)
    exact absurd count (by decide +kernel)

end
end Hunt
end Crazyass.Client
