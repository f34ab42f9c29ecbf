import Mathlib.Algebra.Order.BigOperators.Group.List
import Mathlib.Algebra.Order.Floor.Ring
import Mathlib.Algebra.Order.Group.MinMax
import Mathlib.Data.List.Sort
import Mathlib.Data.Rat.Floor
import Mathlib.Tactic.Linarith
import Rigor.PyText

/-!
# Falling words

The engine of the typing game: words enter at the top row, move down one row
at a time, and are matched by what the player types or missed at the bottom.
The injected clock and RNG are the readings and draws they give one after
another, and the state counts the calls. The `journal` is no field of the
source: it lists what happened in every run, for the statements about counters
and results, and no operation reads it.

One long tick is many short ones (`tick_split`): an event comes as soon as its
time is up, whichever tick that time falls into, and what lies before it only
passes time, which adds up.
-/

namespace FallingWords

open Py

/-! ## The state -/

inductive RunState where
  | menu
  | ready
  | playing
  | paused
  | won
  | lost
  | exited
deriving DecidableEq

inductive FinishReason where
  | won
  | lost
  | exited
deriving DecidableEq

def FinishReason.state : FinishReason → RunState
  | .won => .won
  | .lost => .lost
  | .exited => .exited

structure FallingWord where
  id : Nat
  text : Str
  x : Nat
  y : Nat
deriving DecidableEq

structure RunResult where
  runId : Nat
  reason : FinishReason
  score : Nat
  level : Nat
  lives : Nat
  matchedWords : Nat
  missedWords : Nat
  activeElapsedMs : Rat
  startedAtMs : Rat
  finishedAtMs : Rat
deriving DecidableEq

structure GameConfig where
  width : Rat
  height : Rat
  words : List Str
  startingLives : Option Rat
  pointsPerLevel : Option Rat
  winningLevel : Option Rat

/-- `now` and `random`: the value of each call. -/
structure GameDependencies where
  now : Nat → Rat
  random : Nat → Rat
  now_nonneg : ∀ n, 0 ≤ now n
  random_nonneg : ∀ n, 0 ≤ random n
  random_lt_one : ∀ n, random n < 1

/-- What happens to a word of a run, and the lives the run starts with. -/
inductive RunEvent where
  | started (lives : Nat)
  | spawned (word : FallingWord)
  | matched (word : FallingWord)
  | missed (word : FallingWord)
deriving DecidableEq

/-- The fields of the constructor that never change. -/
structure Game where
  width : Nat
  height : Nat
  pool : List Str
  pointsPerLevel : Nat
  winningLevel : Nat
  height_pos : 0 < height
  pool_ne : pool ≠ []
  pool_fits : ∀ text ∈ pool, 0 < text.length ∧ text.length ≤ width

structure GameEngine where
  startingLives : Nat
  phase : RunState
  activeRunId : Option Nat
  nextRunId : Nat
  nextWordId : Nat
  onBoard : List FallingWord
  scoreValue : Nat
  livesValue : Nat
  matchedValue : Nat
  missedValue : Nat
  elapsedValue : Rat
  untilSpawn : Rat
  untilMove : Rat
  startedAt : Rat
  lastClock : Option Rat
  completed : List RunResult
  readings : Nat
  drawn : Nat
  journal : List (Nat × RunEvent)
deriving DecidableEq

def pointsPerCharacter : Nat := 10
def initialSpawnMs : Rat := 2400
def initialMoveMs : Rat := 650
def spawnFloorMs : Int := 450
def moveFloorMs : Int := 120
def maxTickMs : Rat := 60000

/-! ## The constructor -/

/-- The ranges asked for lie within the safe integers. -/
def integerInRange (value : Rat) (name : String) (min max : Nat) :
    Except String { n : Nat // min ≤ n ∧ n ≤ max } :=
  if h : value.den = 1 ∧ (min : Int) ≤ value.num ∧ value.num ≤ max then
    .ok ⟨value.num.toNat, by omega⟩
  else .error (name ++ " must be an integer between " ++ toString min ++ " and " ++ toString max)

/-- 1 to 64 printable ASCII characters without edge spaces. -/
def isWord (word : Str) : Bool :=
  word ≠ [] && word.length ≤ 64 && word.all (fun c => 32 ≤ c && c ≤ 126)
    && word.head? ≠ some 32 && word.getLast? ≠ some 32

def newEngine (lives : Nat) : GameEngine where
  startingLives := lives
  phase := .menu
  activeRunId := none
  nextRunId := 1
  nextWordId := 1
  onBoard := []
  scoreValue := 0
  livesValue := lives
  matchedValue := 0
  missedValue := 0
  elapsedValue := 0
  untilSpawn := initialSpawnMs
  untilMove := initialMoveMs
  startedAt := 0
  lastClock := none
  completed := []
  readings := 0
  drawn := 0
  journal := []

theorem pool_fits {words : List Str} (hwords : words.all isWord = true) (width : Nat) :
    ∀ text ∈ words.filter (fun word => word.length ≤ width),
      0 < text.length ∧ text.length ≤ width := by
  intro text htext
  obtain ⟨hmem, hfits⟩ := List.mem_filter.mp htext
  have hword := List.all_eq_true.mp hwords text hmem
  simp only [isWord, Bool.and_eq_true, decide_eq_true_eq] at hword hfits
  exact ⟨List.length_pos_iff.mpr hword.1.1.1.1, hfits⟩

def construct (config : GameConfig) : Except String (Game × GameEngine) := do
  let width ← integerInRange config.width "width" 1 200
  let height ← integerInRange config.height "height" 1 2000
  let startingLives ← integerInRange (config.startingLives.getD 3) "startingLives" 1 99
  let pointsPerLevel ← integerInRange (config.pointsPerLevel.getD 150) "pointsPerLevel" 1 100000
  let winningLevel ← integerInRange (config.winningLevel.getD 27) "winningLevel" 2 27
  if config.words.length < 1 ∨ 1000 < config.words.length then
    .error "words must contain 1 to 1000 entries"
  else if hwords : config.words.all isWord then
    let eligible := config.words.filter fun word => word.length ≤ width.val
    if heligible : eligible = [] then .error "at least one word must fit the board width"
    else
      .ok ({ width := width.val, height := height.val, pool := eligible,
             pointsPerLevel := pointsPerLevel.val, winningLevel := winningLevel.val,
             height_pos := height.2.1, pool_ne := heligible, pool_fits := pool_fits hwords _ },
        newEngine startingLives.val)
  else .error "words must be 1-64 printable ASCII characters without edge spaces"

/-! ## The operations -/

section Operations

variable (game : Game) (deps : GameDependencies)

def GameEngine.level (s : GameEngine) : Nat :=
  min game.winningLevel (1 + s.scoreValue / game.pointsPerLevel)

def GameEngine.clock (s : GameEngine) : Rat × GameEngine :=
  let reading := deps.now s.readings
  let last := max (s.lastClock.getD reading) reading
  (last, { s with lastClock := some last, readings := s.readings + 1 })

def GameEngine.draw (s : GameEngine) : Rat × GameEngine :=
  (deps.random s.drawn, { s with drawn := s.drawn + 1 })

/-- `Math.round`. -/
def mathRound (x : Rat) : Int := ⌊x + 1 / 2⌋

def GameEngine.spawnInterval (s : GameEngine) : Rat :=
  (max spawnFloorMs (mathRound (initialSpawnMs * (17 / 20) ^ (s.level game - 1))) : Int)

def GameEngine.moveInterval (s : GameEngine) : Rat :=
  (max moveFloorMs (mathRound (initialMoveMs * (17 / 20) ^ (s.level game - 1))) : Int)

def GameEngine.isActive (s : GameEngine) : Bool := s.phase = .playing || s.phase = .paused

def GameEngine.record (s : GameEngine) (events : List RunEvent) : GameEngine :=
  { s with journal := s.journal ++ events.map fun event => (s.activeRunId.getD 0, event) }

def GameEngine.prepare (s : GameEngine) : Bool × GameEngine :=
  if s.phase ≠ .menu then (false, s) else (true, { s with phase := .ready })

def GameEngine.setStartingLives (s : GameEngine) (value : Rat) :
    Except String (Bool × GameEngine) := do
  let lives ← integerInRange value "startingLives" 1 99
  if s.isActive then return (false, s)
  return (true, { s with startingLives := lives.val, livesValue := lives.val })

def GameEngine.start (s : GameEngine) : Bool × GameEngine :=
  if s.phase ≠ .ready then (false, s)
  else
    let (instant, s) := s.clock deps
    let s := { s with activeRunId := some s.nextRunId, nextRunId := s.nextRunId + 1,
                      startedAt := instant, phase := .playing }
    (true, s.record [.started s.livesValue])

def GameEngine.pause (s : GameEngine) : Bool × GameEngine :=
  if s.phase ≠ .playing then (false, s) else (true, { s with phase := .paused })

def GameEngine.resume (s : GameEngine) : Bool × GameEngine :=
  if s.phase ≠ .paused then (false, s) else (true, { s with phase := .playing })

def GameEngine.finish (reason : FinishReason) (s : GameEngine) : GameEngine :=
  if !s.isActive then s
  else
    let (finishedAt, s) := s.clock deps
    { s with
      completed := s.completed ++ [{
        runId := s.activeRunId.getD 0
        reason
        score := s.scoreValue
        level := s.level game
        lives := s.livesValue
        matchedWords := s.matchedValue
        missedWords := s.missedValue
        activeElapsedMs := s.elapsedValue
        startedAtMs := s.startedAt
        finishedAtMs := finishedAt }]
      phase := reason.state }

def GameEngine.restart (s : GameEngine) : GameEngine :=
  let s := s.finish game deps .exited
  { s with
    activeRunId := none, onBoard := [], scoreValue := 0, livesValue := s.startingLives,
    matchedValue := 0, missedValue := 0, elapsedValue := 0, untilSpawn := initialSpawnMs,
    untilMove := initialMoveMs, nextWordId := 1, phase := .ready }

def GameEngine.exit (s : GameEngine) : GameEngine :=
  { s.finish game deps .exited with phase := .exited }

/-- Largest `y` first, then the oldest id. -/
def comesFirst (left right : FallingWord) : Prop :=
  right.y < left.y ∨ right.y = left.y ∧ left.id ≤ right.id

instance : DecidableRel comesFirst := fun left right => by unfold comesFirst; infer_instance

def GameEngine.submit (s : GameEngine) (text : Str) : Option Nat × GameEngine :=
  if s.phase ≠ .playing ∨ text = [] then (none, s)
  else
    let matching := s.onBoard.filter fun word : FallingWord => word.text = text
    match (matching.insertionSort comesFirst).head? with
    | none => (none, s)
    | some target =>
        let s := { s with
          onBoard := s.onBoard.filter fun word : FallingWord => word.id ≠ target.id
          matchedValue := s.matchedValue + 1
          scoreValue := s.scoreValue + target.text.length * pointsPerCharacter }
        let s := s.record [.matched target]
        (some target.id, if s.level game = game.winningLevel then s.finish game deps .won else s)

/-- `array[Math.floor(draw * array.length)]`. -/
def pick {α : Type} (array : List α) (draw : Rat) (fallback : α) : α :=
  array.getD ⌊draw * array.length⌋.toNat fallback

def GameEngine.available (s : GameEngine) (text : Str) : List Nat :=
  (List.range (game.width - text.length + 1)).filter fun x =>
    !s.onBoard.any fun word =>
      word.y = 0 && x < word.x + word.text.length && word.x < x + text.length

def GameEngine.spawn (s : GameEngine) : GameEngine :=
  let (value, s) := s.draw deps
  let text := pick game.pool value []
  let available := s.available game text
  if available = [] then s
  else
    let (value, s) := s.draw deps
    let word : FallingWord :=
      { id := s.nextWordId, text, x := pick available value 0, y := 0 }
    let s := { s with nextWordId := s.nextWordId + 1, onBoard := s.onBoard ++ [word] }
    s.record [.spawned word]

def GameEngine.advance (s : GameEngine) : GameEngine :=
  let fallen := s.onBoard.filter fun word : FallingWord => game.height ≤ word.y + 1
  let staying := s.onBoard.filter fun word : FallingWord => word.y + 1 < game.height
  let remaining := staying.map fun word : FallingWord => { word with y := word.y + 1 }
  let s := { s with onBoard := remaining }
  let s := s.record (fallen.map .missed)
  if fallen = [] then s
  else
    let s : GameEngine := { s with
      missedValue := s.missedValue + fallen.length
      livesValue := s.livesValue - fallen.length }
    if s.livesValue = 0 then s.finish game deps .lost else s

/-! ## Ticks -/

def GameEngine.untilEvent (s : GameEngine) : Rat := min s.untilMove s.untilSpawn

def GameEngine.pass (s : GameEngine) (ms : Rat) : GameEngine :=
  { s with
    untilMove := s.untilMove - ms
    untilSpawn := s.untilSpawn - ms
    elapsedValue := s.elapsedValue + ms }

/-- A movement that is due, before a spawn that is due. -/
def GameEngine.move (s : GameEngine) : GameEngine :=
  if s.untilMove ≤ 0 then
    let s := s.advance game deps
    { s with untilMove := s.moveInterval game }
  else s

def GameEngine.enter (s : GameEngine) : GameEngine :=
  if s.phase = .playing ∧ s.untilSpawn ≤ 0 then
    let s := s.spawn game deps
    { s with untilSpawn := s.spawnInterval game }
  else s

/-- One round of the loop that reaches its event. -/
def GameEngine.event (s : GameEngine) : GameEngine :=
  ((s.pass s.untilEvent).move game deps).enter game deps

end Operations

/-! ## Every tick ends -/

/-- How often an event that is due after `wait`, and then no sooner than every
`floor`, can come within `ms`. -/
def timesWithin (ms wait floor : Rat) : Nat :=
  if ms < wait then 0 else ⌊(ms - wait) / floor⌋.toNat + 1

theorem timesWithin_sub (ms wait floor u : Rat) :
    timesWithin (ms - u) (wait - u) floor = timesWithin ms wait floor := by
  simp only [timesWithin, sub_lt_sub_iff_right, sub_sub_sub_cancel_right]

theorem timesWithin_lt {ms wait floor interval : Rat} (hfloor : 0 < floor)
    (hinterval : floor ≤ interval) (hwait : wait ≤ ms) :
    timesWithin (ms - wait) interval floor < timesWithin ms wait floor := by
  rw [timesWithin, timesWithin, if_neg (not_lt.mpr hwait)]
  split
  · exact Nat.succ_pos _
  · have hone : (ms - wait - interval) / floor ≤ (ms - wait) / floor - 1 := by
      rw [div_sub_one hfloor.ne']
      exact div_le_div_of_nonneg_right (by linarith) hfloor.le
    have hfloors := Int.floor_mono hone
    rw [Int.floor_sub_one] at hfloors
    have hnonneg : 0 ≤ ⌊(ms - wait - interval) / floor⌋ :=
      Int.floor_nonneg.mpr (div_nonneg (by linarith) hfloor.le)
    omega

section Ticks

variable (game : Game) (deps : GameDependencies) (s : GameEngine)

theorem moveFloor_le : (moveFloorMs : Rat) ≤ s.moveInterval game := by
  rw [GameEngine.moveInterval, Int.cast_le]
  exact le_max_left _ _

theorem spawnFloor_le : (spawnFloorMs : Rat) ≤ s.spawnInterval game := by
  rw [GameEngine.spawnInterval, Int.cast_le]
  exact le_max_left _ _

@[simp] theorem finish_untilSpawn (reason : FinishReason) :
    (s.finish game deps reason).untilSpawn = s.untilSpawn := by
  simp only [GameEngine.finish, GameEngine.clock]
  split <;> rfl

@[simp] theorem advance_untilSpawn : (s.advance game deps).untilSpawn = s.untilSpawn := by
  simp only [GameEngine.advance]
  split
  · rfl
  · split
    · exact finish_untilSpawn ..
    · rfl

@[simp] theorem spawn_untilMove : (s.spawn game deps).untilMove = s.untilMove := by
  unfold GameEngine.spawn
  dsimp only
  split <;> rfl

@[simp] theorem move_untilSpawn : (s.move game deps).untilSpawn = s.untilSpawn := by
  rw [GameEngine.move]
  split
  · exact advance_untilSpawn ..
  · rfl

@[simp] theorem enter_untilMove : (s.enter game deps).untilMove = s.untilMove := by
  rw [GameEngine.enter]
  split
  · exact spawn_untilMove ..
  · rfl

/-- The events a tick of `ms` can still reach. -/
def GameEngine.eventsWithin (ms : Rat) (s : GameEngine) : Nat :=
  timesWithin ms s.untilMove moveFloorMs + timesWithin ms s.untilSpawn spawnFloorMs

theorem move_timesWithin {ms : Rat} (h : s.untilMove = s.untilEvent) (hms : s.untilEvent ≤ ms) :
    timesWithin (ms - s.untilEvent) ((s.pass s.untilEvent).move game deps).untilMove moveFloorMs
      < timesWithin ms s.untilMove moveFloorMs := by
  have hdue : (s.pass s.untilEvent).untilMove ≤ 0 := by
    simp only [GameEngine.pass, h, sub_self, le_refl]
  rw [GameEngine.move, if_pos hdue, h]
  exact timesWithin_lt (by norm_num [moveFloorMs]) (moveFloor_le game _) hms

theorem enter_timesWithin {ms : Rat} (hplaying : s.phase = .playing)
    (h : s.untilMove ≠ s.untilEvent) (hms : s.untilEvent ≤ ms) :
    timesWithin (ms - s.untilEvent) (s.event game deps).untilSpawn spawnFloorMs
      < timesWithin ms s.untilSpawn spawnFloorMs := by
  have hmove : ¬(s.pass s.untilEvent).untilMove ≤ 0 := by
    have : s.untilEvent < s.untilMove := lt_of_le_of_ne (min_le_left _ _) h.symm
    simp only [GameEngine.pass, not_le]
    linarith
  have hspawn : s.untilSpawn = s.untilEvent := by
    rcases min_choice s.untilMove s.untilSpawn with hmin | hmin
    · exact absurd hmin.symm h
    · exact hmin.symm
  have hdue : (s.pass s.untilEvent).phase = .playing ∧ (s.pass s.untilEvent).untilSpawn ≤ 0 :=
    ⟨hplaying, by simp only [GameEngine.pass, hspawn, sub_self, le_refl]⟩
  rw [GameEngine.event, GameEngine.move, if_neg hmove, GameEngine.enter, if_pos hdue, hspawn]
  exact timesWithin_lt (by norm_num [spawnFloorMs]) (spawnFloor_le game _) hms

/-- A round of the loop leaves fewer events to reach. -/
theorem eventsWithin_event {ms : Rat} (hplaying : s.phase = .playing) (hms : s.untilEvent ≤ ms) :
    (s.event game deps).eventsWithin (ms - s.untilEvent) < s.eventsWithin ms := by
  have hmoves : timesWithin (ms - s.untilEvent) (s.event game deps).untilMove moveFloorMs
      ≤ timesWithin ms s.untilMove moveFloorMs := by
    rw [GameEngine.event, enter_untilMove]
    by_cases h : s.untilMove = s.untilEvent
    · exact (move_timesWithin game deps s h hms).le
    · rw [GameEngine.move, if_neg, GameEngine.pass, timesWithin_sub]
      have : s.untilEvent < s.untilMove := lt_of_le_of_ne (min_le_left _ _) (Ne.symm h)
      simp only [GameEngine.pass, not_le]
      linarith
  have hspawns : timesWithin (ms - s.untilEvent) (s.event game deps).untilSpawn spawnFloorMs
      ≤ timesWithin ms s.untilSpawn spawnFloorMs := by
    rw [GameEngine.event, GameEngine.enter]
    split
    · rename_i hdue
      rw [move_untilSpawn] at hdue
      have hspawn : s.untilSpawn = s.untilEvent := by
        have hle : s.untilEvent ≤ s.untilSpawn := min_le_right _ _
        have := hdue.2
        simp only [GameEngine.pass] at this
        linarith
      rw [hspawn]
      exact (timesWithin_lt (by norm_num [spawnFloorMs]) (spawnFloor_le game _) hms).le
    · rw [move_untilSpawn, GameEngine.pass, timesWithin_sub]
  by_cases h : s.untilMove = s.untilEvent
  · have := move_timesWithin game deps s h hms
    rw [← enter_untilMove game deps] at this
    exact Nat.add_lt_add_of_lt_of_le this hspawns
  · exact Nat.add_lt_add_of_le_of_lt hmoves (enter_timesWithin game deps s hplaying h hms)

/-- The loop of `tick`. -/
def GameEngine.run (remaining : Rat) (s : GameEngine) : GameEngine :=
  if _h : 0 < remaining ∧ s.phase = .playing then
    if _hevent : remaining < s.untilEvent then s.pass remaining
    else GameEngine.run (remaining - s.untilEvent) (s.event game deps)
  else s
termination_by s.eventsWithin remaining
decreasing_by exact eventsWithin_event game deps s _h.2 (not_lt.mp _hevent)

def GameEngine.tick (deltaMs : Rat) (s : GameEngine) : Except String GameEngine :=
  if deltaMs < 0 ∨ maxTickMs < deltaMs then .error "deltaMs must be finite and between 0 and 60000"
  else if s.phase ≠ .playing ∨ deltaMs = 0 then .ok s
  else .ok (s.run game deps deltaMs)

/-! ## One long tick is many short ones -/

theorem run_idle {ms : Rat} (h : ¬(0 < ms ∧ s.phase = .playing)) : s.run game deps ms = s := by
  rw [GameEngine.run, dif_neg h]

theorem run_pass {ms : Rat} (h : 0 < ms ∧ s.phase = .playing) (hevent : ms < s.untilEvent) :
    s.run game deps ms = s.pass ms := by
  rw [GameEngine.run, dif_pos h, dif_pos hevent]

theorem run_event {ms : Rat} (h : 0 < ms ∧ s.phase = .playing) (hevent : s.untilEvent ≤ ms) :
    s.run game deps ms = (s.event game deps).run game deps (ms - s.untilEvent) := by
  rw [GameEngine.run, dif_pos h, dif_neg (not_lt.mpr hevent)]

theorem pass_pass (a b : Rat) : (s.pass a).pass b = s.pass (a + b) := by
  simp only [GameEngine.pass, sub_sub, add_assoc]

theorem pass_untilEvent (a : Rat) : (s.pass a).untilEvent = s.untilEvent - a :=
  min_sub_sub_right _ _ _

theorem pass_event (a : Rat) : (s.pass a).event game deps = s.event game deps := by
  rw [GameEngine.event, GameEngine.event, pass_untilEvent, pass_pass, add_sub_cancel]

/-- The loop over a time is the loop over its first part and then over the rest. -/
theorem run_add (a : Rat) : ∀ b, 0 ≤ a → 0 ≤ b →
    s.run game deps (a + b) = (s.run game deps a).run game deps b := by
  fun_induction GameEngine.run game deps a s with
  | case1 a s h hevent =>
      intro b ha hb
      rcases hb.eq_or_lt with rfl | hb
      · rw [add_zero, run_pass game deps s h hevent, run_idle]
        exact fun hpos => absurd hpos.1 (lt_irrefl _)
      have hlong : 0 < a + b ∧ s.phase = .playing := ⟨by linarith, h.2⟩
      have hrest : 0 < b ∧ (s.pass a).phase = .playing := ⟨hb, h.2⟩
      rcases lt_or_ge (a + b) s.untilEvent with hbefore | hreached
      · rw [run_pass game deps s hlong hbefore, run_pass game deps _ hrest, pass_pass]
        rw [pass_untilEvent]
        linarith
      · rw [run_event game deps s hlong hreached, run_event game deps _ hrest, pass_untilEvent,
          pass_event]
        · congr 1
          linarith
        · rw [pass_untilEvent]
          linarith
  | case2 a s h hevent ih =>
      intro b ha hb
      have hreached : s.untilEvent ≤ a := not_lt.mp hevent
      rw [run_event game deps s ⟨by linarith [h.1], h.2⟩ (by linarith), ← ih b (by linarith) hb]
      congr 1
      linarith
  | case3 a s h =>
      intro b ha hb
      by_cases hplaying : s.phase = .playing
      · obtain rfl : a = 0 := by
          by_contra hne
          exact h ⟨lt_of_le_of_ne ha (Ne.symm hne), hplaying⟩
        rw [zero_add]
      · rw [run_idle game deps s fun hpos => hplaying hpos.2,
          run_idle game deps s fun hpos => hplaying hpos.2]

/-- A tick within the bound is the loop, also where the source returns before it. -/
theorem tick_eq_run {deltaMs : Rat} (h : 0 ≤ deltaMs) (hmax : deltaMs ≤ maxTickMs) :
    s.tick game deps deltaMs = .ok (s.run game deps deltaMs) := by
  rw [GameEngine.tick, if_neg (by rintro (hlt | hlt) <;> linarith)]
  split
  · rename_i hidle
    rw [run_idle]
    rintro ⟨hpos, hplaying⟩
    exact hidle.elim (absurd hplaying) hpos.ne'
  · rfl

/-- The ticks of the parts, up to the first that raises. -/
def GameEngine.ticks (parts : List Rat) (s : GameEngine) : Except String GameEngine :=
  parts.foldlM (fun s deltaMs => s.tick game deps deltaMs) s

end Ticks

/-! ## A small game -/

/-- A clock that stands still, and an RNG that draws zeros. -/
def stillDependencies : GameDependencies where
  now := fun _ => 5
  random := fun _ => 0
  now_nonneg := fun _ => by norm_num
  random_nonneg := fun _ => le_rfl
  random_lt_one := fun _ => by norm_num

def smallGame : Game where
  width := 4
  height := 3
  pool := [Str.ofString "word"]
  pointsPerLevel := 150
  winningLevel := 27
  height_pos := by norm_num
  pool_ne := List.cons_ne_nil _ _
  pool_fits := by simp [Str.ofString]

end FallingWords
