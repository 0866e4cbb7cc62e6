/-
The counter of layout updates of the video mixer. Other threads add to it at any time; a
pass reads it once, after it has found a canvas, draws the sources one after the other,
and at its end takes off what it read. Requests are numbered. What a source shows, and
the frame it has, are read when the pass comes to it.
-/

import SipCore.Video.MixerPasses

namespace SipCore.LayoutUpdates

/-- A source as the pass came to it and as it was left, with what the pass knew then. -/
structure Visit where
  scene : RenderState
  loop : PassLoop
  before : RenderSource
  after : RenderSource
  deriving DecidableEq, Repr

structure LayoutPass where
  requests : Nat
  pendingLayoutUpdates : Int
  sources : List RenderSource
  visits : List Visit := []
  todo : List RenderSource
  loop : PassLoop
  deriving DecidableEq, Repr

/-- What the mixer thread is at. While it is clamping, the counter is below zero. -/
inductive Phase where
  | idle
  | prepared
  | drawing (pass : LayoutPass)
  | clamping (pass : LayoutPass)
  | reporting (pass : LayoutPass)
  deriving DecidableEq, Repr

/-- `onSourcesUpdated` says whether there is a callback; `finished` are the passes that
came to calling it, `reported` those that did. -/
structure LayoutMixer where
  scene : RenderState
  onSourcesUpdated : Bool
  layoutUpdated : Int := 0
  requested : Nat := 0
  phase : Phase := .idle
  finished : List LayoutPass := []
  reported : List LayoutPass := []
  deriving DecidableEq, Repr

inductive Event where
  | addLayoutUpdate
  | resetLayout
  | change (scene : RenderState)
  | snapshot
  | load
  | visit (input : Option InputFrame)
  | stop
  | finish
  | clamp
  | report
  deriving DecidableEq, Repr

def wrap (number : Int) : Int := number.bmod 4294967296

namespace LayoutMixer

variable (geometry : MixerGeometry) (mixer : LayoutMixer)

def addLayoutUpdate : LayoutMixer :=
  { mixer with
    layoutUpdated := wrap (mixer.layoutUpdated + 1)
    requested := mixer.requested + 1 }

/-- The part of `updateLayout` in front of the addition. -/
def resetLayout : LayoutMixer :=
  if mixer.scene.activeStream = "" then
    { mixer with scene := { mixer.scene with currentLayout := .grid } }
  else mixer

/-- Sources and settings change under the lock that a pass holds. -/
def change (scene : RenderState) : LayoutMixer :=
  match mixer.phase with
  | .idle => { mixer with scene := scene }
  | .prepared => { mixer with scene := scene }
  | _ => mixer

/-- The lock is let go of again. Without a canvas the pass ends here. -/
def snapshot : LayoutMixer :=
  match mixer.phase with
  | .idle => if mixer.scene.hasCanvas then { mixer with phase := .prepared } else mixer
  | _ => mixer

def load : LayoutMixer :=
  match mixer.phase with
  | .prepared =>
    { mixer with
      phase := .drawing
        { requests := mixer.requested
          pendingLayoutUpdates := mixer.layoutUpdated
          sources := mixer.scene.pending
          todo := mixer.scene.pending
          loop := { mixer.scene.firstLoop with needsUpdate := mixer.layoutUpdated > 0 } } }
  | _ => mixer

def visited (pass : LayoutPass) (source : RenderSource) : RenderSource × PassLoop :=
  mixer.scene.visit geometry pass.loop source

def visit (input : Option InputFrame) : LayoutMixer :=
  match mixer.phase with
  | .drawing pass =>
    match pass.todo with
    | [] => mixer
    | source :: later =>
      let before := { source with input := input }
      let result := mixer.visited geometry pass before
      { mixer with
        scene := { mixer.scene with
          pending := pass.visits.map Visit.after ++ result.1 :: later }
        phase := .drawing { pass with
          visits := pass.visits ++ [⟨mixer.scene, pass.loop, before, result.1⟩]
          todo := later
          loop := result.2 } }
  | _ => mixer

def stop : LayoutMixer :=
  match mixer.phase with
  | .prepared => { mixer with phase := .idle }
  | .drawing pass => if pass.todo = [] then mixer else { mixer with phase := .idle }
  | _ => mixer

def consumeLayoutUpdates (pass : LayoutPass) : LayoutMixer :=
  if pass.pendingLayoutUpdates ≤ 0 then { mixer with phase := .reporting pass }
  else if mixer.layoutUpdated - pass.pendingLayoutUpdates < 0 then
    { mixer with
      layoutUpdated := wrap (mixer.layoutUpdated - pass.pendingLayoutUpdates)
      phase := .clamping pass }
  else
    { mixer with
      layoutUpdated := wrap (mixer.layoutUpdated - pass.pendingLayoutUpdates)
      phase := .reporting pass }

def finish : LayoutMixer :=
  match mixer.phase with
  | .drawing pass =>
    if pass.todo = [] then
      if pass.loop.needsUpdate && !pass.loop.layoutInvalidated then
        mixer.consumeLayoutUpdates pass
      else { mixer with phase := .idle }
    else mixer
  | _ => mixer

def clamp : LayoutMixer :=
  match mixer.phase with
  | .clamping pass => { mixer with layoutUpdated := 0, phase := .reporting pass }
  | _ => mixer

def report : LayoutMixer :=
  match mixer.phase with
  | .reporting pass =>
    { mixer with
      phase := .idle
      finished := mixer.finished ++ [pass]
      reported := if mixer.onSourcesUpdated then mixer.reported ++ [pass] else mixer.reported }
  | _ => mixer

def step : Event → LayoutMixer
  | .addLayoutUpdate => mixer.addLayoutUpdate
  | .resetLayout => mixer.resetLayout
  | .change scene => mixer.change scene
  | .snapshot => mixer.snapshot
  | .load => mixer.load
  | .visit input => mixer.visit geometry input
  | .stop => mixer.stop
  | .finish => mixer.finish
  | .clamp => mixer.clamp
  | .report => mixer.report

end LayoutMixer

/-- Every source was visited, and each with a frame was put where the layout has it. -/
def LayoutPass.RelaidOut (geometry : MixerGeometry) (pass : LayoutPass) : Prop :=
  pass.visits.map (fun visit => visit.before.streamId) =
      pass.sources.map (fun source => source.streamId) ∧
    ∀ visit ∈ pass.visits, visit.before.input ≠ none →
      visit.after.place = visit.scene.target geometry visit.loop.i visit.before.streamId

/-- What holds of a pass while it goes through the sources. An update pending at its start
makes it lay out every one that has a frame. -/
structure LayoutPass.Drawn (geometry : MixerGeometry) (activeStream : String)
    (pass : LayoutPass) : Prop where
  counted : activeStream ≠ "" → 1 ≤ pass.loop.i
  needsUpdate : 0 < pass.pendingLayoutUpdates → pass.loop.needsUpdate = true
  order : pass.visits.map (fun visit => visit.before.streamId) ++
      pass.todo.map (fun source => source.streamId) =
    pass.sources.map (fun source => source.streamId)
  laid : 0 < pass.pendingLayoutUpdates → ∀ visit ∈ pass.visits, visit.before.input ≠ none →
    visit.after.place = visit.scene.target geometry visit.loop.i visit.before.streamId

section Visits

variable {geometry : MixerGeometry} {scene : RenderState} {loop : PassLoop} {source : RenderSource}

theorem visit_of_missing (missing : source.input = none) :
    (scene.visit geometry loop source).2.i = loop.i + 1 ∧
      (loop.needsUpdate = true → (scene.visit geometry loop source).2.needsUpdate = true) := by
  unfold RenderState.visit RenderState.visitAudioOnly RenderState.visitVideo
  rw [missing]
  split
  · exact ⟨rfl, id⟩
  · constructor
    · rfl
    · intro needed
      rw [needed]
      rfl

section

variable (counted : scene.activeStream ≠ "" → 1 ≤ loop.i)
include counted

theorem visit_counted : scene.activeStream ≠ "" → 1 ≤ (scene.visit geometry loop source).2.i := by
  by_cases missing : source.input = none
  · intro _
    rw [(visit_of_missing missing).1]
    exact Nat.succ_pos _
  · exact (RenderState.visit_spec counted missing).counted counted

private theorem visit_needsUpdate (needed : loop.needsUpdate = true) :
    (scene.visit geometry loop source).2.needsUpdate = true := by
  by_cases missing : source.input = none
  · exact (visit_of_missing missing).2 needed
  · have visited : RenderState.Visited geometry scene loop source _ :=
      RenderState.visit_spec counted missing
    rw [visited.needsUpdate, RenderState.carries, RenderState.lays, needed]
    simp

private theorem visit_place (needed : loop.needsUpdate = true) (given : source.input ≠ none) :
    (scene.visit geometry loop source).1.place =
      scene.target geometry loop.i source.streamId := by
  have visited : RenderState.Visited geometry scene loop source _ :=
    RenderState.visit_spec counted given
  have lays : RenderState.lays loop.needsUpdate source = true := by
    rw [RenderState.lays, needed]
    simp
  rw [visited.place, if_pos lays]

end

end Visits

variable {pass : LayoutPass}

theorem LayoutPass.Drawn.visit {geometry : MixerGeometry} {scene : RenderState}
    (drawn : pass.Drawn geometry scene.activeStream) {source : RenderSource}
    {later : List RenderSource} (next : pass.todo = source :: later) (input : Option InputFrame) :
    LayoutPass.Drawn geometry scene.activeStream
      { pass with
        visits := pass.visits ++ [⟨scene, pass.loop, { source with input := input },
          (scene.visit geometry pass.loop { source with input := input }).1⟩]
        todo := later
        loop := (scene.visit geometry pass.loop { source with input := input }).2 } where
  counted := visit_counted drawn.counted
  needsUpdate := fun pending => visit_needsUpdate drawn.counted (drawn.needsUpdate pending)
  order := by
    have order := drawn.order
    rw [next] at order
    rw [← order, List.map_append, List.append_assoc]
    rfl
  laid := by
    intro pending visit member given
    rcases List.mem_append.mp member with earlier | last
    · exact drawn.laid pending visit earlier given
    · cases List.mem_singleton.mp last
      exact visit_place drawn.counted (drawn.needsUpdate pending) given

theorem LayoutPass.Drawn.relaidOut {geometry : MixerGeometry} {activeStream : String}
    (drawn : pass.Drawn geometry activeStream) (through : pass.todo = [])
    (pending : 0 < pass.pendingLayoutUpdates) : pass.RelaidOut geometry := by
  have order := drawn.order
  rw [through, List.map_nil, List.append_nil] at order
  exact ⟨order, drawn.laid pending⟩

/-! ### A pass by itself -/

section WholePass

variable {geometry : MixerGeometry}

section

variable {scene : RenderState} {sources : List RenderSource}
  (same : sources.length = scene.pending.length)
include same

private theorem layOut_congr : ({ scene with pending := sources } : RenderState).layOut geometry =
      scene.layOut geometry := by
  unfold RenderState.layOut RenderState.processSource RenderState.calcPosition
  rw [same]
  rfl

private theorem visit_congr (loop : PassLoop) (source : RenderSource) :
    ({ scene with pending := sources } : RenderState).visit geometry loop source =
      scene.visit geometry loop source := by
  unfold RenderState.visit RenderState.visitAudioOnly RenderState.visitVideo
    RenderState.drawVideo
  rw [layOut_congr same]

private theorem visitAll_congr (loop : PassLoop) (later : List RenderSource) :
    ({ scene with pending := sources } : RenderState).visitAll geometry loop later =
      scene.visitAll geometry loop later := by
  induction later generalizing loop with
  | nil => rfl
  | cons source later ih =>
    unfold RenderState.visitAll
    rw [visit_congr same, ih]

end

end WholePass

namespace LayoutMixer

variable {geometry : MixerGeometry}

def visits (sources : List RenderSource) : List Event :=
  sources.map (fun source => .visit source.input)

def wholePass (sources : List RenderSource) : List Event :=
  .snapshot :: .load :: (visits sources ++ [.finish, .report])

private theorem visit_next {mixer : LayoutMixer} {source : RenderSource} {later : List RenderSource}
    (drawing : mixer.phase = .drawing pass) (todo : pass.todo = source :: later) :
    mixer.visit geometry source.input =
      { mixer with
        scene := { mixer.scene with
          pending := pass.visits.map Visit.after ++
            (mixer.scene.visit geometry pass.loop source).1 :: later }
        phase := .drawing { pass with
          visits := pass.visits ++ [⟨mixer.scene, pass.loop, source,
            (mixer.scene.visit geometry pass.loop source).1⟩]
          todo := later
          loop := (mixer.scene.visit geometry pass.loop source).2 } } := by
  unfold LayoutMixer.visit
  rw [drawing]
  dsimp only
  rw [todo]
  rfl

private theorem after_visits (later : List RenderSource) (mixer : LayoutMixer) (pass : LayoutPass)
    (drawing : mixer.phase = .drawing pass) (todo : pass.todo = later)
    (pending : mixer.scene.pending = pass.visits.map Visit.after ++ later) :
    ∃ last : LayoutPass, last.todo = [] ∧
      last.pendingLayoutUpdates = pass.pendingLayoutUpdates ∧
      last.loop = (mixer.scene.visitAll geometry pass.loop later).2 ∧
      Run.after (step geometry) mixer (visits later) =
        { mixer with
          scene := { mixer.scene with
            pending := pass.visits.map Visit.after ++
              (mixer.scene.visitAll geometry pass.loop later).1 }
          phase := .drawing last } := by
  induction later generalizing mixer pass with
  | nil =>
    refine ⟨pass, todo, rfl, rfl, ?_⟩
    unfold RenderState.visitAll
    rw [← pending, ← drawing]
    rfl
  | cons source later ih =>
    have next : mixer.visit geometry source.input = _ := visit_next drawing todo
    have kept : (pass.visits.map Visit.after ++
        (mixer.scene.visit geometry pass.loop source).1 :: later).length =
          mixer.scene.pending.length := by
      rw [pending, List.length_append, List.length_append]
      rfl
    obtain ⟨last, through, same, loop, after⟩ := ih (mixer.visit geometry source.input) _
      (congrArg LayoutMixer.phase next) rfl
      (by rw [next, List.map_append, List.append_assoc]; rfl)
    refine ⟨last, through, same, ?_, ?_⟩
    · rw [loop, next, visitAll_congr kept]
      rfl
    · change Run.after (step geometry) (mixer.visit geometry source.input) (visits later) = _
      rw [after, next]
      rw [visitAll_congr kept, List.map_append, List.append_assoc]
      rfl

private theorem consumeLayoutUpdates_all {mixer : LayoutMixer}
    (all : pass.pendingLayoutUpdates = mixer.layoutUpdated) (positive : 0 ≤ mixer.layoutUpdated) :
    mixer.consumeLayoutUpdates pass =
      { mixer with layoutUpdated := 0, phase := .reporting pass } := by
  unfold consumeLayoutUpdates
  rw [all, Int.sub_self]
  split
  · rename_i zero
    have unchanged : mixer.layoutUpdated = 0 := Int.le_antisymm zero positive
    rw [← unchanged]
  · rfl

/-- Left to itself a pass does what `RenderState.process` does. -/
theorem after_wholePass (mixer : LayoutMixer) (idle : mixer.phase = .idle)
    (canvas : mixer.scene.hasCanvas = true)
    (counter : mixer.layoutUpdated = (mixer.scene.layoutUpdated : Int)) :
    (Run.after (step geometry) mixer (wholePass mixer.scene.pending)).scene.pending =
        (mixer.scene.process geometry).pending ∧
      (Run.after (step geometry) mixer (wholePass mixer.scene.pending)).layoutUpdated =
        ((mixer.scene.process geometry).layoutUpdated : Int) ∧
      (Run.after (step geometry) mixer (wholePass mixer.scene.pending)).finished.length +
          mixer.scene.sourcesUpdated =
        mixer.finished.length + (mixer.scene.process geometry).sourcesUpdated := by
  have prepared : mixer.snapshot = { mixer with phase := .prepared } := by
    unfold snapshot
    rw [idle]
    exact if_pos canvas
  have loaded : ∃ pass : LayoutPass, mixer.snapshot.load = { mixer with phase := .drawing pass } ∧
      pass.visits = [] ∧ pass.todo = mixer.scene.pending ∧
      pass.pendingLayoutUpdates = mixer.layoutUpdated ∧
      pass.loop = mixer.scene.firstLoop := by
    refine ⟨_, by rw [prepared]; rfl, rfl, rfl, rfl, ?_⟩
    rw [counter]
    unfold RenderState.firstLoop
    simp
  obtain ⟨pass, load, visits, todo, updates, loop⟩ := loaded
  obtain ⟨last, through, same, lastLoop, drawn⟩ := after_visits mixer.scene.pending
    { mixer with phase := .drawing pass } pass rfl todo (by rw [visits]; rfl)
  have drew : Run.after (step geometry) mixer (wholePass mixer.scene.pending) =
      (LayoutMixer.finish { mixer with
        scene := { mixer.scene with pending := (mixer.scene.drawAll geometry).1 }
        phase := .drawing last }).report := by
    change Run.after (step geometry) mixer.snapshot.load _ = _
    rw [load, Run.after_append, drawn, visits, loop]
    rfl
  have sameLoop : last.loop = (mixer.scene.drawAll geometry).2 := by
    rw [lastLoop, loop]
    rfl
  rw [drew]
  unfold finish RenderState.process
  dsimp only
  rw [if_pos through, if_pos canvas, sameLoop]
  cases (mixer.scene.drawAll geometry).2.needsUpdate &&
      !(mixer.scene.drawAll geometry).2.layoutInvalidated with
  | true =>
    rw [if_pos rfl, consumeLayoutUpdates_all]
    · refine ⟨rfl, rfl, ?_⟩
      unfold report
      rw [List.length_append, Nat.add_assoc, Nat.add_comm mixer.scene.sourcesUpdated]
      rfl
    · exact same.trans updates
    · rw [counter]
      exact Int.natCast_nonneg _
  | false => exact ⟨rfl, counter, rfl⟩

end LayoutMixer

namespace LayoutMixer

variable {geometry : MixerGeometry} {mixer : LayoutMixer}

/-- A pass that began after the request has laid the sources out anew; it has handed the
result to the callback, if there is one, or is about to. -/
def Served (geometry : MixerGeometry) (mixer : LayoutMixer) (number : Nat) : Prop :=
  ∃ pass : LayoutPass, number < pass.requests ∧ pass.RelaidOut geometry ∧
    (mixer.phase = .reporting pass ∨
      pass ∈ mixer.finished ∧ (mixer.onSourcesUpdated = true → pass ∈ mixer.reported))

/-- How far the mixer thread is: a pass that draws has read what was not settled then. -/
def Midway (geometry : MixerGeometry) (mixer : LayoutMixer) (settled : Nat) : Phase → Prop
  | .idle => True
  | .prepared => True
  | .drawing pass =>
    settled ≤ pass.requests ∧ pass.requests ≤ mixer.requested ∧
      pass.pendingLayoutUpdates = (pass.requests : Int) - settled ∧
      pass.Drawn geometry mixer.scene.activeStream
  | .clamping _ => False
  | .reporting _ => True

/-- The first `settled` requests are served, and the counter is the number of the others. -/
structure Balanced (geometry : MixerGeometry) (mixer : LayoutMixer) (settled : Nat) : Prop where
  bounded : settled ≤ mixer.requested
  counter : mixer.layoutUpdated = (mixer.requested : Int) - settled
  small : mixer.layoutUpdated < 2147483648
  served : ∀ number < settled, Served geometry mixer number
  midway : Midway geometry mixer settled mixer.phase

theorem wrap_eq {number : Int} (low : 0 ≤ number) (high : number < 2147483648) :
    wrap number = number := by
  apply Int.bmod_eq_of_le <;> omega

/-- A request makes the counter overflow only if as many are waiting as it can count. -/
def Room (mixer : LayoutMixer) (event : Event) : Prop :=
  event = .addLayoutUpdate → mixer.layoutUpdated < 2147483647

theorem Balanced.addLayoutUpdate {settled : Nat} (balanced : mixer.Balanced geometry settled)
    (room : mixer.layoutUpdated < 2147483647) :
    mixer.addLayoutUpdate.Balanced geometry settled := by
  have bounded := balanced.bounded
  have counter := balanced.counter
  have same : wrap (mixer.layoutUpdated + 1) = mixer.layoutUpdated + 1 :=
    wrap_eq (by omega) (by omega)
  constructor
  · change settled ≤ mixer.requested + 1
    omega
  · change wrap (mixer.layoutUpdated + 1) = ((mixer.requested + 1 : Nat) : Int) - settled
    omega
  · change wrap (mixer.layoutUpdated + 1) < 2147483648
    omega
  · exact balanced.served
  · have midway := balanced.midway
    change Midway geometry mixer.addLayoutUpdate settled mixer.phase
    cases phase : mixer.phase with
    | idle => trivial
    | prepared => trivial
    | drawing pass =>
      rw [phase] at midway
      obtain ⟨below, above, pending, drawn⟩ := midway
      exact ⟨below, Nat.le_succ_of_le above, pending, drawn⟩
    | clamping pass =>
      rw [phase] at midway
      exact midway
    | reporting pass => trivial

theorem Served.kept {number : Nat} (served : Served geometry mixer number)
    (notReporting : ∀ pass, mixer.phase ≠ .reporting pass) {after : LayoutMixer}
    (finished : after.finished = mixer.finished) (reported : after.reported = mixer.reported)
    (callback : after.onSourcesUpdated = mixer.onSourcesUpdated) :
    Served geometry after number := by
  obtain ⟨pass, began, laid, now | earlier⟩ := served
  · exact absurd now (notReporting pass)
  · refine ⟨pass, began, laid, .inr ?_⟩
    rw [finished, reported, callback]
    exact earlier

section

variable {settled : Nat} (balanced : mixer.Balanced geometry settled)
include balanced

theorem Balanced.resetLayout : mixer.resetLayout.Balanced geometry settled := by
  unfold LayoutMixer.resetLayout
  split
  · exact ⟨balanced.bounded, balanced.counter, balanced.small, balanced.served, balanced.midway⟩
  · exact balanced

theorem Balanced.change (scene : RenderState) : (mixer.change scene).Balanced geometry settled := by
  unfold LayoutMixer.change
  split
  · rename_i idle
    refine ⟨balanced.bounded, balanced.counter, balanced.small, balanced.served, ?_⟩
    rw [idle]
    trivial
  · rename_i prepared
    refine ⟨balanced.bounded, balanced.counter, balanced.small, balanced.served, ?_⟩
    rw [prepared]
    trivial
  · exact balanced

theorem Balanced.enter {phase : Phase} (outside : phase = .idle ∨ phase = .prepared)
    (notReporting : ∀ pass, mixer.phase ≠ .reporting pass) :
    Balanced geometry { mixer with phase := phase } settled := by
  refine ⟨balanced.bounded, balanced.counter, balanced.small, ?_, ?_⟩
  · intro number early
    exact (balanced.served number early).kept notReporting rfl rfl rfl
  · rcases outside with rfl | rfl <;> trivial

theorem Balanced.snapshot : mixer.snapshot.Balanced geometry settled := by
  unfold LayoutMixer.snapshot
  split
  · rename_i idle
    split
    · exact balanced.enter (.inr rfl) (fun pass => by rw [idle]; nofun)
    · exact balanced
  · exact balanced

theorem Balanced.load : mixer.load.Balanced geometry settled := by
  unfold LayoutMixer.load
  split
  · rename_i prepared
    refine ⟨balanced.bounded, balanced.counter, balanced.small, ?_, balanced.bounded,
      Nat.le_refl _, balanced.counter, ?_⟩
    · intro number early
      exact (balanced.served number early).kept (fun pass => by rw [prepared]; nofun) rfl rfl rfl
    · constructor
      · intro active
        change 1 ≤ (if mixer.scene.activeStream = "" then 0 else 1)
        rw [if_neg active]
      · exact decide_eq_true
      · rfl
      · intro pending visit member
        cases member
  · exact balanced

theorem Balanced.visit (input : Option InputFrame) :
    (mixer.visit geometry input).Balanced geometry settled := by
  unfold LayoutMixer.visit
  split
  · rename_i pass drawing
    have midway := balanced.midway
    rw [drawing] at midway
    obtain ⟨below, above, pending, drawn⟩ := midway
    split
    · exact balanced
    · rename_i source later next
      refine ⟨balanced.bounded, balanced.counter, balanced.small, ?_, below, above, pending,
        drawn.visit next input⟩
      intro number early
      exact (balanced.served number early).kept (fun pass => by rw [drawing]; nofun) rfl rfl rfl
  · exact balanced

theorem Balanced.stop : mixer.stop.Balanced geometry settled := by
  unfold LayoutMixer.stop
  split
  · rename_i prepared
    exact balanced.enter (.inl rfl) (fun pass => by rw [prepared]; nofun)
  · rename_i pass drawing
    split
    · exact balanced
    · exact balanced.enter (.inl rfl) (fun pass => by rw [drawing]; nofun)
  · exact balanced

end

theorem Balanced.consumeLayoutUpdates {settled : Nat} (balanced : mixer.Balanced geometry settled)
    (drawing : mixer.phase = .drawing pass) (through : pass.todo = []) :
    (mixer.consumeLayoutUpdates pass).Balanced geometry pass.requests := by
  have midway := balanced.midway
  rw [drawing] at midway
  obtain ⟨below, above, pending, drawn⟩ := midway
  have counter := balanced.counter
  have small := balanced.small
  unfold LayoutMixer.consumeLayoutUpdates
  split
  · have same : pass.requests = settled := by omega
    refine ⟨above, by rw [same]; exact counter, small, ?_, trivial⟩
    intro number early
    rw [same] at early
    exact (balanced.served number early).kept (fun pass => by rw [drawing]; nofun) rfl rfl rfl
  · have left : mixer.layoutUpdated - pass.pendingLayoutUpdates =
        (mixer.requested : Int) - pass.requests := by omega
    rw [left, wrap_eq (by omega) (by omega), if_neg (by omega)]
    refine ⟨above, rfl, by change (mixer.requested : Int) - pass.requests < _; omega, ?_, trivial⟩
    intro number early
    exact ⟨pass, early, drawn.relaidOut through (by omega), .inl rfl⟩

section

variable {settled : Nat} (balanced : mixer.Balanced geometry settled)
include balanced

theorem Balanced.finish : ∃ later, mixer.finish.Balanced geometry later := by
  unfold LayoutMixer.finish
  split
  · rename_i pass drawing
    split
    · rename_i through
      split
      · exact ⟨pass.requests, balanced.consumeLayoutUpdates drawing through⟩
      · exact ⟨settled, balanced.enter (.inl rfl) (fun pass => by rw [drawing]; nofun)⟩
    · exact ⟨settled, balanced⟩
  · exact ⟨settled, balanced⟩

theorem Balanced.clamp : mixer.clamp.Balanced geometry settled := by
  unfold LayoutMixer.clamp
  split
  · rename_i pass clamping
    have midway := balanced.midway
    rw [clamping] at midway
    exact midway.elim
  · exact balanced

theorem Balanced.report : mixer.report.Balanced geometry settled := by
  unfold LayoutMixer.report
  split
  · rename_i pass reporting
    refine ⟨balanced.bounded, balanced.counter, balanced.small, ?_, trivial⟩
    intro number early
    obtain ⟨other, began, laid, now | earlier⟩ := balanced.served number early
    · rw [reporting] at now
      cases now
      refine ⟨pass, began, laid, .inr ⟨List.mem_append_right _ List.mem_cons_self, ?_⟩⟩
      intro callback
      rw [if_pos callback]
      exact List.mem_append_right _ List.mem_cons_self
    · refine ⟨other, began, laid, .inr ⟨List.mem_append_left _ earlier.1, ?_⟩⟩
      intro callback
      rw [if_pos callback]
      exact List.mem_append_left _ (earlier.2 callback)
  · exact balanced

end

private theorem step_balanced (mixer : LayoutMixer) (event : Event)
    (balanced : ∃ settled, mixer.Balanced geometry settled) (room : mixer.Room event) :
    ∃ settled, (mixer.step geometry event).Balanced geometry settled := by
  obtain ⟨settled, balanced⟩ := balanced
  cases event with
  | addLayoutUpdate => exact ⟨settled, balanced.addLayoutUpdate (room rfl)⟩
  | resetLayout => exact ⟨settled, balanced.resetLayout⟩
  | change scene => exact ⟨settled, balanced.change scene⟩
  | snapshot => exact ⟨settled, balanced.snapshot⟩
  | load => exact ⟨settled, balanced.load⟩
  | visit input => exact ⟨settled, balanced.visit input⟩
  | stop => exact ⟨settled, balanced.stop⟩
  | finish => exact balanced.finish
  | clamp => exact ⟨settled, balanced.clamp⟩
  | report => exact ⟨settled, balanced.report⟩

/-! ### Every interleaving -/

/-- The counter is not negative, and when it is zero every request so far is served. -/
def Accounted (geometry : MixerGeometry) (mixer : LayoutMixer) : Prop :=
  0 ≤ mixer.layoutUpdated ∧
    (mixer.layoutUpdated = 0 → ∀ number < mixer.requested, Served geometry mixer number)

theorem Balanced.accounted {settled : Nat} (balanced : mixer.Balanced geometry settled) :
    mixer.Accounted geometry := by
  have bounded := balanced.bounded
  have counter := balanced.counter
  constructor
  · omega
  · intro zero number early
    exact balanced.served number (by omega)

def start (scene : RenderState) (onSourcesUpdated : Bool) : LayoutMixer :=
  { scene := scene, onSourcesUpdated := onSourcesUpdated }

private theorem balanced_start (geometry : MixerGeometry) (scene : RenderState) (callback : Bool) :
    (start scene callback).Balanced geometry 0 where
  bounded := Nat.le_refl 0
  counter := rfl
  small := by
    change (0 : Int) < 2147483648
    decide
  served := nofun
  midway := trivial

/-- No update is lost, however requests fall between the steps of the passes. -/
theorem updates_accounted (geometry : MixerGeometry) (scene : RenderState) (callback : Bool)
    (events : List Event)
    (room : Run.Guarded (step geometry) Room (start scene callback) events) :
    Run.Always (step geometry) (Accounted geometry) (start scene callback) events := by
  have always : Run.Always (step geometry) (fun mixer => ∃ settled, mixer.Balanced geometry settled)
      (start scene callback) events :=
    Run.always_of_guarded step_balanced ⟨0, balanced_start geometry scene callback⟩ room
  exact always.imp (fun mixer ⟨_, balanced⟩ => balanced.accounted)

def oneSource : RenderState :=
  { width := 640, height := 480, pending := [{ streamId := "a", input := some ⟨320, 240, 0, true⟩ }] }

def requestWhileDrawing : List Event :=
  [.addLayoutUpdate, .snapshot, .load, .addLayoutUpdate, .visit (some ⟨320, 240, 0, true⟩),
    .finish, .report, .snapshot, .load, .visit (some ⟨320, 240, 0, true⟩), .finish, .report]

/-- Two videos and a placeholder with an update that is still pending, since the pass
before has shown the second video for the first time. -/
theorem wholePass_of_three_sources :
    let scene := RenderState.threeShown.process (fixedGeometry 0)
    let mixer := { start scene true with layoutUpdated := 1, requested := 1 }
    let after := Run.after (step (fixedGeometry 0)) mixer (wholePass scene.pending)
    (after.scene.pending = (scene.process (fixedGeometry 0)).pending ∧
        after.layoutUpdated = ((scene.process (fixedGeometry 0)).layoutUpdated : Int) ∧
        after.finished.length + scene.sourcesUpdated =
          mixer.finished.length + (scene.process (fixedGeometry 0)).sourcesUpdated) ∧
      after.layoutUpdated = 0 ∧ after.reported.length = 1 :=
  ⟨after_wholePass { start _ true with layoutUpdated := 1, requested := 1 } rfl (by decide)
    (by decide +kernel), by decide +kernel⟩

theorem request_while_drawing_accounted :
    Run.Always (step (fixedGeometry 0)) (Accounted (fixedGeometry 0)) (start oneSource true)
      requestWhileDrawing :=
  updates_accounted (fixedGeometry 0) oneSource true requestWhileDrawing
    ⟨fun _ => by decide, nofun, nofun, fun _ => by decide, nofun, nofun, nofun, nofun, nofun,
      nofun, nofun, nofun, trivial⟩

def AccountedAndReported (geometry : MixerGeometry) (mixer : LayoutMixer) : Prop :=
  0 ≤ mixer.layoutUpdated ∧
    (mixer.layoutUpdated = 0 → ∀ number < mixer.requested,
      ∃ pass ∈ mixer.reported, number < pass.requests ∧ pass.RelaidOut geometry)

/-- The counter is zero before the callback is called. -/
theorem zero_before_report :
    ¬Run.Always (step (fixedGeometry 0)) (AccountedAndReported (fixedGeometry 0))
      (start oneSource true)
      [.addLayoutUpdate, .snapshot, .load, .visit (some ⟨320, 240, 0, true⟩), .finish] := by
  intro always
  have last := always.last
  have zero : (Run.after (step (fixedGeometry 0)) (start oneSource true)
      [.addLayoutUpdate, .snapshot, .load, .visit (some ⟨320, 240, 0, true⟩), .finish]).layoutUpdated =
        0 := by
    decide
  obtain ⟨pass, member, _⟩ := last.2 zero 0 (by decide)
  cases member

end LayoutMixer

end SipCore.LayoutUpdates
