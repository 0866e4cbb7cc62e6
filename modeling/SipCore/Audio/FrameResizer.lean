/-
Frames of any size in, frames of one size out. The FIFO is a list of samples, a
sample being the values of all channels. Time stamps count samples. A frame that
fits an empty queue is passed on as it is; every other one is queued and cut.
-/

import Mathlib.Data.List.Induction
import Mathlib.Tactic.Ring
import SipCore.Library.GuardedRun

namespace SipCore

structure AudioFrameResizer.Frame (φ α : Type) where
  format : φ
  pts : Int
  hasVoice : Bool
  samples : List α
  deriving DecidableEq, Repr

structure AudioFrameResizer (φ α : Type) where
  format : φ
  frameSize : Nat
  hasCallback : Bool
  queue : List α := []
  nextOutputPts : Int := 0
  hasVoice : Bool := false
  deriving DecidableEq, Repr

namespace AudioFrameResizer

variable {φ α : Type}

def front (resizer : AudioFrameResizer φ α) : Frame φ α :=
  { format := resizer.format
    pts := resizer.nextOutputPts
    hasVoice := resizer.hasVoice
    samples := resizer.queue.take resizer.frameSize }

def behind (resizer : AudioFrameResizer φ α) : AudioFrameResizer φ α :=
  { resizer with
    queue := resizer.queue.drop resizer.frameSize
    nextOutputPts := resizer.nextOutputPts + resizer.frameSize }

def dequeue (resizer : AudioFrameResizer φ α) : Option (Frame φ α × AudioFrameResizer φ α) :=
  if resizer.queue.length < resizer.frameSize then none
  else some (resizer.front, resizer.behind)

def dequeueAll : Nat → AudioFrameResizer φ α → AudioFrameResizer φ α × List (Frame φ α)
  | 0, resizer => (resizer, [])
  | fuel + 1, resizer =>
    match resizer.dequeue with
    | none => (resizer, [])
    | some (frame, rest) =>
      ((dequeueAll fuel rest).1, frame :: (dequeueAll fuel rest).2)

def setFormat [DecidableEq φ] (resizer : AudioFrameResizer φ α) (format : φ) :
    AudioFrameResizer φ α :=
  if format ≠ resizer.format then { resizer with format := format, queue := [] } else resizer

def passThrough (resizer : AudioFrameResizer φ α) (frame : Frame φ α) :
    AudioFrameResizer φ α × List (Frame φ α) :=
  ({ resizer with nextOutputPts := frame.pts + resizer.frameSize }, [frame])

/-- The queue with the frame at its end. A next time stamp of zero counts as unset. -/
def write (resizer : AudioFrameResizer φ α) (frame : Frame φ α) : AudioFrameResizer φ α :=
  { resizer with
    hasVoice := frame.hasVoice
    queue := resizer.queue ++ frame.samples
    nextOutputPts :=
      if resizer.nextOutputPts = 0 then frame.pts - resizer.queue.length
      else resizer.nextOutputPts }

def enqueue [DecidableEq φ] (resizer : AudioFrameResizer φ α) :
    Option (Frame φ α) → AudioFrameResizer φ α × List (Frame φ α)
  | none => (resizer, [])
  | some frame =>
    let ready := resizer.setFormat frame.format
    if ready.hasCallback && ready.queue.length = 0 && frame.samples.length = ready.frameSize then
      ready.passThrough frame
    else if ready.hasCallback then
      dequeueAll (ready.write frame).queue.length (ready.write frame)
    else (ready.write frame, [])

structure Emptied (before after : AudioFrameResizer φ α) (outputs : List (Frame φ α)) :
    Prop where
  kept : outputs.flatMap Frame.samples ++ after.queue = before.queue
  sizes : ∀ output ∈ outputs, output.samples.length = before.frameSize
  short : after.queue.length < before.frameSize
  next : after.nextOutputPts = before.nextOutputPts + outputs.length * before.frameSize
  stamps : ∀ (index : Nat) output, outputs[index]? = some output →
    output.pts = before.nextOutputPts + index * before.frameSize
  format : after.format = before.format
  frameSize : after.frameSize = before.frameSize
  hasCallback : after.hasCallback = before.hasCallback

theorem Emptied.refl {resizer : AudioFrameResizer φ α}
    (short : resizer.queue.length < resizer.frameSize) : Emptied resizer resizer [] where
  kept := rfl
  sizes := fun _ member => absurd member List.not_mem_nil
  short := short
  next := by simp
  stamps := by
    intro index output found
    cases found
  format := rfl
  frameSize := rfl
  hasCallback := rfl

theorem Emptied.cons {resizer after : AudioFrameResizer φ α} {outputs : List (Frame φ α)}
    (long : resizer.frameSize ≤ resizer.queue.length)
    (later : Emptied resizer.behind after outputs) :
    Emptied resizer after (resizer.front :: outputs) where
  kept := by
    rw [List.flatMap_cons, List.append_assoc, later.kept]
    exact List.take_append_drop _ _
  sizes := by
    intro output member
    rcases List.mem_cons.mp member with same | inside
    · subst output
      exact List.length_take_of_le long
    · exact later.sizes output inside
  short := later.short
  next := by
    rw [later.next]
    simp only [behind, List.length_cons, Nat.cast_add, Nat.cast_one]
    ring
  stamps := by
    intro index output found
    cases index with
    | zero =>
      cases found
      simp [front]
    | succ index =>
      rw [later.stamps index output found]
      simp only [behind, Nat.cast_add, Nat.cast_one]
      ring
  format := later.format
  frameSize := later.frameSize
  hasCallback := later.hasCallback

private theorem emptied_dequeueAll (fuel : Nat) (resizer : AudioFrameResizer φ α)
    (positive : 0 < resizer.frameSize) (enough : resizer.queue.length ≤ fuel) :
    Emptied resizer (dequeueAll fuel resizer).1 (dequeueAll fuel resizer).2 := by
  induction fuel generalizing resizer with
  | zero => exact .refl (Nat.lt_of_le_of_lt enough positive)
  | succ fuel ih =>
    unfold dequeueAll dequeue
    by_cases short : resizer.queue.length < resizer.frameSize
    · rw [if_pos short]
      exact .refl short
    · rw [if_neg short]
      have shorter : resizer.behind.queue.length ≤ fuel := by
        change (resizer.queue.drop resizer.frameSize).length ≤ fuel
        rw [List.length_drop]
        omega
      exact .cons (Nat.not_lt.mp short) (ih resizer.behind positive shorter)

/-! ### Whole runs -/

section Timeline

variable {frames : List (Frame φ α)} {frame first : Frame φ α}

def Frame.timestamps (frame : Frame φ α) : List Int :=
  (List.range frame.samples.length).map (fun index : Nat => frame.pts + index)

def Contiguous : List (Frame φ α) → Prop
  | first :: second :: rest =>
    second.pts = first.pts + (first.samples.length : Int) ∧ Contiguous (second :: rest)
  | _ => True

theorem contiguous_of_append (contiguous : Contiguous (frames ++ [frame])) : Contiguous frames := by
  induction frames with
  | nil => trivial
  | cons head rest ih =>
    cases rest with
    | nil => trivial
    | cons second others => exact ⟨contiguous.1, ih contiguous.2⟩

private theorem pts_of_contiguous (contiguous : Contiguous (frames ++ [frame]))
    (starts : (frames ++ [frame]).head? = some first) :
    frame.pts = first.pts + (frames.flatMap Frame.samples).length := by
  induction frames generalizing first with
  | nil =>
    cases starts
    simp
  | cons head rest ih =>
    cases starts
    cases rest with
    | nil => simpa using contiguous.1
    | cons second others =>
      have split : ((head :: second :: others).flatMap Frame.samples).length =
          head.samples.length + ((second :: others).flatMap Frame.samples).length := by
        rw [List.flatMap_cons, List.length_append]
      rw [ih contiguous.2 rfl, contiguous.1, split, Nat.cast_add]
      ring

private theorem timestamps_of_contiguous (contiguous : Contiguous frames)
    (starts : frames.head? = some first) :
    frames.flatMap Frame.timestamps =
      (List.range (frames.flatMap Frame.samples).length).map
        (fun index : Nat => first.pts + index) := by
  induction frames generalizing first with
  | nil => cases starts
  | cons head rest ih =>
    cases starts
    cases rest with
    | nil => simp [Frame.timestamps]
    | cons second others =>
      have split : ((head :: second :: others).flatMap Frame.samples).length =
          head.samples.length + ((second :: others).flatMap Frame.samples).length := by
        rw [List.flatMap_cons, List.length_append]
      rw [List.flatMap_cons, ih contiguous.2 rfl, contiguous.1, split, List.range_add,
        List.map_append, List.map_map]
      congr 1
      apply List.map_congr_left
      intro index _
      simp only [Function.comp_apply, Nat.cast_add]
      ring

end Timeline

section Runs

def deliver [DecidableEq φ] (state : AudioFrameResizer φ α × List (Frame φ α)) (frame : Frame φ α) :
    AudioFrameResizer φ α × List (Frame φ α) :=
  ((state.1.enqueue (some frame)).1, state.2 ++ (state.1.enqueue (some frame)).2)

/-- What holds between the frames that went in, the resizer and what came out. -/
structure Resized (format : φ) (size : Nat) (inputs : List (Frame φ α))
    (resizer : AudioFrameResizer φ α) (outputs : List (Frame φ α)) : Prop where
  kept : outputs.flatMap Frame.samples ++ resizer.queue = inputs.flatMap Frame.samples
  sizes : ∀ output ∈ outputs, output.samples.length = size
  short : resizer.queue.length < size
  next : Contiguous inputs → ∀ first, inputs.head? = some first →
    resizer.nextOutputPts = first.pts + outputs.length * size
  stamps : Contiguous inputs → ∀ first, inputs.head? = some first →
    ∀ (index : Nat) output, outputs[index]? = some output → output.pts = first.pts + index * size
  idle : inputs = [] → resizer.nextOutputPts = 0
  format_eq : resizer.format = format
  frameSize_eq : resizer.frameSize = size
  hasCallback : resizer.hasCallback = true

namespace Resized

variable {format : φ} {size : Nat} {inputs outputs : List (Frame φ α)}
  {resizer : AudioFrameResizer φ α} {frame : Frame φ α}

section

variable (resized : Resized format size inputs resizer outputs)
include resized

theorem length_outputs : (outputs.flatMap Frame.samples).length = outputs.length * size := by
  have sizes := resized.sizes
  clear resized
  induction outputs with
  | nil => simp
  | cons head rest ih =>
    rw [List.flatMap_cons, List.length_append, sizes head List.mem_cons_self,
      ih (fun output member => sizes output (List.mem_cons_of_mem _ member)), List.length_cons]
    ring

theorem length_inputs :
    (inputs.flatMap Frame.samples).length = outputs.length * size + resizer.queue.length := by
  rw [← resized.kept, List.length_append, resized.length_outputs]

section

variable (contiguous : Contiguous (inputs ++ [frame])) {first : Frame φ α}
  (starts : (inputs ++ [frame]).head? = some first)
include contiguous starts

theorem pts_eq : frame.pts = first.pts + outputs.length * size + resizer.queue.length := by
  rw [pts_of_contiguous contiguous starts, resized.length_inputs]
  push_cast
  ring

theorem write_next : (resizer.write frame).nextOutputPts = first.pts + outputs.length * size := by
  have start := resized.pts_eq contiguous starts
  unfold write
  split
  · rw [start]
    ring
  · rename_i set
    cases inputs with
    | nil => exact absurd (resized.idle rfl) set
    | cons head rest => exact resized.next (contiguous_of_append contiguous) first starts

theorem stamps_append {more : List (Frame φ α)}
    (later : ∀ (index : Nat) output, more[index]? = some output →
      output.pts = first.pts + outputs.length * size + index * size)
    (index : Nat) (output : Frame φ α) (found : (outputs ++ more)[index]? = some output) :
    output.pts = first.pts + index * size := by
  by_cases before : index < outputs.length
  · rw [List.getElem?_append_left before] at found
    cases inputs with
    | nil =>
      have total := resized.length_inputs
      have short := resized.short
      have some_out : 0 < outputs.length * size := Nat.mul_pos (by omega) (by omega)
      simp only [List.flatMap_nil, List.length_nil] at total
      omega
    | cons head rest =>
      exact resized.stamps (contiguous_of_append contiguous) first starts index output found
  · rw [List.getElem?_append_right (Nat.not_lt.mp before)] at found
    rw [later _ output found, Nat.cast_sub (Nat.not_lt.mp before)]
    ring

end

theorem passThrough (empty : resizer.queue.length = 0) (fits : frame.samples.length = size) :
    Resized format size (inputs ++ [frame]) (resizer.passThrough frame).1
      (outputs ++ (resizer.passThrough frame).2) where
  kept := by
    have none_left : resizer.queue = [] := List.length_eq_zero_iff.mp empty
    have before := resized.kept
    rw [none_left, List.append_nil] at before
    change (outputs ++ [frame]).flatMap _ ++ resizer.queue = _
    rw [none_left, List.append_nil, List.flatMap_append, List.flatMap_append, before]
  sizes := by
    intro output member
    rcases List.mem_append.mp member with before | last
    · exact resized.sizes output before
    · rw [List.mem_singleton.mp last]
      exact fits
  short := resized.short
  next := by
    intro contiguous first starts
    change frame.pts + (resizer.frameSize : Int) = _
    rw [resized.pts_eq contiguous starts, resized.frameSize_eq, empty]
    simp only [AudioFrameResizer.passThrough, List.length_append, List.length_singleton]
    push_cast
    ring
  stamps := by
    intro contiguous first starts
    apply resized.stamps_append contiguous starts
    intro index output found
    cases index with
    | zero =>
      cases found
      rw [resized.pts_eq contiguous starts, empty]
      simp
    | succ index => cases found
  idle := by simp
  format_eq := resized.format_eq
  frameSize_eq := resized.frameSize_eq
  hasCallback := resized.hasCallback

private theorem write {after : AudioFrameResizer φ α} {more : List (Frame φ α)}
    (emptied : Emptied (resizer.write frame) after more) :
    Resized format size (inputs ++ [frame]) after (outputs ++ more) where
  kept := by
    rw [List.flatMap_append, List.append_assoc, emptied.kept]
    change _ ++ (resizer.queue ++ frame.samples) = _
    rw [← List.append_assoc, resized.kept]
    simp
  sizes := by
    intro output member
    rcases List.mem_append.mp member with before | last
    · exact resized.sizes output before
    · rw [emptied.sizes output last]
      exact resized.frameSize_eq
  short := by
    have short := emptied.short
    change _ < resizer.frameSize at short
    rwa [resized.frameSize_eq] at short
  next := by
    intro contiguous first starts
    rw [emptied.next, resized.write_next contiguous starts]
    change _ + _ * (resizer.frameSize : Int) = _
    rw [resized.frameSize_eq, List.length_append]
    push_cast
    ring
  stamps := by
    intro contiguous first starts
    apply resized.stamps_append contiguous starts
    intro index output found
    rw [emptied.stamps index output found, resized.write_next contiguous starts]
    change _ + _ * (resizer.frameSize : Int) = _
    rw [resized.frameSize_eq]
  idle := by simp
  format_eq := emptied.format.trans resized.format_eq
  frameSize_eq := emptied.frameSize.trans resized.frameSize_eq
  hasCallback := emptied.hasCallback.trans resized.hasCallback

end

private theorem deliver [DecidableEq φ] (positive : 0 < size)
    (resized : Resized format size inputs resizer outputs) (same : frame.format = format) :
    Resized format size (inputs ++ [frame]) (AudioFrameResizer.deliver (resizer, outputs) frame).1
      (AudioFrameResizer.deliver (resizer, outputs) frame).2 := by
  have ready : resizer.setFormat frame.format = resizer := by
    unfold setFormat
    rw [if_neg (by rw [same, resized.format_eq]; simp)]
  unfold AudioFrameResizer.deliver enqueue
  dsimp only
  rw [ready, resized.hasCallback, resized.frameSize_eq]
  by_cases direct : resizer.queue.length = 0 ∧ frame.samples.length = size
  · rw [if_pos (by simpa using direct)]
    exact resized.passThrough direct.1 direct.2
  · rw [if_neg (by simpa using direct)]
    apply resized.write
    apply emptied_dequeueAll
    · exact resized.frameSize_eq ▸ positive
    · exact Nat.le_refl _

end Resized

variable [DecidableEq φ]

def create (format : φ) (size : Nat) : AudioFrameResizer φ α :=
  { format := format, frameSize := size, hasCallback := true }

theorem resized_run (format : φ) {size : Nat} (positive : 0 < size) (frames : List (Frame φ α))
    (fixed : ∀ frame ∈ frames, frame.format = format) :
    Resized format size frames
      (Run.after deliver (create format size, []) frames).1
      (Run.after deliver (create format size, []) frames).2 := by
  induction frames using List.reverseRecOn with
  | nil =>
    constructor
    · rfl
    · exact fun _ member => absurd member List.not_mem_nil
    · exact positive
    · intro _ first starts
      cases starts
    · intro _ first starts
      cases starts
    · exact fun _ => rfl
    · rfl
    · rfl
    · rfl
  | append_singleton before frame ih =>
    rw [Run.after_append]
    have earlier := ih (fun other member => fixed other (List.mem_append_left _ member))
    exact earlier.deliver positive
      (fixed frame (List.mem_append_right _ List.mem_cons_self))

/-- However the input is cut into frames, the output frames and the queue hold the
same samples in the same order, every output frame has the one size, less than a
frame is queued, and on a contiguous timeline each output frame carries the time
stamp of its first sample. -/
theorem enqueue_conserves (format : φ) (size : Nat) (positive : 0 < size)
    (frames : List (Frame φ α)) (fixed : ∀ frame ∈ frames, frame.format = format) :
    let state := Run.after deliver (create format size, []) frames
    state.2.flatMap Frame.samples ++ state.1.queue = frames.flatMap Frame.samples ∧
      (∀ output ∈ state.2, output.samples.length = size) ∧
      state.1.queue.length < size ∧
      (Contiguous frames → ∀ (index : Nat) output, state.2[index]? = some output →
        (frames.flatMap Frame.timestamps)[index * size]? = some output.pts) := by
  intro state
  have resized := resized_run format positive frames fixed
  refine ⟨resized.kept, resized.sizes, resized.short, ?_⟩
  intro contiguous index output found
  have inside : index < state.2.length := (List.getElem?_eq_some_iff.mp found).1
  have total : (frames.flatMap Frame.samples).length =
      state.2.length * size + state.1.queue.length := resized.length_inputs
  have reached : (index + 1) * size ≤ state.2.length * size := Nat.mul_le_mul_right size inside
  rw [Nat.add_mul] at reached
  cases frames with
  | nil =>
    simp only [List.flatMap_nil, List.length_nil] at total
    omega
  | cons head rest =>
    rw [timestamps_of_contiguous contiguous rfl, List.getElem?_map,
      List.getElem?_range (by omega), resized.stamps contiguous head rfl index output found]
    simp

/-- Five samples in pieces of two and three, frames of four: the second piece ends
the first frame and one sample stays. -/
theorem enqueue_conserves_pieces :
    let frames : List (Frame Unit Nat) :=
      [⟨(), 100, true, [1, 2]⟩, ⟨(), 102, false, [3, 4, 5]⟩]
    let state := Run.after deliver (create () 4, []) frames
    state.2 = [⟨(), 100, false, [1, 2, 3, 4]⟩] ∧ state.1.queue = [5] ∧ Contiguous frames ∧
      state.2.flatMap Frame.samples ++ state.1.queue = frames.flatMap Frame.samples ∧
      (Contiguous frames → ∀ (index : Nat) output, state.2[index]? = some output →
        (frames.flatMap Frame.timestamps)[index * 4]? = some output.pts) := by
  intro frames state
  have conserved := enqueue_conserves () 4 (by decide) frames (fun _ _ => rfl)
  exact ⟨by decide, by decide, ⟨rfl, trivial⟩, conserved.1, conserved.2.2.2⟩

end Runs

end AudioFrameResizer

end SipCore
