import Artillery.Explosion

/-!
# The queue of explosions

Explosions are added at any time and shown one after another.  Whatever the order of additions and
frames, what has been shown and what is still to be shown are together all frames of all animations,
in the order in which these were added.

## Key results

- `Sound`: nothing waits while nothing plays, and whatever plays has frames left
- `started_append_pending`: animations begin in the order in which they were added
- `shown_append_remaining`: each plays all its frames, and none of them twice
- `goesOn_eq_false_iff`: a step answers that nothing plays exactly when everything has been shown
-/

namespace Artillery

namespace Animation

/-- The states of an animation in the frames that it plays. -/
def frames (a : Animation) : List Animation :=
  (List.range a.totalFrames).map fun n => { a with frame := n }

/-- An animation has as many frames as it says. -/
@[simp] theorem length_frames (a : Animation) : a.frames.length = a.totalFrames := by
  simp [frames]

/-- The frames that an animation has left, the present one included. -/
def framesLeft (a : Animation) : List Animation := a.frames.drop a.frame

/-- Before its first frame it has all of them left. -/
theorem framesLeft_of_start {a : Animation} (h : a.frame = 0) : a.framesLeft = a.frames := by
  rw [framesLeft, h, List.drop_zero]

/-- After its last one it has none left. -/
theorem framesLeft_of_end {a : Animation} (h : a.totalFrames ≤ a.frame) : a.framesLeft = [] :=
  List.drop_eq_nil_of_le (by simpa using h)

/-- An animation that has not ended shows its present frame and then the others. -/
theorem framesLeft_eq_cons {a : Animation} (h : a.frame < a.totalFrames) :
    a.framesLeft = a :: { a with frame := a.frame + 1 }.framesLeft := by
  have hlt : a.frame < a.frames.length := by simpa using h
  have hnow : a.frames[a.frame] = a := by simp [frames]
  rw [framesLeft, List.drop_eq_getElem_cons hlt, hnow]
  rfl

/-- The animation of an explosion has at least eight frames, and more for a large one. -/
theorem length_frames_ofBlast (center : Pixel) (radius : Int) :
    (ofBlast center radius).frames.length = max 8 (max radius 0 / 2).toNat := by
  rw [length_frames]
  rfl

/-- The animation of a blast lasts for the least time at least. -/
theorem minFrames_le_ofBlast (center : Pixel) (radius : Int) :
    minFrames ≤ (ofBlast center radius).totalFrames := Nat.le_max_left minFrames _

end Animation

namespace ExplosionQueue

/-! ## Calls -/

/-- What happens to a queue. -/
inductive Call where
  | push (center : Pixel) (radius : Int)
  | step
  deriving DecidableEq

/-- What a step answers: whether anything plays after it. -/
def goesOn (q : ExplosionQueue) : Bool := ¬q.step.isIdle

/-- The animation that has become active from one state to the next: it plays its first frame, and
did not play it before. -/
def begun (q next : ExplosionQueue) : List Animation :=
  if next.active = q.active then [] else next.active.toList.filter (·.frame = 0)

namespace Call

/-- Carries a call out. -/
def perform (q : ExplosionQueue) : Call → ExplosionQueue
  | push center radius => q.push center radius
  | step => q.step

/-- Carries out calls one after another. -/
def performAll : List Call → ExplosionQueue → ExplosionQueue
  | [], q => q
  | c :: cs, q => performAll cs (c.perform q)

/-- The animations that calls add, in order. -/
def pushed : List Call → List Animation
  | [] => []
  | push center radius :: cs => .ofBlast center radius :: pushed cs
  | step :: cs => pushed cs

/-- The animations that become active, in order. -/
def started : List Call → ExplosionQueue → List Animation
  | [], _ => []
  | c :: cs, q => q.begun (c.perform q) ++ started cs (c.perform q)

/-- What is active at each step, frame by frame. -/
def shown : List Call → ExplosionQueue → List Animation
  | [], _ => []
  | push center radius :: cs, q => shown cs (q.push center radius)
  | step :: cs, q => q.active.toList ++ shown cs q.step

/-- Calls can be carried out part by part. -/
theorem performAll_append (cs ds : List Call) (q : ExplosionQueue) :
    performAll (cs ++ ds) q = performAll ds (performAll cs q) := by
  induction cs generalizing q with
  | nil => rfl
  | cons c cs ih => exact ih _

/-- What is added by two runs of calls is added in their order. -/
theorem pushed_append (cs ds : List Call) : pushed (cs ++ ds) = pushed cs ++ pushed ds := by
  induction cs with
  | nil => rfl
  | cons c cs ih =>
    cases c with
    | push center radius => exact congrArg (_ :: ·) ih
    | step => exact ih

end Call

/-! ## What holds at any time -/

/-- Nothing waits while nothing plays; what plays has frames left, and what waits has all of
them. -/
structure Sound (q : ExplosionQueue) : Prop where
  idle : q.active = none → q.pending = []
  playing : ∀ a ∈ q.active, a.frame < a.totalFrames
  lasting : ∀ a ∈ q.active, Animation.minFrames ≤ a.totalFrames
  waiting : ∀ a ∈ q.pending, a.frame = 0 ∧ Animation.minFrames ≤ a.totalFrames

/-- An empty queue is sound. -/
theorem empty_sound : Sound {} where
  idle _ := rfl
  playing _ h := nomatch h
  lasting _ h := nomatch h
  waiting _ h := nomatch h

/-- A step either does nothing, or shows the next frame, or makes way for the next animation. -/
theorem step_cases (q : ExplosionQueue) :
    (q.active = none ∧ q.step = q) ∨ ∃ a, q.active = some a ∧
      (a.totalFrames ≤ a.frame + 1 ∧ q.step = ⟨q.pending.head?, q.pending.tail⟩ ∨
        a.frame + 1 < a.totalFrames ∧
          q.step = { q with active := some { a with frame := a.frame + 1 } }) := by
  unfold step
  cases hq : q.active with
  | none => exact .inl ⟨rfl, rfl⟩
  | some a =>
    refine .inr ⟨a, rfl, ?_⟩
    -- The frame to come is counted before it is compared with the last.
    by_cases hend : a.totalFrames ≤ a.frame + 1
    · exact .inl ⟨hend, if_pos hend⟩
    · exact .inr ⟨by omega, if_neg hend⟩

/-- What is added plays at once if nothing else does, and waits otherwise. -/
theorem push_cases (q : ExplosionQueue) (center : Pixel) (radius : Int) :
    (q.active = none ∧ q.push center radius = { q with active := some (.ofBlast center radius) }) ∨
      ∃ a, q.active = some a ∧
        q.push center radius = { q with pending := q.pending ++ [.ofBlast center radius] } := by
  unfold push
  cases hq : q.active with
  | none => exact .inl ⟨rfl, rfl⟩
  | some a => exact .inr ⟨a, rfl, rfl⟩

section Sound

variable {q : ExplosionQueue} (h : q.Sound)
include h

/-- Adding keeps a queue sound. -/
theorem push_sound (center : Pixel) (radius : Int) : (q.push center radius).Sound := by
  have hlong := Animation.minFrames_le_ofBlast center radius
  obtain ⟨hq, hpush⟩ | ⟨a, hq, hpush⟩ := q.push_cases center radius
  · -- It begins at once, in its first frame.
    rw [hpush]
    constructor
    · exact fun hc => nomatch hc
    · rintro b ⟨⟩
      have hpos : 0 < Animation.minFrames := by decide
      exact Nat.lt_of_lt_of_le hpos hlong
    · rintro b ⟨⟩
      exact hlong
    · exact h.waiting
  · -- It waits behind the others; something plays, so that waiting is in order.
    rw [hpush]
    refine ⟨fun hc => ?_, h.playing, h.lasting, fun b hb => ?_⟩
    · rw [show q.active = none from hc] at hq
      exact nomatch hq
    · obtain hb | hb := List.mem_append.1 hb
      · exact h.waiting b hb
      · obtain rfl := List.mem_singleton.1 hb
        exact ⟨rfl, hlong⟩

/-- So does a step. -/
theorem step_sound : q.step.Sound := by
  obtain ⟨_, hs⟩ | ⟨a, ha, ⟨_, hs⟩ | ⟨hlt, hs⟩⟩ := q.step_cases
  · exact hs.symm ▸ h
  · rw [hs]
    -- The first that has waited begins; the others go on waiting.
    have hhead : ∀ b ∈ q.pending.head?, b.frame = 0 ∧ Animation.minFrames ≤ b.totalFrames :=
      fun b hb => h.waiting b (List.mem_of_mem_head? hb)
    constructor
    · intro hc
      rw [show q.pending = [] from List.head?_eq_none_iff.1 hc]
      rfl
    · intro b hb
      obtain ⟨hzero, hlong⟩ := hhead b hb
      rw [hzero]
      exact Nat.lt_of_lt_of_le (by decide) hlong
    · exact fun b hb => (hhead b hb).2
    · exact fun b hb => h.waiting b (List.mem_of_mem_tail hb)
  · rw [hs]
    constructor
    · exact fun hc => nomatch hc
    · rintro b ⟨⟩
      exact hlt
    · rintro b ⟨⟩
      exact h.lasting a ha
    · exact h.waiting

namespace Call

/-- So does every call. -/
theorem perform_sound (c : Call) : (c.perform q).Sound := by
  cases c with
  | push center radius => exact push_sound h center radius
  | step => exact step_sound h

/-- A queue stays sound, whatever happens to it. -/
theorem performAll_sound (cs : List Call) : (performAll cs q).Sound := by
  induction cs generalizing q with
  | nil => exact h
  | cons c cs ih => exact ih (perform_sound h c)

/-! ## Beginnings -/

/-- A call brings to play what has waited longest, and lets wait what it adds. -/
theorem begun_perform (c : Call) :
    q.begun (c.perform q) ++ (c.perform q).pending = q.pending ++ pushed [c] := by
  cases c with
  | push center radius =>
    obtain ⟨hq, hpush⟩ | ⟨a, hq, hpush⟩ := q.push_cases center radius
    · rw [perform, hpush, begun, hq, h.idle hq]
      rfl
    · rw [perform, hpush, begun, if_pos rfl]
      rfl
  | step =>
    rw [perform, pushed, pushed, List.append_nil]
    obtain ⟨hq, hs⟩ | ⟨a, ha, ⟨hend, hs⟩ | ⟨hlt, hs⟩⟩ := q.step_cases
    · rw [hs, begun, if_pos rfl]
      rfl
    · rw [hs, begun, ha]
      cases hp : q.pending with
      | nil => rfl
      | cons b rest =>
        -- The one that makes way is in its last frame, and so is not the one that begins.
        obtain ⟨hzero, _⟩ := h.waiting b (by rw [hp]; exact List.mem_cons_self)
        have hlong := h.lasting a ha
        have hne : ¬(some b = some a) := by
          rintro ⟨⟩
          rw [hzero] at hend
          exact absurd (Nat.le_trans hlong hend) (by decide)
        rw [List.head?_cons, if_neg hne]
        simp [hzero]
    · rw [hs, begun, ha, if_neg]
      · rfl
      · -- The one that plays on is in another frame than before, and not in its first.
        intro hc
        have := congrArg Animation.frame (Option.some.inj hc)
        dsimp only at this
        omega

/-- Animations become active in the order in which they were added, and none of them twice. -/
theorem started_append_pending (cs : List Call) :
    started cs q ++ (performAll cs q).pending = q.pending ++ pushed cs := by
  induction cs generalizing q with
  | nil => exact (List.append_nil _).symm
  | cons c cs ih =>
    -- What the first call has let wait is what the others start from.
    calc started (c :: cs) q ++ (performAll (c :: cs) q).pending
        = q.begun (c.perform q) ++ (started cs (c.perform q) ++
            (performAll cs (c.perform q)).pending) := List.append_assoc ..
      _ = (q.begun (c.perform q) ++ (c.perform q).pending) ++ pushed cs := by
          rw [ih (perform_sound h c), List.append_assoc]
      _ = q.pending ++ (pushed [c] ++ pushed cs) := by rw [begun_perform h c, List.append_assoc]
      _ = q.pending ++ pushed (c :: cs) := by rw [← pushed_append]; rfl

end Call

end Sound

/-! ## Frames -/

/-- All frames that are still to be shown. -/
def remaining (q : ExplosionQueue) : List Animation :=
  q.active.toList.flatMap Animation.framesLeft ++ q.pending.flatMap Animation.frames

section Frames

variable {q : ExplosionQueue} (h : q.Sound)
include h

/-- What is added shows all its frames in the end. -/
theorem remaining_push (center : Pixel) (radius : Int) :
    (q.push center radius).remaining =
      q.remaining ++ (Animation.ofBlast center radius).frames := by
  obtain ⟨hq, hpush⟩ | ⟨a, hq, hpush⟩ := q.push_cases center radius
  · rw [hpush, remaining, remaining, hq, h.idle hq]
    simp [Animation.framesLeft_of_start (a := Animation.ofBlast center radius) rfl]
  · rw [hpush, remaining, remaining]
    simp

/-- A step shows the first of the frames that are still to be shown. -/
theorem toList_append_remaining_step : q.active.toList ++ q.step.remaining = q.remaining := by
  obtain ⟨hq, hs⟩ | ⟨a, ha, ⟨hend, hs⟩ | ⟨hlt, hs⟩⟩ := q.step_cases
  · rw [hs, hq]
    rfl
  · -- The last frame of one animation is shown, and the next begins with all its frames.
    have hlast : a.framesLeft = [a] := by
      rw [Animation.framesLeft_eq_cons (h.playing a ha), Animation.framesLeft_of_end hend]
    have hnext : q.step.remaining = q.pending.flatMap Animation.frames := by
      rw [hs, remaining]
      cases hp : q.pending with
      | nil => rfl
      | cons b rest =>
        have hstart := (h.waiting b (by rw [hp]; exact List.mem_cons_self)).1
        simp [Animation.framesLeft_of_start hstart]
    rw [hnext, remaining, ha]
    simp [hlast]
  · rw [hs, remaining, remaining, ha]
    simp [Animation.framesLeft_eq_cons (h.playing a ha)]

/-- Nothing plays exactly when nothing is still to be shown. -/
theorem isIdle_iff_remaining : q.isIdle = true ↔ q.remaining = [] := by
  unfold isIdle remaining
  cases hq : q.active with
  | none => simp [h.idle hq]
  | some a => simp [Animation.framesLeft_eq_cons (h.playing a hq)]

namespace Call

/-- What has been shown and what is still to be shown are all frames of all animations, in the order
in which these were added. -/
theorem shown_append_remaining (cs : List Call) :
    shown cs q ++ (performAll cs q).remaining =
      q.remaining ++ (pushed cs).flatMap Animation.frames := by
  induction cs generalizing q with
  | nil => exact (List.append_nil _).symm
  | cons c cs ih =>
    -- A push lengthens what remains, and a step shows its first frame.
    cases c with
    | push center radius =>
      rw [shown, performAll, perform, ih (push_sound h center radius), remaining_push h,
        List.append_assoc]
      rfl
    | step =>
      rw [shown, performAll, perform, List.append_assoc, ih (step_sound h), ← List.append_assoc,
        toList_append_remaining_step h]
      rfl

end Call

end Frames

/-- A step answers that nothing plays exactly when with it every animation has been shown to its
end. -/
theorem goesOn_eq_false_iff (cs : List Call) :
    (Call.performAll cs {}).goesOn = false ↔
      Call.shown (cs ++ [.step]) {} = (Call.pushed cs).flatMap Animation.frames := by
  -- What the answer is about is the state after one step more.
  have hsound := Call.performAll_sound empty_sound (cs ++ [.step])
  have hall := Call.shown_append_remaining empty_sound (cs ++ [.step])
  rw [Call.pushed_append] at hall
  have hstep : Call.performAll (cs ++ [.step]) {} = (Call.performAll cs {}).step := by
    rw [Call.performAll_append]
    rfl
  rw [hstep] at hsound hall
  have hshown : Call.shown (cs ++ [.step]) {} ++ (Call.performAll cs {}).step.remaining =
      (Call.pushed cs).flatMap Animation.frames := by
    simpa [Call.pushed, remaining] using hall
  have hidle : (Call.performAll cs {}).goesOn = false ↔
      (Call.performAll cs {}).step.remaining = [] := by
    rw [← isIdle_iff_remaining hsound]
    simp [goesOn]
  rw [hidle, ← hshown]
  simp

end ExplosionQueue

end Artillery
