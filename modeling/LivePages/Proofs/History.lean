import LivePages.History

/-!
# Histories as trails

A history keeps its entries in one list and counts where it is.  Seen from the current
entry it is a trail: what lies behind, and what lies ahead.  Everything that can be done
to a history can be said of a trail without counting, and whatever a session does, its
answers and the entries are the same.
-/

namespace LivePages

/-- The visited paths as seen from the current one.  What lies behind it stands latest
first, what lies ahead of it next first. -/
inductive Trail where
  | nowhere
  | here (behind : List String) (current : String) (ahead : List String)
deriving DecidableEq

namespace Trail

/-- The current path comes to lie behind the new one, and nothing is left ahead. -/
def push (path : String) : Trail → Trail
  | nowhere => here [] path []
  | here behind current _ => here (current :: behind) path []

def replace (path : String) : Trail → Trail
  | nowhere => here [] path []
  | here behind _ ahead => here behind path ahead

/-- Moves back by one path, if one lies behind. -/
def back? : Trail → Option (String × Trail)
  | here (path :: behind) current ahead => some (path, here behind path (current :: ahead))
  | _ => none

/-- Moves forward by one path, if one lies ahead. -/
def forward? : Trail → Option (String × Trail)
  | here behind current (path :: ahead) => some (path, here (current :: behind) path ahead)
  | _ => none

def current? : Trail → Option String
  | nowhere => none
  | here _ current _ => some current

/-- All paths, the oldest first. -/
def entries : Trail → List String
  | nowhere => []
  | here behind current ahead => behind.reverse ++ current :: ahead

end Trail

/-! ## Sessions -/

/-- What a session does with the paths it visits. -/
inductive SessionStep where
  | push (path : String)
  | replace (path : String)
  | back
  | forward
deriving DecidableEq

/-- What shows after a step: the path that it answers with, the entries, and the current
one among them. -/
structure SessionView where
  answer : Option String
  entries : List String
  current : Option String
deriving DecidableEq

/-- A way to keep the paths of a session. -/
structure Recorder (σ : Type) where
  push : String → σ → σ
  replace : String → σ → σ
  back? : σ → Option (String × σ)
  forward? : σ → Option (String × σ)
  entries : σ → List String
  current? : σ → Option String

def History.recorder : Recorder History :=
  ⟨push, replace, back?, forward?, entries, current?⟩

def Trail.recorder : Recorder Trail :=
  ⟨push, replace, back?, forward?, entries, current?⟩

namespace Recorder

variable {σ τ : Type}

/-- What a move comes to.  One that is not possible has no answer and changes nothing. -/
def moved (s : σ) (move : Option (String × σ)) : Option String × σ :=
  move.elim (none, s) fun (path, after) => (some path, after)

def step (r : Recorder σ) : SessionStep → σ → Option String × σ
  | .push path, s => (none, r.push path s)
  | .replace path, s => (none, r.replace path s)
  | .back, s => moved s (r.back? s)
  | .forward, s => moved s (r.forward? s)

/-- What is left of a session. -/
def after (r : Recorder σ) (steps : List SessionStep) (s : σ) : σ :=
  steps.foldl (fun s step => (r.step step s).2) s

/-- What shows after each step of a session. -/
def views (r : Recorder σ) : List SessionStep → σ → List SessionView
  | [], _ => []
  | step :: steps, s =>
    let (answer, s) := r.step step s
    ⟨answer, r.entries s, r.current? s⟩ :: r.views steps s

/-- One way to keep paths that is carried into another by a map. -/
structure Carries (r : Recorder σ) (other : Recorder τ) (f : σ → τ) : Prop where
  push : ∀ path s, other.push path (f s) = f (r.push path s)
  replace : ∀ path s, other.replace path (f s) = f (r.replace path s)
  back? : ∀ s, other.back? (f s) = (r.back? s).map fun (path, after) => (path, f after)
  forward? : ∀ s, other.forward? (f s) = (r.forward? s).map fun (path, after) => (path, f after)
  entries : ∀ s, other.entries (f s) = r.entries s
  current? : ∀ s, other.current? (f s) = r.current? s

section Carries

variable {r : Recorder σ} {other : Recorder τ} {f : σ → τ} (carries : r.Carries other f)

include carries

theorem Carries.step (step : SessionStep) (s : σ) :
    other.step step (f s) = ((r.step step s).1, f (r.step step s).2) := by
  have moves : ∀ move : Option (String × σ),
      moved (f s) (move.map fun (path, after) => (path, f after)) =
        ((moved s move).1, f (moved s move).2) := by
    intro move
    cases move <;> rfl
  cases step with
  | push path => exact congrArg (Prod.mk none) (carries.push path s)
  | replace path => exact congrArg (Prod.mk none) (carries.replace path s)
  | back => exact (congrArg (moved (f s)) (carries.back? s)).trans (moves _)
  | forward => exact (congrArg (moved (f s)) (carries.forward? s)).trans (moves _)

theorem Carries.views (steps : List SessionStep) (s : σ) :
    other.views steps (f s) = r.views steps s := by
  induction steps generalizing s with
  | nil => rfl
  | cons step steps inductionHypothesis =>
      rw [Recorder.views, Recorder.views, carries.step]
      dsimp only
      rw [inductionHypothesis, carries.entries, carries.current?]

theorem Carries.after (steps : List SessionStep) (s : σ) :
    other.after steps (f s) = f (r.after steps s) := by
  unfold Recorder.after
  induction steps generalizing s with
  | nil => rfl
  | cons step steps inductionHypothesis =>
      rw [List.foldl_cons, List.foldl_cons, carries.step]
      exact inductionHypothesis _

end Carries

end Recorder

/-! ## The history of a trail -/

namespace Trail

/-- The history that keeps a trail: as many entries are in front of the current one as
lie behind it. -/
def history : Trail → History
  | nowhere => History.empty
  | here behind current ahead => ⟨behind.reverse ++ current :: ahead, behind.length⟩

theorem push_history (path : String) (t : Trail) :
    t.history.push path = (t.push path).history := by
  cases t with
  | nowhere => rfl
  | here behind current ahead =>
      have kept : (behind.reverse ++ current :: ahead).take (behind.length + 1) =
          behind.reverse ++ [current] := by
        rw [List.take_append, List.take_of_length_le (by simp)]
        simp
      simp [history, push, History.push, kept]

theorem replace_history (path : String) (t : Trail) :
    t.history.replace path = (t.replace path).history := by
  cases t with
  | nowhere => rfl
  | here behind current ahead => simp [history, replace, History.replace]

theorem back?_history (t : Trail) :
    t.history.back? = t.back?.map fun (path, after) => (path, after.history) := by
  cases t with
  | nowhere => rfl
  | here behind current ahead =>
      cases behind with
      | nil => rfl
      | cons path behind => simp [history, back?, History.back?, History.moveTo?]

theorem forward?_history (t : Trail) :
    t.history.forward? = t.forward?.map fun (path, after) => (path, after.history) := by
  cases t with
  | nowhere => rfl
  | here behind current ahead =>
      cases ahead with
      | nil => simp [history, forward?, History.forward?, History.moveTo?]
      | cons path ahead => simp [history, forward?, History.forward?, History.moveTo?]

theorem carries_history : recorder.Carries History.recorder history where
  push := push_history
  replace := replace_history
  back? := back?_history
  forward? := forward?_history
  entries t := by
    cases t <;> rfl
  current? t := by
    cases t with
    | nowhere => rfl
    | here behind current ahead =>
        simp [recorder, History.recorder, history, History.current?, current?]

/-- Moving forward again comes back to where the move back started. -/
theorem forward?_of_back? {t before : Trail} {path : String}
    (moved : t.back? = some (path, before)) :
    ∃ current, t.current? = some current ∧ before.forward? = some (current, t) := by
  cases t with
  | nowhere => cases moved
  | here behind current ahead =>
      cases behind with
      | nil => cases moved
      | cons previous behind =>
          cases moved
          exact ⟨current, rfl, rfl⟩

theorem index_history (t : Trail) :
    t.history = History.empty ∨ t.history.index < t.history.entries.length := by
  cases t with
  | nowhere => exact .inl rfl
  | here behind current ahead => exact .inr (by simp [history])

end Trail

/-- Whatever a session does from the start, its history shows what the trail shows.  The
position is always that of an entry once there is one, and moving forward after a move
back restores the history. -/
theorem History.follows_trail (steps : List SessionStep) :
    recorder.views steps empty = Trail.recorder.views steps .nowhere ∧
    let h := recorder.after steps empty
    (h = empty ∨ h.index < h.entries.length) ∧
    ∀ path before, h.back? = some (path, before) →
      ∃ current, h.current? = some current ∧ before.forward? = some (current, h) := by
  have carries := Trail.carries_history
  have same : recorder.after steps empty = (Trail.recorder.after steps .nowhere).history :=
    carries.after steps .nowhere
  refine ⟨carries.views steps .nowhere, ?_⟩
  rw [same]
  generalize Trail.recorder.after steps .nowhere = t
  refine ⟨t.index_history, fun path before moved => ?_⟩
  rw [t.back?_history, Option.map_eq_some_iff] at moved
  obtain ⟨⟨previous, trail⟩, movedTrail, same⟩ := moved
  cases same
  obtain ⟨current, isCurrent, forward⟩ := Trail.forward?_of_back? movedTrail
  refine ⟨current, (carries.current? t).trans isCurrent, ?_⟩
  rw [trail.forward?_history, forward]
  rfl

/-- A push behind a move back drops what was ahead, and at both ends nothing moves. -/
example :
    History.recorder.views
        [.back, .replace "/", .push "/a", .push "/b", .back, .push "/c", .forward] .empty =
      [⟨none, [], none⟩, ⟨none, ["/"], some "/"⟩, ⟨none, ["/", "/a"], some "/a"⟩,
        ⟨none, ["/", "/a", "/b"], some "/b"⟩, ⟨some "/a", ["/", "/a", "/b"], some "/a"⟩,
        ⟨none, ["/", "/a", "/c"], some "/c"⟩, ⟨none, ["/", "/a", "/c"], some "/c"⟩] := by
  decide

end LivePages
