import LivePages.Asset.Registry
import LivePages.Proofs.Table

/-!
# Loading assets one after the other

For each name a body and a module are asked for.  The report says of each of them what
became of it, and the tables have an entry for each name, whatever the others answer.
-/

namespace LivePages

/-! ## What is asked for -/

/-- An asset that is asked for at a path. -/
inductive Asked where
  | body (path : String)
  | module (path : String)
deriving DecidableEq

namespace Asked

def path : Asked → String
  | body path => path
  | module path => path

/-- Why an asset cannot be loaded, if it cannot. -/
def failure? (answers : AssetAnswers) : Asked → Option AssetError
  | body path =>
    match answers.text path with
    | .ok _ => none
    | .error e => some e
  | module path =>
    match answers.module path with
    | .ok _ => none
    | .error e => some e

/-- What is asked for when names are loaded: the body and the module of each. -/
def each (bodyPath modulePath : String → String) (names : List String) : List Asked :=
  names.flatMap fun name => [body (bodyPath name), module (modulePath name)]

end Asked

/-- What became of an asset that was asked for: it is there, or there is this error. -/
structure AssetOutcome where
  asked : Asked
  failure? : Option AssetError
deriving DecidableEq

def Asked.outcome (answers : AssetAnswers) (a : Asked) : AssetOutcome := ⟨a, a.failure? answers⟩

namespace LoadReport

/-- The report on outcomes: the paths of what is there, and the errors of what is not. -/
def of (outcomes : List AssetOutcome) : LoadReport where
  loaded := (outcomes.filter fun o => o.failure? = none).map fun o => o.asked.path
  failures := outcomes.filterMap AssetOutcome.failure?

/-- Adds a later report. -/
def append (first second : LoadReport) : LoadReport :=
  ⟨first.loaded ++ second.loaded, first.failures ++ second.failures⟩

theorem of_append (first second : List AssetOutcome) :
    of (first ++ second) = (of first).append (of second) := by
  simp [of, append]

theorem append_assoc (first second third : LoadReport) :
    (first.append second).append third = first.append (second.append third) := by
  simp [append]

theorem append_of_nil (report : LoadReport) : report.append (of []) = report := by
  simp [append, of]

/-- Each outcome is in the report once. -/
theorem length_of (outcomes : List AssetOutcome) :
    (of outcomes).loaded.length + (of outcomes).failures.length = outcomes.length := by
  induction outcomes with
  | nil => rfl
  | cons o outcomes inductionHypothesis =>
      simp only [of, List.length_map, List.filter_cons, List.filterMap_cons,
        List.length_cons] at inductionHypothesis ⊢
      cases o.failure? <;> simp <;> omega

end LoadReport

namespace AssetRegistry

variable (answers : AssetAnswers) (bodyPath modulePath : String → String)

theorem noteOutcome_body (path : String) (report : LoadReport) :
    noteOutcome path (answers.text path) report =
      report.append (.of [Asked.outcome answers (.body path)]) := by
  rcases answer : answers.text path with e | text <;>
    simp [noteOutcome, LoadReport.append, LoadReport.of, Asked.outcome, Asked.failure?, Asked.path,
      answer]

theorem noteOutcome_module (path : String) (report : LoadReport) :
    noteOutcome path (answers.module path) report =
      report.append (.of [Asked.outcome answers (.module path)]) := by
  rcases answer : answers.module path with e | module <;>
    simp [noteOutcome, LoadReport.append, LoadReport.of, Asked.outcome, Asked.failure?, Asked.path,
      answer]

variable (names : List String) (report : LoadReport)
  (bodies : Table (Except AssetError String)) (modules : Table Blueprint)

theorem loadAll_report :
    (loadAll answers bodyPath modulePath names report bodies modules).1 =
      report.append
        (.of ((Asked.each bodyPath modulePath names).map (Asked.outcome answers))) := by
  induction names generalizing report bodies modules with
  | nil => exact report.append_of_nil.symm
  | cons name names inductionHypothesis =>
      rw [loadAll, inductionHypothesis, noteOutcome_module, noteOutcome_body,
        LoadReport.append_assoc, LoadReport.append_assoc, ← LoadReport.of_append,
        ← LoadReport.of_append]
      rfl

theorem loadAll_bodies (name : String) :
    (loadAll answers bodyPath modulePath names report bodies modules).2.1.get? name =
      if name ∈ names then some (answers.text (bodyPath name)) else bodies.get? name := by
  induction names generalizing report bodies modules with
  | nil => rfl
  | cons first names inductionHypothesis =>
      rw [loadAll, inductionHypothesis, Table.get?_insert]
      by_cases later : name ∈ names
      · rw [if_pos later, if_pos (List.mem_cons_of_mem _ later)]
      · by_cases here : first = name
        · simp [here]
        · simp [later, here, Ne.symm here]

/-- A module that cannot be loaded leaves what is there, and answers are always the
same. -/
theorem loadAll_modules (name : String) :
    (loadAll answers bodyPath modulePath names report bodies modules).2.2.get? name =
      if name ∈ names then (answers.module (modulePath name)).toOption <|> modules.get? name
      else modules.get? name := by
  induction names generalizing report bodies modules with
  | nil => rfl
  | cons first names inductionHypothesis =>
      have added : ((answers.module (modulePath first)).toOption.elim modules fun m =>
          Table.insert first m modules).get? name =
            if first = name then (answers.module (modulePath name)).toOption <|> modules.get? name
            else modules.get? name := by
        by_cases here : first = name
        · subst here
          cases (answers.module (modulePath first)).toOption with
          | none => simp
          | some m => simp [Table.get?_insert]
        · cases (answers.module (modulePath first)).toOption with
          | none => simp [here]
          | some m => simp [Table.get?_insert, here]
      rw [loadAll, inductionHypothesis, added]
      by_cases here : first = name
      · subst here
        cases (answers.module (modulePath first)).toOption <;> simp
      · simp [here, Ne.symm here]

end AssetRegistry

end LivePages
