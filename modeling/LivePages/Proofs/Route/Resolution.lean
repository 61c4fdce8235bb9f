import Mathlib.Data.List.Forall2
import LivePages.Route.Match

/-!
# Resolution of paths

A path leads to the longest entry that accepts its segments, and among equally
long ones to the one that was registered first.  What it means to accept a
request is said here position by position, and the answer by the place of the
chosen entry in the table.  The search is also written as one scan that cuts
the request where it compares and where it answers; no cut goes beyond the end
of the request.
-/

namespace LivePages.Route

/-! ## Requests -/

/-- The segments that are asked for by a path: its parts between slashes, without
the empty ones. -/
def Requests (path : String) (request : List String) : Prop :=
  ∃ parts : List (List Char),
    parts ≠ [] ∧ (∀ part ∈ parts, '/' ∉ part) ∧
      path.toList = ['/'].intercalate parts ∧
      request = (parts.filter (· ≠ [])).map String.ofList

theorem splitWhere_ne_nil (isCut : Char → Bool) (cs : List Char) :
    Text.splitWhere isCut cs ≠ [] := by
  cases cs with
  | nil => simp [Text.splitWhere]
  | cons c cs =>
      rw [Text.splitWhere]
      by_cases cut : isCut c = true
      · simp [cut]
      · rw [if_neg cut]
        split <;> simp

theorem splitWhere_cons_of_not_cut (isCut : Char → Bool) {c : Char}
    (noCut : isCut c = false) (cs : List Char) :
    ∃ part parts, Text.splitWhere isCut cs = part :: parts ∧
      Text.splitWhere isCut (c :: cs) = (c :: part) :: parts := by
  obtain ⟨part, parts, shape⟩ :=
    List.exists_cons_of_ne_nil (splitWhere_ne_nil isCut cs)
  refine ⟨part, parts, shape, ?_⟩
  simp [Text.splitWhere, noCut, shape]

theorem notMem_of_mem_splitWhere {stop : Char} {cs part : List Char}
    (member : part ∈ Text.splitWhere (· = stop) cs) :
    stop ∉ part := by
  induction cs generalizing part with
  | nil =>
      rw [Text.splitWhere, List.mem_singleton] at member
      simp [member]
  | cons c cs inductionHypothesis =>
      by_cases cut : c = stop
      · rw [Text.splitWhere, if_pos (by simpa using cut), List.mem_cons] at member
        rcases member with rfl | later
        · simp
        · exact inductionHypothesis later
      · obtain ⟨first, parts, shape, longer⟩ :=
          splitWhere_cons_of_not_cut (· = stop) (by simpa using cut) cs
        rw [longer, List.mem_cons] at member
        rcases member with rfl | later
        · have apart : stop ∉ first :=
            inductionHypothesis (shape ▸ List.mem_cons_self)
          simp [apart, Ne.symm cut]
        · exact inductionHypothesis (shape ▸ List.mem_cons_of_mem _ later)

theorem intercalate_splitWhere (stop : Char) (cs : List Char) :
    [stop].intercalate (Text.splitWhere (· = stop) cs) = cs := by
  induction cs with
  | nil => rfl
  | cons c cs inductionHypothesis =>
      by_cases cut : c = stop
      · obtain ⟨part, parts, shape⟩ :=
          List.exists_cons_of_ne_nil (splitWhere_ne_nil (· = stop) cs)
        rw [Text.splitWhere, if_pos (by simpa using cut), shape,
          List.intercalate_cons_cons, ← shape, inductionHypothesis, cut]
        rfl
      · obtain ⟨part, parts, shape, longer⟩ :=
          splitWhere_cons_of_not_cut (· = stop) (by simpa using cut) cs
        rw [longer]
        rw [shape] at inductionHypothesis
        cases parts with
        | nil => simpa using inductionHypothesis
        | cons next parts =>
            rw [List.intercalate_cons_cons] at inductionHypothesis ⊢
            rw [← inductionHypothesis]
            rfl

theorem requests_segments (path : String) : Requests path (segments path) :=
  ⟨Text.splitWhere (· = '/') path.toList, splitWhere_ne_nil _ _,
    fun _ member => notMem_of_mem_splitWhere member,
    (intercalate_splitWhere '/' path.toList).symm, rfl⟩

/-! ## Acceptable entries -/

/-- An entry that a request may lead to. -/
structure Entry.Acceptable (e : Entry) (request : List String) : Prop where
  notRoot : e.pattern ≠ "/"
  filled : 1 ≤ e.segments.length
  fitsInside : e.segments.length ≤ request.length
  /-- Each position is that of a slug, or its segment carries a mark, or it is
  the segment that the request has there. -/
  fits : ∀ (position : Nat) (segment : String),
    e.segments[position]? = some segment →
      (∃ name, (name, position) ∈ e.slugs) ∨
        (∃ mark ∈ slugMarks, mark ∈ segment.toList) ∨
        request[position]? = some segment

theorem Slugs.hasPosition_iff (slugs : Slugs) (position : Nat) :
    slugs.hasPosition position = true ↔ ∃ name, (name, position) ∈ slugs := by
  simp [Slugs.hasPosition]

theorem isSlug_iff (segment : String) :
    isSlug segment = true ↔ ∃ mark ∈ slugMarks, mark ∈ segment.toList := by
  simp only [isSlug, List.any_eq_true, List.contains_iff_mem]
  exact ⟨fun ⟨c, inside, mark⟩ => ⟨c, mark, inside⟩,
    fun ⟨c, mark, inside⟩ => ⟨c, inside, mark⟩⟩

theorem Entry.isVariable_iff {e : Entry} {position : Nat} {segment : String}
    (here : e.segments[position]? = some segment) :
    e.isVariable position = true ↔
      (∃ name, (name, position) ∈ e.slugs) ∨
        ∃ mark ∈ slugMarks, mark ∈ segment.toList := by
  rw [Entry.isVariable, Bool.or_eq_true, Slugs.hasPosition_iff, here,
    Option.any_some, isSlug_iff]

/-- Comparing an entry with segments of a request, position by position. -/
def Entry.agrees (e : Entry) (asked : List String) : Bool :=
  (e.segments.zip asked).zipIdx.all fun ((segment, asked), position) =>
    e.isVariable position || segment = asked

theorem Entry.agrees_iff {e : Entry} {asked : List String}
    (enough : e.segments.length ≤ asked.length) :
    e.agrees asked = true ↔
      ∀ (position : Nat) (segment : String),
        e.segments[position]? = some segment →
          (∃ name, (name, position) ∈ e.slugs) ∨
            (∃ mark ∈ slugMarks, mark ∈ segment.toList) ∨
            asked[position]? = some segment := by
  rw [Entry.agrees, List.all_eq_true]
  constructor
  · intro each position segment here
    have inside : position < asked.length :=
      Nat.lt_of_lt_of_le (List.getElem?_eq_some_iff.1 here).1 enough
    have member : ((segment, asked[position]), position) ∈
        (e.segments.zip asked).zipIdx := by
      rw [List.mem_zipIdx_iff_getElem?, List.getElem?_zip_eq_some]
      exact ⟨here, List.getElem?_eq_getElem inside⟩
    have agreed := each _ member
    simp only [Bool.or_eq_true, decide_eq_true_eq, Entry.isVariable_iff here]
      at agreed
    rcases agreed with (slug | marked) | same
    · exact .inl slug
    · exact .inr (.inl marked)
    · rw [List.getElem?_eq_getElem inside, same]
      exact .inr (.inr rfl)
  · rintro each ⟨⟨segment, other⟩, position⟩ member
    rw [List.mem_zipIdx_iff_getElem?, List.getElem?_zip_eq_some] at member
    obtain ⟨here, there⟩ := member
    simp only [Bool.or_eq_true, decide_eq_true_eq, Entry.isVariable_iff here]
    rcases each position segment here with slug | marked | same
    · exact .inl (.inl slug)
    · exact .inl (.inr marked)
    · rw [there, Option.some.injEq] at same
      exact .inr same.symm

theorem Entry.accepts_iff (e : Entry) (request : List String) :
    e.accepts request = true ↔ e.Acceptable request := by
  have shape : e.accepts request = true ↔
      ((e.pattern ≠ root ∧ e.segments.isEmpty = false) ∧
        e.segments.length ≤ request.length) ∧ e.agrees request = true := by
    simp [Entry.accepts, Entry.agrees]
  rw [shape]
  constructor
  · rintro ⟨⟨⟨notRoot, filled⟩, inside⟩, agrees⟩
    refine ⟨notRoot, ?_, inside, (Entry.agrees_iff inside).1 agrees⟩
    exact List.length_pos_iff.2 (by simpa using filled)
  · rintro ⟨notRoot, filled, inside, fits⟩
    refine ⟨⟨⟨notRoot, ?_⟩, inside⟩, (Entry.agrees_iff inside).2 fits⟩
    simpa using List.length_pos_iff.1 filled

/-! ## The best entry -/

/-- The entry at its place in the table is the longest acceptable one, and no
other of its length stands before it. -/
structure Chosen (accept : Entry → Prop) (before : List Entry) (e : Entry)
    (after : List Entry) : Prop where
  accepted : accept e
  longest : ∀ other ∈ before ++ e :: after, accept other →
    other.segments.length ≤ e.segments.length
  first : ∀ other ∈ before, accept other →
    other.segments.length ≠ e.segments.length

/-- What the search has in hand after it has looked at the entries of a table. -/
def Best (accept : Entry → Prop) (seen : List Entry) : Option Entry → Prop
  | none => ∀ e ∈ seen, ¬ accept e
  | some e => ∃ before after, seen = before ++ e :: after ∧ Chosen accept before e after

/-- An entry that is longer than all acceptable ones before it. -/
theorem Chosen.of_longer {accept : Entry → Prop} {seen : List Entry} {e : Entry}
    (accepted : accept e)
    (shorter : ∀ other ∈ seen, accept other →
      other.segments.length < e.segments.length) :
    Chosen accept seen e [] := by
  refine ⟨accepted, ?_, ?_⟩
  · intro other member isAccepted
    rcases List.mem_append.1 member with old | new
    · exact Nat.le_of_lt (shorter other old isAccepted)
    · cases List.mem_singleton.1 new
      exact Nat.le_refl _
  · intro other member isAccepted
    exact Nat.ne_of_lt (shorter other member isAccepted)

/-- An entry behind the others that is not longer, if it is acceptable at all. -/
theorem Chosen.append {accept : Entry → Prop} {before after : List Entry}
    {current e : Entry} (chosen : Chosen accept before current after)
    (notLonger : accept e → e.segments.length ≤ current.segments.length) :
    Chosen accept before current (after ++ [e]) := by
  refine ⟨chosen.accepted, ?_, chosen.first⟩
  intro other member isAccepted
  have split : before ++ current :: (after ++ [e]) =
      before ++ current :: after ++ [e] := by
    simp
  rw [split] at member
  rcases List.mem_append.1 member with old | new
  · exact chosen.longest other old isAccepted
  · rw [List.mem_singleton.1 new] at isAccepted ⊢
    exact notLonger isAccepted

theorem Best.append {accept : Entry → Prop} {seen : List Entry} {best : Option Entry}
    (holds : Best accept seen best) {e : Entry} (accepted : accept e) :
    Best accept (seen ++ [e]) (longer best e) := by
  cases best with
  | none =>
      have shorter : ∀ other ∈ seen, accept other →
          other.segments.length < e.segments.length := by
        intro other member isAccepted
        exact absurd isAccepted (holds other member)
      exact ⟨seen, [], rfl, .of_longer accepted shorter⟩
  | some current =>
      obtain ⟨before, after, rfl, chosen⟩ := holds
      rw [longer]
      by_cases more : current.segments.length < e.segments.length
      · have shorter : ∀ other ∈ before ++ current :: after, accept other →
            other.segments.length < e.segments.length := by
          intro other member isAccepted
          exact Nat.lt_of_le_of_lt (chosen.longest other member isAccepted) more
        rw [if_pos more]
        exact ⟨before ++ current :: after, [], rfl, .of_longer accepted shorter⟩
      · rw [if_neg more]
        exact ⟨before, after ++ [e], by simp,
          chosen.append fun _ => Nat.le_of_not_lt more⟩

theorem Best.append_refused {accept : Entry → Prop} {seen : List Entry}
    {best : Option Entry} (holds : Best accept seen best) {e : Entry}
    (refused : ¬ accept e) :
    Best accept (seen ++ [e]) best := by
  cases best with
  | none =>
      intro other member
      rcases List.mem_append.1 member with old | new
      · exact holds other old
      · rw [List.mem_singleton.1 new]
        exact refused
  | some current =>
      obtain ⟨before, after, rfl, chosen⟩ := holds
      exact ⟨before, after ++ [e], by simp,
        chosen.append fun accepted => absurd accepted refused⟩

/-- A scan over the rest of a table, from what was found in its front. -/
theorem Best.scan {request : List String} (entries : List Entry) :
    ∀ {seen : List Entry} {best : Option Entry},
      Best (·.Acceptable request) seen best →
        Best (·.Acceptable request) (seen ++ entries)
          ((entries.filter fun e => e.accepts request).foldl longer best) := by
  induction entries with
  | nil =>
      intro seen best holds
      simpa using holds
  | cons e entries inductionHypothesis =>
      intro seen best holds
      have shape : seen ++ e :: entries = seen ++ [e] ++ entries := by
        simp
      rw [shape]
      by_cases accepted : e.accepts request = true
      · have acceptable := (Entry.accepts_iff e request).1 accepted
        rw [List.filter_cons_of_pos (by simpa using accepted), List.foldl_cons]
        exact inductionHypothesis (holds.append acceptable)
      · have refused : ¬ e.Acceptable request := by
          rwa [← Entry.accepts_iff]
        rw [List.filter_cons_of_neg (by simpa using accepted)]
        exact inductionHypothesis (holds.append_refused refused)

theorem Best.whole (request : List String) (table : List Entry) :
    Best (·.Acceptable request) table
      ((table.filter fun e => e.accepts request).foldl longer none) := by
  have unseen : Best (·.Acceptable request) [] none := by
    intro e member
    cases member
  exact unseen.scan table

/-! ## Cutting the request -/

/-- The front of a list with that length, if the list is long enough. -/
def front? {α : Type} (n : Nat) (xs : List α) : Option (List α) :=
  if n ≤ xs.length then some (xs.take n) else none

/-- What follows the front of that length, if the list is long enough. -/
def behind? {α : Type} (n : Nat) (xs : List α) : Option (List α) :=
  if n ≤ xs.length then some (xs.drop n) else none

/-- Looks at one more entry.  There is no result if the request is cut beyond its
end. -/
def look? (request : List String) (best : Option Entry) (e : Entry) :
    Option (Option Entry) :=
  if e.pattern = root || e.segments.isEmpty || request.length < e.segments.length then
    some best
  else
    (front? e.segments.length request).map fun asked =>
      if e.agrees asked then longer best e else best

/-- The resolution of a path in one scan over the table.  There is no result if
the request is cut beyond its end. -/
def resolveByCuts? (table : List Entry) (path : String) :
    Option (Except RouteError Match) :=
  let request := segments path
  if request.isEmpty then some (.ok Match.root)
  else
    (table.foldlM (look? request) none).bind fun best =>
      match best with
      | none => some (.error (.notFound path))
      | some e =>
        (behind? e.segments.length request).map fun params =>
          .ok { e.resolve request with params }

theorem zip_take_length {α β : Type} (xs : List α) (ys : List β) :
    xs.zip (ys.take xs.length) = xs.zip ys := by
  induction xs generalizing ys with
  | nil => rfl
  | cons x xs inductionHypothesis =>
      cases ys with
      | nil => rfl
      | cons y ys => simp [inductionHypothesis]

theorem Entry.agrees_take (e : Entry) (request : List String) :
    e.agrees (request.take e.segments.length) = e.agrees request := by
  rw [Entry.agrees, Entry.agrees, zip_take_length]

theorem look?_eq (request : List String) (best : Option Entry) (e : Entry) :
    look? request best e =
      some (if e.accepts request then longer best e else best) := by
  have shape : e.accepts request =
      (!(decide (e.pattern = root) || e.segments.isEmpty ||
        decide (request.length < e.segments.length)) && e.agrees request) := by
    rw [Bool.eq_iff_iff]
    simp [Entry.accepts, Entry.agrees]
  unfold look?
  by_cases passedOver : (decide (e.pattern = root) || e.segments.isEmpty ||
      decide (request.length < e.segments.length)) = true
  · rw [if_pos passedOver, shape, passedOver]
    rfl
  · have inside : e.segments.length ≤ request.length := by
      simp only [Bool.or_eq_true, decide_eq_true_eq, not_or] at passedOver
      omega
    rw [if_neg passedOver, shape, Bool.eq_false_iff.2 passedOver, front?,
      if_pos inside, Option.map_some, Entry.agrees_take]
    rfl

theorem foldlM_look? (request : List String) (entries : List Entry) :
    ∀ best, entries.foldlM (look? request) best =
      some ((entries.filter fun e => e.accepts request).foldl longer best) := by
  induction entries with
  | nil => exact fun _ => rfl
  | cons e entries inductionHypothesis =>
      intro best
      rw [List.foldlM_cons, look?_eq, Option.bind_eq_bind, Option.bind_some,
        inductionHypothesis]
      by_cases accepted : e.accepts request = true
      · rw [if_pos accepted, List.filter_cons_of_pos (by simpa using accepted),
          List.foldl_cons]
      · rw [if_neg accepted, List.filter_cons_of_neg (by simpa using accepted)]

theorem resolveByCuts?_eq (table : List Entry) (path : String) :
    resolveByCuts? table path = some (resolve table path) := by
  unfold resolveByCuts? resolve
  dsimp only
  by_cases empty : (segments path).isEmpty = true
  · rw [if_pos empty, if_pos empty]
  · rw [if_neg empty, if_neg empty, foldlM_look?, Option.bind_some]
    have best := Best.whole (segments path) table
    cases found : (table.filter fun e => e.accepts (segments path)).foldl longer none with
    | none => rfl
    | some e =>
        rw [found] at best
        obtain ⟨_, _, _, chosen⟩ := best
        dsimp only
        rw [behind?, if_pos chosen.accepted.fitsInside]
        rfl

/-! ## The answer -/

/-- The answer to a request that leads to an entry: the segments behind those of
the entry, and for each slug whose position the request has, the segment
there. -/
structure Answers (e : Entry) (request : List String) (m : Match) : Prop where
  route : m.route = e.pattern
  params : ∃ matched, matched.length = e.segments.length ∧
    request = matched ++ m.params
  slugs : List.Forall₂
    (fun slug value => value.1 = slug.1 ∧ request[slug.2]? = some value.2)
    (e.slugs.filter fun slug => slug.2 < request.length) m.slugs

theorem Entry.resolve_answers {e : Entry} {request : List String}
    (inside : e.segments.length ≤ request.length) :
    Answers e request (e.resolve request) where
  route := rfl
  params := by
    refine ⟨request.take e.segments.length, ?_, ?_⟩
    · rw [List.length_take]
      omega
    · exact (List.take_append_drop _ _).symm
  slugs := by
    rw [Entry.resolve]
    dsimp only
    induction e.slugs with
    | nil => exact .nil
    | cons slug slugs inductionHypothesis =>
        obtain ⟨name, position⟩ := slug
        by_cases known : position < request.length
        · have value : request[position]? = some request[position] :=
            List.getElem?_eq_getElem known
          rw [List.filter_cons_of_pos (by simpa using known), List.filterMap_cons,
            value]
          exact .cons ⟨rfl, value⟩ inductionHypothesis
        · have noValue : request[position]? = none :=
            List.getElem?_eq_none (Nat.le_of_not_lt known)
          rw [List.filter_cons_of_neg (by simpa using known), List.filterMap_cons,
            noValue]
          exact inductionHypothesis

theorem resolve_of_filled (table : List Entry) {path : String}
    (filled : segments path ≠ []) :
    resolve table path =
      match (table.filter fun e => e.accepts (segments path)).foldl longer none with
      | some e => .ok (e.resolve (segments path))
      | none => .error (.notFound path) := by
  rw [resolve]
  exact if_neg (by simpa using filled)

/-- A path without segments leads to the root route.  Any other is not found
exactly if no entry is acceptable; else it leads to the longest acceptable entry,
of equally long ones to the first in the table.  And no search cuts a request
beyond its end. -/
theorem resolve_longest_first (table : List Entry) (path : String) :
    ∃ request, Requests path request ∧
      (request = [] → resolve table path = .ok ⟨"/", [], []⟩) ∧
      (request ≠ [] →
        (resolve table path = .error (.notFound path) ↔
          ∀ e ∈ table, ¬ e.Acceptable request) ∧
        ((∃ e ∈ table, e.Acceptable request) →
          ∃ before e after m, table = before ++ e :: after ∧
            Chosen (·.Acceptable request) before e after ∧
            resolve table path = .ok m ∧ Answers e request m)) ∧
      resolveByCuts? table path = some (resolve table path) := by
  refine ⟨segments path, requests_segments path, ?_, ?_, resolveByCuts?_eq table path⟩
  · intro empty
    rw [resolve, empty]
    rfl
  · intro filled
    have best := Best.whole (segments path) table
    have answer := resolve_of_filled table filled
    cases found : (table.filter fun e => e.accepts (segments path)).foldl longer none with
    | none =>
        rw [found] at best answer
        refine ⟨⟨fun _ => best, fun _ => answer⟩, ?_⟩
        rintro ⟨e, member, acceptable⟩
        exact absurd acceptable (best e member)
    | some e =>
        rw [found] at best answer
        obtain ⟨before, after, shape, chosen⟩ := best
        refine ⟨⟨fun notFound => ?_, fun noneFits => ?_⟩, fun _ => ?_⟩
        · rw [answer] at notFound
          cases notFound
        · have member : e ∈ table := by
            simp [shape]
          exact absurd chosen.accepted (noneFits e member)
        · exact ⟨before, e, after, e.resolve (segments path), shape, chosen, answer,
            Entry.resolve_answers chosen.accepted.fitsInside⟩

end LivePages.Route
