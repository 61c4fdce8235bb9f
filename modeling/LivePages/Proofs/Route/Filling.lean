import Mathlib
import LivePages.Proofs.Route.Resolution
import LivePages.Proofs.Table

/-!
# Patterns filled with what they matched

A match holds the segments behind the pattern and a value for each slug.  Put into
the pattern, the values give back what was asked for.  A pattern counts the places of
its slugs with its empty parts, which a request does not have, so no empty part may
stand in front of a slug.  And the slugs are named by their texts: one that is
repeated has only the value of its last place.
-/

namespace LivePages.Route

/-- The parts of a pattern between its slashes, the empty ones included. -/
def parts (pattern : String) : List String :=
  (Text.splitWhere (· = '/') pattern.toList).map String.ofList

/-- No empty part stands in front of a slug. -/
def IsAligned (pattern : String) : Prop :=
  (parts pattern).Pairwise fun part later => isSlug later = true → part ≠ ""

/-- No slug is repeated. -/
def NamesApart (pattern : String) : Prop :=
  (segments pattern).Pairwise fun segment later => isSlug later = true → segment ≠ later

instance (pattern : String) : Decidable (IsAligned pattern) :=
  inferInstanceAs (Decidable (List.Pairwise _ _))

instance (pattern : String) : Decidable (NamesApart pattern) :=
  inferInstanceAs (Decidable (List.Pairwise _ _))

/-- What a match has for a segment of its pattern: the value of a slug, and any other
segment as it is. -/
def Match.fill? (m : Match) (segment : String) : Option String :=
  if isSlug segment then m.slugs.get? segment else some segment

/-- The segments of a pattern, filled, and behind them the params of the match. -/
def Match.refill (m : Match) (pattern : String) : List (Option String) :=
  (segments pattern).map m.fill? ++ m.params.map some

theorem segments_eq_filter (pattern : String) :
    segments pattern = (parts pattern).filter (· ≠ "") := by
  rw [segments, parts, List.filter_map]
  congr 1
  apply List.filter_congr
  intro part _
  simp

theorem isSlug_ne_empty {segment : String} (slug : isSlug segment = true) : segment ≠ "" := by
  rintro rfl
  cases slug

/-! ## Places of slugs -/

theorem placeSlugs_slug {pattern : String} {t slugs : Slugs} {position : Nat}
    {afterSlug : Bool} {segment : String} {rest : List String} (slug : isSlug segment = true)
    (placed : placeSlugs pattern t position afterSlug (segment :: rest) = .ok slugs) :
    placeSlugs pattern (t.insert segment position) (position + 1) true rest = .ok slugs := by
  rw [placeSlugs, if_neg (by simp [slug])] at placed
  split at placed
  · cases placed
  · split at placed
    · cases placed
    · exact placed

theorem placeSlugs_other {pattern : String} {t slugs : Slugs} {position : Nat}
    {afterSlug : Bool} {segment : String} {rest : List String} (noSlug : isSlug segment = false)
    (placed : placeSlugs pattern t position afterSlug (segment :: rest) = .ok slugs) :
    placeSlugs pattern t (position + 1) false rest = .ok slugs := by
  rwa [placeSlugs, if_pos (by simp [noSlug])] at placed

theorem mem_placeSlugs {pattern : String} {t slugs : Slugs} {position : Nat} {afterSlug : Bool}
    {remaining : List String}
    (placed : placeSlugs pattern t position afterSlug remaining = .ok slugs)
    {name : String} {place : Nat} (member : (name, place) ∈ slugs) :
    (name, place) ∈ t ∨ ∃ before behind, remaining = before ++ name :: behind ∧
      isSlug name = true ∧ place = position + before.length := by
  induction remaining generalizing t position afterSlug with
  | nil =>
      cases placed
      exact .inl member
  | cons segment rest inductionHypothesis =>
      cases slug : isSlug segment with
      | false =>
          rcases inductionHypothesis (placeSlugs_other slug placed) with
            old | ⟨before, behind, rfl, named, rfl⟩
          · exact .inl old
          · exact .inr ⟨segment :: before, behind, rfl, named, by
              rw [List.length_cons]
              omega⟩
      | true =>
          rcases inductionHypothesis (placeSlugs_slug slug placed) with
            old | ⟨before, behind, rfl, named, rfl⟩
          · rcases Table.mem_of_mem_insert old with here | old
            · cases here
              exact .inr ⟨[], rest, rfl, slug, rfl⟩
            · exact .inl old
          · exact .inr ⟨segment :: before, behind, rfl, named, by
              rw [List.length_cons]
              omega⟩

theorem get?_placeSlugs_of_notMem {pattern : String} {t slugs : Slugs} {position : Nat}
    {afterSlug : Bool} {remaining : List String}
    (placed : placeSlugs pattern t position afterSlug remaining = .ok slugs)
    {name : String} (absent : name ∉ remaining) : slugs.get? name = t.get? name := by
  induction remaining generalizing t position afterSlug with
  | nil =>
      cases placed
      rfl
  | cons segment rest inductionHypothesis =>
      rw [List.mem_cons, not_or] at absent
      cases slug : isSlug segment with
      | false => exact inductionHypothesis (placeSlugs_other slug placed) absent.2
      | true =>
          rw [inductionHypothesis (placeSlugs_slug slug placed) absent.2, Table.get?_insert,
            if_neg (Ne.symm absent.1)]

/-- A slug has the last place at which it stands. -/
theorem get?_placeSlugs_last {pattern : String} {t slugs : Slugs} {position : Nat}
    {afterSlug : Bool} {before behind : List String} {name : String}
    (placed : placeSlugs pattern t position afterSlug (before ++ name :: behind) = .ok slugs)
    (slug : isSlug name = true) (last : name ∉ behind) :
    slugs.get? name = some (position + before.length) := by
  induction before generalizing t position afterSlug with
  | nil =>
      rw [get?_placeSlugs_of_notMem (placeSlugs_slug slug placed) last, Table.get?_insert,
        if_pos rfl]
      rfl
  | cons segment before inductionHypothesis =>
      have oneMore : position + (segment :: before).length = position + 1 + before.length := by
        rw [List.length_cons]
        omega
      rw [oneMore]
      cases other : isSlug segment with
      | false => exact inductionHypothesis (placeSlugs_other other placed)
      | true => exact inductionHypothesis (placeSlugs_slug other placed)

/-! ## Places in a request -/

theorem filter_eq_self_of_notMem {before : List String} (absent : "" ∉ before) :
    before.filter (· ≠ "") = before := by
  rw [List.filter_eq_self]
  intro part member
  have filled : part ≠ "" := by
    rintro rfl
    exact absent member
  simpa using filled

theorem IsAligned.notMem {pattern : String} (aligned : IsAligned pattern)
    {before behind : List String} {slug : String}
    (shape : parts pattern = before ++ slug :: behind) (named : isSlug slug = true) :
    "" ∉ before := by
  rw [IsAligned, shape, List.pairwise_append] at aligned
  intro member
  exact aligned.2.2 "" member slug List.mem_cons_self named rfl

/-- A slug stands at the same place among the parts of a pattern and among its segments. -/
theorem IsAligned.exists_parts {pattern : String} (aligned : IsAligned pattern)
    {front back : List String} {slug : String}
    (shape : segments pattern = front ++ slug :: back) (named : isSlug slug = true) :
    ∃ behind, parts pattern = front ++ slug :: behind ∧ behind.filter (· ≠ "") = back := by
  rw [segments_eq_filter, List.filter_eq_append_iff] at shape
  obtain ⟨before, later, tiles, rfl, shape⟩ := shape
  rw [List.filter_eq_cons_iff] at shape
  obtain ⟨between, behind, rfl, noneFilled, -, rfl⟩ := shape
  rw [← List.append_assoc] at tiles
  have absent := aligned.notMem tiles named
  -- What stands between are empty parts, and none is in front of a slug.
  have nothing : between = [] := by
    refine List.eq_nil_iff_forall_not_mem.2 fun part member => ?_
    have empty : part = "" := by
      simpa using noneFilled part member
    exact absent (empty ▸ List.mem_append_right before member)
  subst nothing
  rw [List.append_nil] at tiles absent
  rw [filter_eq_self_of_notMem absent]
  exact ⟨behind, tiles, rfl⟩

theorem IsAligned.get?_derive {pattern : String} (aligned : IsAligned pattern) {slugs : Slugs}
    (derived : Slugs.derive pattern = .ok slugs) {front back : List String} {slug : String}
    (shape : segments pattern = front ++ slug :: back) (named : isSlug slug = true)
    (last : slug ∉ back) : slugs.get? slug = some front.length := by
  obtain ⟨behind, tiles, rfl⟩ := aligned.exists_parts shape named
  have absent : slug ∉ behind := by
    intro member
    exact last (List.mem_filter.2 ⟨member, by simpa using isSlug_ne_empty named⟩)
  rw [Slugs.derive, ← parts, tiles] at derived
  rw [get?_placeSlugs_last derived named absent, Nat.zero_add]

theorem IsAligned.notMem_derive {pattern : String} (aligned : IsAligned pattern) {slugs : Slugs}
    (derived : Slugs.derive pattern = .ok slugs) {front back : List String} {segment : String}
    (shape : segments pattern = front ++ segment :: back) (noSlug : isSlug segment = false)
    (name : String) : (name, front.length) ∉ slugs := by
  intro member
  rw [Slugs.derive, ← parts] at derived
  rcases mem_placeSlugs derived member with old | ⟨before, behind, tiles, named, place⟩
  · cases old
  · rw [segments_eq_filter, tiles, List.filter_append, List.filter_cons_of_pos
      (by simpa using isSlug_ne_empty named),
      filter_eq_self_of_notMem (aligned.notMem tiles named)] at shape
    obtain ⟨-, same⟩ := List.append_inj shape (by omega)
    cases same
    rw [named] at noSlug
    cases noSlug

/-! ## Filling -/

theorem get?_filterMap {slugs : Slugs} {request : List String} {name : String} {place : Nat}
    (placed : slugs.get? name = some place) (inside : place < request.length) :
    Table.get? (slugs.filterMap fun (name, place) => (request[place]?).map (name, ·)) name =
      request[place]? := by
  induction slugs with
  | nil => cases placed
  | cons first slugs inductionHypothesis =>
      obtain ⟨other, otherPlace⟩ := first
      rw [Table.get?_cons] at placed
      by_cases same : other = name
      · rw [if_pos same, Option.some.injEq] at placed
        subst same placed
        rw [List.getElem?_eq_getElem inside, List.filterMap_cons_some
          (b := (other, request[otherPlace])) (by simp [inside]), Table.get?_cons, if_pos rfl]
      · rw [if_neg same] at placed
        rw [← inductionHypothesis placed]
        cases value : request[otherPlace]? with
        | none => rw [List.filterMap_cons_none (by simp [value])]
        | some v =>
            rw [List.filterMap_cons_some (b := (other, v)) (by simp [value]),
              Table.get?_cons, if_neg same]

/-- A segment is filled with what stands in its place, unless it is a slug that is
repeated later. -/
theorem fill?_resolve {pattern : String} (aligned : IsAligned pattern) {slugs : Slugs}
    (derived : Slugs.derive pattern = .ok slugs) {request : List String}
    (acceptable : (Entry.of pattern slugs).Acceptable request) {front back : List String}
    {segment : String} (shape : segments pattern = front ++ segment :: back)
    (last : isSlug segment = true → segment ∉ back) :
    ((Entry.of pattern slugs).resolve request).fill? segment = request[front.length]? := by
  have inside : front.length < request.length := by
    have fits := acceptable.fitsInside
    rw [Entry.of, shape, List.length_append, List.length_cons] at fits
    omega
  cases slug : isSlug segment with
  | true =>
      have placed := aligned.get?_derive derived shape slug (last slug)
      rw [Match.fill?, if_pos slug]
      exact get?_filterMap placed inside
  | false =>
      have here : (Entry.of pattern slugs).segments[front.length]? = some segment := by
        rw [Entry.of, shape, List.getElem?_append_right (Nat.le_refl _), Nat.sub_self]
        rfl
      rw [Match.fill?, if_neg (by simp [slug])]
      rcases acceptable.fits front.length segment here with ⟨name, placed⟩ | marked | same
      · exact absurd placed (aligned.notMem_derive derived shape slug name)
      · rw [(isSlug_iff segment).2 marked] at slug
        cases slug
      · exact same.symm

theorem resolve_single {e : Entry} {path : String} {m : Match}
    (resolved : resolve [e] path = .ok m) (filled : segments path ≠ []) :
    e.Acceptable (segments path) ∧ m = e.resolve (segments path) := by
  rw [resolve_of_filled [e] filled] at resolved
  by_cases accepted : e.accepts (segments path) = true
  · rw [List.filter_cons_of_pos (by simpa using accepted)] at resolved
    cases resolved
    exact ⟨(e.accepts_iff _).1 accepted, rfl⟩
  · rw [List.filter_cons_of_neg (by simpa using accepted)] at resolved
    cases resolved

theorem NamesApart.notMem {pattern : String} (apart : NamesApart pattern)
    {front back : List String} {segment : String}
    (shape : segments pattern = front ++ segment :: back) (slug : isSlug segment = true) :
    segment ∉ back := by
  rw [NamesApart, shape, List.pairwise_append, List.pairwise_cons] at apart
  intro member
  exact apart.2.1.1 segment member slug rfl

theorem map_fill? {m : Match} {pattern : String} {matched : List String}
    (sameLength : matched.length = (segments pattern).length)
    (fills : ∀ front segment back, segments pattern = front ++ segment :: back →
      m.fill? segment = matched[front.length]?) :
    (segments pattern).map m.fill? = matched.map some := by
  apply List.ext_getElem (by simp [sameLength])
  intro place inPattern inMatched
  rw [List.length_map] at inPattern inMatched
  have shape : segments pattern = (segments pattern).take place ++
      (segments pattern)[place] :: (segments pattern).drop (place + 1) := by
    rw [← List.drop_eq_getElem_cons inPattern, List.take_append_drop]
  have filled := fills _ _ _ shape
  rw [List.length_take, Nat.min_eq_left inPattern.le, List.getElem?_eq_getElem inMatched]
    at filled
  rwa [List.getElem_map, List.getElem_map]

/-- What a match on a pattern gives back of the path.  At each place of the pattern but
those of slugs that are repeated later, the segment is filled with what the path has
there; and if no slug is repeated, the whole path comes back. -/
theorem resolve_refill (pattern : String) (slugs : Slugs) (path : String) (m : Match)
    (derived : Slugs.derive pattern = .ok slugs) (aligned : IsAligned pattern)
    (resolved : resolve [Entry.of pattern slugs] path = .ok m) (onPattern : m.route = pattern) :
    ∃ matched, segments path = matched ++ m.params ∧
      matched.length = (segments pattern).length ∧
      (∀ front segment back, segments pattern = front ++ segment :: back →
        (isSlug segment = true → segment ∉ back) →
        m.fill? segment = matched[front.length]?) ∧
      (NamesApart pattern → m.refill pattern = (segments path).map some) := by
  by_cases filled : segments path = []
  · have atRoot : m = Match.root := by
      rw [resolve, filled] at resolved
      exact (Except.ok.inj resolved).symm
    subst atRoot
    have empty : segments pattern = [] := by
      rw [← onPattern]
      rfl
    refine ⟨[], filled, by rw [empty], fun front segment back shape => ?_, fun _ => ?_⟩
    · simp [empty] at shape
    · rw [Match.refill, empty, filled]
      rfl
  · obtain ⟨acceptable, rfl⟩ := resolve_single resolved filled
    have length : ((segments path).take (segments pattern).length).length =
        (segments pattern).length :=
      List.length_take_of_le acceptable.fitsInside
    have fills : ∀ front segment back, segments pattern = front ++ segment :: back →
        (isSlug segment = true → segment ∉ back) →
        ((Entry.of pattern slugs).resolve (segments path)).fill? segment =
          ((segments path).take (segments pattern).length)[front.length]? := by
      intro front segment back shape last
      rw [fill?_resolve aligned derived acceptable shape last, List.getElem?_take_of_lt]
      rw [shape, List.length_append, List.length_cons]
      omega
    refine ⟨_, (List.take_append_drop _ _).symm, length, fills, fun apart => ?_⟩
    have front := map_fill? length fun front segment back shape =>
      fills front segment back shape (apart.notMem shape)
    rw [Match.refill, front, ← List.map_append]
    exact congrArg (List.map some) (List.take_append_drop _ _)

/-- A blog with empty parts behind its last slug. -/
theorem resolve_refill_blog :
    let pattern := "blog/<year>/posts/[slug]//"
    let slugs : Slugs := [("<year>", 1), ("[slug]", 3)]
    let path := "//blog/2024/posts//hello/edit/"
    let m : Match := ⟨pattern, ["edit"], [("<year>", "2024"), ("[slug]", "hello")]⟩
    (Slugs.derive pattern = .ok slugs ∧ IsAligned pattern ∧
      resolve [Entry.of pattern slugs] path = .ok m ∧ m.route = pattern) ∧
      ∃ matched, segments path = matched ++ m.params ∧
        matched.length = (segments pattern).length ∧
        (∀ front segment back, segments pattern = front ++ segment :: back →
          (isSlug segment = true → segment ∉ back) →
          m.fill? segment = matched[front.length]?) ∧
        (NamesApart pattern → m.refill pattern = (segments path).map some) := by
  intro pattern slugs path m
  have derived : Slugs.derive pattern = .ok slugs := by decide +kernel
  have aligned : IsAligned pattern := by decide +kernel
  have resolved : resolve [Entry.of pattern slugs] path = .ok m := by decide +kernel
  exact ⟨⟨derived, aligned, resolved, rfl⟩,
    resolve_refill pattern slugs path m derived aligned resolved rfl⟩

/-- A slug that is repeated fills both of its places with the later value, and one behind an
empty part has no value. -/
theorem refill_differs :
    let repeated := "a/<x>/b/<x>"
    let later : Match := ⟨repeated, [], [("<x>", "2")]⟩
    let behindSlash := "/<id>"
    let none : Match := ⟨behindSlash, [], []⟩
    (Slugs.derive repeated = .ok [("<x>", 3)] ∧
      resolve [Entry.of repeated [("<x>", 3)]] "/a/1/b/2" = .ok later ∧
      later.refill repeated = ["a", "2", "b", "2"].map some ∧
      segments "/a/1/b/2" = ["a", "1", "b", "2"]) ∧
    (Slugs.derive behindSlash = .ok [("<id>", 1)] ∧
      resolve [Entry.of behindSlash [("<id>", 1)]] "/7" = .ok none ∧
      none.refill behindSlash = [.none] ∧ segments "/7" = ["7"]) := by
  decide +kernel

end LivePages.Route
