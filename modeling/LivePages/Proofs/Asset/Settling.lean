import LivePages.Proofs.Asset.Loading
import LivePages.Proofs.Program.Keeping
import LivePages.Proofs.Route.Resolution

/-!
# Assets that settle on their own

Only the manifests can make it fail to load a site.  After that each asset that they name
has an outcome of its own, which is in the report and in the table where the asset is
looked up.  So an answer that changes has to do with nothing but what was asked for at
its path, and no path leads to a route that has never been asked for.
-/

namespace LivePages

variable {answers other : AssetAnswers} {settings : AssetSettings} {m : Manifests}

/-! ## Manifests -/

/-- Whether a manifest can be fetched and decoded, and then says this. -/
def AssetAnswers.Says {α : Type} (answers : AssetAnswers) (path : String)
    (read : String → Except Route.RouteError α) (said : α) : Prop :=
  ∃ text, answers.text path = .ok text ∧ read text = .ok said

def AssetSettings.manifestPaths (s : AssetSettings) : List String :=
  [s.routesManifestPath, s.layoutsManifestPath, s.slugsManifestPath]

namespace Manifests

/-- Whether all three manifests can be fetched and decoded, and then say this. -/
structure Given (answers : AssetAnswers) (settings : AssetSettings) (m : Manifests) : Prop where
  routes : answers.Says settings.routesManifestPath Route.readNames m.routes
  layouts : answers.Says settings.layoutsManifestPath Route.readNames m.layouts
  slugs : answers.Says settings.slugsManifestPath Route.readSlugs m.slugs

theorem readOne_eq_ok_iff {α : Type} {path : String} {read : String → Except Route.RouteError α}
    {said : α} :
    readOne read (answers.text path) = .ok said ↔ answers.Says path read said := by
  rw [AssetAnswers.Says]
  cases answers.text path with
  | error e => simp [readOne, Except.mapError, bind, Except.bind]
  | ok text =>
      cases decoded : read text <;>
        simp [readOne, decoded, Except.mapError, bind, Except.bind]

theorem read_eq_ok_iff : read answers settings = .ok m ↔ m.Given answers settings := by
  constructor
  · intro given
    obtain ⟨routes, readRoutes, given⟩ := exists_of_bind_ok given
    obtain ⟨layouts, readLayouts, given⟩ := exists_of_bind_ok given
    obtain ⟨slugs, readSlugs, given⟩ := exists_of_bind_ok given
    cases given
    exact ⟨readOne_eq_ok_iff.1 readRoutes, readOne_eq_ok_iff.1 readLayouts,
      readOne_eq_ok_iff.1 readSlugs⟩
  · rintro ⟨routes, layouts, slugs⟩
    rw [read, readOne_eq_ok_iff.2 routes, readOne_eq_ok_iff.2 layouts, readOne_eq_ok_iff.2 slugs]
    rfl

/-- The manifests do not say anything exactly if one of them cannot be fetched or
decoded. -/
theorem not_given_iff :
    (¬ ∃ m, Given answers settings m) ↔
      (¬ ∃ routes, answers.Says settings.routesManifestPath Route.readNames routes) ∨
      (¬ ∃ layouts, answers.Says settings.layoutsManifestPath Route.readNames layouts) ∨
      ¬ ∃ slugs, answers.Says settings.slugsManifestPath Route.readSlugs slugs := by
  rw [← not_and_or, ← not_and_or, not_iff_not]
  constructor
  · rintro ⟨m, given⟩
    exact ⟨⟨_, given.routes⟩, ⟨_, given.layouts⟩, ⟨_, given.slugs⟩⟩
  · rintro ⟨⟨routes, readRoutes⟩, ⟨layouts, readLayouts⟩, slugs, readSlugs⟩
    exact ⟨⟨routes, layouts, slugs⟩, readRoutes, readLayouts, readSlugs⟩

/-- All that is asked for, in this order: the body and the module of the root route, those
of the other routes that are listed, and those of the layouts that are listed. -/
def asked (settings : AssetSettings) (m : Manifests) : List Asked :=
  Asked.each settings.routeBody settings.routeScript m.routeNames ++
    Asked.each settings.layoutBody settings.layoutScript m.layouts

end Manifests

/-! ## Outcomes -/

namespace AssetRegistry

/-- What becomes of a site whose manifests say this: all that is asked for is in the
report, and an asset is looked up by the name for which it was asked for. -/
structure Settles (answers : AssetAnswers) (settings : AssetSettings) (m : Manifests)
    (registry : AssetRegistry) (report : LoadReport) : Prop where
  report : report = .of ((m.asked settings).map (Asked.outcome answers))
  routes : registry.routes = Route.tableOf m.routes m.slugs
  routeBody : ∀ route, registry.routeBodies.get? route =
    if route ∈ m.routeNames then some (answers.text (settings.routeBody route)) else none
  routeModule : ∀ route, registry.routeModules.get? route =
    if route ∈ m.routeNames then (answers.module (settings.routeScript route)).toOption else none
  layoutBody : ∀ layout, registry.layoutBodies.get? layout =
    if layout ∈ m.layouts then some (answers.text (settings.layoutBody layout)) else none
  layoutModule : ∀ layout, registry.layoutModules.get? layout =
    if layout ∈ m.layouts then (answers.module (settings.layoutScript layout)).toOption else none

theorem loadNamed_settles (answers : AssetAnswers) (settings : AssetSettings) (m : Manifests) :
    Settles answers settings m (loadNamed answers settings m).1
      (loadNamed answers settings m).2 where
  report := by
    rw [loadNamed]
    dsimp only
    rw [loadAll_report, loadAll_report, LoadReport.append_assoc, ← LoadReport.of_append,
      ← List.map_append]
    rfl
  routes := rfl
  routeBody := loadAll_bodies answers settings.routeBody settings.routeScript m.routeNames _ _ _
  routeModule route := by
    rw [loadNamed]
    dsimp only
    rw [loadAll_modules]
    simp [Table.get?]
  layoutBody := loadAll_bodies answers settings.layoutBody settings.layoutScript m.layouts _ _ _
  layoutModule layout := by
    rw [loadNamed]
    dsimp only
    rw [loadAll_modules]
    simp [Table.get?]

theorem loadFrom_eq_ok_iff {site : AssetRegistry × LoadReport} :
    loadFrom answers settings = .ok site ↔
      ∃ m : Manifests, m.Given answers settings ∧ site = loadNamed answers settings m := by
  simp only [← Manifests.read_eq_ok_iff]
  rw [loadFrom]
  cases Manifests.read answers settings with
  | error cause => simp [Except.map]
  | ok m => simp [Except.map, eq_comm]

theorem loadFrom_eq_error_iff {cause : LoadError} :
    loadFrom answers settings = .error cause ↔ Manifests.read answers settings = .error cause := by
  rw [loadFrom]
  cases Manifests.read answers settings <;> simp [Except.map]

theorem exists_error_iff :
    (∃ cause, loadFrom answers settings = .error cause) ↔
      ¬ ∃ m : Manifests, m.Given answers settings := by
  simp only [loadFrom_eq_error_iff, ← Manifests.read_eq_ok_iff]
  cases Manifests.read answers settings <;> simp

/-! ## Routes that are led to -/

/-- Where a path leads has been listed, or is the root route. -/
theorem mem_routeNames_of_resolve {path : String} {found : Route.Match}
    (leads : Route.resolve (Route.tableOf m.routes m.slugs) path = .ok found) :
    found.route ∈ m.routeNames := by
  by_cases filled : Route.segments path = []
  · rw [Route.resolve, filled] at leads
    cases leads
    exact List.mem_cons_self
  · have best := Route.Best.whole (Route.segments path) (Route.tableOf m.routes m.slugs)
    rw [Route.resolve_of_filled _ filled] at leads
    split at leads
    next e chosen =>
      rw [chosen] at best
      cases leads
      obtain ⟨before, after, shape, chosen⟩ := best
      have listed : e ∈ Route.tableOf m.routes m.slugs := by
        rw [shape]
        exact List.mem_append_right _ List.mem_cons_self
      obtain ⟨route, member, rfl⟩ := List.mem_map.1 listed
      have notRoot : route ≠ Route.root := chosen.accepted.notRoot
      exact List.mem_cons_of_mem _ (List.mem_filter.2 ⟨member, decide_eq_true notRoot⟩)
    next => cases leads

/-! ## An answer that changes -/

end AssetRegistry

/-- Whether two sources answer the same at all other paths. -/
def AssetAnswers.SameOff (answers other : AssetAnswers) (path : String) : Prop :=
  ∀ elsewhere, elsewhere ≠ path →
    other.text elsewhere = answers.text elsewhere ∧
      other.module elsewhere = answers.module elsewhere

/-- Whether two outcomes are those of one asset, and the same if it is at another path. -/
def AssetOutcome.SameOff (path : String) (o other : AssetOutcome) : Prop :=
  other.asked = o.asked ∧ (o.asked.path ≠ path → other.failure? = o.failure?)

namespace AssetRegistry

/-- Whether two sites whose manifests say the same differ at most in what was asked for at
a path. -/
structure SameOff (settings : AssetSettings) (m : Manifests) (path : String)
    (site otherSite : AssetRegistry × LoadReport) : Prop where
  report : ∃ outcomes otherOutcomes, outcomes.map AssetOutcome.asked = m.asked settings ∧
    site.2 = .of outcomes ∧ otherSite.2 = .of otherOutcomes ∧
    List.Forall₂ (AssetOutcome.SameOff path) outcomes otherOutcomes
  routes : otherSite.1.routes = site.1.routes
  routeBody : ∀ route, settings.routeBody route ≠ path →
    otherSite.1.routeBodies.get? route = site.1.routeBodies.get? route
  routeModule : ∀ route, settings.routeScript route ≠ path →
    otherSite.1.routeModules.get? route = site.1.routeModules.get? route
  layoutBody : ∀ layout, settings.layoutBody layout ≠ path →
    otherSite.1.layoutBodies.get? layout = site.1.layoutBodies.get? layout
  layoutModule : ∀ layout, settings.layoutScript layout ≠ path →
    otherSite.1.layoutModules.get? layout = site.1.layoutModules.get? layout

end AssetRegistry

section Change

variable {path : String} (same : answers.SameOff other path)

include same

theorem AssetAnswers.SameOff.failure? {a : Asked} (off : a.path ≠ path) :
    a.failure? other = a.failure? answers := by
  cases a with
  | body elsewhere => rw [Asked.failure?, Asked.failure?, (same elsewhere off).1]
  | module elsewhere => rw [Asked.failure?, Asked.failure?, (same elsewhere off).2]

theorem AssetAnswers.SameOff.read (off : path ∉ settings.manifestPaths) :
    Manifests.read other settings = Manifests.read answers settings := by
  simp only [AssetSettings.manifestPaths, List.mem_cons, List.not_mem_nil, or_false, not_or] at off
  obtain ⟨routes, layouts, slugs⟩ := off
  rw [Manifests.read, Manifests.read, (same _ (Ne.symm routes)).1, (same _ (Ne.symm layouts)).1,
    (same _ (Ne.symm slugs)).1]

theorem AssetRegistry.Settles.sameOff {registry otherRegistry : AssetRegistry}
    {report otherReport : LoadReport} (settles : Settles answers settings m registry report)
    (otherSettles : Settles other settings m otherRegistry otherReport) :
    SameOff settings m path (registry, report) (otherRegistry, otherReport) where
  report := by
    refine ⟨_, _, ?_, settles.report, otherSettles.report, ?_⟩
    · rw [List.map_map]
      exact List.map_id _
    · rw [List.forall₂_map_left_iff, List.forall₂_map_right_iff, List.forall₂_same]
      exact fun a _ => ⟨rfl, fun off => same.failure? off⟩
  routes := by rw [settles.routes, otherSettles.routes]
  routeBody route off := by rw [settles.routeBody, otherSettles.routeBody, (same _ off).1]
  routeModule route off := by rw [settles.routeModule, otherSettles.routeModule, (same _ off).2]
  layoutBody layout off := by rw [settles.layoutBody, otherSettles.layoutBody, (same _ off).1]
  layoutModule layout off := by rw [settles.layoutModule, otherSettles.layoutModule, (same _ off).2]

end Change

namespace AssetRegistry

/-- It fails to load a site exactly if one of its manifests cannot be fetched or decoded.
Else each asset that they name settles on its own.  It is in the report once, and a look
at the site finds its text or its own error, or its module if that is there.  Where
a path leads there is an entry, so the answer for a route that is not known is never
given.  And a change at one path, as long as the manifests say the same, is a change of
what was asked for there. -/
theorem load_settles (answers : AssetAnswers) (settings : AssetSettings) :
    ((∃ cause, loadFrom answers settings = .error cause) ↔
      (¬ ∃ routes, answers.Says settings.routesManifestPath Route.readNames routes) ∨
      (¬ ∃ layouts, answers.Says settings.layoutsManifestPath Route.readNames layouts) ∨
      ¬ ∃ slugs, answers.Says settings.slugsManifestPath Route.readSlugs slugs) ∧
    (∀ registry report, loadFrom answers settings = .ok (registry, report) →
      ∃ m : Manifests, m.Given answers settings ∧
        Settles answers settings m registry report ∧
        report.loaded.length + report.failures.length = (m.asked settings).length ∧
        ∀ path found, Route.resolve registry.routes path = .ok found →
          found.route ∈ m.routeNames ∧
          registry.routeBody found.route = answers.text (settings.routeBody found.route)) ∧
    ∀ path other, answers.SameOff other path →
      (path ∉ settings.manifestPaths →
        Manifests.read other settings = Manifests.read answers settings) ∧
      (Manifests.read other settings = Manifests.read answers settings →
        (∀ cause, loadFrom answers settings = .error cause →
          loadFrom other settings = .error cause) ∧
        ∀ site, loadFrom answers settings = .ok site →
          ∃ m otherSite, m.Given answers settings ∧ loadFrom other settings = .ok otherSite ∧
            SameOff settings m path site otherSite) := by
  refine ⟨exists_error_iff.trans Manifests.not_given_iff, fun registry report loaded => ?_,
    fun path other same => ⟨same.read, fun reads => ⟨fun cause fails => ?_, fun site loaded => ?_⟩⟩⟩
  · obtain ⟨m, given, site⟩ := loadFrom_eq_ok_iff.1 loaded
    obtain ⟨rfl, rfl⟩ := Prod.ext_iff.1 site
    have settles := loadNamed_settles answers settings m
    refine ⟨m, given, settles, ?_, fun path found leads => ?_⟩
    · rw [settles.report, LoadReport.length_of, List.length_map]
    · rw [settles.routes] at leads
      have asked := mem_routeNames_of_resolve leads
      refine ⟨asked, ?_⟩
      rw [routeBody, settles.routeBody, if_pos asked, Option.getD_some]
  · rw [loadFrom_eq_error_iff] at fails ⊢
    rw [reads, fails]
  · obtain ⟨m, given, rfl⟩ := loadFrom_eq_ok_iff.1 loaded
    refine ⟨m, loadNamed other settings m, given, loadFrom_eq_ok_iff.2 ⟨m, ?_, rfl⟩, ?_⟩
    · rw [← Manifests.read_eq_ok_iff, reads, Manifests.read_eq_ok_iff]
      exact given
    · exact (loadNamed_settles answers settings m).sameOff same (loadNamed_settles other settings m)

/-- A route that is listed twice is asked for twice, and one that fails fails alone. -/
example :
    let source : AssetSource :=
      ⟨.memory [("routes.json", "[\"a\", \"a\"]"), ("layouts.json", "[]"),
        ("slugs.json", "\x7b\x7d"), ("routes/index.html", "home")]
        [("routes/a/index.html", 503)], []⟩
    (load source {}).toOption.map (fun site =>
      (site.2.loaded, site.2.failures.map AssetError.status, site.1.routeBodies.names,
        (site.1.routeBody "/").toOption)) =
      some (["routes/index.html"], [404, 503, 404, 503, 404], ["/", "a"], some "home") := by
  decide +kernel

end AssetRegistry

end LivePages
