import LivePages.Settings.Basic
import LivePages.Storage
import LivePages.Toml.Reader

/-! Settings from a TOML text. -/

namespace LivePages

/-- Why settings cannot be read. -/
inductive SettingsError where
  | unreadable
  | malformed
deriving DecidableEq, Inhabited

namespace Settings

/-- The settings of a group by name. A group may be a table, or an array of the settings in their
order; a time is a group without any. -/
private def group? (names : List String) : Toml → Option (Table Toml)
  | .table _ entries => some entries
  | .array items => some (names.zip items)
  | .tables elements => some (names.zip (elements.map (.table .header)))
  | .time _ => some []
  | _ => none

private def text? : Toml → Option String
  | .text s => some s
  | _ => none

private def character? : Toml → Option Char
  | .text s =>
    match s.toList with
    | [c] => some c
    | _ => none
  | _ => none

private def texts? : Toml → Option (List String)
  | .array items => items.mapM text?
  | _ => none

/-- A setting, which keeps its default if it is not given. -/
private def setting? {α : Type} (read : Toml → Option α) (group : Table Toml) (name : String)
    (default : α) : Option α :=
  (group.get? name).elim (some default) read

private def assets? (v : Toml) : Option AssetSettings := do
  let group ← group? ["routes_dir", "layouts_dir", "index_key", "slugs_manifest", "html_ext",
    "script_ext", "manifest_ext"] v
  let d : AssetSettings := {}
  return {
    routesDir := ← setting? text? group "routes_dir" d.routesDir
    layoutsDir := ← setting? text? group "layouts_dir" d.layoutsDir
    indexKey := ← setting? text? group "index_key" d.indexKey
    slugsManifest := ← setting? text? group "slugs_manifest" d.slugsManifest
    htmlExt := ← setting? text? group "html_ext" d.htmlExt
    scriptExt := ← setting? text? group "script_ext" d.scriptExt
    manifestExt := ← setting? text? group "manifest_ext" d.manifestExt }

private def bindings? (v : Toml) : Option BindingSettings := do
  let group ← group? ["session_sigil", "durable_sigil", "event_sigil", "input_events"] v
  let d : BindingSettings := {}
  return {
    sessionSigil := ← setting? character? group "session_sigil" d.sessionSigil
    durableSigil := ← setting? character? group "durable_sigil" d.durableSigil
    eventSigil := ← setting? character? group "event_sigil" d.eventSigil
    inputEvents := ← setting? texts? group "input_events" d.inputEvents }

private def fromTable? (root : Table Toml) : Option Settings := do
  let d : Settings := {}
  return {
    assets := ← setting? assets? root "assets" d.assets
    bindings := ← setting? bindings? root "bindings" d.bindings
    origin := ← setting? (fun v => (text? v).map some) root "origin" d.origin
    notFoundMarkup := ← setting? text? root "not_found_markup" d.notFoundMarkup
    durableStoragePath :=
      ← setting? (fun v => (text? v).map some) root "durable_storage_path" d.durableStoragePath }

/-- Reads settings from a TOML text. What is not given keeps its default; names that mean nothing
are passed over. -/
def read (s : String) : Except SettingsError Settings :=
  ((Toml.read? s).bind fromTable?).elim (.error .malformed) .ok

/-- Reads settings from a file. -/
def ofFile : FileContent → Except SettingsError Settings
  | .text content => read content
  | _ => .error .unreadable

end Settings

end LivePages
