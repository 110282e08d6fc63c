import EntityForge.CSharp.Generator

/-! # Presets

Two sets of settings for common uses of the C# generator: models that are shipped in a library, and
models with old type names that are copied as they are.
-/

namespace EntityForge.CSharp

/-- A set of settings for a common use. -/
inductive Preset
  | library
  | legacy
  deriving DecidableEq, Repr

namespace Preset

/-- The settings that a preset overrides. -/
def overrides : Preset → Entries Value
  | .library => [
      (Setting.namespaceName.label, .string (text "Data.Models")),
      (Setting.contextName.label, .string (text "AppDbContext")),
      (Setting.addHeader.label, .bool true)]
  | .legacy => [
      (Setting.strictTypes.label, .bool false), (Setting.escapeKeywords.label, .bool false)]

/-- The generator of a preset. -/
def generator (host : Host) (preset : Preset) : Except Failure Generator := do
  let settings ← Settings.load host.machine languageName (.object preset.overrides) none
  Generator.ofDraft host settings.toDraft

end Preset

end EntityForge.CSharp
