import EntityForge.Proofs.CSharp.Checked
import EntityForge.Proofs.CSharp.Usable
import EntityForge.Registry

/-! # The same host at another time

Nothing that is done on a host changes its files unless a file is written, but every rendering may
leave traces in its engines.  A generator that is made later is the same but for what its engine
has behind it (`create_later`), and if its engine is forgetful, it is the same.

An engine need not be forgetful.  A template can draw one of the namespaces of an entity class, and
`drawingHost` is a host on which they come up in turn.
-/

namespace EntityForge

open Template CSharp

@[simp]
theorem Host.later_nil (host : Host) : host.later [] = host := rfl

@[simp]
theorem Host.later_machine (host : Host) (calls : List Call) :
    (host.later calls).machine = host.machine := rfl

theorem Host.renderer_later (host : Host) (calls : List Call) (directory : Option Path)
    (sources : Entries Text) :
    (host.later calls).renderer directory sources =
      (host.renderer directory sources).map (Renderer.after · calls) := by
  rw [Host.renderer, Host.renderer, Host.later_machine]
  cases host.machine.checkTemplates directory <;> rfl

namespace CSharp.Generator

/-- The generator at a time when its engine has answered some calls. -/
def after (calls : List Call) (g : Generator) : Generator :=
  { g with library := g.library.after calls }

theorem after_of_isForgetful {g : Generator} (h : g.library.IsForgetful) (calls : List Call) :
    g.after calls = g := by
  rw [after, h.after_eq]

theorem make_later (host : Host) (calls : List Call) (s : Settings) :
    make (host.later calls) s = (make host s).map (after calls) := by
  rw [make, make, Host.renderer_later, Host.later_machine]
  split
  · split
    · cases host.renderer (templatePath? s) sheets <;> rfl
    · rfl
  · rfl

/-- A generator that is made later is the same but for what its engine has behind it. -/
theorem ofDraft_later (host : Host) (calls : List Call) (d : Draft) :
    ofDraft (host.later calls) d = (ofDraft host d).map (after calls) := by
  rw [ofDraft, ofDraft, Host.later_machine]
  split
  · rfl
  · exact make_later host calls _

end CSharp.Generator

namespace Registry

theorem create_later (r : Registry) (host : Host) (calls : List Call) (language : Text)
    (source : SettingsSource) :
    r.create (host.later calls) language source =
      (r.create host language source).map (Generator.after calls) := by
  simp only [create, Host.later_machine, bind, Except.bind]
  split
  · rfl
  · split
    · rfl
    · split
      · exact Generator.ofDraft_later host calls _
      · rfl

/-- With a forgetful engine, the generator that is made later is the same. -/
theorem create_later_of_isForgetful {r : Registry} {host : Host} {language : Text}
    {source : SettingsSource}
    (h : ∀ g, r.create host language source = .ok g → g.library.IsForgetful) (calls : List Call) :
    r.create (host.later calls) language source = r.create host language source := by
  rw [create_later]
  cases hCreate : r.create host language source with
  | error failure => rfl
  | ok g => exact congrArg Except.ok (Generator.after_of_isForgetful (h g hCreate) calls)

end Registry

/-! ### Drawing lots -/

namespace Drawing

/-- The template of an entity class that is one of the namespaces of the class, drawn by lot. -/
def entityTemplate : String := "\x7b\x7b usings|random \x7d\x7d"

/-- A directory with this template, and one without text for the context. -/
def files : FileTree := ⟨[
  (⟨0, [text "T"]⟩, .directory),
  (⟨0, [text "T", text "entity.cs.j2"]⟩,
    .file (entityTemplate.toList.flatMap String.utf8EncodeChar)),
  (⟨0, [text "T", text "context.cs.j2"]⟩, .file [])]⟩

/-- The namespace that is drawn after so many calls.  The lots come up in turn: the next one is
always another. -/
def drawn (n : Nat) : Text := text ((entityImports.rotate n).headD "")

/-- An engine with these templates. -/
def engine : Renderer where
  answer past call := .ok (if call.name = entitySheetName then drawn past.length else [])
  knows name := .ok (name = entitySheetName || name = contextSheetName)

/-- The host with these files, and with this engine for the directory. -/
def host : Host where
  machine := files
  engine directory sources :=
    match directory with
    | none => TemplateLibrary.renderer { sources }
    | some _ => engine

/-- Settings that name the directory. -/
def settings : Settings := { templateDir := some (text "T") }

/-- A schema of one entity. -/
def schema : Schema := ⟨[⟨text "A", text "As", []⟩]⟩

theorem make_host {s : Settings} (hDirectory : s.templateDir = some (text "T"))
    (hCommon : s.commonProblems = []) (hOwn : settingProblems s = []) :
    Generator.make host s = .ok ⟨s, engine⟩ := by
  have hPath : Generator.templatePath? s = some (Path.parse (text "T")) := by
    rw [Generator.templatePath?, hDirectory]
    rfl
  refine make_eq_ok_iff.mpr ⟨hCommon, hOwn, rfl, ?_⟩
  rw [hPath]
  rfl

/-- The class that is generated from the schema is what is drawn. -/
theorem generate_eq {s : Settings} (hIndent : s.indentFault? = none) (past : List Call) :
    Generator.generate ⟨s, engine.after past⟩ schema = .ok [
      ⟨text "A" ++ s.fileSuffix, Layout.format s.lineEnding (drawn past.length)⟩,
      ⟨s.contextName ++ s.fileSuffix, Layout.format s.lineEnding []⟩] := by
  have hTypes : ∀ e ∈ schema.entities, entityFault? s e = none := by
    intro e he
    rw [List.mem_singleton.mp he]
    rfl
  have hCodes : (engine.after past).renderAll ((callsFor s schema.entities).map .ok) =
      .ok [drawn past.length, []] := by
    have hContext : contextSheetName ≠ entitySheetName := by decide
    simp [callsFor, schema, entityCallFor, contextCallFor, Renderer.renderAll, Renderer.render,
      Renderer.after, engine, hContext, Except.mapError, bind, Except.bind, pure, Except.pure]
  rw [Generator.generate, callsOf_of_types hTypes hIndent, hCodes]
  rfl

end Drawing

end EntityForge
