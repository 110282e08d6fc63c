import EntityForge.CSharp.Emitter
import EntityForge.Proofs.CSharp.Page
import EntityForge.Proofs.FirstFault
import EntityForge.Proofs.Later
import EntityForge.Proofs.Naming.Memory

/-! # What is remembered

An emitter looks a name up among those that it emitted before, whatever they were names of.  All
that is ever remembered of a name is what its rule makes of it (`NameMemo.Recalls`), so the answer
is the same as without the memory.  `Emission.Gives` says of a step that it does what a step without
a memory does and keeps that invariant, whether it fails or not; it is proved once for each way to
put steps together, and then of each step of an emitter.

What can be observed is the engine, whose answers may depend on all calls before.  An emitter with
any history answers as a new one whose engine has the same calls behind it, and if the engine is
forgetful, as a new one (`answers_of_any_history`).  The engine of a library need not be: a template
that turns a list round finds it turned the next time (`entityCode_depends_on_history`).
-/

namespace EntityForge

namespace CSharp

open Template

/-! ### Steps without a memory -/

/-- A step that remembers nothing, but has an engine with some calls behind it. -/
abbrev Calling (α : Type) : Type := ExceptT Failure (StateM (List Call)) α

section

variable {σ α β : Type} {step : ExceptT Failure (StateM σ) α}
  {next : α → ExceptT Failure (StateM σ) β} {before after : σ}

theorem run_bind_of_ok {a : α} (h : step.run before = (.ok a, after)) :
    (step >>= next).run before = (next a).run after := by
  rw [ExceptT.run_bind]
  simp only [bind, StateT.bind, h]

theorem run_bind_of_error {fault : Failure} (h : step.run before = (.error fault, after)) :
    (step >>= next).run before = (.error fault, after) := by
  rw [ExceptT.run_bind]
  simp only [bind, StateT.bind, h]
  rfl

theorem run_bind_pure (f : α → β) :
    (step >>= fun a => pure (f a)).run before =
      ((step.run before).1.map f, (step.run before).2) := by
  rcases h : step.run before with ⟨failure | a, after⟩
  · rw [run_bind_of_error h]
    rfl
  · rw [run_bind_of_ok h]
    rfl

end

namespace Calling

variable {α β γ : Type}

/-- The step that comes to `x` and calls no engine. -/
def of (x : Except Failure α) : Calling α := ExceptT.mk fun calls => (x, calls)

/-- The step that calls an engine. -/
def render (r : Renderer) (call : Call) : Calling Text :=
  ExceptT.mk fun calls => ((r.after calls).render call.name call.given, calls ++ [call])

/-- The step that calls an engine if there is something to call it with. -/
def request (r : Renderer) (call : Except Failure Call) : Calling Text := of call >>= render r

theorem of_bind (x : Except Failure α) (next : α → Except Failure β) :
    of (x >>= next) = of x >>= fun a => of (next a) := by
  cases x <;> rfl

theorem of_mapM (items : List γ) (x : γ → Except Failure α) :
    of (items.mapM x) = items.mapM fun item => of (x item) := by
  induction items with
  | nil => rfl
  | cons item rest ih =>
      rw [List.mapM_cons, List.mapM_cons, of_bind, ← ih]
      refine congrArg _ (funext fun a => ?_)
      rw [of_bind]
      rfl

theorem run_request (r : Renderer) (call : Except Failure Call) (calls : List Call) :
    ((request r call).run calls).1 =
      call >>= fun call => (r.after calls).render call.name call.given := by
  cases call <;> rfl

/-- Requests one after the other come to what the engine gives for calls in turn. -/
theorem run_requests (r : Renderer) (requests : List (Except Failure Call)) (calls : List Call) :
    ((requests.mapM (request r)).run calls).1 = (r.after calls).renderAll requests := by
  induction requests generalizing calls with
  | nil => rfl
  | cons first rest ih =>
      rw [List.mapM_cons]
      cases first with
      | error failure => rfl
      | ok call =>
          change _ = (r.after calls).render call.name call.given >>= fun code =>
            ((r.after calls).after [call]).renderAll rest >>= fun codes => pure (code :: codes)
          cases hCode : (r.after calls).render call.name call.given with
          | error failure =>
              have hRun : (request r (.ok call)).run calls = (.error failure, calls ++ [call]) :=
                Prod.ext hCode rfl
              rw [run_bind_of_error hRun]
              rfl
          | ok code =>
              have hRun : (request r (.ok call)).run calls = (.ok code, calls ++ [call]) :=
                Prod.ext hCode rfl
              rw [run_bind_of_ok hRun, run_bind_pure, ih, Renderer.after_after]
              cases (r.after (calls ++ [call])).renderAll rest <;> rfl

/-- All artifacts of a schema: those of the entities in order, then that of the context. -/
def generate (g : Generator) (schema : Schema) : Calling (List Artifact) := do
  let artifacts ← schema.entities.mapM fun e => do
    let code ← request g.library (Generator.entityCall g.settings e)
    return ⟨g.entityArtifactName e, g.format code⟩
  let code ← request g.library (Generator.contextCall g.settings schema.entities)
  return artifacts ++ [⟨g.contextArtifactName, g.format code⟩]

/-- What is made of the answers to steps can be made in the end. -/
theorem mapM_bind_pure (items : List γ) (step : γ → Calling α) (f : γ → α → β) :
    (items.mapM fun item => step item >>= fun a => pure (f item a)) =
      items.mapM step >>= fun given => pure (List.zipWith f items given) := by
  induction items with
  | nil => rfl
  | cons item rest ih =>
      simp only [List.mapM_cons, bind_assoc, pure_bind, ih, List.zipWith_cons_cons]

/-- Generation comes to what the generator gives whose engine has the same calls behind it. -/
theorem run_generate (g : Generator) (schema : Schema) (calls : List Call) :
    ((generate g schema).run calls).1 = (g.after calls).generate schema := by
  let entityCode := fun e => request g.library (Generator.entityCall g.settings e)
  let contextCode := request g.library (Generator.contextCall g.settings schema.entities)
  have hCodes : (Generator.callsOf g.settings schema).mapM (request g.library) =
      schema.entities.mapM entityCode >>= fun codes =>
        contextCode >>= fun code => pure (codes ++ [code]) := by
    rw [Generator.callsOf, List.mapM_append, List.mapM_map]
    simp only [List.mapM_cons, List.mapM_nil, bind_assoc, pure_bind]
    rfl
  have hRight : (g.after calls).generate schema =
      (((Generator.callsOf g.settings schema).mapM (request g.library)).run calls).1.map
        fun codes => ((g.artifactNames schema).zip codes).map g.artifactOf := by
    have hGenerate : (g.after calls).generate schema =
        ((g.library.after calls).renderAll (Generator.callsOf g.settings schema) >>= fun codes =>
          pure (((g.artifactNames schema).zip codes).map g.artifactOf)) := rfl
    rw [hGenerate, run_requests]
    cases (g.library.after calls).renderAll (Generator.callsOf g.settings schema) <;> rfl
  rw [hRight, hCodes, generate, mapM_bind_pure, bind_assoc]
  rcases hEntities : (schema.entities.mapM entityCode).run calls with ⟨failure | codes, middle⟩
  · rw [run_bind_of_error hEntities, run_bind_of_error hEntities]
    rfl
  · rw [run_bind_of_ok hEntities, run_bind_of_ok hEntities, pure_bind, run_bind_pure, run_bind_pure]
    have hLength : (schema.entities.map g.entityArtifactName).length = codes.length := by
      have hAnswer := run_requests g.library (schema.entities.map (Generator.entityCall g.settings))
        calls
      have hGiven : (g.library.after calls).renderAll
          (schema.entities.map (Generator.entityCall g.settings)) = .ok codes := by
        rw [← hAnswer, List.mapM_map]
        exact congrArg Prod.fst hEntities
      rw [List.length_map, Renderer.length_of_renderAll hGiven, List.length_map]
    cases (contextCode.run middle).1 with
    | error failure => rfl
    | ok code =>
        have hArtifacts : List.zipWith
            (fun e code => (⟨g.entityArtifactName e, g.format code⟩ : Artifact))
            schema.entities codes =
              ((schema.entities.map g.entityArtifactName).zip codes).map g.artifactOf := by
          simp [List.zip, List.zipWith_map_left, List.map_zipWith, Generator.artifactOf]
        simp only [Except.map, Generator.artifactNames, List.zip_append hLength, List.map_append,
          hArtifacts]
        rfl

end Calling

/-! ### Steps of an emitter -/

namespace Emission

/-- Whatever names were emitted before, the step does what the one without a memory does, and what
is remembered after it is right again. -/
def Gives {α : Type} (step : Emission α) (bare : Calling α) : Prop :=
  ∀ state : EmitterState, state.memo.Recalls namingRule →
    bare.run state.calls = ((step.run state).1, (step.run state).2.calls) ∧
      (step.run state).2.memo.Recalls namingRule

variable {α β : Type}

theorem gives_plain (x : Except Failure α) : (plain x).Gives (.of x) := fun _ h => ⟨rfl, h⟩

theorem gives_pure (a : α) : (pure a : Emission α).Gives (pure a) := fun _ h => ⟨rfl, h⟩

theorem gives_emit (escaping : Bool) (name : Text) :
    (emit escaping name).Gives (pure (CSharp.emitName escaping name)) := by
  intro state h
  obtain ⟨hEmitted, hNext⟩ := h.emit escaping name
  exact ⟨Prod.ext (congrArg Except.ok hEmitted.symm) rfl, hNext⟩

theorem gives_render (r : Renderer) (call : Call) : (render r call).Gives (.render r call) :=
  fun _ h => ⟨rfl, h⟩

/-- One step after the other. A step that fails ends them, with what it remembered. -/
theorem Gives.bind {step : Emission α} {bare : Calling α} {next : α → Emission β}
    {more : α → Calling β} (h : step.Gives bare) (hNext : ∀ a, (next a).Gives (more a)) :
    (step >>= next).Gives (bare >>= more) := by
  intro state hState
  obtain ⟨hSame, hRecalls⟩ := h state hState
  rcases hRun : step.run state with ⟨failure | a, after⟩
  · rw [hRun] at hSame hRecalls
    rw [run_bind_of_error hRun, run_bind_of_error hSame]
    exact ⟨rfl, hRecalls⟩
  · rw [hRun] at hSame hRecalls
    rw [run_bind_of_ok hRun, run_bind_of_ok hSame]
    exact hNext a after hRecalls

/-- A step goes on from one that only emits names. -/
theorem Gives.bind_pure {step : Emission α} {a : α} {next : α → Emission β} {more : α → Calling β}
    (h : step.Gives (pure a)) (hNext : ∀ a, (next a).Gives (more a)) :
    (step >>= next).Gives (more a) := by
  rw [← pure_bind a more]
  exact h.bind hNext

/-- The same step for each of some items. -/
theorem gives_mapM {γ : Type} {step : γ → Emission α} {bare : γ → Calling α}
    (h : ∀ item, (step item).Gives (bare item)) (items : List γ) :
    (items.mapM step).Gives (items.mapM bare) := by
  induction items with
  | nil => exact gives_pure []
  | cons item rest ih =>
      rw [List.mapM_cons, List.mapM_cons]
      exact (h item).bind fun a => ih.bind fun more => gives_pure (a :: more)

theorem gives_map {γ : Type} {step : γ → Emission α} {f : γ → α}
    (h : ∀ item, (step item).Gives (pure (f item))) (items : List γ) :
    (items.mapM step).Gives (pure (items.map f)) := by
  have hPlain : items.mapM (fun item => (pure (f item) : Calling α)) = pure (items.map f) :=
    List.mapM_pure
  rw [← hPlain]
  exact gives_mapM h items

theorem gives_memberOf (strict escaping : Bool) (entity : Text) (p : Property) :
    (memberOf strict escaping entity p).Gives
      (.of (CSharp.memberOf strict escaping entity p)) := by
  rw [CSharp.memberOf, Calling.of_bind]
  exact (gives_plain _).bind fun _ => (gives_emit escaping p.name).bind_pure fun _ => gives_pure _

theorem gives_accessorOf (escaping : Bool) (e : Entity) :
    (accessorOf escaping e).Gives (pure (CSharp.accessorOf escaping e)) :=
  (gives_emit escaping e.name).bind_pure fun _ =>
    (gives_emit escaping e.tableName).bind_pure fun _ => gives_pure _

theorem gives_entityCode (g : Generator) (e : Entity) :
    (entityCode g e).Gives (.request g.library (Generator.entityCall g.settings e)) := by
  rw [Calling.request, Generator.entityCall, Generator.membersOf, Calling.of_bind, Calling.of_mapM,
    bind_assoc]
  refine (gives_mapM (gives_memberOf _ _ e.name) e.properties).bind fun members => ?_
  rw [Calling.of_bind, bind_assoc]
  refine (gives_plain _).bind fun _ => ?_
  exact (gives_emit _ e.name).bind_pure fun _ => gives_render _ _

theorem gives_contextCode (g : Generator) (entities : List Entity) :
    (contextCode g entities).Gives
      (.request g.library (Generator.contextCall g.settings entities)) := by
  rw [Calling.request, Generator.contextCall, Calling.of_bind, bind_assoc]
  refine (gives_plain _).bind fun _ => ?_
  exact (gives_map (gives_accessorOf g.settings.escapeKeywords) entities).bind_pure fun _ =>
    gives_render _ _

theorem gives_generate (g : Generator) (schema : Schema) :
    (generate g schema).Gives (.generate g schema) :=
  (gives_mapM (fun e => (gives_entityCode g e).bind fun _ => gives_pure _) schema.entities).bind
    fun _ => (gives_contextCode g schema.entities).bind fun _ => gives_pure _

end Emission

/-! ### Tasks -/

/-- The answer to a task without any memory. -/
def Task.answer (g : Generator) : Task → Except Failure Answer
  | .check schema => do return .warnings (← g.check schema)
  | .entityCode e => do return .code (← g.entityCode e)
  | .contextCode entities => do return .code (← g.contextCode entities)
  | .generate schema => do return .artifacts (← g.generate schema)
  | .emitName escaping name => .ok (.name (CSharp.emitName escaping name))

namespace Emitter

open Emission

/-- A task is answered as without a memory, by the generator whose engine has the same calls behind
it. -/
theorem answer_stepsOf (g : Generator) (task : Task) {state : EmitterState}
    (h : state.memo.Recalls namingRule) :
    ((stepsOf g task).run state).1 = task.answer (g.after state.calls) ∧
      ((stepsOf g task).run state).2.memo.Recalls namingRule := by
  -- what a step gives without a memory, put into the answer to the task
  have hAnswer : ∀ {α : Type} {step : Emission α} {bare : Calling α} (f : α → Answer),
      step.Gives bare →
        ((step >>= fun a => pure (f a)).run state).1 = (bare.run state.calls).1.map f ∧
          ((step >>= fun a => pure (f a)).run state).2.memo.Recalls namingRule := by
    intro α step bare f hGives
    obtain ⟨hSame, hNext⟩ := hGives state h
    rw [run_bind_pure, hSame]
    exact ⟨rfl, hNext⟩
  cases task with
  | check schema =>
      obtain ⟨hSame, hNext⟩ := hAnswer .warnings (gives_plain (g.check schema))
      exact ⟨hSame, hNext⟩
  | entityCode e =>
      obtain ⟨hSame, hNext⟩ := hAnswer .code (gives_entityCode g e)
      rw [Calling.run_request] at hSame
      exact ⟨hSame, hNext⟩
  | contextCode entities =>
      obtain ⟨hSame, hNext⟩ := hAnswer .code (gives_contextCode g entities)
      rw [Calling.run_request] at hSame
      exact ⟨hSame, hNext⟩
  | generate schema =>
      obtain ⟨hSame, hNext⟩ := hAnswer .artifacts (gives_generate g schema)
      rw [Calling.run_generate] at hSame
      exact ⟨hSame, hNext⟩
  | emitName escaping name => exact hAnswer .name (gives_emit escaping name)

/-- An emitter that remembers of names nothing but their emitted forms. -/
structure Recalls (emitter : Emitter) (g : Generator) : Prop where
  generator_eq : emitter.generator = g
  memo : emitter.state.memo.Recalls namingRule

theorem recalls_new (g : Generator) : (new g).Recalls g where
  generator_eq := rfl
  memo := NameMemo.recalls_empty namingRule

variable {emitter : Emitter} {g : Generator}

/-- One step: a task is answered as without a memory, which stays right. -/
theorem Recalls.perform (h : emitter.Recalls g) (task : Task) :
    (emitter.perform task).1 = task.answer (g.after emitter.state.calls) ∧
      (emitter.perform task).2.Recalls g := by
  obtain ⟨rfl, hMemo⟩ := h
  obtain ⟨hAnswer, hNext⟩ := answer_stepsOf emitter.generator task hMemo
  exact ⟨hAnswer, rfl, hNext⟩

/-- The run: whatever tasks are performed, also ones that fail, the memory stays right. -/
theorem Recalls.performAll (h : emitter.Recalls g) (history : List Task) :
    (emitter.performAll history).2.Recalls g := by
  induction history generalizing emitter with
  | nil => exact h
  | cons task rest ih => exact ih (h.perform task).2

/-- A new emitter has no calls behind it. -/
theorem perform_new (g : Generator) (task : Task) : ((new g).perform task).1 = task.answer g :=
  ((recalls_new g).perform task).1

end Emitter

/-! ### A template that turns a list round -/

/-- A template that turns the list of imports round and prints its first. -/
def turningTemplate : String := "\x7b\x7b usings.reverse() \x7d\x7d\x7b\x7b usings.0 \x7d\x7d"

/-- A directory with this template for the class of an entity. -/
def turningFiles : FileTree := ⟨[
  (⟨0, [text "T"]⟩, .directory),
  (⟨0, [text "T", text "entity.cs.j2"]⟩,
    .file (turningTemplate.toList.flatMap String.utf8EncodeChar))]⟩

/-- The library of the directory. -/
def turningLibrary : TemplateLibrary :=
  { directory := some (turningFiles, Path.parse (text "T")), sources := sheets }

/-- The nodes of the template. -/
def turningNodes : List Node :=
  [.reversal (nameExpr "usings"), .print (.item (nameExpr "usings") 0)]

theorem find_turningTemplate :
    turningLibrary.find entitySheetName = .ok (.found turningNodes) := by
  have hBytes : turningLibrary.fileBytes? entitySheetName =
      some (turningTemplate.toList.flatMap String.utf8EncodeChar) := rfl
  have hText : Utf8.decode (turningTemplate.toList.flatMap String.utf8EncodeChar) =
      .ok (text turningTemplate) := by decide +kernel
  have hPieces : pieces? (text turningTemplate) = some [dataPiece "",
      .print [wordToken "usings", .mark (.char '.'), wordToken "reverse", .mark (.char '('),
        .mark (.char ')')], dataPiece "",
      .print [wordToken "usings", .mark (.char '.'), wordToken "0"], dataPiece ""] := by
    decide +kernel
  have hParse : parse (text turningTemplate) = .ok turningNodes :=
    parse_eq_ok hPieces (by rfl) (by rfl) (by rfl) (by rfl)
  rw [TemplateLibrary.find, TemplateLibrary.source?, hBytes]
  simp only [hText, Except.map, hParse]

theorem render_reversal {scope : Template.Scope} {e : Expr} {names : List Text}
    (h : e.eval scope = .ok (Generator.textList names)) :
    (Node.reversal e).render false scope = .ok (text "None") := by
  have hRoutine : ∃ d, (Generator.textList names).getAttribute reverseName = .ok d := ⟨_, rfl⟩
  obtain ⟨d, hRoutine⟩ := hRoutine
  rw [Node.render, h]
  simp only [bind, Except.bind, hRoutine]
  rfl

theorem eval_item {scope : Template.Scope} {e : Expr} {first : Text} {names : List Text}
    (h : e.eval scope = .ok (Generator.textList (first :: names))) :
    (Expr.item e 0).eval scope = .ok (.value (.string first)) := by
  rw [Expr.eval, h]
  rfl

theorem turned_textList (names : List Text) :
    (Generator.textList names).turned = Generator.textList names.reverse := by
  simp only [Generator.textList, Datum.turned, List.map_reverse]

/-- Whatever it is given, the template prints the first of the imports after it has turned them
round. -/
theorem renderTop_turningNodes {name : Text} {given : Variables} {names rest : List Text}
    {last : Text} (hGiven : given.lookup? (text "usings") = some (Generator.textList names))
    (hReverse : names.reverse = last :: rest) :
    renderTop false ⟨name, given, []⟩ turningNodes =
      (.ok (text "None" ++ last), fun source => decide (source = text "usings")) := by
  have hName : (nameExpr "usings").eval ⟨name, given, []⟩ = .ok (Generator.textList names) :=
    eval_name rfl hGiven
  have hTurned : (turnIn given (text "usings")).lookup? (text "usings") =
      some (Generator.textList (last :: rest)) := by
    rw [← hReverse, ← turned_textList, lookup?_turnIn, hGiven, Option.map_some]
  have hLast : (nameExpr "usings").eval ⟨name, turnIn given (text "usings"), []⟩ =
      .ok (Generator.textList (last :: rest)) := eval_name rfl hTurned
  have hItem := render_print (eval_item hLast)
  have hSource : (Node.reversal (nameExpr "usings")).reversed? = some (text "usings") := rfl
  have hNone : (Node.print (.item (nameExpr "usings") 0)).reversed? = none := rfl
  rw [plain_string] at hItem
  rw [turningNodes, renderTop, render_reversal hName]
  simp only [hSource, renderTop, hItem, hNone, Except.map, List.append_nil, Bool.false_bne]

/-- What the template prints, given the list as it was or turned round. -/
def turnedText (turned : Bool) : Text :=
  text "None" ++ text (if turned then "System" else "System.ComponentModel.DataAnnotations.Schema")

theorem perform_turningTemplate (s : Settings) (e : Entity) (members : List Member)
    (turned : Bool) :
    turningLibrary.perform turned ⟨entitySheetName, Generator.entityVariables s e members⟩ =
      (.ok (turnedText turned), true) := by
  have hMarkup : TemplateLibrary.isMarkup entitySheetName = false := by decide
  have hSelf : (Generator.entityVariables s e members).lookup? selfName = none := rfl
  rw [TemplateLibrary.perform]
  simp only [find_turningTemplate, hMarkup, hSelf, Option.isSome_none, Bool.false_eq_true, if_false,
    renderTemplate]
  have hImports : (Generator.entityVariables s e members ++ knownNames).lookup? (text "usings") =
      some (Generator.textList (entityImports.map text)) := rfl
  have hTurned : (turnIn (Generator.entityVariables s e members) TemplateLibrary.sharedName ++
      knownNames).lookup? (text "usings") =
        some (Generator.textList (entityImports.map text).reverse) := rfl
  cases turned with
  | false =>
      simp only [Bool.false_eq_true, if_false, renderTop_turningNodes hImports rfl]
      rfl
  | true =>
      simp only [if_true, renderTop_turningNodes hTurned rfl]
      rfl

/-- The settings of a generator with that directory. -/
def turningGenerator : Generator := ⟨Drawing.settings, turningLibrary⟩

/-- Each time that the template is rendered the list is turned round. -/
theorem isTurnedAfter_turningLibrary (s : Settings) (e : Entity) :
    turningLibrary.isTurnedAfter entitySheetName [] = false ∧
      turningLibrary.isTurnedAfter entitySheetName [entityCallFor s e] = true := by
  have hAny : (turningNodes.any fun node => node.reversed?.isSome) = true := rfl
  simp only [TemplateLibrary.isTurnedAfter, find_turningTemplate, hAny, if_true]
  simp [entityCallFor, perform_turningTemplate]

theorem entityCode_turningGenerator {e : Entity} (hTypes : entityFault? Drawing.settings e = none)
    (past : List Call) :
    Generator.entityCode (turningGenerator.after past) e =
      .ok (turnedText (turningLibrary.isTurnedAfter entitySheetName past)) := by
  have hIndent : indentFailure? Drawing.settings = none := rfl
  have hCall :
      Generator.entityCall Drawing.settings e = .ok (entityCallFor Drawing.settings e) := by
    rw [entityCall_eq, hTypes, hIndent]
    rfl
  have hAnswer : turningLibrary.renderer.answer past (entityCallFor Drawing.settings e) =
      .ok (turnedText (turningLibrary.isTurnedAfter entitySheetName past)) := by
    simp only [TemplateLibrary.renderer, entityCallFor, perform_turningTemplate]
  change (Generator.entityCall Drawing.settings e >>= fun call =>
    (turningLibrary.renderer.after past).render call.name call.given) = _
  rw [hCall]
  change ((turningLibrary.renderer.answer (past ++ []) (entityCallFor Drawing.settings e)).mapError
    _) = _
  rw [List.append_nil, hAnswer]
  rfl

/-- What an emitter has behind it after the code of an entity was asked for. -/
theorem calls_of_entityCode {g : Generator} {e : Entity} {call : Call}
    (hCall : Generator.entityCall g.settings e = .ok call) :
    ((Emitter.new g).perform (.entityCode e)).2.state.calls = [call] := by
  obtain ⟨hSame, -⟩ := Emission.gives_entityCode g e {} (NameMemo.recalls_empty namingRule)
  rw [hCall] at hSame
  have hStep : ((Emission.entityCode g e).run {}).2.calls = [call] :=
    (congrArg Prod.snd hSame).symm
  change ((Emission.entityCode g e >>= fun code => pure (Answer.code code)).run {}).2.calls = [call]
  rw [run_bind_pure]
  exact hStep

/-! ### Any history -/

/-- The artifact at the place of an entity holds its code, laid out, if the engine is forgetful. -/
theorem artifact_of_generate {g : Generator} (hForgetful : g.library.IsForgetful) {schema : Schema}
    {artifacts : List Artifact} {i : Nat} {e : Entity} (h : g.generate schema = .ok artifacts)
    (hEntity : schema.entities[i]? = some e) :
    ∃ code, g.entityCode e = .ok code ∧
      artifacts[i]? = some ⟨g.entityArtifactName e, g.format code⟩ := by
  rw [Generator.generate_of_isForgetful hForgetful] at h
  obtain ⟨made, hMade, hRest⟩ := bind_eq_ok_iff.mp h
  obtain ⟨context, -, hArtifacts⟩ := bind_eq_ok_iff.mp hRest
  obtain ⟨artifact, hArtifact, hPlace⟩ := getElem?_of_mapM_eq_ok hMade hEntity
  obtain ⟨code, hCode, hCoded⟩ := bind_eq_ok_iff.mp hArtifact
  cases hArtifacts
  cases hCoded
  obtain ⟨hBound, -⟩ := List.getElem?_eq_some_iff.mp hPlace
  exact ⟨code, hCode, by rw [List.getElem?_append_left hBound, hPlace]⟩

/-- The memory of emitted names cannot be observed. With any naming rule, names are emitted in any
sequence as without a memory. An emitter with any history answers every task as a new one whose
engine has the same calls behind it, which answers as its generator without a memory does. If the
engine is forgetful, an emitter with any history answers as a new one; and in what it generates for
a schema, the artifact of an entity holds the code that a new emitter gives for that entity alone.
The engine is forgetful with the built-in templates. -/
theorem answers_of_any_history (rule : NamingRule) (requests : List (Bool × Text))
    (g : Generator) (history : List Task) :
    (NameMemo.emitAll { rule } requests).1 =
      requests.map (fun request => rule.emit request.1 request.2) ∧
    (∀ task,
      let used := ((Emitter.new g).performAll history).2
      (used.perform task).1 = ((Emitter.new (g.after used.state.calls)).perform task).1 ∧
        (used.perform task).1 = task.answer (g.after used.state.calls)) ∧
    (g.library.IsForgetful →
      (∀ task, (((Emitter.new g).performAll history).2.perform task).1 =
          ((Emitter.new g).perform task).1 ∧
        ((Emitter.new g).perform task).1 = task.answer g) ∧
      ∀ schema artifacts,
        (((Emitter.new g).performAll history).2.perform (.generate schema)).1 =
          .ok (.artifacts artifacts) →
        ∀ (i : Nat) (e : Entity), schema.entities[i]? = some e →
          ∃ code, ((Emitter.new g).perform (.entityCode e)).1 = .ok (.code code) ∧
            artifacts[i]? = some ⟨g.entityArtifactName e, g.format code⟩) ∧
    (IsBuiltin g → g.library.IsForgetful) := by
  have hAfter : ∀ task, (((Emitter.new g).performAll history).2.perform task).1 =
      task.answer (g.after ((Emitter.new g).performAll history).2.state.calls) :=
    fun task => (((Emitter.recalls_new g).performAll history).perform task).1
  refine ⟨(NameMemo.recalls_empty rule).emitAll requests, fun task => ⟨?_, hAfter task⟩,
    fun hForgetful => ?_, fun hBuiltin => hBuiltin.isForgetful⟩
  · rw [hAfter, Emitter.perform_new]
  · have hSame : ∀ task,
        (((Emitter.new g).performAll history).2.perform task).1 = task.answer g := by
      intro task
      rw [hAfter, Generator.after_of_isForgetful hForgetful]
    refine ⟨fun task => ⟨(hSame task).trans (Emitter.perform_new g task).symm,
      Emitter.perform_new g task⟩, fun schema artifacts hGenerate i e hEntity => ?_⟩
    rw [hSame] at hGenerate
    obtain ⟨made, hMade, hSame⟩ := bind_eq_ok_iff.mp hGenerate
    cases hSame
    obtain ⟨code, hCode, hPlace⟩ := artifact_of_generate hForgetful hMade hEntity
    refine ⟨code, ?_, hPlace⟩
    rw [Emitter.perform_new, Task.answer, hCode]
    rfl

/-- A generator that must recognize types. -/
def strictGenerator : Generator := ⟨{ strictTypes := true }, builtinLibrary⟩

/-- An entity with a property that is named by a keyword, and one whose type is unknown. -/
def strayEntity : Entity := ⟨text "Stray", text "Strays", [
  { name := text "class", typeName := text "int" },
  { name := text "Mood", typeName := text "whim" }]⟩

/-- An entity with a property that is named by a keyword. -/
def lockerEntity : Entity := ⟨text "Locker", text "Lockers", [
  { name := text "class", typeName := text "int", isPrimaryKey := true }]⟩

/-- A task that failed has left the keyword in the memory. What is generated for the next schema,
in which the keyword is a name again, is what a new emitter gives. -/
theorem answers_of_any_history_lockerEntity :
    let strayed := ((Emitter.new strictGenerator).performAll [.entityCode strayEntity]).2
    (∃ fault, ((Emitter.new strictGenerator).perform (.entityCode strayEntity)).1 = .error fault) ∧
    strayed.state.memo.known = [(text "class", text "@class")] ∧
    ∃ artifacts code,
      (strayed.perform (.generate ⟨[lockerEntity]⟩)).1 = .ok (.artifacts artifacts) ∧
      ((Emitter.new strictGenerator).perform (.entityCode lockerEntity)).1 = .ok (.code code) ∧
      artifacts[0]? = some ⟨text "Locker.g.cs", strictGenerator.format code⟩ := by
  intro strayed
  have hBuiltin : IsBuiltin strictGenerator := ⟨isUsable_of_problems rfl rfl, rfl⟩
  have hGenerate : strictGenerator.generate ⟨[lockerEntity]⟩ =
      .ok (pages strictGenerator [lockerEntity]) :=
    generate_eq hBuiltin (by simp; rfl)
  obtain ⟨-, -, hHistory, hForgetful⟩ := answers_of_any_history namingRule []
    strictGenerator [.entityCode strayEntity]
  obtain ⟨hSame, hArtifacts⟩ := hHistory (hForgetful hBuiltin)
  have hAnswer : (strayed.perform (.generate ⟨[lockerEntity]⟩)).1 =
      .ok (.artifacts (pages strictGenerator [lockerEntity])) := by
    obtain ⟨hNew, hPlain⟩ := hSame (.generate ⟨[lockerEntity]⟩)
    rw [hNew, hPlain, Task.answer, hGenerate]
    rfl
  obtain ⟨code, hCode, hPlace⟩ := hArtifacts _ _ hAnswer 0 lockerEntity rfl
  exact ⟨⟨_, rfl⟩, rfl, _, code, hAnswer, hCode, hPlace⟩

/-- The same entity has other code after the code of another was asked for: the template has turned
round the list of imports, and both have the same list. -/
theorem entityCode_depends_on_history :
    ∃ g, Generator.ofDraft turningFiles Drawing.settings.toDraft = .ok g ∧
      ((Emitter.new g).perform (.entityCode lockerEntity)).1 =
        .ok (.code (text "NoneSystem.ComponentModel.DataAnnotations.Schema")) ∧
      (((Emitter.new g).performAll [.entityCode ⟨text "A", text "As", []⟩]).2.perform
        (.entityCode lockerEntity)).1 = .ok (.code (text "NoneSystem")) := by
  have hMake : Generator.ofDraft turningFiles Drawing.settings.toDraft = .ok turningGenerator :=
    ofDraft_eq_ok_iff.mpr ⟨_, settings?_toDraft _, make_eq_ok_iff.mpr ⟨rfl, rfl, rfl, rfl⟩⟩
  let e : Entity := ⟨text "A", text "As", []⟩
  let used := ((Emitter.new turningGenerator).performAll [.entityCode e]).2
  have hCall : Generator.entityCall turningGenerator.settings e =
      .ok (entityCallFor Drawing.settings e) := rfl
  have hUsed : used.state.calls = [entityCallFor Drawing.settings e] := calls_of_entityCode hCall
  obtain ⟨hNone, hOnce⟩ := isTurnedAfter_turningLibrary Drawing.settings e
  have hFirst : turningGenerator.entityCode lockerEntity = .ok (turnedText false) := by
    rw [← hNone]
    exact entityCode_turningGenerator rfl []
  have hAnswer : (used.perform (.entityCode lockerEntity)).1 =
      Task.answer (turningGenerator.after used.state.calls) (.entityCode lockerEntity) :=
    (((Emitter.recalls_new turningGenerator).performAll _).perform _).1
  refine ⟨turningGenerator, hMake, ?_, ?_⟩
  · rw [Emitter.perform_new, Task.answer, hFirst]
    rfl
  · rw [hAnswer, hUsed, Task.answer, entityCode_turningGenerator rfl, hOnce]
    rfl

end CSharp

end EntityForge
