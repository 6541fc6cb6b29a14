import TextTemplate.Library.Samples
import TextTemplate.Proofs.Engine.Overrides

/-!
# Sessions

A session is an engine in use: a host registers resolvers with it, has templates compiled or loaded,
runs these, and evaluates sources and trees, in any order. A template is run by the resolvers that
had been registered when it was compiled, whatever is registered later, and everything else is
evaluated by those that have been registered so far (`Session.templates_keep_their_resolvers`).
-/

namespace TextTemplate

/-- What a host does with an engine. Templates are told apart by the order in which they were
compiled or loaded. -/
inductive Action where
  | register (name : String) (resolver : Resolver)
  | compile (source : String)
  | loadJson (json : String)
  | run (index : Nat) (origin : Origin) (context : Context)
  | evaluate (origin : Origin) (source : String) (context : Context)
  | evalExpr (origin : Origin) (expr : Expr) (context : Context)

namespace Action

/-- The resolver that is registered, with its name. -/
def registration? : Action → Option (String × Resolver)
  | register name resolver => some (name, resolver)
  | _ => none

/-- The template that is compiled or loaded, if there is one in the source. -/
def template? : Action → Option Template
  | compile source => (Template.parse source).toOption
  | loadJson json => Template.ofJson? json
  | _ => none

/-- All registrations among actions, in their order. -/
def registrations (actions : List Action) : List (String × Resolver) :=
  actions.filterMap registration?

end Action

/-- An engine with the templates that it has compiled or loaded, the first one first. -/
structure Session where
  engine : Engine
  templates : List CompiledTemplate

namespace Session

/-- The template that the engine makes ready in an action. -/
def made? (session : Session) : Action → Option CompiledTemplate
  | .compile source => (session.engine.compile source).toOption
  | .loadJson json => (session.engine.loadJson json).toOption
  | _ => none

/-- The session after an action. -/
def step (session : Session) (action : Action) : Session where
  engine := match action with
    | .register name resolver => session.engine.register name resolver
    | _ => session.engine
  templates := session.templates ++ (session.made? action).toList

/-- The session after actions, one after the other. -/
def after (session : Session) (actions : List Action) : Session :=
  actions.foldl step session

/-- The values that an action answers in the session, if it is an evaluation. -/
def answer? (session : Session) : Action → Option (Except EngineError (List Value))
  | .run index origin context => (session.templates[index]?).map (·.run origin context)
  | .evaluate origin source context => some (session.engine.evaluate origin source context)
  | .evalExpr origin expr context =>
    some ((session.engine.evalExpr origin expr context).map fun value => [value])
  | _ => none

/-! ## What a session keeps -/

theorem after_append (session : Session) (first second : List Action) :
    session.after (first ++ second) = (session.after first).after second :=
  List.foldl_append

/-- An action registers what it says, and leaves the engine as it is otherwise. -/
theorem engine_step (session : Session) (action : Action) :
    (session.step action).engine = session.engine.registerAll action.registration?.toList := by
  cases action <;> rfl

/-- After actions the engine differs by the registrations among them. -/
theorem engine_after (session : Session) (actions : List Action) :
    (session.after actions).engine =
      session.engine.registerAll (Action.registrations actions) := by
  induction actions generalizing session with
  | nil => rfl
  | cons action actions ih =>
      have hregister : Action.registrations (action :: actions) =
          action.registration?.toList ++ Action.registrations actions := by
        unfold Action.registrations
        rw [List.filterMap_cons]
        cases action.registration? <;> rfl
      show ((session.step action).after actions).engine = _
      rw [ih, engine_step, hregister, Engine.registerAll, Engine.registerAll, Engine.registerAll,
        List.foldl_append]

/-- No action changes a template that is ready. -/
theorem templates_after {session : Session} {index : Nat} {compiled : CompiledTemplate}
    (h : session.templates[index]? = some compiled) (actions : List Action) :
    (session.after actions).templates[index]? = some compiled := by
  induction actions generalizing session with
  | nil => exact h
  | cons action actions ih =>
      have hlt : index < session.templates.length := (List.getElem?_eq_some_iff.mp h).1
      have hstep : (session.step action).templates[index]? = some compiled := by
        show (session.templates ++ _)[index]? = _
        rw [List.getElem?_append_left hlt, h]
      exact ih hstep

/-- An action that has a template makes it ready with the resolvers of this moment. -/
theorem made?_of_template (session : Session) {action : Action} {template : Template}
    (h : action.template? = some template) :
    ∃ source, session.made? action = some (session.engine.compiled source template) := by
  cases action with
  | compile source =>
      have hparse : Template.parse source = .ok template := by
        have hread : (Template.parse source).toOption = some template := h
        cases hresult : Template.parse source with
        | ok parsed =>
            rw [hresult] at hread
            exact congrArg Except.ok (Option.some.inj hread)
        | error error =>
            rw [hresult] at hread
            cases hread
      refine ⟨source, ?_⟩
      show (session.engine.compile source).toOption = _
      rw [compile_of_parse session.engine hparse]
      rfl
  | loadJson json =>
      have hread : Template.ofJson? json = some template := h
      refine ⟨json, ?_⟩
      show (session.engine.loadJson json).toOption = _
      rw [Engine.loadJson, hread]
      rfl
  | _ => cases h

/-! ## Which resolver is used -/

/-- Whatever a host does with an engine, a template is run by the resolvers that had been registered
before it was compiled or loaded: in a context that names no resolver by the default one, and in one
that names a resolver by the one that was registered last under exactly this name, or not at all if
there was none. What is registered later does not change the result of a run. Sources and trees, on
the other hand, are evaluated by the resolvers that have been registered up to now. -/
theorem templates_keep_their_resolvers (host : Host) (default : Resolver) (options : EngineOptions)
    (before later : List Action) {action : Action} {template : Template}
    (h : action.template? = some template) :
    let start : Session := ⟨⟨host, ⟨default, []⟩, options⟩, []⟩
    let session := start.after (before ++ action :: later)
    (∀ origin context,
      session.answer? (.run (start.after before).templates.length origin context) = some (do
        let scope : Scope := ⟨context,
          ← Engine.chosen default (Action.registrations before) context, options.maxDepth⟩
        (scope.evalTemplate host callBudget origin template).mapError .ofHalt)) ∧
    ∀ context, session.engine.EvaluatesBy context
      (Engine.chosen default (Action.registrations (before ++ action :: later)) context) := by
  intro start session
  have hengine : ∀ actions, (start.after actions).engine =
      Engine.registerAll ⟨host, ⟨default, []⟩, options⟩ (Action.registrations actions) :=
    engine_after start
  constructor
  · intro origin context
    obtain ⟨source, hmade⟩ := made?_of_template (start.after before) h
    have hready : ((start.after before).step action).templates[
        (start.after before).templates.length]? =
          some ((start.after before).engine.compiled source template) := by
      show ((start.after before).templates ++ _)[(start.after before).templates.length]? = _
      rw [hmade, List.getElem?_append_right (Nat.le_refl _), Nat.sub_self]
      rfl
    have hkept : session.templates[(start.after before).templates.length]? =
        some ((start.after before).engine.compiled source template) := by
      show (start.after (before ++ action :: later)).templates[_]? = _
      rw [after_append]
      exact templates_after hready later
    have hby :=
      Engine.evaluates_by_chosen host default options (Action.registrations before) context
    show (session.templates[_]?).map _ = _
    rw [hkept, Option.map_some, hengine before, hby.run, hby.evalTemplate, Engine.register_all_eq]
  · intro context
    show (start.after (before ++ action :: later)).engine.EvaluatesBy context _
    rw [hengine]
    exact Engine.evaluates_by_chosen host default options _ context

/-- A template is compiled between two registrations under one name. It is run by the first one and
knows nothing of a name that is registered later, by which sources are evaluated already. -/
theorem templates_keep_their_resolvers_of_two_greetings :
    let host : Host := fun library => .constant (if library = "first" then 1 else 2)
    let start : Session := ⟨⟨host, ⟨.standard, []⟩, {}⟩, []⟩
    let before : List Action := [.register "greetings" (.hosted "first")]
    let later : List Action :=
      [.register "greetings" (.hosted "second"), .register "late" (.hosted "second")]
    let session := start.after (before ++ .compile "@greet()" :: later)
    let naming (name : String) : Context := .ofPairs [(Context.resolverKey, .str name)]
    (Action.compile "@greet()").template? = some [.function "greet" []] ∧
      session.answer? (.run 0 [] (naming "greetings")) = some (.ok [.int 1]) ∧
      session.answer? (.run 0 [] (naming "late")) =
        some (.error (.runtime (.unknownResolver "late"))) ∧
      session.engine.EvaluatesBy (naming "greetings") (.ok (.hosted "second")) ∧
      session.engine.EvaluatesBy (naming "late") (.ok (.hosted "second")) := by
  intro host start before later session naming
  have htemplate : (Action.compile "@greet()").template? = some [.function "greet" []] := by cbv
  obtain ⟨hrun, hnow⟩ :=
    templates_keep_their_resolvers host .standard {} before later htemplate
  refine ⟨htemplate, (hrun [] (naming "greetings")).trans ?_, (hrun [] (naming "late")).trans ?_,
    hnow (naming "greetings"), hnow (naming "late")⟩
  · cbv
  · cbv

end Session

end TextTemplate
