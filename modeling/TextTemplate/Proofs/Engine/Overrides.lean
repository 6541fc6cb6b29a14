import TextTemplate.Proofs.Context.Built
import TextTemplate.Proofs.Eval.Relevance

/-!
# Contexts that name a resolver

A host names a resolver in the data that it makes a context of. An engine evaluates in the context
by the resolver that was registered last under the name, and it evaluates nothing if there is none;
but only if the name is kept as a string. A name that is read as a literal, such as an integer or a
truth value, is no name any more, and the default resolver is used as if none had been named
(`Engine.evaluates_by_name`).
-/

namespace TextTemplate

/-- A host string is read as a literal, which no string is. -/
def ContextOptions.ReadsAsLiteral (options : ContextOptions) (text : String) : Prop :=
  options.skipEvaluation = false ∧ hasLeadingZero text = false ∧
    ∃ literal, Literal.parse text = .ok literal

namespace Context

variable {options : ContextOptions} {members : List (String × Json)} {name : String}

/-- What a context has under the key of the resolver is what the host has under any spelling of the
key. -/
theorem get?_resolver_key (h : lastUnder resolverKey members = some (.string name)) :
    (ofHostJson options (.object members)).get? resolverKey =
      some (Value.ofHostText options name) := by
  rw [ofHostJson, get?_of_host_pairs, h]
  rfl

/-- A name that is not read as a literal is the one that the context asks for. -/
theorem resolver_name_of_kept (h : lastUnder resolverKey members = some (.string name))
    (hkept : ¬ options.ReadsAsLiteral name) :
    (ofHostJson options (.object members)).resolverName = some name := by
  have htext : Value.ofHostText options name = .str name := by
    rw [Value.ofHostText]
    split
    · rfl
    · next hread =>
        obtain ⟨hskip, hzero⟩ : options.skipEvaluation = false ∧ hasLeadingZero name = false := by
          simpa using hread
        cases hparse : Literal.parse name with
        | error error => rfl
        | ok literal => exact absurd ⟨hskip, hzero, literal, hparse⟩ hkept
  rw [resolverName, get?_resolver_key h, htext]

/-- If the name is read as a literal, the context asks for no resolver. -/
theorem resolver_name_of_literal (h : lastUnder resolverKey members = some (.string name))
    (hliteral : options.ReadsAsLiteral name) :
    (ofHostJson options (.object members)).resolverName = none := by
  obtain ⟨hskip, hzero, literal, hparse⟩ := hliteral
  have htext : Value.ofHostText options name = literal.value := by
    rw [Value.ofHostText, hskip, hzero, hparse]
    rfl
  rw [resolverName, get?_resolver_key h, htext]
  -- The literals that take a whole source are no strings.
  cases is_scalar_of_parse hparse <;> rfl

end Context

namespace Engine

/-! ## Registrations -/

/-- The engine after registrations, one after the other. -/
def registerAll (engine : Engine) (registrations : List (String × Resolver)) : Engine :=
  registrations.foldl (fun engine (name, resolver) => engine.register name resolver) engine

/-- The last one of several registrations comes after the others. -/
theorem register_all_concat (engine : Engine) (registrations : List (String × Resolver))
    (registration : String × Resolver) :
    engine.registerAll (registrations ++ [registration]) =
      (engine.registerAll registrations).register registration.1 registration.2 := by
  rw [registerAll, List.foldl_append]
  rfl

/-- Registrations change nothing but the resolvers that are asked for by name. -/
theorem register_all_eq (engine : Engine) (registrations : List (String × Resolver)) :
    engine.registerAll registrations =
      { engine with resolvers := { engine.resolvers with
        named := registrations.reverse ++ engine.resolvers.named } } := by
  induction registrations using List.reverseRecOn with
  | nil => rfl
  | append_singleton registrations registration ih =>
      rw [register_all_concat, ih, List.reverse_append]
      rfl

/-- A name belongs to the resolver that was registered last under it, among the registrations or
before them. -/
theorem lookup_register_all (engine : Engine) (registrations : List (String × Resolver))
    (name : String) :
    (engine.registerAll registrations).resolvers.named.lookup name =
      (Keyed.last? (· == name) registrations).or (engine.resolvers.named.lookup name) := by
  induction registrations using List.reverseRecOn with
  | nil => rfl
  | append_singleton registrations registration ih =>
      rw [register_all_concat, register, Resolvers.register, List.lookup_cons, ih,
        Keyed.last?_concat, BEq.comm]
      cases registration.1 == name <;> rfl

/-! ## Evaluations -/

/-- What the engine evaluates in the context, be it a tree or a source that can be parsed, it
evaluates by the chosen resolver, which answers all function calls, if there is one; otherwise it
evaluates nothing. -/
structure EvaluatesBy (engine : Engine) (context : Context)
    (choice : Except EngineError Resolver) : Prop where
  evalExpr : ∀ origin expr,
    engine.evalExpr origin expr context = (do
      let scope : Scope := ⟨context, ← choice, engine.options.maxDepth⟩
      (scope.eval engine.host callBudget origin expr).mapError .ofHalt)
  evalTemplate : ∀ origin template,
    engine.evalTemplate origin template context = (do
      let scope : Scope := ⟨context, ← choice, engine.options.maxDepth⟩
      (scope.evalTemplate engine.host callBudget origin template).mapError .ofHalt)
  run : ∀ origin source template,
    (engine.compiled source template).run origin context =
      engine.evalTemplate origin template context
  evaluate : ∀ origin source template, Template.parse source = .ok template →
    engine.evaluate origin source context = engine.evalTemplate origin template context
  evaluateText : ∀ origin source template, Template.parse source = .ok template →
    engine.evaluateText origin source context =
      (engine.evalTemplate origin template context).map Value.joinedText
  evaluateExpression : ∀ origin source expr, Expr.parse source = .ok expr →
    engine.evaluateExpression origin source context = engine.evalExpr origin expr context

/-- The engine evaluates by the resolver that is selected for the context. -/
theorem evaluates_by_select (engine : Engine) (context : Context) :
    engine.EvaluatesBy context ((engine.resolvers.select context).mapError .ofEvalError) where
  evalExpr _ _ := rfl
  evalTemplate _ _ := rfl
  run _ _ _ := rfl
  evaluate origin source template hparse := by
    rw [Engine.evaluate, compile_of_parse engine hparse]
    rfl
  evaluateText origin source template hparse := evaluate_text_of_parse engine hparse origin context
  evaluateExpression origin source expr hparse := by
    rw [Engine.evaluateExpression, hparse]
    rfl

/-- The resolver for evaluations in the context: the default one unless the context names another
one, which is then the one that was registered last under the name; there has to be one. -/
def chosen (default : Resolver) (registrations : List (String × Resolver)) (context : Context) :
    Except EngineError Resolver :=
  match context.resolverName with
  | none => .ok default
  | some name =>
    match Keyed.last? (· == name) registrations with
    | some resolver => .ok resolver
    | none => .error (.runtime (.unknownResolver name))

/-- After registrations with a new engine, it evaluates by the chosen resolver. -/
theorem evaluates_by_chosen (host : Host) (default : Resolver) (options : EngineOptions)
    (registrations : List (String × Resolver)) (context : Context) :
    (registerAll ⟨host, ⟨default, []⟩, options⟩ registrations).EvaluatesBy context
      (chosen default registrations context) := by
  let engine := registerAll ⟨host, ⟨default, []⟩, options⟩ registrations
  have hchoice : (engine.resolvers.select context).mapError .ofEvalError =
      chosen default registrations context := by
    unfold Resolvers.select chosen
    cases context.resolverName with
    | none =>
        show Except.ok engine.resolvers.default = _
        rw [show engine = _ from register_all_eq _ _]
    | some name =>
        have hlookup : engine.resolvers.named.lookup name =
            Keyed.last? (· == name) registrations :=
          (lookup_register_all _ registrations name).trans Option.or_none
        dsimp only
        rw [hlookup]
        cases Keyed.last? (· == name) registrations <;> rfl
  exact hchoice ▸ evaluates_by_select engine context

/-- Whatever resolvers have been registered with an engine, the name that host data gives in any
spelling of the key of the resolver decides over all evaluations in the context of the data: they go
by the resolver that was registered last under the name, and are refused without evaluating anything
if there is none. The exception are names that are read as literals, which the default resolver is
used for. -/
theorem evaluates_by_name (host : Host) (default : Resolver) (options : EngineOptions)
    (registrations : List (String × Resolver)) {members : List (String × Json)} {name : String}
    (hname : Context.lastUnder Context.resolverKey members = some (.string name)) :
    let engine := Engine.registerAll ⟨host, ⟨default, []⟩, options⟩ registrations
    let context := engine.context (.object members)
    (¬ options.context.ReadsAsLiteral name → engine.EvaluatesBy context
      (match Keyed.last? (· == name) registrations with
        | some resolver => .ok resolver
        | none => .error (.runtime (.unknownResolver name)))) ∧
    (options.context.ReadsAsLiteral name → engine.EvaluatesBy context (.ok default)) := by
  intro engine context
  have hcontext : context = .ofHostJson options.context (.object members) := by
    show Context.ofHostJson engine.options.context _ = _
    rw [show engine = _ from register_all_eq _ _]
  have hchosen := evaluates_by_chosen host default options registrations context
  unfold chosen at hchosen
  constructor
  · intro hkept
    have hasked : context.resolverName = some name :=
      hcontext ▸ Context.resolver_name_of_kept hname hkept
    rw [hasked] at hchosen
    exact hchosen
  · intro hliteral
    have hasked : context.resolverName = none :=
      hcontext ▸ Context.resolver_name_of_literal hname hliteral
    rw [hasked] at hchosen
    exact hchosen

/-- A word is kept, no matter how its key is spelled, and finds the resolver that was registered
last under it, if there is one; a number is read as a literal, and the default resolver is used
although another one has been registered under the number. -/
theorem evaluates_by_word_but_not_by_number :
    let registrations : List (String × Resolver) :=
      [("42", .hosted "answers"), ("shouty", .hosted "answers"), ("shouty", .hosted "greeter")]
    let engine := Engine.registerAll ⟨fun _ => .standard, ⟨.standard, []⟩, {}⟩ registrations
    engine.EvaluatesBy (engine.context (.object [("__Resolver__", .string "shouty")]))
        (.ok (.hosted "greeter")) ∧
      engine.EvaluatesBy (engine.context (.object [("__resolver__", .string "quiet")]))
        (.error (.runtime (.unknownResolver "quiet"))) ∧
      engine.EvaluatesBy (engine.context (.object [("__resolver__", .string "42")]))
        (.ok .standard) := by
  intro registrations engine
  have hkept : ∀ name, (Literal.parse name).toBool = false →
      ¬ ContextOptions.ReadsAsLiteral {} name := by
    rintro name hparse ⟨-, -, literal, hliteral⟩
    rw [hliteral] at hparse
    cases hparse
  have hliteral : ContextOptions.ReadsAsLiteral {} "42" := ⟨rfl, rfl, .int 42, by cbv⟩
  have hnamed : ∀ key name, Text.lower key = Text.lower Context.resolverKey →
      Context.lastUnder Context.resolverKey [(key, Json.string name)] = some (.string name) := by
    intro key name hkey
    simp [Context.lastUnder, Keyed.last?, hkey]
  refine ⟨?_, ?_, ?_⟩
  · exact (evaluates_by_name _ _ _ registrations (hnamed "__Resolver__" "shouty" (by cbv))).1
      (hkept "shouty" (by cbv))
  · exact (evaluates_by_name _ _ _ registrations (hnamed "__resolver__" "quiet" rfl)).1
      (hkept "quiet" (by cbv))
  · exact (evaluates_by_name _ _ _ registrations (hnamed "__resolver__" "42" rfl)).2 hliteral

end Engine

end TextTemplate
