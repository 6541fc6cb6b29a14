import TextTemplate.Eval.Error

/-!
# Resolvers

The resolvers that an engine knows. A context may name a registered one, and `Resolvers.select` never
falls back on the default for a name that is not registered.
-/

namespace TextTemplate

/-- The resolvers of an engine: the default one, and those that a context can ask for. -/
structure Resolvers where
  default : Resolver
  /-- The registered resolvers, the latest first. -/
  named : List (String × Resolver)

namespace Resolvers

/-- Registers a resolver under a name, in place of an earlier one. -/
def register (resolvers : Resolvers) (name : String) (resolver : Resolver) : Resolvers :=
  { resolvers with named := (name, resolver) :: resolvers.named }

/-- The resolver for an evaluation in the context. -/
def select (resolvers : Resolvers) (context : Context) : Except EvalError Resolver :=
  match context.resolverName with
  | none => .ok resolvers.default
  | some name =>
    match resolvers.named.lookup name with
    | some resolver => .ok resolver
    | none => .error (.unknownResolver name)

end Resolvers

end TextTemplate
