import ServiceHealth.Step.Arguments
import ServiceHealth.Step.World
import ServiceHealth.Text.Blank

/-!
# Definitions of steps and their registry

A definition binds a pattern of one kind to a handler.  A handler is a check,
which reads the world of the scenario, or an action, which may send requests and
change the world.  A registry holds definitions in the order in which they
were registered, each kind and pattern once.  A line resolves to the only
definition of its kind that it matches, with its arguments.
-/

namespace ServiceHealth.Step

/-- What a step does. -/
inductive Handler where
  /-- A check reads the world and cannot change it. -/
  | check (verdict : World → Arguments → Except Error Unit)
  /-- An action sends requests and may change the world, whether it fails or not. -/
  | action (perform : World → Arguments → Interaction Conclusion)

namespace Handler

/-- The sort of a handler in words. -/
def sort : Handler → String
  | .check _ => "Check"
  | .action _ => "Action"

/-- Executes a handler: a check leaves the world as it is. -/
def invoke (handler : Handler) (world : World) (arguments : Arguments) :
    Interaction Conclusion :=
  match handler with
  | .check verdict => pure ⟨verdict world arguments, world⟩
  | .action perform => perform world arguments

end Handler

/-- The definition of a step. -/
structure Definition where
  kind : Kind
  pattern : Pattern
  handler : Handler

/-- The arguments that a line gives to a definition that it matches. -/
def Definition.argumentsOf (definition : Definition) (pieces : List (List Char)) :
    Except Error Arguments :=
  Argument.ofPieces definition.pattern.slots pieces

/-- The definition is of the kind and the text matches its pattern. -/
def Definition.applies (definition : Definition) (kind : Kind) (text : String) : Bool :=
  definition.kind == kind && definition.pattern.accepts text

/-- A definition and the arguments for it. -/
structure Bound where
  definition : Definition
  arguments : Arguments

/-- Definitions in the order in which they were registered. -/
structure Registry where
  definitions : List Definition

namespace Registry

/-- The registry without definitions. -/
def empty : Registry := ⟨[]⟩

/-- The registry has a definition of this kind with this pattern. -/
def has (registry : Registry) (kind : Kind) (source : String) : Bool :=
  registry.definitions.any fun definition =>
    definition.kind == kind && definition.pattern.source == source

/-- Adds a definition at the end. -/
def register (registry : Registry) (kind : Kind) (source : String) (handler : Handler) :
    Except Error Registry :=
  if registry.has kind source then .error (.setup (.alreadyRegistered kind source))
  else
    match Pattern.read source with
    | .error error => .error error
    | .ok pattern => .ok ⟨registry.definitions ++ [⟨kind, pattern, handler⟩]⟩

/-- Adds definitions one after another. -/
def addAll (registry : Registry) (entries : List (Kind × String × Handler)) :
    Except Error Registry :=
  entries.foldlM (fun registry (kind, source, handler) => registry.register kind source handler)
    registry

/-- The definitions that a text of this kind matches. -/
def candidates (registry : Registry) (kind : Kind) (text : String) : List Definition :=
  registry.definitions.filter (·.applies kind text)

/-- The definition of a line and its arguments.  Blanks around the text and the
keyword do not matter. -/
def resolve (registry : Registry) (kind : Kind) (keyword text : String) : Except Error Bound :=
  let text := Text.trim text
  match registry.candidates kind text with
  | [] => .error (Error.undefined keyword text)
  | [definition] => do
    let arguments ← definition.argumentsOf ((definition.pattern.match? text).getD [])
    return ⟨definition, arguments⟩
  | several => .error (.ambiguousStep text (several.map (·.pattern.source)))

end Registry

end ServiceHealth.Step
