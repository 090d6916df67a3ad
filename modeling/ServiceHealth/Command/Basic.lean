import ServiceHealth.Execution.Readiness
import ServiceHealth.Execution.Run
import ServiceHealth.Settings.Resolution
import ServiceHealth.Step.Standard

/-!
# Commands

A command runs feature files, finds out whether the service answers, or lists the
steps.  It succeeds, it fails, or an error stops it.  A run goes through its stages
in a fixed order: the settings, the registry, the service, the files, the summary.
-/

namespace ServiceHealth

open Execution (Runner)
open Report (Entry)
open Step (Registry Session)

/-- What the program is asked to do. -/
inductive Command where
  | run (paths : List String) (target : Target)
  | ping (target : Target)
  | steps
  deriving DecidableEq, Repr

namespace Command

/-- The entries that list the definitions of a registry, kind by kind. -/
def listing (registry : Registry) : List Entry :=
  Step.Kind.all.flatMap fun kind =>
    .stepKind kind ::
      (registry.definitions.filter fun definition => definition.kind == kind).map fun definition =>
        .definition definition.pattern.source

/-- Runs feature files against a service that is ready, and prints the summary. -/
def runReady (files : FileSystem) (runner : Runner) (paths : List String) :
    Interaction (Except Error Bool) := do
  let outcome ← runner.executePaths files paths
  match outcome with
  | .error error => return .error error
  | .ok summary =>
    Interaction.sayAll summary.entries
    return .ok summary.success

/-- Runs feature files as soon as the service is ready. -/
def runFiles (files : FileSystem) (runner : Runner) (paths : List String) :
    Interaction (Except Error Bool) := do
  let outcome ← Execution.ready runner.session
  match outcome with
  | .error error => return .error error
  | .ok ready =>
    Interaction.say (.serviceReady ready.url ready.attempts)
    runReady files runner paths

/-- Finds out whether the service answers. -/
def pingService (session : Session) : Interaction (Except Error Bool) := do
  let outcome ← Execution.ready session
  match outcome with
  | .error error => return .error error
  | .ok ready =>
    Interaction.say (.serviceAnswered ready.url ready.attempts)
    return .ok true

/-- Does what a command asks for. -/
def perform (files : FileSystem) (environment : Environment) (verbose : Bool) :
    Command → Interaction (Except Error Bool)
  | .run paths target =>
    match Settings.resolve files environment target with
    | .error error => return .error error
    | .ok settings =>
      match Registry.standard with
      | .error error => return .error error
      | .ok registry => runFiles files ⟨⟨settings⟩, registry, verbose⟩ paths
  | .ping target =>
    match Settings.resolve files environment target with
    | .error error => return .error error
    | .ok settings => pingService ⟨settings⟩
  | .steps =>
    match Registry.standard with
    | .error error => return .error error
    | .ok registry => do
      Interaction.sayAll (listing registry)
      return .ok true

end Command

end ServiceHealth
