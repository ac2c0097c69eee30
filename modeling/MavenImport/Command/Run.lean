/-
# Command.Run -- carrying out what the command line asks for

The settings and the configuration are loaded first, and with them the repositories are known.
If they cannot be loaded, this is told and the command is not run.  A command tells whether all
went well, which is what the exit status of the program says.
-/
import MavenImport.Command.Artifact
import MavenImport.Command.Options
import MavenImport.Config.Load
import MavenImport.Generate.Run

namespace MavenImport

set_option autoImplicit false

open Effect (say)
open MavenImport.Action (inspect ofExcept result)

/-- The settings file: the one that is asked for, or the default one if there is one. -/
def settingsFile (around : Surroundings) : Option Path → Action (Option Path)
  | some path => return some path
  | none => do
    let there ← inspect fun fs => fs.pathExists around.defaultSettings
    return if there then some around.defaultSettings else none

/-- The mirrors and the configuration that an invocation uses. -/
def Invocation.load (i : Invocation) (around : Surroundings) :
    Action (List Mirror × ToolConfig) := do
  let mirrors ← loadMirrors (← settingsFile around i.settings)
  let config ← loadToolConfig i.config
  return (mirrors, config)

/-- Generates the workspace of a specification file.  The workspace has the name that is asked
for, or else the configured one, or else that of its directory. -/
def GenerateOptions.run (o : GenerateOptions) (config : ToolConfig) (s : Source) :
    Action Bool := do
  let asked := Json.str (o.workspaceName.getD "")
  let name := (asked.orElse config.workspaceName).orElse (.str o.workspace.name)
  match ← ExceptT.lift (loadSpecification o.specification name) with
  | .error f =>
    say ("ERROR: Invalid config: " ++ noSpecification o.specification f)
    return false
  | .ok spec =>
    Plan.generate {
      specification := spec, workspace := o.workspace, resolver := s.resolver
      unknownPackaging := o.unknownPackaging, threads := o.threads }

def Command.run (config : ToolConfig) (s : Source) : Command → Action Bool
  | .generate o => o.run config s
  | .fetch o => fetchArtifact s o.artifact o.workspace o.package o.sha256
  | .describe artifact => describeArtifact s artifact

/-- Faults of a configuration file that are told; others stop the program. -/
def isConfigFault : Fault → Bool
  | .value (.lacks _ _) => false
  | _ => true

/-- Carries an invocation out and tells whether all went well. -/
def Invocation.run (i : Invocation) (around : Surroundings) : Action Bool := do
  match ← result (i.load around) with
  | .error f =>
    if isConfigFault f then
      say ("ERROR: Invalid config: " ++ f.message)
      return false
    else Action.fail f
  | .ok (mirrors, config) =>
    let repositories ← ofExcept .value (effectiveRepositories config mirrors)
    i.command.run config (Source.ofRepositories i.cache repositories)

/-- The exit status of the program. -/
def exitStatus (well : Bool) : Nat := if well then 0 else 1

/-- The exit status of a program that runs nothing. -/
def Arguments.Exit.status : Arguments.Exit → Nat
  | .usage => 2
  | .help => 0

end MavenImport
