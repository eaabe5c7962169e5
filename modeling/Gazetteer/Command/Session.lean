import Gazetteer.Area.ConfigFile
import Gazetteer.Area.Resolver
import Gazetteer.Cache.Gate

/-!
# Sessions

What commands work on: the disk, and the warnings given so far. A warning never stops a command, but
a rule of a declared area that cannot be compiled does. For this a session keeps which rules were to
be compiled, and on which disk; what a run does after the first that cannot be does not happen.
-/

namespace Gazetteer.Command

open Disk (IoError Route)
open Cache (HookError ioMessage)

inductive Warning where
  | skipped (s : Area.Skipped)
  /-- A configuration that cannot be used; inference takes its place. -/
  | configReplaced (path : String) (e : Area.ConfigError)
  | configIgnored (path : String) (e : Area.ConfigError)
  | mapNotWritten (e : IoError)
  | metadataNotReset (e : IoError)
  | hookFailed (hook : String) (e : HookError)
deriving DecidableEq, Repr

def Warning.message : Warning → String
  | .skipped s => s.message
  | .configReplaced path e =>
    "Failed to read " ++ path ++ ": " ++ e.message ++ "; falling back to inferred areas"
  | .configIgnored path e => "Ignoring " ++ path ++ ": " ++ e.message
  | .mapNotWritten e => "Failed to write map cache: " ++ ioMessage e
  | .metadataNotReset e => "Failed to reset cache metadata: " ++ ioMessage e
  | .hookFailed hook e => "Invalidation hook '" ++ hook ++ "' failed: " ++ e.message

structure Session where
  disk : Disk
  /-- The warnings in the order in which they were given. -/
  warnings : List Warning
  /-- The configurations whose rules were compiled, each with the disk at that time. -/
  compiled : List (Area.Config × Disk) := []
deriving DecidableEq

namespace Session

def ofDisk (d : Disk) : Session := { disk := d, warnings := [] }

abbrev Run := StateM Session

/-- Returning a value leaves the session as it is. -/
theorem pure_eq {α : Type} (a : α) (s : Session) : (StateT.pure a : Run α) s = (a, s) := rfl

def warn (w : Warning) : Run Unit := modify fun s => { s with warnings := s.warnings ++ [w] }

/-- Warns of what has failed. -/
def warnOnError {ε α : Type} (warning : ε → Warning) : Except ε α → Run Unit
  | .ok _ => pure ()
  | .error e => warn (warning e)

def currentDisk : Run Disk := return (← get).disk

/-- Runs a computation on the disk. -/
def onDisk (f : StateM Disk α) : Run α := fun s =>
  let (a, d) := f s.disk
  (a, { s with disk := d })

/-- Runs a change of the disk that may fail. -/
def attempt (change : EStateM ε Disk α) : Run (Except ε α) := onDisk (Cache.Gate.attempt change)

/-- The resolver of a configuration, with warnings for what it leaves out. -/
def resolver (config : Area.Config) : Run Area.Resolver := do
  modify fun s => { s with compiled := s.compiled ++ [(config, s.disk)] }
  for s in Area.Resolver.skipped config do
    warn (.skipped s)
  return .ofConfig config

/-- The configuration of a project. One that cannot be used is replaced by the default, with a
warning. -/
def config (root : Route) : Run Area.Config := do
  match Area.Config.tryLoad (← currentDisk) root with
  | .ok (some c) => return c
  | .ok none => return .default
  | .error e =>
    warn (.configReplaced (Area.Config.route root).text e)
    return .default

/-- Invalidates the cache of a project, with warnings for what fails. -/
def invalidate (gate : Cache.Gate) (root : Route) (now : UInt64) : Run Cache.Invalidation := do
  let result ← onDisk (gate.invalidate root now)
  warnOnError .metadataNotReset result.reset
  for asked in result.answers do
    warnOnError (.hookFailed asked.1) asked.2
  return result

/-- The disk on which the session was stopped, if it was: there an engine was to compile rules that
it does not compile. -/
def stop? (engine : Glob.Engine Area.globRules) (s : Session) : Option Disk :=
  (s.compiled.find? fun (config, _) => !(Area.Resolver.ofConfig config).isCompiled engine).map
    Prod.snd

/-- What a run from a disk gives, and the disk that it leaves. A run that is stopped gives nothing.
-/
def complete (engine : Glob.Engine Area.globRules) (run : Run α) (d : Disk) : Option α × Disk :=
  let (a, s) := run.run (.ofDisk d)
  match s.stop? engine with
  | none => (some a, s.disk)
  | some stopped => (none, stopped)

end Session
end Gazetteer.Command
