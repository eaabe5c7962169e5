import Gazetteer.Command.Output
import Gazetteer.Hint.Recovery

/-!
# Text for readers

The lines in which the data of each action is shown on a terminal.
-/

namespace Gazetteer.CommandLine

open Command

/-- A text filled up with spaces on its right. -/
def padRight (width : Nat) (s : String) : String :=
  s ++ String.ofList (List.replicate (width - s.length) ' ')

/-- A text filled up with spaces on its left. -/
def padLeft (width : Nat) (s : String) : String :=
  String.ofList (List.replicate (width - s.length) ' ') ++ s

def commaSeparated (items : List String) : String := ", ".intercalate items

def labelled (e : MapEntry) : String := e.path ++ "  [" ++ e.category.label ++ "]"

def mapLines (m : ProjectMap) : List String :=
  (toString m.files.length ++ " files, " ++ toString m.areas.length ++ " areas") ::
    (m.categories.entries.map fun (c, n) => "  " ++ padRight 12 c.label ++ " " ++ toString n) ++
    "" :: m.files.map fun e =>
      let areas := e.areas.toList
      if areas.isEmpty then labelled e else labelled e ++ "  " ++ commaSeparated areas

def areasLines (o : AreasOutput) : List String :=
  if o.areas.isEmpty then ["No areas detected."]
  else o.areas.map fun a =>
    padRight 20 a.id ++ " " ++ padLeft 5 (toString a.fileCount) ++ " files  " ++ a.name ++
      if a.autoDetected then " (inferred)" else ""

def areaLines (o : AreaOutput) : List String :=
  (o.area.name ++ " (" ++ o.area.id ++ "): " ++ toString o.area.fileCount ++ " files") ::
    o.area.description.toList ++ o.files.map fun e => "  " ++ labelled e

def findLines (o : FindOutput) : List String := [o.path]

/-- A line for a list, unless it is empty. -/
def listLine (heading : String) (items : List String) : List String :=
  if items.isEmpty then [] else ["  " ++ heading ++ ": " ++ commaSeparated items]

def describeLines (o : DescribeOutput) : List String :=
  [o.path, "  category: " ++ o.category.label] ++ listLine "areas" o.areas.toList ++
    (o.description.map fun text => "  " ++ text).toList ++ listLine "imports" o.imports ++
    listLine "imported by" o.importedBy

def cacheStatusLines (o : CacheStatusOutput) : List String :=
  let state :=
    if o.fresh then ["fresh (" ++ o.fingerprint ++ ")"]
    else
      ["stale: " ++ commaSeparated (o.reasons.map Cache.StaleReason.describe),
        "  current: " ++ o.fingerprint] ++
        (o.storedFingerprint.map fun stored => "  stored:  " ++ stored).toList
  state ++ ["  cache: " ++ o.cacheFolder]

def cacheClearLines (o : CacheClearOutput) : List String :=
  ["Cleared " ++ o.cacheFolder ++ " (" ++ commaSeparated o.hooks ++ ")"]

end Gazetteer.CommandLine
