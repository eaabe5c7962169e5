import Gazetteer.Hint.Catalog
import Gazetteer.Lookup.Similar

/-!
# Recovery hints

What to tell someone whose reference did not resolve: the one candidate that was probably meant, or
else a list of near ones, and commands that lead on.
-/

namespace Gazetteer.Hint

/-- A command to go on with. -/
structure NextStep where
  command : String
  summary : String
  invocation : String
deriving DecidableEq, Repr

structure Recovery where
  headline : String
  didYouMean : Option String
  alternatives : List String
  nextSteps : List NextStep
deriving DecidableEq, Repr

namespace NextStep

def encode (s : NextStep) : Json :=
  .record [("command", some (.string s.command)), ("invocation", some (.string s.invocation)),
    ("summary", some (.string s.summary))]

open Json in
def record : RecordDecoder NextStep :=
  NextStep.mk <$> .required "command" .string <*> .required "summary" .string
    <*> .required "invocation" .string

def decoder : Json.Decoder NextStep := record.decoder "NextStep"

/-- The step of a command of the catalog. -/
def ofCommand? (name : String) (dialect : Dialect) (values : Values) : Option NextStep :=
  (command? name).map fun c => ⟨c.name, c.summary, c.render dialect values⟩

end NextStep

namespace Recovery

def encode (h : Recovery) : Json :=
  .record [
    ("alternatives", if h.alternatives.isEmpty then none else some (.strings h.alternatives)),
    ("did_you_mean", h.didYouMean.map .string), ("headline", some (.string h.headline)),
    ("next_steps", some (.list h.nextSteps NextStep.encode))]

open Json in
def record : RecordDecoder Recovery :=
  Recovery.mk <$> .required "headline" .string
    <*> .withDefault "did_you_mean" none Decoder.string.optional
    <*> .withDefault "alternatives" [] Decoder.string.list
    <*> .required "next_steps" NextStep.decoder.list

def decoder : Json.Decoder Recovery := record.decoder "RecoveryHint"

/-- The lines of a hint as a reader sees it. -/
def lines (h : Recovery) : List String :=
  [h.headline] ++ (h.didYouMean.map fun best => "Did you mean: " ++ best ++ "?").toList ++
    (if h.alternatives.isEmpty then []
      else "Alternatives:" :: h.alternatives.map fun a => "  - " ++ a) ++
    if h.nextSteps.isEmpty then []
    else "Next steps:" :: h.nextSteps.map fun s => "  " ++ s.invocation ++ "  # " ++ s.summary

/-- The text of a hint, each line with its end. -/
def text (h : Recovery) : String := String.join (h.lines.map (· ++ "\n"))

end Recovery

/-- Makes hints in one dialect with at most so many alternatives. -/
structure Formatter where
  dialect : Dialect
  limit : Nat
deriving DecidableEq, Repr

def defaultHintLimit : Nat := 10

def maxHintLimit : Nat := 15

namespace Formatter

def ofDialect (dialect : Dialect) : Formatter := ⟨dialect, defaultHintLimit⟩

/-- The formatter with another limit, from 1 up to `maxHintLimit`. -/
def withLimit (f : Formatter) (limit : Nat) : Formatter :=
  ⟨f.dialect, min (max limit 1) maxHintLimit⟩

def similarOptions (f : Formatter) : Lookup.SimilarOptions :=
  { Lookup.SimilarOptions.default with limit := f.limit }

def step? (f : Formatter) (name : String) (values : Values) : Option NextStep :=
  NextStep.ofCommand? name f.dialect values

def trimmed (query : String) : String := .ofList (Text.trim query.toList)

/-- The bare name that a query for a file asks for. -/
def needle (query : String) : String := .ofList (Lookup.bareName (Lookup.normalize query.toList))

def fileKey (path : String) : String := .ofList (Path.fileName path.toList)

/-- The hint for a query that no file answers. -/
def missingFile (f : Formatter) (query : String) (files : List String) : Recovery :=
  let best := Lookup.bestMatchBy? (needle query) files fileKey
  let alternatives :=
    if best.isSome then []
    else (Lookup.similarBy (needle query) files f.similarOptions fileKey).map Lookup.Scored.item
  let onBest := match best with
    | some path => [f.step? "describe" [("file", path)], f.step? "context" [("file", path)]]
    | none => []
  let steps := [f.step? "find" [("query", trimmed query)],
    f.step? "suggest" [("query", needle query)]] ++ onBest ++ [f.step? "map" []]
  ⟨"File not found: " ++ trimmed query, best, alternatives, steps.filterMap id⟩

/-- The areas nearest to a query; if none is near, those with most files. -/
def nearAreas (f : Formatter) (query : String) (areas : List (String × Nat)) :
    List (String × Nat) :=
  let near := (Lookup.similarBy query areas f.similarOptions Prod.fst).map Lookup.Scored.item
  if near.isEmpty then (areas.mergeSort fun a b => b.2 ≤ a.2).take f.limit else near

/-- The hint for a query that no area answers. Areas come with their numbers of files. -/
def missingArea (f : Formatter) (query : String) (areas : List (String × Nat)) : Recovery :=
  let best := (Lookup.bestMatchBy? query areas Prod.fst).map Prod.fst
  let alternatives :=
    if best.isSome then []
    else (f.nearAreas query areas).map fun (id, count) => id ++ " (" ++ toString count ++ " files)"
  let steps := [f.step? "areas" [], f.step? "area" (best.map fun id => ("area", id)).toList,
    f.step? "suggest" [("query", trimmed query)]]
  ⟨"Area not found: " ++ trimmed query, best, alternatives, steps.filterMap id⟩

end Formatter
end Gazetteer.Hint
