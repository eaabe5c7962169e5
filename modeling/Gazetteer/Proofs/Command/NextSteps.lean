import Gazetteer.Hint.Recovery
import Gazetteer.Proofs.Command.Payload

/-!
# Hints sent back

A hint in the dialect of tool calls ends in requests that an agent can send. The catalog that they
are made from has more commands than there are actions. So a step to a command that is an action is
taken as that action on the target of the step, and a step to another command is refused
(`isTakenAs_of_mem_catalog`). Hints for files and hints for areas have steps of both kinds
(`next_steps_sent_back`).
-/

namespace Gazetteer.Command

open Hint (Command Formatter NextStep Values)

/-- What a step of a hint goes on with: a command, and what the command is about. -/
structure Lead where
  command : String
  target : Option String
deriving DecidableEq, Repr

/-- How a step is taken when it is sent back: as a request for the action that its command names,
with a payload that says its target, or not at all if the command is no action. -/
def IsTakenAs (step : NextStep) (lead : Lead) : Prop :=
  step.command = lead.command ∧
    if lead.command ∈ Action.tags then
      ∃ action payload, Request.ofText step.invocation = .ok (.plain action payload) ∧
        action.tag = lead.command ∧ action.read payload = .ok ⟨none, lead.target⟩
    else Request.ofText step.invocation = .error (.unknownVariant lead.command Action.tags)

/-- Where a hint for a file leads, given the file that was probably meant. -/
def fileLeads (query : String) (best : Option String) : List Lead :=
  [⟨"find", some (Formatter.trimmed query)⟩, ⟨"suggest", some (Formatter.needle query)⟩] ++
    best.toList.flatMap (fun path => [⟨"describe", some path⟩, ⟨"context", some path⟩]) ++
    [⟨"map", none⟩]

/-- Where a hint for an area leads. -/
def areaLeads (query : String) (best : Option String) : List Lead :=
  [⟨"areas", none⟩, ⟨"area", some (best.getD "<area>")⟩,
    ⟨"suggest", some (Formatter.trimmed query)⟩]

/-- The tool call of a command is taken if the command is an action, and otherwise refused by its
name. -/
theorem isTakenAs_of_mem_catalog {c : Command} (hc : c ∈ Hint.catalog) (values : Values) :
    IsTakenAs ⟨c.name, c.summary, c.render .toolCall values⟩
      ⟨c.name, c.parameter.map (Hint.shown values)⟩ := by
  refine ⟨rfl, ?_⟩
  simp only [Command.render_toolCall (Hint.isPlain_of_mem_catalog hc)]
  split
  next hmem =>
    obtain ⟨action, -, htag⟩ := List.mem_map.1 hmem
    have hparameter := Action.parameter_of_mem_catalog hc htag
    exact ⟨action, _, Request.ofText_of_action htag, htag, Action.read_payload hparameter _⟩
  next hmem => exact Request.ofText_of_notMem hmem

/-- A step of a hint is taken as what it leads to. -/
theorem exists_step? (limit : Nat) (name : String) {parameter : Option String}
    (h : (Hint.command? name).map Command.parameter = some parameter) (values : Values) :
    ∃ step, (⟨.toolCall, limit⟩ : Formatter).step? name values = some step ∧
      IsTakenAs step ⟨name, parameter.map (Hint.shown values)⟩ := by
  obtain ⟨c, hc, rfl⟩ := Option.map_eq_some_iff.1 h
  obtain rfl : c.name = name := by simpa using List.find?_some hc
  refine ⟨⟨c.name, c.summary, c.render .toolCall values⟩, ?_, ?_⟩
  · rw [Formatter.step?, NextStep.ofCommand?, hc]
    rfl
  · exact isTakenAs_of_mem_catalog (List.mem_of_find?_eq_some hc) values

/-- A step whose parameter is given leads to what was given. -/
theorem exists_step?_given (limit : Nat) (name : String) {p : String}
    (h : (Hint.command? name).map Command.parameter = some (some p)) (value : String) :
    ∃ step, (⟨.toolCall, limit⟩ : Formatter).step? name [(p, value)] = some step ∧
      IsTakenAs step ⟨name, some value⟩ := by
  have hshown : Hint.shown [(p, value)] p = value := by simp [Hint.shown]
  have hstep := exists_step? limit name h [(p, value)]
  rwa [Option.map_some, hshown] at hstep

theorem missingFile_sent_back (limit : Nat) (query : String) (files : List String) :
    let hint := (⟨.toolCall, limit⟩ : Formatter).missingFile query files
    List.Forall₂ IsTakenAs hint.nextSteps (fileLeads query hint.didYouMean) := by
  obtain ⟨find, hfind, hfindTaken⟩ := exists_step?_given limit "find" rfl (Formatter.trimmed query)
  obtain ⟨suggest, hsuggest, hsuggestTaken⟩ :=
    exists_step?_given limit "suggest" rfl (Formatter.needle query)
  obtain ⟨map, hmap, hmapTaken⟩ := exists_step? limit "map" rfl []
  unfold Formatter.missingFile fileLeads
  cases Lookup.bestMatchBy? (Formatter.needle query) files Formatter.fileKey with
  | none =>
    simp only [hfind, hsuggest, hmap]
    exact .cons hfindTaken (.cons hsuggestTaken (.cons hmapTaken .nil))
  | some path =>
    obtain ⟨describe, hdescribe, hdescribeTaken⟩ := exists_step?_given limit "describe" rfl path
    obtain ⟨context, hcontext, hcontextTaken⟩ := exists_step?_given limit "context" rfl path
    simp only [hfind, hsuggest, hmap, hdescribe, hcontext]
    exact .cons hfindTaken (.cons hsuggestTaken
      (.cons hdescribeTaken (.cons hcontextTaken (.cons hmapTaken .nil))))

theorem missingArea_sent_back (limit : Nat) (query : String) (areas : List (String × Nat)) :
    let hint := (⟨.toolCall, limit⟩ : Formatter).missingArea query areas
    List.Forall₂ IsTakenAs hint.nextSteps (areaLeads query hint.didYouMean) := by
  obtain ⟨all, hall, hallTaken⟩ := exists_step? limit "areas" rfl []
  obtain ⟨suggest, hsuggest, hsuggestTaken⟩ :=
    exists_step?_given limit "suggest" rfl (Formatter.trimmed query)
  unfold Formatter.missingArea areaLeads
  cases (Lookup.bestMatchBy? query areas Prod.fst).map Prod.fst with
  | none =>
    obtain ⟨area, harea, hareaTaken⟩ := exists_step? limit "area" rfl []
    simp only [hall, hsuggest, Option.map_none, Option.toList_none, harea]
    exact .cons hallTaken (.cons hareaTaken (.cons hsuggestTaken .nil))
  | some id =>
    obtain ⟨area, harea, hareaTaken⟩ := exists_step?_given limit "area" rfl id
    simp only [hall, hsuggest, Option.map_some, Option.toList_some, harea]
    exact .cons hallTaken (.cons hareaTaken (.cons hsuggestTaken .nil))

theorem command_mem_tags_iff (query : String) (best best' : Option String) :
    ∀ lead ∈ fileLeads query best ++ areaLeads query best',
      lead.command ∈ Action.tags ↔ lead.command ≠ "suggest" ∧ lead.command ≠ "context" := by
  have htags : Action.tags =
      ["map", "areas", "area", "find", "describe", "cache_status", "cache_clear"] := rfl
  cases best <;> simp [fileLeads, areaLeads, htags]

/-- Every step of a hint is taken as what it leads to, whatever the query and the candidates. The
steps that are refused are those to `suggest` and to `context`. -/
theorem next_steps_sent_back (limit : Nat) (query : String) (files : List String)
    (areas : List (String × Nat)) :
    let formatter : Formatter := ⟨.toolCall, limit⟩
    let forFile := formatter.missingFile query files
    let forArea := formatter.missingArea query areas
    let fileLeads := fileLeads query forFile.didYouMean
    let areaLeads := areaLeads query forArea.didYouMean
    List.Forall₂ IsTakenAs forFile.nextSteps fileLeads ∧
      List.Forall₂ IsTakenAs forArea.nextSteps areaLeads ∧
      ∀ lead ∈ fileLeads ++ areaLeads,
        lead.command ∈ Action.tags ↔ lead.command ≠ "suggest" ∧ lead.command ≠ "context" :=
  ⟨missingFile_sent_back limit query files, missingArea_sent_back limit query areas,
    command_mem_tags_iff query _ _⟩

example : ((Formatter.ofDialect .toolCall).missingArea "crt" [("cart", 2)]).nextSteps.map
    NextStep.invocation = ["\x7b\"action\":\"areas\",\"payload\":\x7b\x7d\x7d",
      "\x7b\"action\":\"area\",\"payload\":\x7b\"area\":\"cart\"\x7d\x7d",
      "\x7b\"action\":\"suggest\",\"payload\":\x7b\"query\":\"crt\"\x7d\x7d"] := by
  decide +kernel

/-- The hint for a file that nothing is like advises a step that no action takes. -/
theorem exists_refused_next_step :
    ∃ step ∈ ((Formatter.ofDialect .toolCall).missingFile "x" []).nextSteps,
      step.command = "suggest" ∧
      step.invocation = "\x7b\"action\":\"suggest\",\"payload\":\x7b\"query\":\"x\"\x7d\x7d" ∧
      Request.ofText step.invocation = .error (.unknownVariant "suggest"
        ["map", "areas", "area", "find", "describe", "cache_status", "cache_clear"]) := by
  let c : Command := ⟨"suggest", "Files worth reading for a task description.", some "query"⟩
  have hc : c ∈ Hint.catalog := by decide
  let step : NextStep := ⟨c.name, c.summary, c.render .toolCall [("query", "x")]⟩
  have hstep : step ∈ ((Formatter.ofDialect .toolCall).missingFile "x" []).nextSteps := by
    decide
  have htext :
      step.invocation = "\x7b\"action\":\"suggest\",\"payload\":\x7b\"query\":\"x\"\x7d\x7d" := by
    decide
  exact ⟨step, hstep, rfl, htext, (isTakenAs_of_mem_catalog hc _).2⟩

end Gazetteer.Command
