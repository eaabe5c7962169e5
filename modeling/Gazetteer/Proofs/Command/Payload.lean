import Gazetteer.Command.Request
import Gazetteer.Proofs.Hint.Rendering

/-!
# Requests and their payloads

The payload of a request is read as the type of payload that its action takes. The request for a
command is taken exactly if the command is an action, and then its payload, where the two have a
parameter in common, says what the parameter was given.
-/

namespace Gazetteer.Command

open Json (DecodeError Decodes Fills)

/-- What a payload says: the project that it names, and what in the project is asked about. -/
structure Subject where
  project : Option String
  target : Option String
deriving DecidableEq, Repr

/-- The payload of an action, read as its type of payload. -/
def Action.read : Action → Json → Except DecodeError Subject
  | .map, payload => (MapPayload.decoder.ofValue payload).map fun p => ⟨p.project, none⟩
  | .areas, payload | .cacheStatus, payload | .cacheClear, payload =>
    (ProjectPayload.decoder.ofValue payload).map fun p => ⟨p.project, none⟩
  | .area, payload => (areaPayload.ofValue payload).map fun p => ⟨p.project, some p.target⟩
  | .find, payload => (findPayload.ofValue payload).map fun p => ⟨p.project, some p.target⟩
  | .describe, payload =>
    (describePayload.ofValue payload).map fun p => ⟨p.project, some p.target⟩

namespace Action

def tags : List String := all.map tag

theorem mem_all (a : Action) : a ∈ all := by cases a <;> decide

theorem pick_tag (a : Action) : Json.Decoder.pick (all.map fun a => (a.tag, a)) a.tag = .ok a := by
  cases a <;> rfl

theorem pick_of_notMem {name : String} (h : name ∉ tags) :
    Json.Decoder.pick (all.map fun a => (a.tag, a)) name = .error (.unknownVariant name tags) := by
  have hlookup : (all.map fun a => (a.tag, a)).lookup name = none := by
    rw [List.lookup_eq_none_iff]
    intro e he
    obtain ⟨a, ha, rfl⟩ := List.mem_map.1 he
    rw [bne_iff_ne]
    rintro rfl
    exact h (List.mem_map_of_mem ha)
  rw [Json.Decoder.pick, hlookup]
  rfl

end Action

namespace Request

variable {c : Hint.Command} {value : String → String}

theorem ofText_request (c : Hint.Command) (value : String → String) :
    Request.ofText (c.request value).compact = decoder (.text 128) (.ofJson (c.request value)) :=
  Json.Decoder.ofText_compact (c.isExact_request value)

/-- The request for a command that is an action is taken as it is. -/
theorem ofText_of_action {a : Action} (h : a.tag = c.name) :
    Request.ofText (c.request value).compact = .ok (.plain a (c.payload value)) := by
  have haction : Decodes Action.decoder 1 (.string c.name) a :=
    Json.decodes_choice (h ▸ a.pick_tag)
  have hpayload : Decodes .any 1 (c.payload value) (c.payload value) :=
    Json.decodes_any (c.canonical_payload value) (Nat.le_of_eq (c.depth_payload value))
  have hrecord : Fills record 1
      (fun name => Entries.find? name [("action", .string c.name), ("payload", c.payload value)])
      (.plain a (c.payload value)) :=
    (((Fills.required rfl haction).map _).seq (.withDefault _ rfl hpayload)).seq
      (.withDefault_absent _ rfl)
  rw [ofText_request]
  exact Json.decodes_object (c.increasing_request value) hrecord (.text 128) (by decide : 2 < 128)

/-- A command that is no action is refused by its name. -/
theorem ofText_of_notMem (h : c.name ∉ Action.tags) :
    Request.ofText (c.request value).compact = .error (.unknownVariant c.name Action.tags) := by
  have haction : (Json.RecordDecoder.memberOf "action" Action.decoder).check (.text 127)
      (.string c.name) = .error (.unknownVariant c.name Action.tags) := by
    show (Json.Decoder.pick _ c.name).map _ = _
    rw [Action.pick_of_notMem h]
    rfl
  rw [ofText_request]
  exact Json.decoder_of_error rfl rfl haction _ true

end Request

namespace Action

/-- The name of what an action is asked about. -/
def parameter : Action → Option String
  | .map | .areas | .cacheStatus | .cacheClear => none
  | .area => some "area"
  | .find => some "query"
  | .describe => some "file"

/-- The payload of a command is read as that of an action with the same parameter. -/
theorem read_payload {a : Action} {c : Hint.Command} (h : c.parameter = a.parameter)
    (value : String → String) : a.read (c.payload value) = .ok ⟨none, c.parameter.map value⟩ := by
  unfold Hint.Command.payload
  rw [h]
  cases a <;> rfl

/-- Commands that are actions have the parameters of the actions. -/
theorem parameter_of_mem_catalog {a : Action} {c : Hint.Command} (hc : c ∈ Hint.catalog)
    (h : a.tag = c.name) : c.parameter = a.parameter := by
  have hall : ∀ c ∈ Hint.catalog, ∀ a ∈ all, a.tag = c.name → c.parameter = a.parameter := by
    decide
  exact hall c hc a a.mem_all h

end Action
end Gazetteer.Command
