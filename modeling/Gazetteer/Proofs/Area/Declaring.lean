import Gazetteer.Area.Resolver
import Gazetteer.Proofs.Glob.Nesting
import Gazetteer.Proofs.Json.Decoding

/-!
# Rules of declared areas

A configuration is read back from its text, with all its rules. A rule that is read as a glob has to
be compiled, and a plain text in many braces is such a rule that no engine compiles.
-/

namespace Gazetteer.Area

open Glob (Engine braced isPlain nested)
open Json

/-! ## Configurations -/

theorem Definition.decodes_encode {depth : Nat} (d : Definition) :
    Decodes decoder (depth + 2) d.encode d := by
  refine decodes_record (by simp) ?_
  refine Fills.seq (Fills.seq (Fills.map Definition.mk ?_) ?_) ?_
  · exact .withDefault_optional rfl (fun s _ => decodes_string s) nofun
  · exact .withDefault_optional rfl (fun s _ => decodes_string s) nofun
  · exact .withDefault _ rfl (decodes_list fun s _ => decodes_string s)

theorem Definition.isExact_encode (d : Definition) : d.encode.IsExact := by
  have hrules : (Json.strings d.rules).IsExact := isExact_list fun s _ => isExact_string s
  exact isExact_record (by simp [hrules])

namespace Config

theorem decodes_encode {depth : Nat} (c : Config) : Decodes decoder (depth + 4) c.encode c := by
  refine decodes_record (by simp) ?_
  refine Fills.seq (Fills.seq (Fills.seq (Fills.map Config.mk ?_) ?_) ?_) ?_
  · exact .withDefault _ rfl (decodes_dict fun e _ => e.2.decodes_encode)
  · exact .withDefault _ rfl (decodes_dict fun e _ => decodes_string e.2)
  · exact .withDefault _ rfl (decodes_list fun s _ => decodes_string s)
  · exact .withDefault _ rfl (decodes_bool c.autoDescribe)

theorem isExact_encode (c : Config) : c.encode.IsExact := by
  have hareas := isExact_dict fun e (_ : e ∈ c.areas.entries) => e.2.isExact_encode
  have htexts := isExact_dict fun e (_ : e ∈ c.descriptions.entries) => isExact_string e.2
  have hignore : (Json.strings c.ignore).IsExact := isExact_list fun s _ => isExact_string s
  exact isExact_record (by simp [hareas, htexts, hignore])

/-- A configuration is read back from its text. -/
theorem ofText_encode (c : Config) : ofText c.encode.pretty = .ok c := by
  rw [ofText, Decoder.ofText_pretty c.isExact_encode]
  exact c.decodes_encode (.text 128) (by decide : 0 + 4 < 128)

end Config

/-! ## Rules -/

/-- A plain path in braces is read as its characters in groups. -/
theorem NameRule.read_braced {n : Nat} {cs : List Char} (h : ∀ c ∈ cs, isPlain c = true)
    (hslash : '/' ∈ cs) :
    read (.ofList (braced (n + 1) cs)) = .ok (.glob ⟨nested (n + 1) (cs.map .literal)⟩) := by
  have htrim : Text.trim (braced (n + 1) cs) = braced (n + 1) cs := by
    refine Text.trim_of_ends (fun c hc => ?_) (fun c hc => ?_)
    · obtain rfl := Option.some.inj hc
      decide
    · rw [braced, List.replicate_succ' (a := '\x7d'), ← List.append_assoc, ← List.append_assoc,
        List.getLast?_concat] at hc
      obtain rfl := Option.some.inj hc
      decide
  have hwild : (braced (n + 1) cs).any (· ∈ ['/', '*', '?', '[']) = true :=
    List.any_eq_true.2 ⟨'/', by simp [braced, hslash], by decide⟩
  rw [read]
  simp only [String.toList_ofList, htrim, hwild, if_true, Glob.read, Glob.tokensOf_braced _ h]
  rfl

/-- A declared area has the rules that can be read. -/
theorem Resolver.mem_rules_declare {id : String} {d : Definition} {rule : NameRule} :
    rule ∈ (declare id d).rules ↔ ∃ raw ∈ d.rules, NameRule.read raw = .ok rule := by
  rw [declare, List.mem_filterMap]
  refine exists_congr fun raw => and_congr_right fun _ => ?_
  cases NameRule.read raw <;> simp [Except.toOption]

/-- There is no resolver exactly if a rule of a declared area is a glob that is not compiled. -/
theorem Resolver.isCompiled_ofConfig_eq_false_iff {engine : Engine globRules} {config : Config} :
    (ofConfig config).isCompiled engine = false ↔ ∃ e ∈ config.areas.entries, ∃ raw ∈ e.2.rules,
      ∃ g, NameRule.read raw = .ok (.glob g) ∧ engine.compiles g = false := by
  unfold isCompiled ofConfig
  simp only [List.all_map, List.all_eq_false, Function.comp, Bool.not_eq_true]
  refine exists_congr fun e => and_congr_right fun _ => ?_
  constructor
  · rintro ⟨rule, hrule, hrefused⟩
    obtain ⟨raw, hraw, hread⟩ := mem_rules_declare.1 hrule
    cases rule with
    | glob g => exact ⟨raw, hraw, g, hread, hrefused⟩
    | namePart part => cases hrefused
  · rintro ⟨raw, hraw, g, hread, hrefused⟩
    exact ⟨.glob g, mem_rules_declare.2 ⟨raw, hraw, hread⟩, hrefused⟩

end Gazetteer.Area
