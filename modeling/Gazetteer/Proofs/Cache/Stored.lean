import Gazetteer.Cache.Artifact
import Gazetteer.Cache.Graph
import Gazetteer.Cache.Meta
import Gazetteer.Proofs.Area.Index
import Gazetteer.Proofs.Json.Decoding
import Gazetteer.Proofs.Text.Cutting

/-!
# What is stored can be read

The laws of the records under the cache folder: metadata, maps and import graphs are read back as
they were written. A map needs its counts to be words.
-/

namespace Gazetteer

open Json

namespace Cache.Fingerprint

theorem ofText_text (f : Fingerprint) : ofText f.text = .ok f := by
  have hdash {base : Nat} (hb : 1 < base) (hb' : base ≤ 16) (n : Nat) :
      '-' ∉ Nat.toDigits base n := Numeral.not_mem_toDigits hb hb' (by decide)
  have hblank : ∀ n, ∀ c ∈ Nat.toDigits 10 n, Text.isBlank c = false := fun n c hc =>
    Text.isBlank_eq_false_of_isDigit (Nat.isDigit_of_mem_toDigits (by decide) (by decide) hc)
  have hne : ∀ n, Nat.toDigits 10 n ≠ [] := fun n => Nat.toDigits_ne_nil
  have htrim : Text.trim f.text.toList = f.text.toList := by
    rw [text, String.toList_ofList, Numeral.decimal, Numeral.decimal, List.append_assoc]
    refine Text.trim_of_ends (fun c hc => hblank f.fileCount.toNat c ?_)
      fun c hc => hblank f.maxMtime.toNat c ?_
    · rw [List.head?_append, List.head?_eq_some_head (hne _), Option.some_or] at hc
      exact Option.some.inj hc ▸ List.head_mem (hne _)
    · have hlast := List.getLast?_eq_some_getLast (hne f.maxMtime.toNat)
      simp only [List.getLast?_append, List.getLast?_cons, hlast, Option.getD_some, Option.some_or,
        Option.some.injEq] at hc
      exact hc ▸ List.getLast_mem (hne _)
  have hsplit : Text.splitOn '-' f.text.toList = [Nat.toDigits 10 f.fileCount.toNat,
      Nat.toDigits 16 f.mtimeXor.toNat, Nat.toDigits 10 f.maxMtime.toNat] := by
    rw [text, String.toList_ofList, Numeral.decimal, Numeral.decimal, List.append_assoc,
      List.cons_append, Text.splitOn_append_cons (hdash (by decide) (by decide) _),
      Text.splitOn_append_cons (hdash (by decide) (by decide) _),
      Text.splitOn_of_not_mem (hdash (by decide) (by decide) _)]
  rw [ofText, htrim, hsplit]
  simp only [Numeral.readWord?_toDigits (by decide : 1 < 10) (by decide),
    Numeral.readWord?_toDigits (by decide : 1 < 16) (by decide)]

theorem decodes_encode {depth : Nat} (f : Fingerprint) : Decodes decoder depth f.encode f :=
  decodes_refine (decodes_string f.text) (by rw [ofText_text]; rfl)

end Cache.Fingerprint

namespace Cache.Meta

theorem decodes_encode {depth : Nat} (m : Meta) : Decodes decoder (depth + 1) m.encode m := by
  refine decodes_record (by simp) ?_
  refine Fills.seq (Fills.seq (Fills.seq (Fills.seq (Fills.map Meta.mk ?_) ?_) ?_) ?_) ?_
  · exact .withDefault_optional rfl (fun s _ => decodes_string s) nofun
  · exact .withDefault_optional rfl (fun s _ => decodes_string s) nofun
  · exact .withDefault_optional rfl (fun n _ => decodes_word n) nofun
  · exact .withDefault_optional rfl (fun n _ => decodes_word n) nofun
  · exact .withDefault_optional rfl (fun f _ => Fingerprint.decodes_encode f) nofun

theorem isExact_encode (m : Meta) : m.encode.IsExact :=
  isExact_record (by simp [Fingerprint.encode])

end Cache.Meta

/-! ## Maps -/

namespace Area.Info

theorem decodes_encode {depth : Nat} {i : Info} (h : i.fileCount < UInt64.size) :
    Decodes decoder (depth + 1) i.encode i := by
  refine decodes_record (by simp) ?_
  refine Fills.seq (Fills.seq (Fills.seq (Fills.seq (Fills.map Info.mk ?_) ?_) ?_) ?_) ?_
  · exact .required rfl (decodes_string i.id)
  · exact .required rfl (decodes_string i.name)
  · exact .optional rfl (fun s _ => decodes_string s) nofun
  · exact .required rfl (decodes_bool i.autoDetected)
  · exact .required rfl (decodes_wordOf "usize" h)

theorem isExact_encode {i : Info} (h : i.fileCount < UInt64.size) : i.encode.IsExact :=
  isExact_record (by simp [isExact_ofNat h])

end Area.Info

namespace Category

theorem tag_injective : Function.Injective tag := by
  intro c e
  cases c <;> cases e <;> simp [tag]

theorem pick_tag (c : Category) : Decoder.pick tagged c.tag = .ok c := by cases c <;> rfl

end Category

namespace MapEntry

theorem decodes_encode {depth : Nat} (e : MapEntry) : Decodes decoder (depth + 2) e.encode e := by
  refine decodes_record (by simp) ?_
  refine Fills.seq (Fills.seq (Fills.seq (Fills.map MapEntry.mk ?_) ?_) ?_) ?_
  · exact .required rfl (decodes_string e.path)
  · exact .required rfl (decodes_choice e.category.pick_tag)
  · exact .required rfl (decodes_stringSet e.areas)
  · exact .optional rfl (fun s _ => decodes_string s) nofun

theorem isExact_encode (e : MapEntry) : e.encode.IsExact :=
  isExact_record (by simp [Category.encode])

end MapEntry

namespace ProjectMap

theorem decodes_encodeCategories {depth : Nat} {counts : OrdMap Category Nat}
    (h : ∀ e ∈ counts.entries, e.2 < UInt64.size) :
    Decodes categoriesDecoder (depth + 1) (encodeCategories counts) counts := by
  obtain ⟨es, hes, hmap, hobject⟩ :=
    exists_entries_ofFields Category.tag_injective Json.ofNat counts
  have hread : Decodes (Decoder.entries (Decoder.pick Category.tagged) .count) (depth + 1)
      (encodeCategories counts) es := by
    rw [encodeCategories, hobject]
    exact decodes_entries (fun e _ => e.1.pick_tag) fun e he =>
    decodes_wordOf "usize" (h e (hes e he))
  intro source hsource
  rw [categoriesDecoder, hread source hsource]
  exact congrArg Except.ok hmap

theorem decodes_encode {depth : Nat} {m : ProjectMap} (h : m.IsCountable) :
    Decodes decoder (depth + 4) m.encode m := by
  refine decodes_record (by simp) ?_
  refine Fills.seq (Fills.seq (Fills.map ProjectMap.mk ?_) ?_) ?_
  · exact .required rfl (decodes_list fun e _ => e.decodes_encode)
  · exact .required rfl (decodes_encodeCategories h.categories)
  · exact .required rfl (decodes_list fun i hi => Area.Info.decodes_encode (h.areas i hi))

theorem isExact_encode {m : ProjectMap} (h : m.IsCountable) : m.encode.IsExact := by
  have hareas := isExact_list fun i hi => Area.Info.isExact_encode (h.areas i hi)
  have hcounts : (encodeCategories m.categories).IsExact := isExact_ofFields fun e he => by
    obtain ⟨count, hcount, rfl⟩ := List.mem_map.1 he
    exact isExact_ofNat (h.categories count hcount)
  have hfiles := isExact_list fun e (_ : e ∈ m.files) => e.isExact_encode
  exact isExact_record (by simp [hareas, hcounts, hfiles])

end ProjectMap

/-! ## Artifacts -/

namespace Cache

theorem Kind.pick_tag (k : Kind) : Decoder.pick (all.map fun k => (k.tag, k)) k.tag = .ok k := by
  cases k <;> rfl

namespace Envelope

theorem decodes_encode {α : Type} {data : Decoder α} {depth : Nat} {e : Envelope Json} {a : α}
    (hformat : e.format < UInt32.size) (h : Decodes data depth e.data a) :
    Decodes (decoder data) (depth + 1) e.encode ⟨e.format, e.kind, e.savedAt, a⟩ := by
  refine decodes_record (by simp) ?_
  refine Fills.seq (Fills.seq (Fills.seq (Fills.map Envelope.mk ?_) ?_) ?_) ?_
  · exact .required rfl (decodes_wordOf "u32" hformat)
  · exact .required rfl (decodes_choice e.kind.pick_tag)
  · exact .required rfl (decodes_word e.savedAt)
  · exact .required rfl h

theorem isExact_encode {e : Envelope Json} (hformat : e.format < UInt32.size)
    (h : e.data.IsExact) : e.encode.IsExact := by
  have hcount := isExact_ofNat (Nat.lt_trans hformat (by decide : UInt32.size < UInt64.size))
  exact isExact_record (by simp [h, hcount, Kind.encode])

end Envelope

namespace Graph

theorem decodes_encode {depth : Nat} (g : Graph) : Decodes decoder (depth + 3) g.encode g := by
  refine decodes_record (by simp) (Fills.map Graph.mk ?_)
  exact .required rfl (decodes_dict fun e _ => decodes_stringSet e.2)

theorem isExact_encode (g : Graph) : g.encode.IsExact := by
  have hedges : (dict g.edges stringSet).IsExact := isExact_dict fun e _ => isExact_stringSet e.2
  exact isExact_record (by simp [hedges])

end Graph

end Cache

/-! ## Texts of files -/

namespace Disk.Record

theorem ofContent_pretty {α : Type} {decoder : Decoder α} {v : Json} {a : α} {depth : Nat}
    (hv : v.IsExact) (hdepth : depth < 128) (h : Decodes decoder depth v a) :
    ofContent decoder (.text v.pretty) = .found a := by
  rw [ofContent, ofText, Decoder.ofText_pretty hv, h (.text 128) hdepth]

end Disk.Record

end Gazetteer
