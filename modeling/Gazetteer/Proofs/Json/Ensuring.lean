import Gazetteer.Proofs.Json.Decoding

/-!
# What a decoder ensures

Whatever a draft holds, a value that a decoder reads from it is in the range of the decoder.
`Ensures` says so and passes through lists, maps and records, field by field. A value that is read
from a text is not nested deeper than the text has room for (`any_text_eq_ok_iff`).
-/

namespace Gazetteer.Json

/-- Every value that a decoder reads has a property. -/
def Ensures {α : Type} (decoder : Decoder α) (P : α → Prop) : Prop :=
  ∀ source draft a, decoder source draft = .ok a → P a

section

variable {α β κ : Type} {decoder : Decoder α} {P : α → Prop}

theorem ensures_wordOf (size : Nat) (expected : String) :
    Ensures (Decoder.wordOf size expected) (· < size) := by
  intro source draft n h
  unfold Decoder.wordOf at h
  split at h
  · split at h
    next hrange =>
      cases h
      omega
    next => cases h
  · cases h

theorem exists_of_bind_eq_ok {ε : Type} {x : Except ε α} {f : α → Except ε β} {b : β}
    (h : x >>= f = .ok b) : ∃ a, x = .ok a ∧ f a = .ok b := by
  cases x with
  | error e => cases h
  | ok a => exact ⟨a, rfl, h⟩

theorem exists_of_mem_mapM {ε : Type} {f : α → Except ε β} {items : List α} {results : List β}
    (h : items.mapM f = .ok results) : ∀ b ∈ results, ∃ a ∈ items, f a = .ok b := by
  induction items generalizing results with
  | nil =>
    cases h
    exact fun b hb => absurd hb List.not_mem_nil
  | cons item items ih =>
    rw [List.mapM_cons] at h
    obtain ⟨first, hfirst, h⟩ := exists_of_bind_eq_ok h
    obtain ⟨rest, hrest, h⟩ := exists_of_bind_eq_ok h
    cases h
    intro b hb
    rcases List.mem_cons.1 hb with rfl | hb
    · exact ⟨item, List.mem_cons_self, hfirst⟩
    · obtain ⟨a, ha, hab⟩ := ih hrest b hb
      exact ⟨a, List.mem_cons_of_mem _ ha, hab⟩

theorem eq_of_unlessOpen {closed : Bool} {a b : α} (h : Decoder.unlessOpen closed a = .ok b) :
    a = b := by
  unfold Decoder.unlessOpen at h
  split at h
  · exact Except.ok.inj h
  · cases h

theorem Ensures.list (h : Ensures decoder P) : Ensures decoder.list fun as => ∀ a ∈ as, P a := by
  intro source draft as hread a ha
  unfold Decoder.list at hread
  split at hread
  · obtain ⟨inside, -, hread⟩ := exists_of_bind_eq_ok hread
    obtain ⟨items, hitems, hread⟩ := exists_of_bind_eq_ok hread
    obtain rfl := eq_of_unlessOpen hread
    obtain ⟨item, -, hitem⟩ := exists_of_mem_mapM hitems a ha
    exact h inside item a hitem
  · cases hread

theorem Ensures.entries {key : String → Except DecodeError κ} (h : Ensures decoder P) :
    Ensures (Decoder.entries key decoder) fun es => ∀ e ∈ es, P e.2 := by
  intro source draft es hread e he
  unfold Decoder.entries at hread
  split at hread
  · obtain ⟨inside, -, hread⟩ := exists_of_bind_eq_ok hread
    obtain ⟨items, hitems, hread⟩ := exists_of_bind_eq_ok hread
    obtain rfl := eq_of_unlessOpen hread
    obtain ⟨⟨name, value⟩, -, hitem⟩ := exists_of_mem_mapM hitems e he
    cases name with
    | none => cases hitem
    | some name =>
      obtain ⟨k, -, hitem⟩ := exists_of_bind_eq_ok hitem
      obtain ⟨a, ha, hitem⟩ := exists_of_bind_eq_ok hitem
      cases hitem
      exact h inside value a ha
  · cases hread

theorem Ensures.ofDraft (h : Ensures decoder P) {draft : Draft} {rest : List Char} {a : α}
    (hread : decoder.ofDraft draft rest = .ok a) : P a := by
  obtain ⟨b, hb, hread⟩ := exists_of_bind_eq_ok hread
  split at hread
  · obtain rfl := Except.ok.inj hread
    exact h _ _ _ hb
  · cases hread

end

/-! ## Records -/

namespace RecordDecoder

variable {α β : Type} {content : Decoder α} {P : α → Prop}

/-- Every record that is put together has a property. -/
def Ensures {α : Type} (record : RecordDecoder α) (P : α → Prop) : Prop :=
  ∀ source filling a, record.assemble source filling = .ok a → P a

theorem ensures_any (record : RecordDecoder α) : record.Ensures fun _ => True :=
  fun _ _ _ _ => trivial

theorem Ensures.required (name : String) (h : Json.Ensures content P) :
    (RecordDecoder.required name content).Ensures P := by
  intro source filling a hread
  simp only [RecordDecoder.required] at hread
  split at hread
  · exact h source _ a hread
  · cases hread

theorem Ensures.pure {a : α} (h : P a) : Ensures (Pure.pure a) P := by
  intro source filling b hread
  cases hread
  exact h

/-- A record has a property if its last field leads to it whatever the others are. -/
theorem Ensures.seq {f : RecordDecoder (α → β)} {x : RecordDecoder α} {Q : β → Prop}
    (hx : x.Ensures P) (hf : f.Ensures fun g => ∀ a, P a → Q (g a)) : (f <*> x).Ensures Q := by
  intro source filling b hread
  have hread : (do
      let g ← f.assemble source filling
      let a ← x.assemble source filling
      return g a) = Except.ok b := hread
  obtain ⟨g, hg, hread⟩ := exists_of_bind_eq_ok hread
  obtain ⟨a, ha, hread⟩ := exists_of_bind_eq_ok hread
  cases hread
  exact hf source filling g hg a (hx source filling a ha)

theorem Ensures.map {g : α → β} {x : RecordDecoder α} {Q : β → Prop} (hx : x.Ensures P)
    (hQ : ∀ a, P a → Q (g a)) : Ensures (g <$> x) Q := Ensures.seq hx (.pure hQ)

theorem Ensures.decoder {record : RecordDecoder α} (type : String) (h : record.Ensures P) :
    Json.Ensures (record.decoder type) P := by
  intro source draft a hread
  unfold RecordDecoder.decoder at hread
  split at hread
  · obtain ⟨inside, -, hread⟩ := exists_of_bind_eq_ok hread
    obtain ⟨-, -, hread⟩ := exists_of_bind_eq_ok hread
    split at hread
    · cases hread
    · exact h _ _ a hread
  · obtain ⟨inside, -, hread⟩ := exists_of_bind_eq_ok hread
    obtain ⟨-, -, hread⟩ := exists_of_bind_eq_ok hread
    simp only at hread
    split at hread
    · cases hread
    · obtain ⟨b, hb, hread⟩ := exists_of_bind_eq_ok hread
      split at hread
      · cases hread
      · cases hread
        exact h _ _ a hb
  · cases hread

end RecordDecoder

/-! ## Values of any kind -/

theorem Source.exists_room_of_inside {room : Nat} {inner : Source}
    (h : (Source.text room).inside = .ok inner) :
    ∃ left, room = left + 2 ∧ inner = .text (left + 1) := by
  simp only [Source.inside] at h
  split at h
  · cases h
  next hroom =>
    cases h
    exact ⟨room - 2, by omega, by congr 1; omega⟩

mutual

theorem depth_le_of_any {room : Nat} : ∀ {v w : Json},
    Decoder.any (.text (room + 1)) (.ofJson v) = .ok w → v.depth ≤ room
  | .null, _, _ | .bool _, _, _ | .number _, _, _ | .string _, _, _ => Nat.zero_le _
  | .array items, _, h => by
    rw [Draft.ofJson, Decoder.any] at h
    obtain ⟨inner, hinside, hread⟩ := exists_of_bind_eq_ok h
    obtain ⟨left, hroom, rfl⟩ := Source.exists_room_of_inside hinside
    obtain rfl := Nat.succ.inj hroom
    obtain ⟨results, hitems, -⟩ := exists_of_bind_eq_ok hread
    exact Nat.succ_le_succ (itemsDepth_le_of_anyItems hitems)
  | .object fields, _, h => by
    rw [Draft.ofJson, Decoder.any] at h
    obtain ⟨inner, hinside, hread⟩ := exists_of_bind_eq_ok h
    obtain ⟨left, hroom, rfl⟩ := Source.exists_room_of_inside hinside
    obtain rfl := Nat.succ.inj hroom
    obtain ⟨results, hfields, -⟩ := exists_of_bind_eq_ok hread
    exact Nat.succ_le_succ (fieldsDepth_le_of_anyFields hfields)

theorem itemsDepth_le_of_anyItems {room : Nat} : ∀ {items results : List Json},
    Decoder.anyItems (.text (room + 1)) (Draft.ofItems items) = .ok results →
      itemsDepth items ≤ room
  | [], _, _ => Nat.zero_le _
  | item :: items, _, h => by
    rw [Draft.ofItems, Decoder.anyItems] at h
    obtain ⟨first, hfirst, h⟩ := exists_of_bind_eq_ok h
    obtain ⟨rest, hrest, -⟩ := exists_of_bind_eq_ok h
    exact Nat.max_le.2 ⟨depth_le_of_any hfirst, itemsDepth_le_of_anyItems hrest⟩

theorem fieldsDepth_le_of_anyFields {room : Nat} : ∀ {fields results : List (String × Json)},
    Decoder.anyFields (.text (room + 1)) (Draft.ofFields fields) = .ok results →
      fieldsDepth fields ≤ room
  | [], _, _ => Nat.zero_le _
  | (_, value) :: fields, _, h => by
    rw [Draft.ofFields, Decoder.anyFields] at h
    obtain ⟨first, hfirst, h⟩ := exists_of_bind_eq_ok h
    obtain ⟨rest, hrest, -⟩ := exists_of_bind_eq_ok h
    exact Nat.max_le.2 ⟨depth_le_of_any hfirst, fieldsDepth_le_of_anyFields hrest⟩

end

/-- A text is read as the value that it shows exactly if it has room for the depth of the value. -/
theorem any_text_eq_ok_iff {room : Nat} {v : Json} (hv : v.Canonical) :
    Decoder.any (.text (room + 1)) (.ofJson v) = .ok v ↔ v.depth ≤ room :=
  ⟨depth_le_of_any, fun hdepth => decodes_any hv hdepth (.text (room + 1)) (Nat.lt_succ_self room)⟩

end Gazetteer.Json
