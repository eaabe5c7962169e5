import Gazetteer.Json.Encode
import Gazetteer.Json.Record
import Gazetteer.Proofs.Json.Reading
import Gazetteer.Proofs.Ordered.OfList
import Mathlib.Data.List.Nodup

/-!
# Decoders that read an encoding

`Decodes` ties a decoder to a value and to what the value stands for. It holds of the decoders of
scalars and passes through lists, sets and records, so the law of a record is put together from the
laws of its fields.
-/

namespace Gazetteer.Json

/-- Whether a source has room for containers nested to a depth. -/
def Source.Holds (depth : Nat) : Source → Prop
  | .text room => depth < room
  | .value => True

theorem Source.Holds.inside {depth : Nat} {source : Source} (h : source.Holds (depth + 1)) :
    ∃ inner : Source, source.inside = .ok inner ∧ inner.Holds depth := by
  cases source with
  | text room =>
    have hroom : depth + 1 < room := h
    exact ⟨.text (room - 1), if_neg (by omega), (by omega : depth < room - 1)⟩
  | value => exact ⟨.value, rfl, trivial⟩

/-- A decoder reads `a` from a value wherever there is room for the depth of the value. -/
def Decodes {α : Type} (decoder : Decoder α) (depth : Nat) (v : Json) (a : α) : Prop :=
  ∀ source : Source, source.Holds depth → decoder source (.ofJson v) = .ok a

/-! ## Scalars -/

section

variable {α β : Type} {decoder : Decoder α} {depth : Nat} {v : Json} {a : α}

theorem decodes_string (s : String) : Decodes .string depth (.string s) s := fun _ _ => rfl

theorem decodes_bool (b : Bool) : Decodes .bool depth (.bool b) b := fun _ _ => rfl

theorem decodes_wordOf {size n : Nat} (expected : String) (h : n < size) :
    Decodes (Decoder.wordOf size expected) depth (.ofNat n) n := by
  intro source _
  exact if_pos ⟨by omega, by omega⟩

theorem decodes_word (n : UInt64) : Decodes .word depth (.ofWord n) n := by
  intro source hsource
  rw [Decoder.word, Json.ofWord, decodes_wordOf "u64" n.toNat_lt source hsource]
  simp [Except.map]

theorem decodes_optional_some (h : Decodes decoder depth v a) (hv : v ≠ .null) :
    Decodes decoder.optional depth v (some a) := by
  intro source hsource
  have hdraft : decoder.optional source (.ofJson v) = (decoder source (.ofJson v)).map some := by
    cases v <;> first | exact absurd rfl hv | rfl
  rw [hdraft, h source hsource]
  rfl

theorem decodes_refine {f : α → Except String β} {b : β} (h : Decodes decoder depth v a)
    (hf : f a = .ok b) : Decodes (decoder.refine f) depth v b := by
  intro source hsource
  rw [Decoder.refine, h source hsource]
  simp only [bind, Except.bind, hf]

theorem decodes_choice {choices : List (String × α)} {name : String}
    (h : Decoder.pick choices name = .ok a) :
    Decodes (Decoder.choice choices) depth (.string name) a :=
  fun _ _ => h

/-! ## Lists and sets -/

theorem mapM_map_eq_ok {ε γ : Type} {f : α → Except ε β} {items : List γ} (input : γ → α)
    (output : γ → β) (h : ∀ i ∈ items, f (input i) = .ok (output i)) :
    (items.map input).mapM f = .ok (items.map output) := by
  induction items with
  | nil => rfl
  | cons i items ih =>
    have hrest := ih fun j hj => h j (List.mem_cons_of_mem i hj)
    rw [List.map_cons, List.mapM_cons, h i List.mem_cons_self, hrest]
    rfl

theorem ofItems_eq_map (items : List Json) : Draft.ofItems items = items.map .ofJson := by
  induction items with
  | nil => rfl
  | cons item items ih => rw [Draft.ofItems, ih, List.map_cons]

theorem ofFields_eq_map (fields : List (String × Json)) :
    Draft.ofFields fields = fields.map fun e => (some e.1, .ofJson e.2) := by
  induction fields with
  | nil => rfl
  | cons e fields ih => rw [Draft.ofFields, ih, List.map_cons]

theorem decodes_list {encode : α → Json} {as : List α}
    (h : ∀ a ∈ as, Decodes decoder depth (encode a) a) :
    Decodes decoder.list (depth + 1) (.list as encode) as := by
  intro source hsource
  obtain ⟨inner, hinside, hinner⟩ := hsource.inside
  have hitems : (Draft.ofItems (as.map encode)).mapM (decoder inner) = .ok as := by
    have hall := mapM_map_eq_ok (Draft.ofJson ∘ encode) id
      fun a ha => h a ha inner hinner
    rwa [List.map_id, ← List.map_map, ← ofItems_eq_map] at hall
  rw [list, Draft.ofJson, Decoder.list, hinside]
  simp only [bind, Except.bind, hitems]
  rfl

end

theorem OrdSet.ofList_toList (s : OrdSet String) : OrdSet.ofList s.toList = s :=
  OrdSet.ext_mem fun _ => OrdSet.mem_ofList

theorem decodes_stringSet {depth : Nat} (s : OrdSet String) :
    Decodes .stringSet (depth + 1) (.stringSet s) s := by
  intro source hsource
  have hlist : Decodes Decoder.string.list (depth + 1) (.list s.toList .string) s.toList :=
    decodes_list fun a _ => decodes_string a
  have hread : Decoder.stringSet source (.ofJson (.stringSet s)) =
      (Decoder.string.list source (.ofJson (.list s.toList .string))).map OrdSet.ofList := rfl
  rw [hread, hlist source hsource]
  exact congrArg Except.ok (OrdSet.ofList_toList s)

/-! ## Records -/

section

variable {α β : Type}

/-- A record decoder reads `a` from an object with these fields. -/
structure Fills (record : RecordDecoder α) (depth : Nat) (field? : String → Option Json) (a : α) :
    Prop where
  check : ∀ m ∈ record.members, ∀ v, field? m.name = some v → ∀ source : Source,
    source.Holds depth → m.check source (.ofJson v) = .ok ()
  assemble : ∀ source : Source, source.Holds depth → ∀ filling : Filling,
    filling.byName = true → (∀ name, filling.find name = (field? name).map .ofJson) →
      record.assemble source filling = .ok a

variable {depth : Nat} {field? : String → Option Json} {decoder : Decoder α} {name : String}
  {v : Json} {a : α}

theorem Fills.pure (a : α) : Fills (Pure.pure a) depth field? a :=
  ⟨fun _ h => absurd h List.not_mem_nil, fun _ _ _ _ _ => rfl⟩

theorem Fills.seq {f : RecordDecoder (α → β)} {x : RecordDecoder α} {g : α → β}
    (hf : Fills f depth field? g) (hx : Fills x depth field? a) :
    Fills (f <*> x) depth field? (g a) where
  check m hm := (List.mem_append.1 hm).elim (hf.check m) (hx.check m)
  assemble source hsource filling hname hfind := by
    have hstep : (f <*> x).assemble source filling = (do
        let g ← f.assemble source filling
        let a ← x.assemble source filling
        return g a) := rfl
    rw [hstep, hf.assemble source hsource filling hname hfind,
      hx.assemble source hsource filling hname hfind]
    rfl

theorem Fills.map {x : RecordDecoder α} (g : α → β) (hx : Fills x depth field? a) :
    Fills (g <$> x) depth field? (g a) := (Fills.pure g).seq hx

/-- A present field, whatever becomes of it when it is absent. -/
theorem Fills.check_memberOf (hv : field? name = some v) (h : Decodes decoder depth v a) :
    ∀ m ∈ [RecordDecoder.memberOf name decoder], ∀ w, field? m.name = some w →
      ∀ source : Source, source.Holds depth → m.check source (.ofJson w) = .ok () := by
  intro m hm w hw source hsource
  obtain rfl := List.mem_singleton.1 hm
  obtain rfl : v = w := Option.some.inj (hv.symm.trans hw)
  show (decoder source (.ofJson v)).map (fun _ => ()) = .ok ()
  rw [h source hsource]
  rfl

theorem Fills.required (hv : field? name = some v) (h : Decodes decoder depth v a) :
    Fills (.required name decoder) depth field? a where
  check := check_memberOf hv h
  assemble source hsource filling _ hfind := by
    have hname : filling.find name = some (.ofJson v) := by rw [hfind, hv]; rfl
    simp only [RecordDecoder.required, hname, h source hsource]

theorem Fills.withDefault (default : α) (hv : field? name = some v)
    (h : Decodes decoder depth v a) :
    Fills (.withDefault name default decoder) depth field? a where
  check := check_memberOf hv h
  assemble source hsource filling _ hfind := by
    have hname : filling.find name = some (.ofJson v) := by rw [hfind, hv]; rfl
    simp only [RecordDecoder.withDefault, hname, h source hsource]

theorem Fills.withDefault_absent (default : α) (hv : field? name = none) :
    Fills (.withDefault name default decoder) depth field? default where
  check m hm w hw := by
    obtain rfl := List.mem_singleton.1 hm
    exact absurd (hv.symm.trans hw) nofun
  assemble source _ filling _ hfind := by
    have hname : filling.find name = none := by rw [hfind, hv]; rfl
    simp only [RecordDecoder.withDefault, hname]

/-- A field that is left out when there is nothing to say. -/
theorem Fills.withDefault_optional {x? : Option α} {encode : α → Json}
    (hv : field? name = x?.map encode) (h : ∀ x, x? = some x → Decodes decoder depth (encode x) x)
    (hnull : ∀ x, encode x ≠ .null) :
    Fills (.withDefault name none decoder.optional) depth field? x? := by
  cases x? with
  | some x => exact .withDefault none hv (decodes_optional_some (h x rfl) (hnull x))
  | none => exact .withDefault_absent none hv

theorem Fills.optional {x? : Option α} {encode : α → Json} (hv : field? name = x?.map encode)
    (h : ∀ x, x? = some x → Decodes decoder depth (encode x) x) (hnull : ∀ x, encode x ≠ .null) :
    Fills (.optional name decoder) depth field? x? := by
  cases x? with
  | some x =>
    have hsome := decodes_optional_some (h x rfl) (hnull x)
    refine ⟨check_memberOf hv hsome, fun source hsource filling _ hfind => ?_⟩
    have hname : filling.find name = some (.ofJson (encode x)) := by rw [hfind, hv]; rfl
    simp only [RecordDecoder.optional, hname, hsome source hsource]
  | none =>
    refine ⟨fun m hm w hw => ?_, fun source _ filling hbyName hfind => ?_⟩
    · obtain rfl := List.mem_singleton.1 hm
      exact absurd (hv.symm.trans hw) nofun
    · have hname : filling.find name = none := by rw [hfind, hv]; rfl
      simp only [RecordDecoder.optional, hname, hbyName, if_true]

/-! ### The fields of an encoded record -/

theorem fieldNamed_ofFields (fields : List (String × Json)) (name : String) :
    RecordDecoder.fieldNamed (Draft.ofFields fields) name =
      (Entries.find? name fields).map .ofJson := by
  induction fields with
  | nil => rfl
  | cons field fields ih =>
    obtain ⟨key, w⟩ := field
    rw [RecordDecoder.fieldNamed] at ih
    by_cases h : name = key
    · subst h
      simp [RecordDecoder.fieldNamed, Draft.ofFields, Entries.find?]
    · have hbeq : (some name == some key) = false := by simp [h]
      simp [RecordDecoder.fieldNamed, Draft.ofFields, Entries.find?, List.lookup_cons, hbeq, h, ih]

mutual

theorem isSound_ofJson : ∀ v : Json, (Draft.ofJson v).isSound = true
  | .null | .bool _ | .number _ | .string _ => rfl
  | .array items => areSound_ofItems items
  | .object fields => fieldsAreSound_ofFields fields

theorem areSound_ofItems : ∀ items : List Json, Draft.areSound (Draft.ofItems items) = true
  | [] => rfl
  | item :: items => by
    rw [Draft.ofItems, Draft.areSound, isSound_ofJson item, areSound_ofItems items]
    rfl

theorem fieldsAreSound_ofFields :
    ∀ fields : List (String × Json), Draft.fieldsAreSound (Draft.ofFields fields) = true
  | [] => rfl
  | (name, value) :: fields => by
    rw [Draft.ofFields, Draft.fieldsAreSound, isSound_ofJson value, fieldsAreSound_ofFields fields]
    rfl

end

/-- A walk through fields with distinct names, none of them seen before, finds no fault when every
field that a record has a member for passes the check of that member. -/
theorem checkFields_ofFields {members : List Member} {source : Source} :
    ∀ {fields : List (String × Json)} {seen : List String},
      (fields.map Prod.fst).Nodup → (∀ e ∈ fields, e.1 ∉ seen) →
      (∀ m ∈ members, ∀ v, (m.name, v) ∈ fields → m.check source (.ofJson v) = .ok ()) →
        RecordDecoder.checkFields members source seen (Draft.ofFields fields) = .ok ()
  | [], _, _, _, _ => rfl
  | (name, value) :: fields, seen, hnodup, hseen, hcheck => by
    obtain ⟨hname, hrest⟩ := List.nodup_cons.1 hnodup
    rw [Draft.ofFields, RecordDecoder.checkFields]
    split
    next hfind =>
      rw [if_pos (isSound_ofJson value)]
      exact checkFields_ofFields hrest (fun e he => hseen e (List.mem_cons_of_mem _ he))
        fun m hm v hv => hcheck m hm v (List.mem_cons_of_mem _ hv)
    next m hfind =>
      obtain rfl : m.name = name := by simpa using List.find?_some hfind
      have hhere := hcheck m (List.mem_of_find?_eq_some hfind) value List.mem_cons_self
      -- The name counts as seen from here on, and no later field has it.
      rw [if_neg (hseen _ List.mem_cons_self), hhere]
      refine checkFields_ofFields hrest (fun e he => ?_)
        fun m hm v hv => hcheck m hm v (List.mem_cons_of_mem _ hv)
      rw [List.mem_cons]
      rintro (heq | hin)
      · exact hname (List.mem_map.2 ⟨e, he, heq⟩)
      · exact hseen e (List.mem_cons_of_mem _ he) hin

/-- An object whose first field is at fault is refused for it. -/
theorem decoder_of_error {record : RecordDecoder α} {type : String} {source inner : Source}
    {m : Member} {name : String} {value : Draft} {e : DecodeError}
    (hinside : source.inside = .ok inner)
    (hfind : (record.members.find? fun m => m.name = name) = some m)
    (hcheck : m.check inner value = .error e) (fields : List (Option String × Draft))
    (closed : Bool) :
    record.decoder type source (.object ((some name, value) :: fields) closed) = .error e := by
  rw [RecordDecoder.decoder, hinside]
  simp only [bind, Except.bind, RecordDecoder.checkFields, hfind, List.not_mem_nil, if_false,
    hcheck]

/-- An object with the fields of an increasing list is read field by field. -/
theorem decodes_object {record : RecordDecoder α} {type : String} {depth : Nat} {a : α}
    {fields : List (String × Json)} (hfields : Entries.Increasing fields)
    (h : Fills record depth (fun name => Entries.find? name fields) a) :
    Decodes (record.decoder type) (depth + 1) (.object fields) a := by
  intro source hsource
  obtain ⟨inner, hinside, hinner⟩ := hsource.inside
  have hnodup : (fields.map Prod.fst).Nodup :=
    List.pairwise_map.2 (hfields.imp Entries.ne_of_compare_lt)
  have hcheck :
      RecordDecoder.checkFields record.members inner [] (Draft.ofFields fields) = .ok () :=
    checkFields_ofFields hnodup (fun _ _ => List.not_mem_nil) fun m hm v hv =>
      h.check m hm v ((Entries.find?_eq_some_iff hfields).2 hv) inner hinner
  rw [Draft.ofJson, RecordDecoder.decoder, hinside]
  simp only [bind, Except.bind, hcheck, Bool.not_true, Bool.false_eq_true, if_false]
  exact h.assemble inner hinner _ rfl fun name => fieldNamed_ofFields fields name

end

/-- The object that a list of fields makes, those left out that are absent. -/
def presentFields (fields : List (String × Option Json)) : OrdMap String Json :=
  .ofList (fields.filterMap fun (name, value?) => value?.map (name, ·))

theorem record_eq_object (fields : List (String × Option Json)) :
    record fields = .object (presentFields fields).entries := rfl

theorem presentFields_concat_none (fields : List (String × Option Json)) (key : String) :
    presentFields (fields ++ [(key, none)]) = presentFields fields := by
  simp [presentFields]

theorem presentFields_concat_some (fields : List (String × Option Json)) (key : String) (v : Json) :
    presentFields (fields ++ [(key, some v)]) = (presentFields fields).insert key v := by
  simp [presentFields, OrdMap.ofList_concat]

/-- What a record holds under a name. -/
theorem find?_presentFields {fields : List (String × Option Json)}
    (h : (fields.map Prod.fst).Nodup) (name : String) :
    (presentFields fields).find? name = (fields.lookup name).join := by
  induction fields using List.reverseRecOn with
  | nil => rfl
  | append_singleton fields field ih =>
    obtain ⟨key, value?⟩ := field
    rw [List.map_append, List.nodup_append] at h
    obtain ⟨hnodup, -, hfresh⟩ := h
    -- The last field replaces nothing, since its name is new.
    have hnone : fields.lookup key = none := by
      rw [List.lookup_eq_none_iff]
      intro e he
      rw [bne_iff_ne]
      exact (hfresh e.1 (List.mem_map_of_mem he) key (List.mem_singleton.2 rfl)).symm
    have hbefore := ih hnodup
    rw [List.lookup_append]
    cases value? with
    | none =>
      rw [presentFields_concat_none, hbefore]
      by_cases hname : name = key
      · subst hname
        simp [hnone]
      · simp [List.lookup_cons, beq_eq_false_iff_ne.2 hname]
    | some v =>
      rw [presentFields_concat_some, OrdMap.find?_insert, hbefore]
      by_cases hname : name = key
      · subst hname
        simp [hnone]
      · simp [List.lookup_cons, beq_eq_false_iff_ne.2 hname, hname]

/-- A record is read back when each of its fields is. -/
theorem decodes_record {α : Type} {record : RecordDecoder α} {type : String} {depth : Nat} {a : α}
    {fields : List (String × Option Json)} (hnodup : (fields.map Prod.fst).Nodup)
    (h : Fills record depth (fun name => (fields.lookup name).join) a) :
    Decodes (record.decoder type) (depth + 1) (.record fields) a := by
  rw [record_eq_object]
  refine decodes_object (presentFields fields).increasing ?_
  have hfind : (fun name => Entries.find? name (presentFields fields).entries) =
      fun name => (fields.lookup name).join := funext (find?_presentFields hnodup)
  rwa [hfind]

/-! ## Maps -/

section

variable {κ α : Type} {key : String → Except DecodeError κ} {decoder : Decoder α} {depth : Nat}

theorem decodes_entries {encode : κ × α → String × Json} {es : List (κ × α)}
    (hkey : ∀ e ∈ es, key (encode e).1 = .ok e.1)
    (hvalue : ∀ e ∈ es, Decodes decoder depth (encode e).2 e.2) :
    Decodes (Decoder.entries key decoder) (depth + 1) (.object (es.map encode)) es := by
  intro source hsource
  obtain ⟨inner, hinside, hinner⟩ := hsource.inside
  rw [Draft.ofJson, Decoder.entries, hinside, ofFields_eq_map, List.map_map]
  simp only [bind, Except.bind]
  rw [mapM_map_eq_ok _ id]
  · rw [List.map_id]
    rfl
  · intro e he
    simp only [Function.comp, hkey e he, hvalue e he inner hinner]
    rfl

theorem decodes_dict {encode : α → Json} {m : OrdMap String α}
    (h : ∀ e ∈ m.entries, Decodes decoder depth (encode e.2) e.2) :
    Decodes decoder.dict (depth + 1) (dict m encode) m := by
  have hread : Decodes (Decoder.entries .ok decoder) (depth + 1) (dict m encode) m.entries :=
    decodes_entries (fun _ _ => rfl) h
  intro source hsource
  rw [Decoder.dict, hread source hsource]
  exact congrArg Except.ok m.ofList_entries

theorem exists_map_eq {β γ : Type} {f : β → γ} {p : β → Prop} {cs : List γ}
    (h : ∀ c ∈ cs, ∃ b, p b ∧ f b = c) : ∃ bs : List β, (∀ b ∈ bs, p b) ∧ bs.map f = cs := by
  induction cs with
  | nil => exact ⟨[], fun _ hb => absurd hb List.not_mem_nil, rfl⟩
  | cons c cs ih =>
    obtain ⟨b, hb, rfl⟩ := h c List.mem_cons_self
    obtain ⟨bs, hbs, rfl⟩ := ih fun d hd => h d (List.mem_cons_of_mem _ hd)
    exact ⟨b :: bs, List.forall_mem_cons.2 ⟨hb, hbs⟩, rfl⟩

/-- An object holds the entries of a map in the order of the names that stand for their keys. Put
together again they are the map. -/
theorem exists_entries_ofFields [Ord κ] [DecidableEq κ] [Std.TransOrd κ] [Std.LawfulEqOrd κ]
    {tag : κ → String} (htag : Function.Injective tag) (encode : α → Json) (m : OrdMap κ α) :
    ∃ es : List (κ × α), (∀ e ∈ es, e ∈ m.entries) ∧ OrdMap.ofList es = m ∧
      Json.ofFields (m.entries.map fun e => (tag e.1, encode e.2)) =
        .object (es.map fun e => (tag e.1, encode e.2)) := by
  let write (e : κ × α) : String × Json := (tag e.1, encode e.2)
  let fields := OrdMap.ofList (m.entries.map write)
  have hnodup : ((m.entries.map write).map Prod.fst).Nodup := by
    have htags := List.Nodup.map htag m.nodup_keys
    rwa [List.map_map] at htags ⊢
  have hmem : ∀ f, f ∈ fields.entries ↔ ∃ e ∈ m.entries, write e = f := fun f => by
    rw [← List.mem_map, ← OrdMap.find?_eq_some_iff, OrdMap.find?_ofList_eq_some_iff hnodup]
  -- The fields stand in the order of their names, not in that of the keys.
  obtain ⟨es, hes, hfields⟩ := exists_map_eq fun f hf => (hmem f).1 hf
  refine ⟨es, hes, OrdMap.ext_find? fun key => Option.ext fun value => ?_, congrArg _ hfields.symm⟩
  have hkeys : (es.map Prod.fst).Nodup := by
    have htags := fields.nodup_keys
    rw [← hfields, List.map_map] at htags
    exact List.Nodup.of_map tag (by rwa [List.map_map])
  rw [OrdMap.find?_ofList_eq_some_iff hkeys, OrdMap.find?_eq_some_iff]
  refine ⟨hes _, fun h => ?_⟩
  have hwritten := (hmem _).2 ⟨_, h, rfl⟩
  rw [← hfields] at hwritten
  obtain ⟨e, he, heq⟩ := List.mem_map.1 hwritten
  obtain rfl : e.1 = key := htag (congrArg Prod.fst heq)
  have hvalue := OrdMap.find?_eq_some_iff.2 (hes e he)
  rw [OrdMap.find?_eq_some_iff.2 h] at hvalue
  obtain rfl := Option.some.inj hvalue
  exact he

end

/-! ## Exactness

What an encoder writes holds no numbers but words. -/

theorem fieldsAreExact_iff {fields : List (String × Json)} :
    FieldsAreExact fields ↔ ∀ e ∈ fields, IsExact e.2 := by
  induction fields with
  | nil => simp [FieldsAreExact]
  | cons e fields ih => simp [FieldsAreExact, ih]

theorem areExact_iff {items : List Json} : AreExact items ↔ ∀ v ∈ items, IsExact v := by
  induction items with
  | nil => simp [AreExact]
  | cons v items ih => simp [AreExact, ih]

@[simp] theorem isExact_string (s : String) : IsExact (.string s) := trivial

@[simp] theorem isExact_bool (b : Bool) : IsExact (.bool b) := trivial

theorem isExact_list {α : Type} {items : List α} {encode : α → Json}
    (h : ∀ a ∈ items, IsExact (encode a)) : IsExact (.list items encode) :=
  areExact_iff.2 fun v hv => by
    obtain ⟨a, ha, rfl⟩ := List.mem_map.1 hv
    exact h a ha

@[simp] theorem isExact_stringSet (s : OrdSet String) : IsExact (.stringSet s) :=
  isExact_list fun _ _ => trivial

theorem isExact_ofNat {n : Nat} (h : n < UInt64.size) : IsExact (.ofNat n) := by
  have hn : -((UInt64.size / 2 : Nat) : Int) ≤ (n : Int) ∧ (n : Int) < UInt64.size := by omega
  exact hn

@[simp] theorem isExact_ofWord (n : UInt64) : IsExact (.ofWord n) := isExact_ofNat n.toNat_lt

theorem isExact_ofFields {fields : List (String × Json)} (h : ∀ e ∈ fields, IsExact e.2) :
    IsExact (.ofFields fields) :=
  fieldsAreExact_iff.2 fun e he => h e (OrdMap.mem_of_find?_ofList (OrdMap.find?_eq_some_iff.2 he))

theorem isExact_dict {α : Type} {m : OrdMap String α} {encode : α → Json}
    (h : ∀ e ∈ m.entries, (encode e.2).IsExact) : (dict m encode).IsExact := by
  refine fieldsAreExact_iff.2 fun e he => ?_
  obtain ⟨source, hsource, rfl⟩ := List.mem_map.1 he
  exact h source hsource

theorem isExact_record {fields : List (String × Option Json)}
    (h : ∀ e ∈ fields, ∀ v, e.2 = some v → IsExact v) : IsExact (.record fields) := by
  refine isExact_ofFields fun e he => ?_
  obtain ⟨field, hfield, hsome⟩ := List.mem_filterMap.1 he
  obtain ⟨v, hv, rfl⟩ := Option.map_eq_some_iff.1 hsome
  exact h field hfield v hv

/-! ## Values of any kind -/

mutual

/-- How deep the containers of a value are nested. -/
def depth : Json → Nat
  | .null | .bool _ | .number _ | .string _ => 0
  | .array items => itemsDepth items + 1
  | .object fields => fieldsDepth fields + 1

def itemsDepth : List Json → Nat
  | [] => 0
  | item :: items => max item.depth (itemsDepth items)

def fieldsDepth : List (String × Json) → Nat
  | [] => 0
  | (_, value) :: fields => max value.depth (fieldsDepth fields)

end

mutual

/-- A value whose objects have their fields in order is read as it is. -/
theorem decodes_any {n : Nat} : ∀ {v : Json}, v.Canonical → v.depth ≤ n → Decodes .any n v v
  | .null, _, _, _, _ | .bool _, _, _, _, _ | .number _, _, _, _, _ | .string _, _, _, _, _ => by
    rfl
  | .array items, .array hitems, hdepth, source, hsource => by
    rw [depth] at hdepth
    obtain ⟨m, rfl⟩ := Nat.exists_eq_add_one.2 (Nat.lt_of_lt_of_le (Nat.succ_pos _) hdepth)
    obtain ⟨inner, hinside, hinner⟩ := hsource.inside
    have hall := anyItems_ofItems hitems (Nat.le_of_succ_le_succ hdepth) hinner
    simp only [Draft.ofJson, Decoder.any, hinside, hall, bind, Except.bind]
    rfl
  | .object fields, .object hincreasing hfields, hdepth, source, hsource => by
    rw [depth] at hdepth
    obtain ⟨m, rfl⟩ := Nat.exists_eq_add_one.2 (Nat.lt_of_lt_of_le (Nat.succ_pos _) hdepth)
    obtain ⟨inner, hinside, hinner⟩ := hsource.inside
    have hall := anyFields_ofFields hfields (Nat.le_of_succ_le_succ hdepth) hinner
    have hobject : Json.ofFields fields = .object fields := by
      rw [Json.ofFields, OrdMap.ofList_entries ⟨fields, hincreasing⟩]
    simp only [Draft.ofJson, Decoder.any, hinside, hall, bind, Except.bind, hobject]
    rfl

theorem anyItems_ofItems {n : Nat} {source : Source} : ∀ {items : List Json},
    CanonicalItems items → itemsDepth items ≤ n → source.Holds n →
      Decoder.anyItems source (Draft.ofItems items) = .ok items
  | [], _, _, _ => rfl
  | item :: items, .cons hitem hitems, hdepth, hsource => by
    rw [itemsDepth, Nat.max_le] at hdepth
    rw [Draft.ofItems, Decoder.anyItems, decodes_any hitem hdepth.1 source hsource,
      anyItems_ofItems hitems hdepth.2 hsource]
    rfl

theorem anyFields_ofFields {n : Nat} {source : Source} : ∀ {fields : List (String × Json)},
    CanonicalFields fields → fieldsDepth fields ≤ n → source.Holds n →
      Decoder.anyFields source (Draft.ofFields fields) = .ok fields
  | [], _, _, _ => rfl
  | (name, value) :: fields, .cons hvalue hfields, hdepth, hsource => by
    rw [fieldsDepth, Nat.max_le] at hdepth
    rw [Draft.ofFields, Decoder.anyFields, decodes_any hvalue hdepth.1 source hsource,
      anyFields_ofFields hfields hdepth.2 hsource]
    rfl

end

/-- A value that is printed on one line reads back as itself. -/
theorem read?_compact {v : Json} (hexact : v.IsExact) (hcanonical : v.Canonical)
    (hdepth : v.depth < 128) : read? v.compact = some v := by
  rw [read?, Decoder.ofText_compact hexact,
    decodes_any hcanonical (Nat.le_refl _) (.text 128) hdepth]
  rfl

end Gazetteer.Json
