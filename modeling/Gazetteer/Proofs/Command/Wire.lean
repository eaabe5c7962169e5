import Gazetteer.Command.Response
import Gazetteer.Hint.Recovery
import Gazetteer.Proofs.Cache.Stored
import Gazetteer.Proofs.Command.Payload

/-!
# Records on the wire

Requests, responses and recovery hints are read back from what they are written as. Fields may be
left out because there is nothing to say, because a list is empty or because the default holds, and
each of these comes back as what was left out. As values records are read back however deep their
payload or data is nested. As texts they are read back if the numbers in it are words and it is
nested at most 126 deep, for a text may nest one container less than 128.
-/

namespace Gazetteer

namespace Json

variable {α : Type} {decoder : Decoder α} {m n : Nat} {v : Json} {a : α}

/-! ## From values and from texts -/

theorem Source.Holds.mono {source : Source} (h : source.Holds m) (hle : n ≤ m) :
    source.Holds n := by
  cases source with
  | text room => exact Nat.lt_of_le_of_lt hle h
  | value => trivial

theorem Decodes.mono (h : Decodes decoder n v a) (hle : n ≤ m) : Decodes decoder m v a :=
  fun source hsource => h source (hsource.mono hle)

theorem Decodes.ofValue (h : Decodes decoder n v a) : decoder.ofValue v = .ok a := h .value trivial

/-- What is read from a value is read from its text, on one line or over many. -/
theorem Decodes.ofText (h : Decodes decoder n v a) (hexact : v.IsExact) (hn : n < 128) :
    decoder.ofText v.compact.toList = .ok a ∧ decoder.ofText v.pretty.toList = .ok a := by
  rw [Decoder.ofText_compact hexact, Decoder.ofText_pretty hexact]
  exact ⟨h (.text 128) hn, h (.text 128) hn⟩

/-- A list that is left out when it is empty. -/
theorem Fills.unlessEmpty {items : List α} {encode : α → Json} {field? : String → Option Json}
    {name : String} (hv : field? name = Command.unlessEmpty items encode)
    (h : ∀ a ∈ items, Decodes decoder n (encode a) a) :
    Fills (.withDefault name [] decoder.list) (n + 1) field? items := by
  cases items with
  | nil => exact .withDefault_absent [] hv
  | cons a items => exact .withDefault [] hv (decodes_list h)

theorem isExact_map {x? : Option α} {encode : α → Json}
    (h : ∀ x, x? = some x → (encode x).IsExact) :
    ∀ v, x?.map encode = some v → v.IsExact := by
  intro v hv
  obtain ⟨x, hx, rfl⟩ := Option.map_eq_some_iff.1 hv
  exact h x hx

theorem isExact_unlessEmpty {items : List α} {encode : α → Json}
    (h : ∀ a ∈ items, (encode a).IsExact) :
    ∀ v, Command.unlessEmpty items encode = some v → v.IsExact := by
  intro v hv
  unfold Command.unlessEmpty at hv
  split at hv
  · cases hv
  · cases hv
    exact isExact_list h

end Json

open Json

/-! ## Hints -/

namespace Hint

theorem NextStep.decodes_encode (s : NextStep) : Decodes decoder 1 s.encode s := by
  refine decodes_record (by simp) ?_
  refine Fills.seq (Fills.seq (Fills.map NextStep.mk ?_) ?_) ?_
  · exact .required rfl (decodes_string s.command)
  · exact .required rfl (decodes_string s.summary)
  · exact .required rfl (decodes_string s.invocation)

theorem NextStep.isExact_encode (s : NextStep) : s.encode.IsExact := isExact_record (by simp)

theorem Recovery.decodes_encode (h : Recovery) : Decodes decoder 3 h.encode h := by
  refine decodes_record (by simp) ?_
  refine Fills.seq (Fills.seq (Fills.seq (Fills.map Recovery.mk ?_) ?_) ?_) ?_
  · exact .required rfl (decodes_string h.headline)
  · exact .withDefault_optional rfl (fun s _ => decodes_string s) nofun
  · exact .unlessEmpty rfl fun s _ => decodes_string s
  · exact .required rfl (decodes_list fun s _ => s.decodes_encode)

theorem Recovery.isExact_encode (h : Recovery) : h.encode.IsExact := by
  have hsteps := isExact_list fun s (_ : s ∈ h.nextSteps) => s.isExact_encode
  have halternatives : ∀ v, Command.unlessEmpty h.alternatives .string = some v → v.IsExact :=
    isExact_unlessEmpty fun s _ => isExact_string s
  refine isExact_record ?_
  simp only [List.forall_mem_cons]
  exact ⟨halternatives, by simp, by simp, by simp [hsteps], by simp⟩

theorem Dialect.pick_tag (d : Dialect) : Decoder.pick tagged d.tag = .ok d := by cases d <;> rfl

end Hint

theorem Cache.StaleReason.pick_tag (r : StaleReason) :
    Decoder.pick (all.map fun r => (r.tag, r)) r.tag = .ok r := by cases r <;> rfl

namespace Command

/-! ## Requests -/

/-- Whether a request is one that can be made: the fields of its payload's objects stand in order,
each once, and its limit is a word. -/
structure Request.IsWire (r : Request) : Prop where
  payload : r.payload.Canonical
  limit : ∀ limit, r.options.hintLimit = some limit → limit < UInt64.size

theorem Options.decodes_encode {o : Options}
    (h : ∀ limit, o.hintLimit = some limit → limit < UInt64.size) :
    Decodes decoder 1 o.encode o := by
  refine decodes_record (by simp) ?_
  refine Fills.seq (Fills.map Options.mk ?_) ?_
  · exact .withDefault_optional rfl (fun d _ => decodes_choice d.pick_tag) nofun
  · exact .withDefault_optional rfl (fun limit hlimit => decodes_wordOf "usize" (h limit hlimit))
      nofun

theorem Request.decodes_encode {r : Request} (h : r.IsWire) (hdepth : r.payload.depth ≤ n + 1) :
    Decodes decoder (n + 2) r.encode r := by
  refine decodes_record (by simp) ?_
  refine Fills.seq (Fills.seq (Fills.map Request.mk ?_) ?_) ?_
  · exact .required rfl (decodes_choice r.action.pick_tag)
  · exact .withDefault _ rfl (decodes_any h.payload hdepth)
  · exact .withDefault _ rfl ((Options.decodes_encode h.limit).mono (by omega))

theorem Request.ofValue_encode {r : Request} (h : r.IsWire) : decoder.ofValue r.encode = .ok r :=
  (decodes_encode h (Nat.le_succ r.payload.depth)).ofValue

theorem Request.isExact_encode {r : Request} (h : r.IsWire) (hexact : r.payload.IsExact) :
    r.encode.IsExact := by
  have hoptions : r.options.encode.IsExact := by
    refine isExact_record ?_
    simp only [List.forall_mem_cons]
    exact ⟨isExact_map fun _ _ => trivial,
      isExact_map fun limit hlimit => isExact_ofNat (h.limit limit hlimit), by simp⟩
  exact isExact_record (by simp [Action.encode, hoptions, hexact])

/-! ## Responses -/

/-- Whether a response is one that can be given: the fields of its data's objects stand in order,
each once, and its number of files is a word. -/
structure Response.IsWire (r : Response) : Prop where
  data : r.data.Canonical
  files : ∀ count, r.facts.fileCount = some count → count < UInt64.size

theorem Status.pick_tag (s : Status) :
    Decoder.pick [("ok", .ok), ("not_found", .notFound), ("error", .error)] s.tag = .ok s := by
  cases s <;> rfl

theorem NoteKind.pick_tag (k : NoteKind) :
    Decoder.pick [("info", .info), ("cache", .cache), ("action", .action), ("warn", .warn)] k.tag =
      .ok k := by
  cases k <;> rfl

theorem Note.decodes_encode (n : Note) : Decodes decoder 1 n.encode n := by
  refine decodes_record (by simp) ?_
  refine Fills.seq (Fills.map Note.mk ?_) ?_
  · exact .required rfl (decodes_choice n.kind.pick_tag)
  · exact .required rfl (decodes_string n.text)

theorem Note.isExact_encode (n : Note) : n.encode.IsExact :=
  isExact_record (by simp [NoteKind.encode])

theorem Facts.decodes_encode {f : Facts}
    (h : ∀ count, f.fileCount = some count → count < UInt64.size) :
    Decodes decoder 2 f.encode f := by
  refine decodes_record (by simp) ?_
  refine Fills.seq (Fills.seq (Fills.seq (Fills.seq (Fills.seq (Fills.map Facts.mk
    ?_) ?_) ?_) ?_) ?_) ?_
  · exact .optional rfl (fun s _ => decodes_string s) nofun
  · exact .optional rfl (fun s _ => decodes_string s) nofun
  · exact .optional rfl (fun b _ => decodes_bool b) nofun
  · exact .unlessEmpty rfl fun r _ => decodes_choice r.pick_tag
  · exact .optional rfl (fun count hcount => decodes_wordOf "usize" (h count hcount)) nofun
  · exact .optional rfl (fun n _ => decodes_word n) nofun

theorem Facts.isExact_encode {f : Facts}
    (h : ∀ count, f.fileCount = some count → count < UInt64.size) : f.encode.IsExact := by
  have hreasons : ∀ v, unlessEmpty f.staleReasons Cache.StaleReason.encode = some v → v.IsExact :=
    isExact_unlessEmpty fun _ _ => trivial
  refine isExact_record ?_
  simp only [List.forall_mem_cons]
  exact ⟨isExact_map fun b _ => isExact_bool b, isExact_map fun s _ => isExact_string s,
    isExact_map fun n _ => isExact_ofWord n,
    isExact_map fun count hcount => isExact_ofNat (h count hcount),
    isExact_map fun s _ => isExact_string s, hreasons, by simp⟩

theorem Response.decodes_encode {r : Response} (h : r.IsWire) (hdepth : r.data.depth ≤ n + 2) :
    Decodes decoder (n + 3) r.encode r := by
  refine decodes_record (by simp) ?_
  refine Fills.seq (Fills.seq (Fills.seq (Fills.seq (Fills.map Response.mk ?_) ?_) ?_) ?_) ?_
  · exact .required rfl (decodes_choice r.status.pick_tag)
  · exact .optional rfl (fun s _ => decodes_string s) nofun
  · exact .unlessEmpty rfl fun note _ => note.decodes_encode.mono (by omega)
  · exact .withDefault _ rfl (decodes_any h.data hdepth)
  · exact .withDefault _ rfl ((Facts.decodes_encode h.files).mono (by omega))

theorem Response.ofValue_encode {r : Response} (h : r.IsWire) : decoder.ofValue r.encode = .ok r :=
  (decodes_encode h (Nat.le_add_right r.data.depth 2)).ofValue

theorem Response.isExact_encode {r : Response} (h : r.IsWire) (hexact : r.data.IsExact) :
    r.encode.IsExact := by
  have hnotes : ∀ v, unlessEmpty r.notes Note.encode = some v → v.IsExact :=
    isExact_unlessEmpty fun note _ => note.isExact_encode
  have hfacts := Facts.isExact_encode h.files
  refine isExact_record ?_
  simp only [List.forall_mem_cons]
  exact ⟨by simp [hexact], hnotes, by simp, by simp [hfacts], by simp [Status.encode], by simp⟩

end Command
end Gazetteer
