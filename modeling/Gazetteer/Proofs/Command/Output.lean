import Gazetteer.Proofs.Command.Answering
import Gazetteer.Proofs.Command.Wire
import Gazetteer.Proofs.Json.Ensuring

/-!
# Outputs of actions

What a request is answered with, if all goes well, is read as the type of output that its action
has, and written again it is the same. This holds of a map that was built, if the disk has fewer
entries than there are words, and of a map that was stored, whose counts were words when it was
read.
-/

namespace Gazetteer

open Json

/-! ## Maps that were read -/

theorem Json.Ensures.of_readRecord {α : Type} {decoder : Decoder α} {P : α → Prop} {d : Disk}
    {r : Disk.Route} {a : α} (h : Ensures decoder P) (hfound : d.readRecord decoder r = .found a) :
    P a := by
  unfold Disk.readRecord at hfound
  split at hfound
  next content hread =>
    cases content with
    | text s =>
      simp only [Disk.Record.ofContent, Disk.Record.ofText] at hfound
      split at hfound
      next hdenoted =>
        cases hfound
        exact h.ofDraft hdenoted
      next => cases hfound
    | bytes bs =>
      simp only [Disk.Record.ofContent] at hfound
      split at hfound
      next hdenoted =>
        cases hfound
        exact h.ofDraft hdenoted
      next => cases hfound
    | locked => cases hfound
  next => cases hfound
  next => cases hfound

theorem Area.Info.ensures_decoder :
    Ensures Area.Info.decoder fun i => i.fileCount < UInt64.size := by
  refine RecordDecoder.Ensures.decoder "AreaInfo" ?_
  refine .seq (.required "file_count" (ensures_wordOf UInt64.size "usize")) ?_
  refine .seq (RecordDecoder.ensures_any _) (.seq (RecordDecoder.ensures_any _)
    (.seq (RecordDecoder.ensures_any _) (.map (RecordDecoder.ensures_any _) ?_)))
  exact fun id _ name _ description _ autoDetected _ count hcount => hcount

theorem ProjectMap.ensures_categoriesDecoder :
    Ensures categoriesDecoder fun counts => ∀ e ∈ counts.entries, e.2 < UInt64.size := by
  intro source draft counts hread
  unfold categoriesDecoder at hread
  cases hes : Decoder.entries (Decoder.pick Category.tagged) .count source draft with
  | error e =>
    rw [hes] at hread
    cases hread
  | ok es =>
    rw [hes] at hread
    obtain rfl := Except.ok.inj hread
    intro e he
    have hmem := OrdMap.mem_of_find?_ofList (OrdMap.find?_eq_some_iff.2 he)
    exact (ensures_wordOf UInt64.size "usize").entries source draft es hes e hmem

theorem ProjectMap.ensures_decoder : Ensures ProjectMap.decoder ProjectMap.IsCountable := by
  refine RecordDecoder.Ensures.decoder "ProjectMap" ?_
  refine .seq (.required "areas" Area.Info.ensures_decoder.list) ?_
  refine .seq (.required "categories" ensures_categoriesDecoder)
    (.map (RecordDecoder.ensures_any _) ?_)
  exact fun files _ categories hcategories areas hareas => ⟨hcategories, hareas⟩

namespace Cache

variable {α : Type} {data : Decoder α} {P : α → Prop} {d : Disk} {root : Disk.Route} {kind : Kind}

theorem Envelope.ensures_decoder (h : Ensures data P) :
    Ensures (Envelope.decoder data) fun e => P e.data := by
  refine RecordDecoder.Ensures.decoder "ArtifactEnvelope" ?_
  refine .seq (.required "data" h) ?_
  refine .seq (RecordDecoder.ensures_any _) (.seq (RecordDecoder.ensures_any _)
    (.map (RecordDecoder.ensures_any _) ?_))
  exact fun format _ kind _ savedAt _ a ha => ha

theorem Artifact.of_load? (h : Ensures data P) {a : α} (hload : load? d root kind data = some a) :
    P a := by
  unfold load? at hload
  split at hload
  next e hfound =>
    split at hload
    next =>
      obtain rfl := Option.some.inj hload
      exact (Envelope.ensures_decoder h).of_readRecord hfound
    next => cases hload
  next => cases hload
  next => cases hload

end Cache

/-! ## Maps that were loaded or built -/

theorem Scan.length_files_le (d : Disk) (root : Disk.Route) (depth : Nat) :
    (files d root depth).length ≤ max 1 d.nodes.entries.length := by
  unfold files
  split
  · split
    · unfold filesBelow nodesBelow
      exact Nat.le_trans (List.length_filterMap_le _ _)
        (Nat.le_trans (List.length_filterMap_le _ _) (Nat.le_max_right _ _))
    · split
      · exact Nat.le_max_left _ _
      · exact Nat.zero_le _
    · exact Nat.zero_le _
  · exact Nat.zero_le _

namespace Command

theorem MapSnapshot.isCountable {project : Project} {force : Bool} {now : UInt64} {s : Session}
    (h : s.disk.nodes.entries.length < UInt64.size) :
    (loadOrBuild project force now s).1.map.IsCountable := by
  cases hfound : found? project force s.disk with
  | some map =>
    rw [loadOrBuild_of_found hfound]
    unfold found? stored? at hfound
    split at hfound
    · cases hfound
    split at hfound
    · exact Cache.Artifact.of_load? ProjectMap.ensures_decoder hfound
    · cases hfound
  | none =>
    rw [loadOrBuild_of_not_found hfound, (rebuild_eq project _ now s).1]
    refine ProjectMap.isCountable_build _ ?_
    have hone : 1 < UInt64.size := by decide
    rw [Scan.paths, List.length_map]
    exact Nat.lt_of_le_of_lt (Scan.length_files_le _ _ _) (Nat.max_lt.2 ⟨hone, h⟩)

/-! ## What is read back -/

/-- The data of an action read as its type of output and written again. -/
def Action.reread : Action → Json → Except DecodeError Json
  | .map, data => (ProjectMap.decoder.ofValue data).map ProjectMap.encode
  | .areas, data => (AreasOutput.decoder.ofValue data).map AreasOutput.encode
  | .area, data => (AreaOutput.decoder.ofValue data).map AreaOutput.encode
  | .find, data => (FindOutput.decoder.ofValue data).map FindOutput.encode
  | .describe, data => (DescribeOutput.decoder.ofValue data).map DescribeOutput.encode
  | .cacheStatus, data => (CacheStatusOutput.decoder.ofValue data).map CacheStatusOutput.encode
  | .cacheClear, data => (CacheClearOutput.decoder.ofValue data).map CacheClearOutput.encode

theorem AreasOutput.decodes_encode {o : AreasOutput}
    (h : ∀ i ∈ o.areas, i.fileCount < UInt64.size) : Decodes decoder 3 o.encode o := by
  refine decodes_record (by simp) (Fills.map AreasOutput.mk ?_)
  exact .required rfl (decodes_list fun i hi => Area.Info.decodes_encode (h i hi))

theorem AreaOutput.decodes_encode {o : AreaOutput} (h : o.area.fileCount < UInt64.size) :
    Decodes decoder 4 o.encode o := by
  refine decodes_record (by simp) ?_
  refine Fills.seq (Fills.seq (Fills.map AreaOutput.mk ?_) ?_) ?_
  · exact .required rfl (Area.Info.decodes_encode h)
  · exact .withDefault_optional rfl (fun s _ => decodes_string s) nofun
  · exact .required rfl (decodes_list fun e _ => e.decodes_encode)

theorem FindOutput.decodes_encode {o : FindOutput} (h : o.tier < UInt8.size) :
    Decodes decoder 1 o.encode o := by
  refine decodes_record (by simp) ?_
  refine Fills.seq (Fills.seq (Fills.map FindOutput.mk ?_) ?_) ?_
  · exact .required rfl (decodes_string o.query)
  · exact .required rfl (decodes_string o.path)
  · exact .required rfl (decodes_wordOf "u8" h)

theorem DescribeOutput.decodes_encode (o : DescribeOutput) : Decodes decoder 2 o.encode o := by
  refine decodes_record (by simp) ?_
  refine Fills.seq (Fills.seq (Fills.seq (Fills.seq (Fills.seq (Fills.map DescribeOutput.mk
    ?_) ?_) ?_) ?_) ?_) ?_
  · exact .required rfl (decodes_string o.path)
  · exact .required rfl (decodes_choice o.category.pick_tag)
  · exact .required rfl (decodes_stringSet o.areas)
  · exact .withDefault_optional rfl (fun s _ => decodes_string s) nofun
  · exact .unlessEmpty rfl fun s _ => decodes_string s
  · exact .unlessEmpty rfl fun s _ => decodes_string s

theorem CacheStatusOutput.decodes_encode (o : CacheStatusOutput) :
    Decodes decoder 2 o.encode o := by
  refine decodes_record (by simp) ?_
  refine Fills.seq (Fills.seq (Fills.seq (Fills.seq (Fills.seq (Fills.seq
    (Fills.map CacheStatusOutput.mk ?_) ?_) ?_) ?_) ?_) ?_) ?_
  · exact .required rfl (decodes_bool o.fresh)
  · exact .withDefault [] rfl (decodes_list fun r _ => decodes_choice r.pick_tag)
  · exact .required rfl (decodes_string o.cacheFolder)
  · exact .required rfl (decodes_string o.fingerprint)
  · exact .withDefault_optional rfl (fun s _ => decodes_string s) nofun
  · exact .withDefault_optional rfl (fun s _ => decodes_string s) nofun
  · exact .withDefault_optional rfl (fun n _ => decodes_word n) nofun

theorem CacheClearOutput.decodes_encode (o : CacheClearOutput) : Decodes decoder 2 o.encode o := by
  refine decodes_record (by simp) ?_
  refine Fills.seq (Fills.map CacheClearOutput.mk ?_) ?_
  · exact .required rfl (decodes_string o.cacheFolder)
  · exact .required rfl (decodes_list fun s _ => decodes_string s)

/-! ## Answers -/

namespace Outcome

/-- Whether the data of an outcome that is well is the output of an action. -/
def Fits (action : Action) (o : Outcome) : Prop :=
  o.status = .ok → action.reread o.data = .ok o.data

variable {action : Action}

/-- An output that is decoded from its encoding fits its action. -/
theorem fits_of_decodes {α : Type} {decoder : Decoder α} {encode : α → Json} {n : Nat} {a : α}
    (haction : action.reread = fun data => (decoder.ofValue data).map encode)
    (h : Decodes decoder n (encode a) a) : (ofData (encode a)).Fits action := by
  intro _
  simp only [haction, ofData, h.ofValue]
  rfl

theorem fits_notFound (hint : Hint.Recovery) : (notFound hint).Fits action := nofun

/-- Remarks and facts make no difference. -/
theorem Fits.congr {o o' : Outcome} (h : o.Fits action) (hstatus : o'.status = o.status)
    (hdata : o'.data = o.data) : o'.Fits action := by
  unfold Fits
  rw [hstatus, hdata]
  exact h

end Outcome

namespace Handler

variable {env : Environment} {options : Options} {s s' : Session} {payload : Json}
  {outcome : Outcome}

theorem fits_mapOutcome {snapshot : MapSnapshot} (h : snapshot.map.IsCountable) :
    (mapOutcome snapshot).Fits .map := by
  have hread : Decodes ProjectMap.decoder 4 snapshot.map.encode snapshot.map :=
    ProjectMap.decodes_encode h
  have hdata : (Outcome.ofData snapshot.map.encode).Fits .map :=
    Outcome.fits_of_decodes rfl hread
  exact hdata.congr rfl rfl

theorem fits_area {o : AreaOutput} (h : o.area.fileCount < UInt64.size) :
    (Outcome.ofData o.encode).Fits .area :=
  Outcome.fits_of_decodes rfl (AreaOutput.decodes_encode h)

theorem fits_areaOutcome {input : String} {r : Area.Resolver} {snapshot : MapSnapshot}
    (h : snapshot.map.IsCountable) : (areaOutcome env options input r snapshot).Fits .area := by
  unfold areaOutcome
  simp only
  split
  next info harea => exact fits_area (h.areas info (List.mem_of_find?_eq_some harea))
  · exact Outcome.fits_notFound _

theorem fits_findOutcome {query : String} {snapshot : MapSnapshot} :
    (findOutcome env options query snapshot).Fits .find := by
  unfold findOutcome
  split
  next m _ =>
    have htier : m.tier.rank < UInt8.size := by cases m.tier <;> decide
    exact Outcome.fits_of_decodes rfl (FindOutput.decodes_encode htier)
  · exact Outcome.fits_notFound _

theorem fits_describeOutcome {query : String} {snapshot : MapSnapshot} {graph : Cache.Graph} :
    (describeOutcome env options query snapshot graph).Fits .describe := by
  unfold describeOutcome
  split
  · exact Outcome.fits_of_decodes rfl (DescribeOutput.decodes_encode _)
  · exact Outcome.fits_notFound _

/-- A request on a map says what fits its action. -/
theorem fits_of_question {action : Action} {payload : Json} {q : Question}
    (h : question? env options action payload = some (.ok q)) (project : Project)
    {snapshot : MapSnapshot} (hmap : snapshot.map.IsCountable) (graph : Cache.Graph) :
    (q.outcome project snapshot graph).Fits action := by
  cases action with
  | map =>
    obtain ⟨p, rfl⟩ := exists_of_map_ok (Option.some.inj h)
    dsimp only
    exact fits_mapOutcome hmap
  | areas =>
    obtain ⟨p, rfl⟩ := exists_of_map_ok (Option.some.inj h)
    dsimp only
    exact Outcome.fits_of_decodes rfl (AreasOutput.decodes_encode hmap.areas)
  | area =>
    obtain ⟨p, rfl⟩ := exists_of_map_ok (Option.some.inj h)
    dsimp only
    exact fits_areaOutcome hmap
  | find =>
    obtain ⟨p, rfl⟩ := exists_of_map_ok (Option.some.inj h)
    dsimp only
    exact fits_findOutcome
  | describe =>
    obtain ⟨p, rfl⟩ := exists_of_map_ok (Option.some.inj h)
    dsimp only
    exact fits_describeOutcome
  | cacheStatus => cases h
  | cacheClear => cases h

/-- A command in two steps that goes well goes well in both. -/
theorem exists_of_run_bind {α β : Type} {x : CommandM α} {f : α → CommandM β} {b : β}
    (h : (x >>= f).run s = (.ok b, s')) :
    ∃ a m, x.run s = (.ok a, m) ∧ (f a).run m = (.ok b, s') := by
  cases hx : x.run s with
  | mk result m =>
    cases result with
    | error e =>
      rw [run_bind_of_error hx] at h
      cases h
    | ok a => exact ⟨a, m, rfl, (run_bind_of_ok hx).symm.trans h⟩

theorem fits_cacheStatus (h : (cacheStatus env payload).run s = (.ok outcome, s')) :
    outcome.Fits .cacheStatus := by
  obtain ⟨p, m, -, h⟩ := exists_of_run_bind h
  obtain ⟨project, m, -, h⟩ := exists_of_run_bind h
  obtain ⟨d, m, -, h⟩ := exists_of_run_bind h
  cases h
  have hdata (o : CacheStatusOutput) : (Outcome.ofData o.encode).Fits .cacheStatus :=
    Outcome.fits_of_decodes rfl o.decodes_encode
  exact (hdata _).congr rfl rfl

theorem fits_cacheClear (h : (cacheClear env payload).run s = (.ok outcome, s')) :
    outcome.Fits .cacheClear := by
  obtain ⟨p, m, -, h⟩ := exists_of_run_bind h
  obtain ⟨project, m, -, h⟩ := exists_of_run_bind h
  obtain ⟨failed, m, -, h⟩ := exists_of_run_bind h
  cases h
  have hdata (o : CacheClearOutput) : (Outcome.ofData o.encode).Fits .cacheClear :=
    Outcome.fits_of_decodes rfl o.decodes_encode
  exact (hdata _).congr rfl rfl

theorem reread_reply {action : Action} {asked : Except CommandError Question}
    (h : question? env options action payload = some asked)
    (hsize : s.disk.nodes.entries.length < UInt64.size)
    (hok : (reply env asked s).1.status = .ok) :
    action.reread (reply env asked s).1.data = .ok (reply env asked s).1.data := by
  cases asked with
  | error e => cases hok
  | ok q =>
    unfold reply at hok ⊢
    simp only at hok ⊢
    cases hopened : (openProject env q.project).run s with
    | mk opened m =>
      rw [hopened] at hok
      cases opened with
      | error e => cases hok
      | ok project =>
        rw [← (openProject_ok hopened).1] at hsize
        exact fits_of_question h project (MapSnapshot.isCountable hsize) _ hok

/-- **Answers are read back.** What an action answers with when all is well is read as the type of
its output, and written again it is the same. -/
theorem reread_respond {request : Request} (hsize : s.disk.nodes.entries.length < UInt64.size)
    (hok : (respond env request s).1.status = .ok) :
    request.action.reread (respond env request s).1.data = .ok (respond env request s).1.data := by
  cases hasked : question? env request.options request.action request.payload with
  | some asked =>
    have hreply := congrArg Prod.fst (respond_eq hasked s)
    simp only at hreply
    rw [hreply] at hok ⊢
    exact reread_reply hasked hsize hok
  | none =>
    cases hrun : (perform env request.options request.action request.payload).run s with
    | mk result m =>
      cases result with
      | error e =>
        rw [respond_of_error hrun] at hok
        cases hok
      | ok outcome =>
        rw [respond_of_ok hrun] at hok ⊢
        obtain ⟨action, payload, options⟩ := request
        cases action with
        | cacheStatus => exact fits_cacheStatus hrun hok
        | cacheClear => exact fits_cacheClear hrun hok
        | map | areas | area | find | describe => cases hasked

end Handler

/-! ## What passes over the wire -/

/-- **Records are read back.** Requests, responses and hints are read back as values from what they
are written as; as texts too, if the numbers in the payload or the data are words and at most 126
containers are nested in it. On a disk with fewer entries than there are words, the data of every
answer that is well is read as the output of its action, and written again it is the same. -/
theorem records_are_read_back :
    (∀ r : Request, r.IsWire → Request.decoder.ofValue r.encode = .ok r ∧
      (r.payload.IsExact → r.payload.depth ≤ 126 →
        Request.ofText r.encode.compact = .ok r ∧ Request.ofText r.encode.pretty = .ok r)) ∧
    (∀ r : Response, r.IsWire → Response.decoder.ofValue r.encode = .ok r ∧
      (r.data.IsExact → r.data.depth ≤ 126 →
        Response.decoder.ofText r.encode.compact.toList = .ok r ∧
          Response.decoder.ofText r.encode.pretty.toList = .ok r)) ∧
    (∀ h : Hint.Recovery, Hint.Recovery.decoder.ofValue h.encode = .ok h ∧
      Hint.Recovery.decoder.ofText h.encode.compact.toList = .ok h ∧
        Hint.Recovery.decoder.ofText h.encode.pretty.toList = .ok h) ∧
    ∀ (env : Environment) (request : Request) (s : Session),
      s.disk.nodes.entries.length < UInt64.size →
      (Handler.respond env request s).1.status = .ok →
        request.action.reread (Handler.respond env request s).1.data =
          .ok (Handler.respond env request s).1.data := by
  refine ⟨fun r hr => ⟨Request.ofValue_encode hr, fun hexact hdepth => ?_⟩,
    fun r hr => ⟨Response.ofValue_encode hr, fun hexact hdepth => ?_⟩,
    fun h => ⟨h.decodes_encode.ofValue, ?_⟩, fun env request s hsize hok =>
      Handler.reread_respond hsize hok⟩
  · have hread : Decodes Request.decoder 127 r.encode r := Request.decodes_encode hr hdepth
    exact hread.ofText (Request.isExact_encode hr hexact) (by decide)
  · have hread : Decodes Response.decoder 127 r.encode r := Response.decodes_encode hr hdepth
    exact hread.ofText (Response.isExact_encode hr hexact) (by decide)
  · exact h.decodes_encode.ofText h.isExact_encode (by decide)

namespace Sample

def asking : Request := ⟨.find, .object [("query", .string "a")], ⟨some .toolCall, some 3⟩⟩

def environment : Environment := ⟨"/p", .terminal, none, 5, 0⟩

/-- A project with one source file. -/
def project : Session := .ofDisk
  { nodes := .ofList [(["p"], .folder), (["p", "a.ts"], .file (.text "") 1000000)]
    faults := []
    workingFolder := [] }

def answered : Response := (Handler.respond environment asking project).1

end Sample

theorem found_file_is_read_back :
    (Sample.asking.IsWire ∧ Sample.asking.payload.IsExact ∧ Sample.asking.payload.depth ≤ 126 ∧
      Sample.answered.IsWire ∧ Sample.answered.status = .ok) ∧
    Request.ofText Sample.asking.encode.compact = .ok Sample.asking ∧
      Response.decoder.ofValue Sample.answered.encode = .ok Sample.answered ∧
        Sample.asking.action.reread Sample.answered.data = .ok Sample.answered.data := by
  have hasking : Sample.asking.IsWire :=
    ⟨.object (List.pairwise_singleton ..) (.cons (.string _) .nil), fun limit hlimit => by
      obtain rfl := Option.some.inj hlimit
      decide⟩
  have hpayload : Sample.asking.payload.IsExact := ⟨trivial, trivial⟩
  obtain ⟨hstatus, hcount, hdata⟩ : Sample.answered.status = .ok ∧
      Sample.answered.facts.fileCount = some 1 ∧ Sample.answered.data = .object
        [("path", .string "a.ts"), ("query", .string "a"), ("tier", .ofNat 2)] := by
    decide
  have hanswered : Sample.answered.IsWire := by
    refine ⟨hdata ▸ .object ?_ ?_, fun count h => ?_⟩
    · unfold Entries.Increasing
      decide
    · exact .cons (.string _) (.cons (.string _) (.cons (.number _) .nil))
    · obtain rfl := Option.some.inj (hcount.symm.trans h)
      decide
  obtain ⟨hrequests, hresponses, -, hanswers⟩ := records_are_read_back
  refine ⟨⟨hasking, hpayload, by decide, hanswered, hstatus⟩, ?_, ?_, ?_⟩
  · exact ((hrequests _ hasking).2 hpayload (by decide)).1
  · exact (hresponses _ hanswered).1
  · exact hanswers Sample.environment Sample.asking Sample.project (by decide) hstatus

namespace Sample

/-- Lists nested in lists. -/
def nested : Nat → Json
  | 0 => .null
  | n + 1 => .array [nested n]

theorem canonical_nested : ∀ n, (nested n).Canonical
  | 0 => .null
  | n + 1 => .array (.cons (canonical_nested n) .nil)

theorem isExact_nested : ∀ n, (nested n).IsExact
  | 0 => trivial
  | n + 1 => ⟨isExact_nested n, trivial⟩

/-- The number nearest to 0.9452706955539223. -/
def fraction : Binary64 :=
  (Binary64.nearest? false 9452706955539223 (Nat.pow 10 16)).getD (.zero false)

end Sample

/-- A request may be nested so deep that its text is not read, and a response with a fraction may be
read back as another. -/
theorem exists_record_not_read_back :
    (∃ r : Request, r.IsWire ∧ r.payload.IsExact ∧ Request.decoder.ofValue r.encode = .ok r ∧
      ∃ e, Request.ofText r.encode.compact = .error e) ∧
    ∃ r r' : Response, r.IsWire ∧ Response.decoder.ofText r.encode.compact.toList = .ok r' ∧
      r' ≠ r := by
  have hrequest : (Request.plain .map (Sample.nested 127)).IsWire :=
    ⟨Sample.canonical_nested 127, nofun⟩
  refine ⟨⟨.plain .map (Sample.nested 127), hrequest, Sample.isExact_nested 127, ?_⟩,
    ⟨.ok, none, [], .number (.fraction Sample.fraction), .none⟩,
    ⟨.ok, none, [], .number (.fraction ⟨false, Sample.fraction.significand + 1,
      Sample.fraction.exponent⟩), .none⟩, ⟨.number _, nofun⟩, ?_, ?_⟩
  · refine ⟨Request.ofValue_encode hrequest, .malformed, ?_⟩
    rw [Request.ofText, Decoder.ofText_compact
      (Request.isExact_encode hrequest (Sample.isExact_nested 127))]
    decide +kernel
  · decide +kernel
  · decide

end Command
end Gazetteer
