import Gazetteer.Proofs.Cache.Edit
import Gazetteer.Proofs.Command.Compiling
import Gazetteer.Proofs.Command.Transparency
import Gazetteer.Proofs.Disk.Removal

/-!
# Settings that cannot be used

Where the configuration of a project cannot be read or parsed, a map is built as if there were none.
It is the map of the tree without that file, unless the file is more than a configuration: an ignore
file may be a link to it, it may be a folder with source files in it, and the path of the project
may lead through it. A configuration that can be parsed may do more harm: a rule in it that is not
compiled leaves requests on the project without an answer.
-/

namespace Gazetteer.Command

open Cache (Build filesOf settingsPlace)
open Disk (Content IsPlain Maintains Route)
open Scan (SourceFile)

/-- Whether what stands at a place is no more than the configuration of a project: without it the
project opens at the same place, the other folders have the same ignore files, and no source file
goes. -/
structure IsMereSettings (env : Environment) (requested : Option String)
    (names place : List String) (d : Disk) : Prop where
  opens : Opens env requested names (d.without place)
  rules : ∀ folder, ¬ place <+: folder →
    Scan.rulesOf (d.without place) names folder = Scan.rulesOf d names folder
  files : ∀ f ∈ filesOf names d, ¬ place <+: names ++ f.names

variable {env : Environment} {requested : Option String} {names place : List String} {d : Disk}

/-! ## The place of the settings -/

/-- Settings that cannot be used stand somewhere. -/
theorem exists_locate_of_tryLoad {e : Area.ConfigError}
    (h : Area.Config.tryLoad d (.ofNames names) = .error e) : ∃ folder,
      d.locate (Area.Config.route (.ofNames names)) = .ok (folder ++ ["config.json"]) := by
  rw [Area.Config.tryLoad] at h
  split at h
  next hpresent =>
    rw [Cache.configRoute_ofNames] at hpresent ⊢
    unfold Disk.isPresent at hpresent
    cases hstatus : d.status (.ofNames (settingsPlace names)) with
    | error e =>
      rw [hstatus] at hpresent
      cases hpresent
    | ok node =>
      obtain ⟨last, hfollow, -⟩ := Disk.follow_of_status hstatus
      exact Disk.exists_locate_of_follow hfollow
  next => cases h

theorem tryLoad_of_readText {text : String} {config : Area.Config}
    (hpresent : d.isPresent (Area.Config.route (.ofNames names)) = true)
    (hread : d.readText (Area.Config.route (.ofNames names)) = .ok text)
    (hconfig : Area.Config.ofText text = .ok config) :
    Area.Config.tryLoad d (.ofNames names) = .ok (some config) := by
  rw [Area.Config.tryLoad, if_pos hpresent, hread]
  simp only [Except.mapError, bind, Except.bind, hconfig]
  rfl

/-- Without them there are no settings. -/
theorem tryLoad_without (h : d.locate (Area.Config.route (.ofNames names)) = .ok place) :
    Area.Config.tryLoad (d.without place) (.ofNames names) = .ok none := by
  rw [Cache.configRoute_ofNames, settingsPlace, Route.ofNames_concat] at h
  have habsent := Disk.isPresent_without h
  rw [Area.Config.tryLoad, Cache.configRoute_ofNames, settingsPlace, Route.ofNames_concat, habsent]
  rfl

/-! ## Maps without the settings -/

namespace IsMereSettings

theorem filesOf_eq (h : IsMereSettings env requested names place d) (hplace : place ≠ [])
    (hsolid : d.IsSolid names) : filesOf names (d.without place) = filesOf names d := by
  have hroot : ¬ place <+: names := by
    intro hbelow
    refine h.opens.stands ?_
    rw [Disk.node?_without hplace, if_pos hbelow]
  have hway : ∀ p, p <+: names → (d.without place).node? p = d.node? p := fun p hp =>
    Disk.node?_without_outside hplace fun hbelow => hroot (hbelow.trans hp)
  refine Cache.filesOf_eq fun f => ?_
  have hfiles := h.files f
  unfold filesOf at hfiles ⊢
  rcases Scan.files_congr hsolid.straight hway with hsame | ⟨hbelow, hbelow'⟩
  · rw [hsame]
  · rw [hbelow] at hfiles
    rw [hbelow, hbelow']
    -- Outside the place the same files stand, and the same folders lead to them.
    have houtside : ¬ place <+: names ++ f.names →
        (f ∈ Scan.filesBelow (d.without place) names Scan.maxDepth ↔
          f ∈ Scan.filesBelow d names Scan.maxDepth) := by
      intro hout
      have hrules : ∀ folder, folder <+: names ++ f.names →
          Scan.rulesOf (d.without place) names folder = Scan.rulesOf d names folder :=
        fun folder hfolder => h.rules folder fun hunder => hout (hunder.trans hfolder)
      rw [Scan.mem_filesBelow, Scan.mem_filesBelow, Disk.node?_without_outside hplace hout,
        Scan.isReached_congr hrules]
    constructor
    · intro hf
      obtain ⟨-, ⟨content, time, hnode, -⟩, -⟩ := Scan.mem_filesBelow.1 hf
      refine (houtside fun hunder => ?_).1 hf
      rw [Disk.node?_without hplace, if_pos hunder] at hnode
      cases hnode
    · intro hf
      exact (houtside (hfiles hf)).2 hf

end IsMereSettings

/-! ### Plain disks -/

section

variable {content : Content} {time : Int}

theorem maintains_without (h : d.IsPlain) (hfile : d.node? place = some (.file content time)) :
    Maintains d (d.without place) := by
  have hplace : place ≠ [] := by
    rintro rfl
    rw [Disk.node?_nil] at hfile
    cases hfile
  have htree : d.IsTree := h.folders
  have hthin := Disk.thinning_without (d := d) hplace
  refine ⟨fun p hfolder => ?_, fun p target hnode => ?_, fun p content time hnode => ?_⟩
  · rw [Disk.node?_without_outside hplace, hfolder]
    refine htree.not_below_file hfile (by rw [hfolder]; exact nofun) ?_
    rintro rfl
    rw [hfile] at hfolder
    cases hfolder
  · exact h.maintains.links p target (hthin.node? hnode)
  · exact h.maintains.repositories p content time (hthin.node? hnode)

theorem getLast?_settingsPlace (names : List String) :
    (settingsPlace names).getLast? = some "config.json" := by
  simp [settingsPlace]

/-- What has another name than the settings does not stand in them. -/
theorem not_below_settings (h : d.IsPlain)
    (hfile : d.node? (settingsPlace names) = some (.file content time)) {p : List String}
    (hstands : d.node? p ≠ none) (hname : p.getLast? ≠ some "config.json") :
    ¬ settingsPlace names <+: p := by
  have htree : d.IsTree := h.folders
  refine htree.not_below_file hfile hstands ?_
  rintro rfl
  exact hname (getLast?_settingsPlace names)

theorem settingsPlace_not_above (names : List String) : ¬ settingsPlace names <+: names := by
  intro hbelow
  have hlength := hbelow.length_le
  simp only [settingsPlace, List.length_append, List.length_singleton] at hlength
  omega

theorem rulesOf_without_settings (h : d.IsPlain)
    (hfile : d.node? (settingsPlace names) = some (.file content time)) (folder : List String) :
    Scan.rulesOf (d.without (settingsPlace names)) names folder = Scan.rulesOf d names folder := by
  have hthin : Disk.Thinning d (d.without (settingsPlace names)) :=
    Disk.thinning_without Cache.settingsPlace_ne_nil
  refine congrFun (Scan.rulesOf_congr (maintains_without h hfile) h.maintains h.folders ?_) folder
  intro p name hname content time
  refine ⟨fun hnode => hthin.node? hnode, fun hnode => ?_⟩
  rw [Disk.node?_without_outside Cache.settingsPlace_ne_nil, hnode]
  refine not_below_settings h hfile (by rw [hnode]; exact Option.some_ne_none _) ?_
  rw [List.getLast?_concat]
  rintro ⟨⟩
  exact absurd hname (by decide)

theorem settings_not_above_files (h : d.IsPlain)
    (hfile : d.node? (settingsPlace names) = some (.file content time)) {f : SourceFile}
    (hf : f ∈ filesOf names d) : ¬ settingsPlace names <+: names ++ f.names := by
  have htree : d.IsTree := h.folders
  have hstands : d.node? (settingsPlace names) ≠ none := by
    rw [hfile]
    exact Option.some_ne_none _
  have hfolder : d.node? names = some .folder := by
    refine htree.folder hstands ?_ fun heq => settingsPlace_not_above names (heq ▸ List.prefix_rfl)
    rw [Cache.settingsPlace_eq]
    exact List.prefix_append _ _
  obtain ⟨hnames, ⟨content, time, hnode, -⟩, -, hsource, -⟩ := Scan.mem_filesBelow.1
    (Cache.mem_filesBelow_of_mem_filesOf (h.maintains.straight names) hfolder hf)
  refine not_below_settings h hfile (by rw [hnode]; exact Option.some_ne_none _) fun hname => ?_
  rw [List.getLast?_append_of_ne_nil _ hnames] at hname
  rw [List.getLastD_eq_getLast?, hname] at hsource
  exact absurd hsource (by decide)

/-- On a plain disk the file of the settings is no more than settings. -/
theorem IsMereSettings.of_plain (h : d.IsPlain)
    (hfile : d.node? (settingsPlace names) = some (.file content time))
    (hopens : Opens env requested names d) :
    IsMereSettings env requested names (settingsPlace names) d := by
  refine ⟨⟨hopens.path, ?_, ?_⟩, fun folder _ => rulesOf_without_settings h hfile folder,
    fun f hf => settings_not_above_files h hfile hf⟩
  · refine Disk.follow_without h.folders hfile hopens.follow fun heq => ?_
    exact settingsPlace_not_above names (heq ▸ List.prefix_rfl)
  · rw [Disk.node?_without_outside Cache.settingsPlace_ne_nil (settingsPlace_not_above names)]
    exact hopens.stands

end

namespace Handler

theorem data_answer_withSnapshot (outcome : Outcome) (project : Project) (snapshot : MapSnapshot) :
    (answer env (outcome.withSnapshot project snapshot)).data = outcome.data := rfl

theorem data_mapOutcome (snapshot : MapSnapshot) :
    (mapOutcome snapshot).data = snapshot.map.encode := rfl

/-- A request that forces a new map has the map of the tree as it is for its data. -/
theorem forced_map_data {request : Request} {p : MapPayload} {s : Session}
    (haction : request.action = .map)
    (hread : MapPayload.decoder.ofValue request.payload = .ok p) (hforce : p.force = true)
    (hopens : Opens env p.project names s.disk) : (respond env request s).1.data =
      ((Build.ofDisk (.ofNames names) s.disk).map (.ofNames names)).encode := by
  have hasked : question? env request.options request.action request.payload =
      some (.ok ⟨p.project, true, fun _ snapshot _ => mapOutcome snapshot⟩) := by
    rw [haction, question?, hread, ← hforce]
    rfl
  obtain ⟨project, s', hopened, hroot⟩ := exists_openProject_iff.2 hopens
  obtain ⟨hdisk, hconfig⟩ := openProject_ok hopened
  rw [hroot] at hconfig
  have hmap : (MapSnapshot.loadOrBuild project true env.now s').1.map =
      (Build.ofDisk (.ofNames names) s.disk).map (.ofNames names) := by
    rw [Cache.forced_map, hconfig, hdisk, hroot]
    rfl
  have hreply := congrArg Prod.fst (respond_eq hasked s)
  rw [reply_of_opened hopened] at hreply
  rw [hreply, data_answer_withSnapshot, data_mapOutcome, hmap]

/-- A request that forces a new map and finds no settings that can be used is answered with the map
of the tree as it is. -/
theorem exists_answer_of_forced {request : Request} {p : MapPayload}
    (engine : Glob.Engine Area.globRules) (haction : request.action = .map)
    (hread : MapPayload.decoder.ofValue request.payload = .ok p) (hforce : p.force = true)
    (hopens : Opens env p.project names d)
    (hconfig : Area.Config.onDisk d (.ofNames names) = .default) :
    ∃ r, (respond? env engine request d).1 = some r ∧
      r.data = ((Build.ofDisk (.ofNames names) d).map (.ofNames names)).encode := by
  refine ⟨_, exists_answer_of_default env engine request fun place hcompiles => ?_,
    forced_map_data haction hread hforce hopens⟩
  obtain ⟨q, hquestion, hplace, -⟩ := hcompiles
  rw [haction, question?, hread] at hquestion
  obtain rfl := Except.ok.inj (Option.some.inj hquestion)
  obtain rfl := Except.ok.inj (hplace.follow.symm.trans hopens.follow)
  exact hconfig

/-- Only misuse is an error, and a request has no answer exactly if it comes to a rule of a declared
area that is not compiled. Where settings cannot be used, a request that forces a new map is
answered. It gets the map of the tree without them, if they are no more than settings. On a plain
disk a file of settings never is more. -/
theorem only_misuse_is_refused (env : Environment) (engine : Glob.Engine Area.globRules)
    (request : Request) (d : Disk) :
    ((respond? env engine request d).1 = none ↔ IsStopped env engine request d) ∧
    (IsStopped env engine request d → IsProper env request d) ∧
    (∀ r, (respond? env engine request d).1 = some r →
      (r.status = .error ↔ ¬ IsProper env request d)) ∧
    ∀ p names e, request.action = .map → MapPayload.decoder.ofValue request.payload = .ok p →
      p.force = true → Opens env p.project names d →
      Area.Config.tryLoad d (.ofNames names) = .error e →
      ∃ r place, (respond? env engine request d).1 = some r ∧
        d.locate (Area.Config.route (.ofNames names)) = .ok place ∧
        Area.Config.tryLoad (d.without place) (.ofNames names) = .ok none ∧
        (IsMereSettings env p.project names place d → ∃ r',
          (respond? env engine request (d.without place)).1 = some r' ∧ r'.data = r.data) ∧
        (d.IsPlain → ∀ content time, d.node? place = some (.file content time) →
          IsMereSettings env p.project names place d) := by
  refine ⟨respond?_eq_none_iff env engine request d,
    fun ⟨names, hcompiles, _⟩ => isProper_of_compiles hcompiles, fun r hr => ?_, ?_⟩
  · rw [respond?_eq_some hr]
    exact status_eq_error_iff env request (.ofDisk d)
  intro p names e haction hread hforce hopens hload
  obtain ⟨folder, hlocate⟩ := exists_locate_of_tryLoad hload
  have hload' := tryLoad_without hlocate
  -- The default replaces settings that cannot be used, and those that are not there.
  have hconfig : Area.Config.onDisk d (.ofNames names) = .default := by
    rw [Area.Config.onDisk, hload]
  have hconfig' : Area.Config.onDisk (d.without (folder ++ ["config.json"])) (.ofNames names) =
      .default := by
    rw [Area.Config.onDisk, hload']
  obtain ⟨r, hr, hdata⟩ := exists_answer_of_forced engine haction hread hforce hopens hconfig
  refine ⟨r, _, hr, hlocate, hload', fun hmere => ?_, fun hplain content time hfile => ?_⟩
  · obtain ⟨r', hr', hdata'⟩ :=
      exists_answer_of_forced engine haction hread hforce hmere.opens hconfig'
    refine ⟨r', hr', ?_⟩
    rw [hdata, hdata']
    refine congrArg ProjectMap.encode (Cache.map_ofDisk_eq ?_ (hconfig'.trans hconfig.symm))
    exact hmere.filesOf_eq (by simp) (Disk.isSolid_of_follow hopens.follow)
  · rw [Cache.configRoute_ofNames, settingsPlace] at hlocate
    have hplace := Disk.locate_ofNames (hplain.maintains.straight _) hlocate
    rw [hplace] at hfile ⊢
    exact .of_plain hplain hfile hopens

/-! ### Settings that cannot be parsed, and rules that cannot be compiled

A project of one file has settings that are no JSON. They are left out, and the map is that of the
project without them. It is not when its ignore file is a link to them, when they are a folder in
which a scan finds a file, and when the way to the project leads through such a folder. Settings
that can be parsed are worse if a rule in them stands in too many braces: there is no answer. -/

namespace Sample

/-- The project with some more files. -/
def project (files : List (List String × Disk.Node)) : Disk where
  nodes := .ofList ([(["p"], .folder), (["p", ".atlas"], .folder),
    (["p", "a.ts"], .file (.text "") 1000000)] ++ files)
  faults := []
  workingFolder := []

def broken : Disk := project [(settingsPlace ["p"], .file (.text "*.ts") 1000000)]

def linked : Disk :=
  project [(settingsPlace ["p"], .file (.text "*.ts") 1000000),
    (["p", ".gitignore"], .link ".atlas/config.json")]

def inhabited : Disk :=
  project [(settingsPlace ["p"], .folder),
    (settingsPlace ["p"] ++ ["b.ts"], .file (.text "") 1000000),
    (["p", ".ignore"], .file (.text "!.atlas") 1000000)]

def hollow : Disk := project [(settingsPlace ["p"], .folder)]

/-- A path in three hundred braces. -/
def deepRule : String := .ofList (Glob.braced 300 "src/a.ts".toList)

/-- Settings with an area that is declared by this rule. -/
def deepConfig : Area.Config :=
  ⟨.ofList [("core", ⟨none, none, [deepRule]⟩)], .empty, [], true⟩

def deep : Disk :=
  project [(settingsPlace ["p"], .file (.text deepConfig.encode.pretty) 1000000)]

/-- The environment with another path for the project. -/
def envAt (root : String) : Environment := { Cache.Sample.env with root := root }

/-- What a request that forces a new map gets. -/
def forced (env : Environment) (engine : Glob.Engine Area.globRules) (d : Disk) : Option Response :=
  (respond? env engine (mapping true) d).1

/-- How many files are listed in the data of an answer. -/
def listed (r : Response) : Option Nat :=
  match r.data.field? "files" with
  | some (.array files) => some files.length
  | _ => none

/-- Whether a project at a path opens with settings that cannot be used, and gets another map
without them. -/
structure Needs (path : String) (d : Disk) : Prop where
  tree : d.IsTree
  opens : d.follow (d.resolve path) = .ok ["p"]
  unusable : (Area.Config.tryLoad d (.ofNames ["p"])).isOk = false
  place : d.locate (Area.Config.route (.ofNames ["p"])) = .ok (settingsPlace ["p"])
  data : ∀ engine, (forced (envAt path) engine (d.without (settingsPlace ["p"]))).map Response.data
    ≠ (forced (envAt path) engine d).map Response.data

theorem data_ne_of_listed {r r' : Response} (h : listed r ≠ listed r') : r.data ≠ r'.data := by
  intro heq
  unfold listed at h
  rw [heq] at h
  exact h rfl

/-- A request for a new map is answered where the project at its path has the default settings. -/
theorem forced_eq {path : String} (engine : Glob.Engine Area.globRules) {d : Disk}
    (h : ∀ names, d.follow (d.resolve path) = .ok names →
      Area.Config.onDisk d (.ofNames names) = .default) :
    forced (envAt path) engine d = some (respond (envAt path) (mapping true) (.ofDisk d)).1 := by
  refine exists_answer_of_default _ engine _ fun names hcompiles => ?_
  obtain ⟨q, hquestion, hopens, -⟩ := hcompiles
  obtain rfl := Except.ok.inj (Option.some.inj hquestion)
  exact h names hopens.follow

/-- Settings that cannot be used are needed where other files are listed without them. -/
theorem Needs.of_listed {path : String} {d : Disk} (htree : d.IsTree)
    (hopens : d.follow (d.resolve path) = .ok ["p"])
    (hunusable : (Area.Config.tryLoad d (.ofNames ["p"])).isOk = false)
    (hplace : d.locate (Area.Config.route (.ofNames ["p"])) = .ok (settingsPlace ["p"]))
    (hothers : ∀ names, (d.without (settingsPlace ["p"])).follow
      ((d.without (settingsPlace ["p"])).resolve path) = .ok names → names = ["p"])
    (hlisted : listed (respond (envAt path) (mapping true)
        (.ofDisk (d.without (settingsPlace ["p"])))).1 ≠
      listed (respond (envAt path) (mapping true) (.ofDisk d)).1) : Needs path d := by
  refine ⟨htree, hopens, hunusable, hplace, fun engine hsame => ?_⟩
  have hwith : Area.Config.onDisk d (.ofNames ["p"]) = .default := by
    rw [Area.Config.onDisk]
    cases hload : Area.Config.tryLoad d (.ofNames ["p"]) with
    | error e => rfl
    | ok config? =>
      rw [hload] at hunusable
      cases hunusable
  have hwithout : Area.Config.onDisk (d.without (settingsPlace ["p"])) (.ofNames ["p"]) =
      .default := by
    rw [Area.Config.onDisk, tryLoad_without hplace]
  have hanswer := forced_eq engine fun names hnames =>
    (Except.ok.inj (hopens.symm.trans hnames) ▸ hwith : Area.Config.onDisk d _ = .default)
  have hanswer' := forced_eq engine fun names hnames => (hothers names hnames ▸ hwithout :
    Area.Config.onDisk (d.without (settingsPlace ["p"])) (.ofNames names) = .default)
  rw [hanswer, hanswer'] at hsame
  exact data_ne_of_listed hlisted (Option.some.inj hsame)

/-- No engine compiles the rule in braces. -/
theorem isCompiled_deepConfig (engine : Glob.Engine Area.globRules) :
    (Area.Resolver.ofConfig deepConfig).isCompiled engine = false := by
  have hread : Area.NameRule.read deepRule =
      .ok (.glob ⟨Glob.nested 300 ("src/a.ts".toList.map .literal)⟩) :=
    Area.NameRule.read_braced (List.all_eq_true.1 (by decide)) (by decide)
  have hdeep : Glob.isTooDeep Area.globRules
      ⟨Glob.nested 300 ("src/a.ts".toList.map .literal)⟩ = true :=
    Glob.isTooDeep_nested (by decide) (Glob.parts_literals_ne_zero _ (by decide))
  exact Area.Resolver.isCompiled_ofConfig_eq_false_iff.2
    ⟨("core", ⟨none, none, [deepRule]⟩), List.mem_singleton_self _, deepRule,
      List.mem_singleton_self _, _, hread, engine.compiles_of_isTooDeep hdeep⟩

theorem opens_deep : Opens Cache.Sample.env none ["p"] deep := ⟨by decide, by decide, by decide⟩

theorem onDisk_deep : Area.Config.onDisk deep (.ofNames ["p"]) = deepConfig := by
  have hload : Area.Config.tryLoad deep (.ofNames ["p"]) = .ok (some deepConfig) :=
    tryLoad_of_readText (by decide) rfl (Area.Config.ofText_encode deepConfig)
  rw [Area.Config.onDisk, hload]

theorem compiles_deep : Compiles Cache.Sample.env (mapping true) ["p"] deep :=
  ⟨_, question?_mapping true, opens_deep, .inr (.inl rfl)⟩

theorem isStopped_deep (engine : Glob.Engine Area.globRules) :
    IsStopped Cache.Sample.env engine (mapping true) deep := by
  refine ⟨["p"], compiles_deep, ?_⟩
  rw [onDisk_deep]
  exact isCompiled_deepConfig engine

theorem forced_deep (engine : Glob.Engine Area.globRules) :
    forced Cache.Sample.env engine deep = none := by
  rw [forced, respond?_eq_none_iff]
  exact isStopped_deep engine

end Sample

/-- Settings that are no JSON are left out, and the map is the one without them. -/
theorem broken_settings_are_left_out :
    let place := settingsPlace ["p"]
    let engine := Glob.Engine.ofDepth Area.globRules
    (Opens Cache.Sample.env none ["p"] Sample.broken ∧
      Area.Config.tryLoad Sample.broken (.ofNames ["p"]) = .error (.json .malformed) ∧
      IsMereSettings Cache.Sample.env none ["p"] place Sample.broken) ∧
    ∃ r r', Sample.forced Cache.Sample.env engine Sample.broken = some r ∧ r.status ≠ .error ∧
      Sample.forced Cache.Sample.env engine (Sample.broken.without place) = some r' ∧
      r'.data = r.data := by
  intro place engine
  have hopens : Opens Cache.Sample.env none ["p"] Sample.broken :=
    ⟨by decide, by decide, by decide⟩
  have hproper : IsProper Cache.Sample.env (Sample.mapping true) Sample.broken :=
    ⟨⟨none, none⟩, rfl, nofun, ["p"], hopens⟩
  have hload : Area.Config.tryLoad Sample.broken (.ofNames ["p"]) = .error (.json .malformed) := by
    decide
  have hfile : Sample.broken.node? place = some (.file (.text "*.ts") 1000000) := by decide
  obtain ⟨-, -, hstatus, hmap⟩ :=
    only_misuse_is_refused Cache.Sample.env engine (Sample.mapping true) Sample.broken
  obtain ⟨r, found, hr, hlocate, -, hdata, hplain⟩ :=
    hmap ⟨none, true⟩ ["p"] _ rfl rfl rfl hopens hload
  have hplace : Sample.broken.locate (Area.Config.route (.ofNames ["p"])) = .ok place := by
    decide
  obtain rfl : place = found := Except.ok.inj (hplace.symm.trans hlocate)
  have hmere := hplain (by decide) _ _ hfile
  obtain ⟨r', hr', hsame⟩ := hdata hmere
  exact ⟨⟨hopens, hload, hmere⟩, r, r', hr, fun herror => (hstatus r hr).1 herror hproper, hr',
    hsame⟩

/-- A proper request has no answer where a rule of a declared area is in too many braces. And a map
may need settings that cannot be used, because they may be more than settings. -/
theorem exists_request_without_answer :
    (IsProper Cache.Sample.env (Sample.mapping true) Sample.deep ∧
      ∀ engine, Sample.forced Cache.Sample.env engine Sample.deep = none) ∧
    Sample.Needs "/p" Sample.linked ∧ Sample.Needs "/p" Sample.inhabited ∧
      Sample.Needs "/p/.atlas/config.json/../.." Sample.hollow := by
  refine ⟨⟨isProper_of_compiles Sample.compiles_deep, Sample.forced_deep⟩, ?_, ?_, ?_⟩
  · exact .of_listed (by decide) (by decide) (by decide) (by decide)
      (fun names h => Except.ok.inj (h.symm.trans (by decide))) (by decide +kernel)
  · exact .of_listed (by decide) (by decide) (by decide) (by decide)
      (fun names h => Except.ok.inj (h.symm.trans (by decide))) (by decide +kernel)
  · exact .of_listed (by decide) (by decide) (by decide) (by decide) (fun names h => by cases h)
      (by decide +kernel)

end Handler
end Gazetteer.Command
