import Gazetteer.Json.Decoder
import Gazetteer.Number.Numeral
import Gazetteer.Text.Blank
import Gazetteer.Text.Pieces

/-!
# Fingerprints

A cheap summary of a source tree: the number of files, their times of modification combined by
exclusive or, and the latest of these times. The order of the files does not matter.
-/

namespace Gazetteer.Cache

structure Fingerprint where
  fileCount : UInt64
  mtimeXor : UInt64
  maxMtime : UInt64
deriving DecidableEq, Repr

/-- The error for a text that is no fingerprint. -/
structure InvalidFingerprint where
  text : String
deriving DecidableEq, Repr

def InvalidFingerprint.message (e : InvalidFingerprint) : String :=
  "Invalid fingerprint '" ++ e.text ++ "'"

namespace Fingerprint

def empty : Fingerprint := ⟨0, 0, 0⟩

instance : Inhabited Fingerprint := ⟨empty⟩

/-- Takes in a file. -/
def addFile (f : Fingerprint) (modified : UInt64) : Fingerprint :=
  ⟨f.fileCount + 1, f.mtimeXor ^^^ modified, max f.maxMtime modified⟩

/-- Takes in the time of the settings file, which is not counted. -/
def addSettings (f : Fingerprint) (modified : UInt64) : Fingerprint :=
  { f with mtimeXor := f.mtimeXor ^^^ modified }

/-- The fingerprint of files and, if there is one, a settings file, from their times. -/
def ofTimes (files : List UInt64) (settings : Option UInt64) : Fingerprint :=
  let counted := files.foldl addFile empty
  match settings with
  | some modified => counted.addSettings modified
  | none => counted

/-- The text `count-xor-latest`, the middle number in hexadecimal. -/
def text (f : Fingerprint) : String :=
  .ofList (Numeral.decimal f.fileCount.toNat ++ '-' :: Nat.toDigits 16 f.mtimeXor.toNat ++
    '-' :: Numeral.decimal f.maxMtime.toNat)

/-- Reads a fingerprint, with white space around it or without. -/
def ofText (s : String) : Except InvalidFingerprint Fingerprint :=
  match Text.splitOn '-' (Text.trim s.toList) with
  | [count, xor, latest] =>
    match Numeral.readWord? 10 count, Numeral.readWord? 16 xor, Numeral.readWord? 10 latest with
    | some count, some xor, some latest => .ok ⟨count, xor, latest⟩
    | _, _, _ => .error ⟨s⟩
  | _ => .error ⟨s⟩

def encode (f : Fingerprint) : Json := .string f.text

def decoder : Json.Decoder Fingerprint :=
  Json.Decoder.string.refine fun s => (ofText s).mapError InvalidFingerprint.message

example : (ofTimes [1700000000000, 1700000000255] (some 1)).text = "2-fe-1700000000255" := by
  decide

example : (ofText " +1-FF-7 ").toOption = some ⟨1, 255, 7⟩ := by decide

end Fingerprint
end Gazetteer.Cache
