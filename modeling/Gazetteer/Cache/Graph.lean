import Gazetteer.Json.Encode
import Gazetteer.Json.Record

/-!
# Import graphs

Which files a file imports, and which import it. The first is stored, the second is read off.
-/

namespace Gazetteer.Cache

structure Graph where
  /-- The files that each file imports. -/
  edges : OrdMap String (OrdSet String)
deriving DecidableEq

namespace Graph

def empty : Graph := ⟨.empty⟩

instance : Inhabited Graph := ⟨empty⟩

def addEdge (g : Graph) (source target : String) : Graph :=
  ⟨g.edges.alter source fun targets? => (targets?.getD .empty).insert target⟩

/-- The files that a file imports. -/
def dependenciesOf (g : Graph) (file : String) : List String :=
  ((g.edges.find? file).map OrdSet.toList).getD []

/-- The files that import a file. -/
def dependentsOf (g : Graph) (file : String) : List String :=
  (g.edges.entries.filter fun (_, targets) => decide (file ∈ targets)).map Prod.fst

def encode (g : Graph) : Json := .record [("edges", some (.dict g.edges .stringSet))]

open Json in
def record : RecordDecoder Graph := Graph.mk <$> .required "edges" Decoder.stringSet.dict

def decoder : Json.Decoder Graph := record.decoder "DependencyGraph"

end Graph
end Gazetteer.Cache
