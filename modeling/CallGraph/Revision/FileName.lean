import CallGraph.Text.Cut
/-!
The name of the file that a document is written to. Where the product has two parts, the second
one comes first: `artifact_group_version.json`.
-/
namespace CallGraph.Revision

def fileName (product version : String) : String :=
  match Text.cutFirst? ':' product.toList with
  | none => product ++ "_" ++ version ++ ".json"
  | some (group, artifact) =>
    String.ofList artifact ++ "_" ++ String.ofList group ++ "_" ++ version ++ ".json"

end CallGraph.Revision
