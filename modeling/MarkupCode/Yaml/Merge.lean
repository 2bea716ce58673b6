import MarkupCode.Yaml.Graph

/-!
# Merging mappings

An entry under the merge key brings in the entries of another mapping, or of several, in front of the
mapping's own; of several the earlier one takes precedence, so it comes later. The key of a default
value becomes an ordinary text. Mappings that are brought in are treated in the same way first.
-/

namespace MarkupCode.Yaml.Graph

/-- Looks at the entries of a mapping from a place on; `merged` are those brought in so far. The
bound on the depth is exceeded only by a graph that merges itself without end. -/
def mergeFrom (g : Graph) (id place : Nat) (merged : List (Nat × Nat)) :
    Nat → Except Error Graph
  | 0 => .error .malformed
  | fuel + 1 =>
    match (g.entries id)[place]? with
    | none => .ok (if merged = [] then g else g.setContent id (.mapping (merged ++ g.entries id)))
    | some (key, value) =>
      if (g.node key).tag = .merge then
        let g := g.setContent id (.mapping ((g.entries id).eraseIdx place))
        match (g.node value).content with
        | .mapping _ => do
          let g ← mergeFrom g value 0 [] fuel
          mergeFrom g id place (merged ++ g.entries value) fuel
        | .sequence items => do
          let (g, found) ← items.foldlM (fun (g, found) item =>
            match (g.node item).content with
            | .mapping _ => do
              let g ← mergeFrom g item 0 [] fuel
              return (g, g.entries item :: found)
            | _ => .error .malformed) (g, ([] : List (List (Nat × Nat))))
          mergeFrom g id place (merged ++ found.flatten) fuel
        | .scalar _ => .error .malformed
      else
        let g := if (g.node key).tag = .value then g.setTag key .str else g
        mergeFrom g id (place + 1) merged fuel

def merge (g : Graph) (id : Nat) : Except Error Graph :=
  mergeFrom g id 0 [] ((g.entryCount + 2) * (g.entryCount + 2))

end MarkupCode.Yaml.Graph
