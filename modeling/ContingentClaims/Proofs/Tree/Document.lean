import ContingentClaims.Proofs.Json.Reading
import ContingentClaims.Proofs.Term.Document
import ContingentClaims.Proofs.Tree.Children
import ContingentClaims.Tree.Document

/-!
# Reading back the document of a tree

The document of a tree is read as the tree, but for the signs of zeros, which no literal
carries (`ofJson?_toJson`). All of its scalars are strings and no object in it has two
fields of one name, so its text is read as the document as long as it does not nest too
deeply.
-/

namespace ContingentClaims

/-! ## Leaves -/

namespace Leaf

/-- The document of a leaf is read as the leaf, but for the sign of a zero. -/
theorem ofJson?_toJson (leaf : Leaf) : ofJson? leaf.toJson = some leaf.unsignZeros := by
  cases leaf with
  | asset content => simp [toJson, ofJson?, Asset.ofJson?_toJson, unsignZeros]
  | decimal content => simp [toJson, ofJson?, Decimal.ofJson?_toJson, unsignZeros]
  | date content => simp [toJson, ofJson?, Date.ofJson?_toJson, unsignZeros]
  | key content => rfl

theorem optionalOfJson?_toJson (leaf : Leaf) :
    optionalOfJson? (some leaf.toJson) = some (some leaf.unsignZeros) := by
  have read := congrArg (Option.map some) leaf.ofJson?_toJson
  cases leaf <;> exact read

theorem isPlain_toJson (leaf : Leaf) : leaf.toJson.IsPlain := by
  rcases leaf with ⟨id, _ | version⟩ | value | date | key <;>
    simp [toJson, Asset.toJson, Decimal.toJson, Date.toJson]

end Leaf

/-! ## Nodes -/

namespace Tree

/-- A node is read from an object with the fields of a node. -/
theorem read?_object
    {lenient : Bool}
    {fields : List (String × Json)}
    {items : List Json}
    {id : NodeId}
    {tag : String}
    {type : NodeType}
    {children : List Tree}
    {text : Option String}
    {value : Option Leaf}
    (named : Json.lookup "id" fields = some (.string id))
    (tagged : Json.lookup "tag" fields = some (.string tag))
    (typed : Json.lookup "type" fields = some (.string type.name))
    (texted : Json.optionalText? (Json.lookup "text" fields) = some text)
    (carried : Leaf.optionalOfJson? (Json.lookup "value" fields) = some value)
    (listed : Json.lookup "children" fields = some (.array items))
    (read : readTreeItems? lenient items = some children) :
    Tree.read? lenient (.object fields) = some ⟨id, tag, type, children, text, value⟩ := by
  obtain ⟨_, typeFound⟩ := Json.exists_member?_object typed 2
  obtain ⟨_, childrenFound⟩ := Json.exists_member?_object listed 3
  have typeRead : NodeType.ofJson? (.string type.name) lenient = some type := by
    simp [NodeType.ofJson?, Json.choice?]
  rw [Tree.read?]
  simp only [Json.isRecord, Json.memberText?_object, Json.memberOptionalText?_object,
    Json.member?_object, named, tagged, texted, carried, Json.string?, typeFound, typeRead,
    childrenFound, readTrees?, read, Option.bind_eq_bind, Option.bind_some, Option.pure_def,
    if_true]

mutual

/-- The document of a tree is read as the tree, but for the signs of zeros. -/
theorem read?_toJson
    (lenient : Bool)
    (tree : Tree) :
    Tree.read? lenient tree.toJson = some tree.unsignZeros := by
  rcases tree with ⟨id, tag, type, children, text, value⟩
  have read := readTreeItems?_toJson lenient children
  rcases text with _ | text <;> rcases value with _ | leaf
  · exact read?_object rfl rfl rfl rfl rfl rfl read
  · exact read?_object rfl rfl rfl rfl leaf.optionalOfJson?_toJson rfl read
  · exact read?_object rfl rfl rfl rfl rfl rfl read
  · exact read?_object rfl rfl rfl rfl leaf.optionalOfJson?_toJson rfl read
termination_by structural tree

theorem readTreeItems?_toJson
    (lenient : Bool)
    (trees : List Tree) :
    readTreeItems? lenient (treesToJson trees) = some (unsignZerosOfTrees trees) := by
  cases trees with
  | nil =>
      rw [treesToJson, readTreeItems?]
      rfl
  | cons tree rest =>
      rw [treesToJson, readTreeItems?, read?_toJson lenient tree,
        readTreeItems?_toJson lenient rest]
      rfl
termination_by structural trees

end

theorem ofJson?_toJson (tree : Tree) : ofJson? tree.toJson = some tree.unsignZeros :=
  read?_toJson false tree

/-! ## The text of a document -/

theorem treesToJson_eq_map (trees : List Tree) : treesToJson trees = trees.map toJson := by
  induction trees with
  | nil => rfl
  | cons tree rest restHypothesis => rw [treesToJson, restHypothesis, List.map_cons]

/-- The scalars in the document of a tree are strings, and no object in it has two fields
of one name. -/
theorem isPlain_toJson (tree : Tree) : tree.toJson.IsPlain := by
  induction tree using childInduction with
  | step tree childHypothesis =>
      rcases tree with ⟨id, tag, type, children, text, value⟩
      have below : (Json.array (treesToJson children)).IsPlain := by
        simpa [treesToJson_eq_map] using childHypothesis
      rcases text with _ | text <;> rcases value with _ | leaf <;>
        simp_all [toJson, Leaf.isPlain_toJson]

/-- The line that is printed for a tree is read as its document, unless this nests too
deeply. -/
theorem parse?_pretty_toJson (tree : Tree) :
    Json.parse? (tree.toJson.pretty ++ "\n") =
      if tree.toJson.depth ≤ Json.maxDepth then some tree.toJson else none :=
  Json.parse?_pretty_line tree.isPlain_toJson

end Tree
end ContingentClaims
