import ContingentClaims.Proofs.Tree.Children

/-!
# A node in its surroundings

A *context* is a tree with one node taken out: the chain of ancestors of that node,
each with the siblings before and behind. Plugging a tree into a context puts it in
the place of the missing node.

The searches of a tree by identifier all walk to the same place: if a node is the
first one with its identifier, it is found, changed and located at the context that
surrounds it (`find?_plug`, `update?_plug`, `parentOf?_plug`), and whatever is found
stands in such a context (`exists_context_of_find?`).
-/

namespace ContingentClaims

/-! ## Identifiers -/

namespace Tree

/-- The identifiers of several trees, one tree after the other. -/
def idsOfAll (trees : List Tree) : List NodeId :=
  trees.flatMap ids

theorem ids_eq_map (tree : Tree) : tree.ids = tree.preorder.map (·.id) := by
  rw [ids, walk_eq_preorder]

theorem ids_eq (tree : Tree) : tree.ids = tree.id :: idsOfAll tree.children := by
  have listed : ids = fun tree => tree.preorder.map (·.id) := by
    funext tree
    exact ids_eq_map tree
  rw [ids_eq_map, preorder_eq, List.map_cons, preorderAll_eq_flatMap, List.map_flatMap,
    idsOfAll, listed]

@[simp] theorem idsOfAll_nil : idsOfAll [] = [] := rfl

@[simp] theorem idsOfAll_cons
    (tree : Tree)
    (rest : List Tree) :
    idsOfAll (tree :: rest) = tree.ids ++ idsOfAll rest := rfl

@[simp] theorem idsOfAll_append
    (front back : List Tree) :
    idsOfAll (front ++ back) = idsOfAll front ++ idsOfAll back := by
  simp [idsOfAll]

/-! ## Searching among children -/

theorem find?_eq
    (target : NodeId)
    (tree : Tree) :
    tree.find? target = if tree.id = target then some tree else findIn? target tree.children := by
  cases tree
  rfl

@[simp] theorem findIn?_nil (target : NodeId) : findIn? target [] = none := rfl

@[simp] theorem findIn?_cons
    (target : NodeId)
    (tree : Tree)
    (rest : List Tree) :
    findIn? target (tree :: rest) = (tree.find? target).or (findIn? target rest) := by
  rw [findIn?]
  cases tree.find? target <;> rfl

theorem findIn?_append
    (target : NodeId)
    (front back : List Tree) :
    findIn? target (front ++ back) = (findIn? target front).or (findIn? target back) := by
  induction front with
  | nil => rfl
  | cons tree rest restHypothesis => simp [restHypothesis, Option.or_assoc]

theorem update?_eq
    (target : NodeId)
    (change : Tree -> Tree)
    (tree : Tree) :
    tree.update? target change =
      if tree.id = target then some (change tree)
      else (updateIn? target change tree.children).map fun children => { tree with children } := by
  rcases tree with ⟨id, tag, type, children, text, value⟩
  rw [update?]
  split
  · rfl
  · cases updateIn? target change children <;> rfl

@[simp] theorem updateIn?_nil
    (target : NodeId)
    (change : Tree -> Tree) :
    updateIn? target change [] = none := rfl

@[simp] theorem updateIn?_cons
    (target : NodeId)
    (change : Tree -> Tree)
    (tree : Tree)
    (rest : List Tree) :
    updateIn? target change (tree :: rest) =
      ((tree.update? target change).map (· :: rest)).or
        ((updateIn? target change rest).map (tree :: ·)) := by
  rw [updateIn?]
  cases tree.update? target change with
  | some changed => rfl
  | none => cases updateIn? target change rest <;> rfl

theorem parentOf?_eq
    (target : NodeId)
    (tree : Tree) :
    tree.parentOf? target = parentAmong? target tree 0 tree.children := by
  cases tree
  rfl

theorem parentAmong?_cons
    (target : NodeId)
    (parent : Tree)
    (position : Nat)
    (child : Tree)
    (rest : List Tree) :
    parentAmong? target parent position (child :: rest) =
      if child.id = target then some (parent, position)
      else (child.parentOf? target).or (parentAmong? target parent (position + 1) rest) := by
  rw [parentAmong?]
  split
  · rfl
  · cases child.parentOf? target <;> rfl

/-! ## Absent identifiers -/

theorem not_mem_idsOfAll_iff
    (target : NodeId)
    (trees : List Tree) :
    target ∉ idsOfAll trees ↔ ∀ tree ∈ trees, target ∉ tree.ids := by
  simp [idsOfAll]

theorem not_mem_ids_iff
    (target : NodeId)
    (tree : Tree) :
    target ∉ tree.ids ↔ tree.id ≠ target ∧ ∀ child ∈ tree.children, target ∉ child.ids := by
  rw [ids_eq, List.mem_cons, not_or, not_mem_idsOfAll_iff, ne_comm]

theorem findIn?_eq_none_iff
    (target : NodeId)
    (trees : List Tree) :
    findIn? target trees = none ↔ ∀ tree ∈ trees, tree.find? target = none := by
  induction trees with
  | nil => simp
  | cons tree rest restHypothesis => simp [restHypothesis]

theorem find?_eq_none
    {target : NodeId}
    {tree : Tree}
    (absent : target ∉ tree.ids) :
    tree.find? target = none := by
  induction tree using childInduction with
  | step tree childHypothesis =>
      obtain ⟨different, below⟩ := (not_mem_ids_iff target tree).1 absent
      rw [find?_eq, if_neg different, findIn?_eq_none_iff]
      intro child isChild
      exact childHypothesis child isChild (below child isChild)

theorem findIn?_eq_none
    {target : NodeId}
    {trees : List Tree}
    (absent : target ∉ idsOfAll trees) :
    findIn? target trees = none := by
  rw [findIn?_eq_none_iff]
  intro tree present
  exact find?_eq_none ((not_mem_idsOfAll_iff target trees).1 absent tree present)

theorem updateIn?_eq_none_of_forall
    {target : NodeId}
    {change : Tree -> Tree}
    {trees : List Tree}
    (nowhere : ∀ tree ∈ trees, tree.update? target change = none) :
    updateIn? target change trees = none := by
  induction trees with
  | nil => rfl
  | cons tree rest restHypothesis =>
      obtain ⟨notHere, notBehind⟩ := List.forall_mem_cons.1 nowhere
      rw [updateIn?_cons, notHere, restHypothesis notBehind]
      rfl

theorem update?_eq_none
    {target : NodeId}
    {change : Tree -> Tree}
    {tree : Tree}
    (absent : target ∉ tree.ids) :
    tree.update? target change = none := by
  induction tree using childInduction with
  | step tree childHypothesis =>
      obtain ⟨different, below⟩ := (not_mem_ids_iff target tree).1 absent
      rw [update?_eq, if_neg different, updateIn?_eq_none_of_forall fun child isChild =>
        childHypothesis child isChild (below child isChild)]
      rfl

theorem updateIn?_append
    {target : NodeId}
    {front : List Tree}
    (absent : target ∉ idsOfAll front)
    (change : Tree -> Tree)
    (back : List Tree) :
    updateIn? target change (front ++ back) =
      (updateIn? target change back).map (front ++ ·) := by
  induction front with
  | nil => simp
  | cons tree rest restHypothesis =>
      simp only [idsOfAll_cons, List.mem_append, not_or] at absent
      rw [List.cons_append, updateIn?_cons, update?_eq_none absent.1,
        restHypothesis absent.2]
      simp [Function.comp_def]

theorem parentAmong?_eq_none_of_forall
    {target : NodeId}
    {children : List Tree}
    (nowhere : ∀ child ∈ children, child.id ≠ target ∧ child.parentOf? target = none)
    (parent : Tree)
    (position : Nat) :
    parentAmong? target parent position children = none := by
  induction children generalizing position with
  | nil => rfl
  | cons child rest restHypothesis =>
      obtain ⟨⟨different, notBelow⟩, notBehind⟩ := List.forall_mem_cons.1 nowhere
      rw [parentAmong?_cons, if_neg different, notBelow, restHypothesis notBehind]
      rfl

theorem parentOf?_eq_none
    {target : NodeId}
    {tree : Tree}
    (absent : target ∉ idsOfAll tree.children) :
    tree.parentOf? target = none := by
  induction tree using childInduction with
  | step tree childHypothesis =>
      rw [not_mem_idsOfAll_iff] at absent
      rw [parentOf?_eq]
      refine parentAmong?_eq_none_of_forall (fun child isChild => ?_) tree 0
      obtain ⟨different, below⟩ := (not_mem_ids_iff target child).1 (absent child isChild)
      refine ⟨different, childHypothesis child isChild ?_⟩
      rwa [not_mem_idsOfAll_iff]

theorem parentAmong?_append
    {target : NodeId}
    {front : List Tree}
    (absent : target ∉ idsOfAll front)
    (parent : Tree)
    (position : Nat)
    (back : List Tree) :
    parentAmong? target parent position (front ++ back) =
      parentAmong? target parent (position + front.length) back := by
  induction front generalizing position with
  | nil => rfl
  | cons child rest restHypothesis =>
      simp only [idsOfAll_cons, List.mem_append, not_or] at absent
      obtain ⟨different, below⟩ := (not_mem_ids_iff target child).1 absent.1
      rw [← not_mem_idsOfAll_iff] at below
      rw [List.cons_append, parentAmong?_cons, if_neg different, parentOf?_eq_none below,
        Option.none_or, restHypothesis absent.2, List.length_cons]
      congr 1
      omega

end Tree

/-! ## Contexts -/

/-- An ancestor of a missing child, with the other children before and behind it. -/
structure Frame where
  id : NodeId
  tag : String
  type : NodeType
  before : List Tree
  behind : List Tree
  text : Option String
  value : Option Leaf

namespace Frame

/-- The ancestor with a tree in the place of the missing child. -/
def fill
    (frame : Frame)
    (tree : Tree) : Tree where
  id := frame.id
  tag := frame.tag
  type := frame.type
  children := frame.before ++ tree :: frame.behind
  text := frame.text
  value := frame.value

@[simp] theorem id_fill (frame : Frame) (tree : Tree) :
    (frame.fill tree).id = frame.id := rfl

@[simp] theorem tag_fill (frame : Frame) (tree : Tree) :
    (frame.fill tree).tag = frame.tag := rfl

@[simp] theorem type_fill (frame : Frame) (tree : Tree) :
    (frame.fill tree).type = frame.type := rfl

@[simp] theorem children_fill (frame : Frame) (tree : Tree) :
    (frame.fill tree).children = frame.before ++ tree :: frame.behind := rfl

@[simp] theorem value_fill (frame : Frame) (tree : Tree) :
    (frame.fill tree).value = frame.value := rfl

/-- The position of the missing child. -/
def position (frame : Frame) : Nat :=
  frame.before.length

/-- A node without one of its children, given the children before and behind. -/
def around
    (node : Tree)
    (before behind : List Tree) : Frame where
  id := node.id
  tag := node.tag
  type := node.type
  before
  behind
  text := node.text
  value := node.value

theorem fill_around
    {node child : Tree}
    {before behind : List Tree}
    (split : node.children = before ++ child :: behind) :
    (around node before behind).fill child = node := by
  cases node
  subst split
  rfl

end Frame

/-- The ancestors of a missing node, its parent first. -/
abbrev Context : Type :=
  List Frame

namespace Context

/-- The whole tree with a tree in the place of the missing node. -/
def plug : Context -> Tree -> Tree
  | [], tree => tree
  | frame :: outer, tree => plug outer (frame.fill tree)

/-- The identifiers that stand before the missing node in pre-order. -/
def idsBefore : Context -> List NodeId
  | [] => []
  | frame :: outer => idsBefore outer ++ frame.id :: Tree.idsOfAll frame.before

/-- The identifiers that stand behind the missing node and all nodes below it. -/
def idsBehind : Context -> List NodeId
  | [] => []
  | frame :: outer => Tree.idsOfAll frame.behind ++ idsBehind outer

@[simp] theorem plug_nil (tree : Tree) : plug [] tree = tree := rfl

@[simp] theorem plug_cons
    (frame : Frame)
    (outer : Context)
    (tree : Tree) :
    plug (frame :: outer) tree = plug outer (frame.fill tree) := rfl

@[simp] theorem idsBefore_nil : idsBefore [] = [] := rfl

@[simp] theorem idsBefore_cons
    (frame : Frame)
    (outer : Context) :
    idsBefore (frame :: outer) =
      idsBefore outer ++ frame.id :: Tree.idsOfAll frame.before := rfl

theorem plug_append
    (inner outer : Context)
    (tree : Tree) :
    plug (inner ++ outer) tree = plug outer (plug inner tree) := by
  induction inner generalizing tree with
  | nil => rfl
  | cons frame inner innerHypothesis => exact innerHypothesis (frame.fill tree)

theorem idsBefore_append (inner outer : Context) :
    idsBefore (inner ++ outer) = idsBefore outer ++ idsBefore inner := by
  induction inner with
  | nil => simp
  | cons frame inner innerHypothesis => simp [innerHypothesis]

/-- The identifiers of the whole tree in pre-order. -/
theorem ids_plug
    (context : Context)
    (tree : Tree) :
    (context.plug tree).ids = context.idsBefore ++ tree.ids ++ context.idsBehind := by
  induction context generalizing tree with
  | nil => simp [idsBehind]
  | cons frame outer outerHypothesis =>
      rw [plug_cons, outerHypothesis, Tree.ids_eq]
      simp [Frame.fill, idsBehind]

/-- The missing node is a node of the whole tree. -/
theorem mem_preorder_plug
    (context : Context)
    (tree : Tree) :
    tree ∈ (context.plug tree).preorder := by
  suffices below : ∀ node ∈ tree.preorder, node ∈ (context.plug tree).preorder from
    below tree tree.mem_preorder_self
  induction context generalizing tree with
  | nil => exact fun node present => present
  | cons frame outer outerHypothesis =>
      intro node present
      apply outerHypothesis (frame.fill tree)
      rw [Tree.mem_preorder_iff]
      exact Or.inr ⟨tree, by simp, present⟩

/-- The identifier of the root, which is that of the node if there are no ancestors. -/
theorem id_plug
    {context : Context}
    {left right : Tree}
    (same : left.id = right.id) :
    (context.plug left).id = (context.plug right).id := by
  induction context generalizing left right with
  | nil => exact same
  | cons frame outer outerHypothesis => exact outerHypothesis rfl

theorem type_plug
    {context : Context}
    {left right : Tree}
    (same : left.type = right.type) :
    (context.plug left).type = (context.plug right).type := by
  induction context generalizing left right with
  | nil => exact same
  | cons frame outer outerHypothesis => exact outerHypothesis rfl

/-- The root stands before every node below it. -/
theorem id_plug_mem_idsBefore
    (frame : Frame)
    (outer : Context)
    (tree : Tree) :
    (plug (frame :: outer) tree).id ∈ idsBefore (frame :: outer) := by
  induction outer generalizing frame tree with
  | nil => simp
  | cons parent outer outerHypothesis =>
      rw [plug_cons, idsBefore_cons]
      exact List.mem_append_left _ (outerHypothesis parent (frame.fill tree))

/-! ## Searching in a context -/

/-- A node that is the first one with an identifier is found where it stands. -/
theorem find?_plug
    {context : Context}
    {tree found : Tree}
    {target : NodeId}
    (absent : target ∉ context.idsBefore)
    (here : tree.find? target = some found) :
    (context.plug tree).find? target = some found := by
  induction context generalizing tree with
  | nil => exact here
  | cons frame outer outerHypothesis =>
      simp only [idsBefore_cons, List.mem_append, List.mem_cons, not_or] at absent
      obtain ⟨notOutside, notParent, notBefore⟩ := absent
      apply outerHypothesis notOutside
      rw [Tree.find?_eq, Frame.id_fill, if_neg (Ne.symm notParent), Frame.children_fill,
        Tree.findIn?_append, Tree.findIn?_eq_none notBefore, Option.none_or,
        Tree.findIn?_cons, here]
      rfl

/-- A change of the first node with an identifier is made where the node stands. -/
theorem update?_plug
    {context : Context}
    {tree changed : Tree}
    {target : NodeId}
    {change : Tree -> Tree}
    (absent : target ∉ context.idsBefore)
    (here : tree.update? target change = some changed) :
    (context.plug tree).update? target change = some (context.plug changed) := by
  induction context generalizing tree changed with
  | nil => exact here
  | cons frame outer outerHypothesis =>
      simp only [idsBefore_cons, List.mem_append, List.mem_cons, not_or] at absent
      obtain ⟨notOutside, notParent, notBefore⟩ := absent
      apply outerHypothesis notOutside
      rw [Tree.update?_eq, Frame.id_fill, if_neg (Ne.symm notParent), Frame.children_fill,
        Tree.updateIn?_append notBefore, Tree.updateIn?_cons, here]
      rfl

theorem find?_plug_self
    {context : Context}
    {tree : Tree}
    (absent : tree.id ∉ context.idsBefore) :
    (context.plug tree).find? tree.id = some tree := by
  apply find?_plug absent
  rw [Tree.find?_eq, if_pos rfl]

theorem update?_plug_self
    {context : Context}
    {tree : Tree}
    (absent : tree.id ∉ context.idsBefore)
    (change : Tree -> Tree) :
    (context.plug tree).update? tree.id change = some (context.plug (change tree)) := by
  apply update?_plug absent
  rw [Tree.update?_eq, if_pos rfl]

/-- A parent that is found in a tree is found in every tree around it. -/
theorem parentOf?_plug_of_some
    {context : Context}
    {tree : Tree}
    {target : NodeId}
    {found : Tree × Nat}
    (absent : target ∉ context.idsBefore)
    (different : tree.id ≠ target)
    (here : tree.parentOf? target = some found) :
    (context.plug tree).parentOf? target = some found := by
  induction context generalizing tree with
  | nil => exact here
  | cons frame outer outerHypothesis =>
      simp only [idsBefore_cons, List.mem_append, List.mem_cons, not_or] at absent
      obtain ⟨notOutside, notParent, notBefore⟩ := absent
      apply outerHypothesis notOutside (Ne.symm notParent)
      rw [Tree.parentOf?_eq, Frame.children_fill, Tree.parentAmong?_append notBefore,
        Tree.parentAmong?_cons, if_neg different, here]
      rfl

/-- The parent of a node is the innermost ancestor in its context. -/
theorem parentOf?_plug
    {frame : Frame}
    {outer : Context}
    {tree : Tree}
    (absent : tree.id ∉ idsBefore (frame :: outer)) :
    (plug (frame :: outer) tree).parentOf? tree.id =
      some (frame.fill tree, frame.position) := by
  simp only [idsBefore_cons, List.mem_append, List.mem_cons, not_or] at absent
  obtain ⟨notOutside, notParent, notBefore⟩ := absent
  apply parentOf?_plug_of_some notOutside (Ne.symm notParent)
  rw [Tree.parentOf?_eq, Frame.children_fill, Tree.parentAmong?_append notBefore,
    Tree.parentAmong?_cons, if_pos rfl, Nat.zero_add, Frame.position]

end Context

namespace Tree

/-- The first tree of a forest in which something is found. -/
theorem exists_split_of_findIn?
    {target : NodeId}
    {trees : List Tree}
    {found : Tree}
    (here : findIn? target trees = some found) :
    ∃ before tree behind, trees = before ++ tree :: behind ∧
      (∀ other ∈ before, other.find? target = none) ∧ tree.find? target = some found := by
  induction trees with
  | nil => simp at here
  | cons first rest restHypothesis =>
      rw [findIn?_cons, Option.or_eq_some_iff] at here
      rcases here with here | ⟨notHere, later⟩
      · exact ⟨[], first, rest, rfl, by simp, here⟩
      · obtain ⟨before, tree, behind, split, skipped, inTree⟩ := restHypothesis later
        refine ⟨first :: before, tree, behind, by simp [split], ?_, inTree⟩
        exact List.forall_mem_cons.2 ⟨notHere, skipped⟩

theorem not_mem_ids_of_find?_eq_none
    {target : NodeId}
    {tree : Tree}
    (nowhere : tree.find? target = none) :
    target ∉ tree.ids := by
  induction tree using childInduction with
  | step tree childHypothesis =>
      rw [find?_eq] at nowhere
      split at nowhere
      next same => simp at nowhere
      next different =>
        rw [findIn?_eq_none_iff] at nowhere
        rw [not_mem_ids_iff]
        refine ⟨different, fun child isChild => ?_⟩
        exact childHypothesis child isChild (nowhere child isChild)

theorem not_mem_idsOfAll_of_findIn?_eq_none
    {target : NodeId}
    {trees : List Tree}
    (nowhere : findIn? target trees = none) :
    target ∉ idsOfAll trees := by
  rw [not_mem_idsOfAll_iff]
  intro tree present
  exact not_mem_ids_of_find?_eq_none ((findIn?_eq_none_iff target trees).1 nowhere tree present)

/-- A node that is found stands in a context in which nothing before it has its
identifier. -/
theorem exists_context_of_find?
    {target : NodeId}
    {root found : Tree}
    (here : root.find? target = some found) :
    ∃ context : Context, root = context.plug found ∧ found.id = target ∧
      target ∉ context.idsBefore := by
  induction root using childInduction with
  | step root childHypothesis =>
      rw [find?_eq] at here
      split at here
      next same =>
        obtain rfl := Option.some.inj here
        exact ⟨[], rfl, same, by simp⟩
      next different =>
        obtain ⟨before, child, behind, split, skipped, below⟩ := exists_split_of_findIn? here
        have isChild : child ∈ root.children := by simp [split]
        obtain ⟨inner, whole, named, absent⟩ := childHypothesis child isChild below
        have notBefore : target ∉ idsOfAll before := by
          rw [not_mem_idsOfAll_iff]
          intro other isBefore
          exact not_mem_ids_of_find?_eq_none (skipped other isBefore)
        refine ⟨inner ++ [Frame.around root before behind], ?_, named, ?_⟩
        · rw [Context.plug_append, ← whole, Context.plug_cons, Context.plug_nil,
            Frame.fill_around split]
        · rw [Context.idsBefore_append, List.mem_append, not_or]
          refine ⟨?_, absent⟩
          simp [Frame.around, notBefore, Ne.symm different]

/-- A node that is found is a node of the tree. -/
theorem mem_preorder_of_find?
    {root node : Tree}
    {id : NodeId}
    (found : root.find? id = some node) :
    node ∈ root.preorder := by
  obtain ⟨context, rfl, _, _⟩ := exists_context_of_find? found
  exact context.mem_preorder_plug node

/-- Every node of a tree stands in some context. -/
theorem exists_context_of_mem_preorder
    {root node : Tree}
    (present : node ∈ root.preorder) :
    ∃ context : Context, root = context.plug node := by
  induction root using childInduction with
  | step root childHypothesis =>
      rcases (mem_preorder_iff node root).1 present with rfl | ⟨child, isChild, below⟩
      · exact ⟨[], rfl⟩
      · obtain ⟨inner, whole⟩ := childHypothesis child isChild below
        obtain ⟨before, behind, split⟩ := List.append_of_mem isChild
        refine ⟨inner ++ [Frame.around root before behind], ?_⟩
        rw [Context.plug_append, ← whole, Context.plug_cons, Context.plug_nil,
          Frame.fill_around split]

end Tree
end ContingentClaims
