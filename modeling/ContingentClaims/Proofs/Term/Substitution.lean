import ContingentClaims.Proofs.Term.Parts

/-!
# Substitution at one occurrence

An occurrence of a part in another is given by a path of positions among the operands
that are drawn, from the outside to the inside. A substitution exchanges the part at the
end of the path for another one of its sort, and every part on the way for the same
constructor over its changed operands; labels stay.
-/

namespace ContingentClaims
namespace Part

/-! ## Sorts -/

/-- Parts that may stand in one place of a term. -/
inductive SameSort : Part -> Part -> Prop
  | claim (left right : Claim) : SameSort (.claim left) (.claim right)
  | electable (left right : Electable) : SameSort (.electable left) (.electable right)
  | observation (left right : Observation) :
      SameSort (.observation left) (.observation right)
  | inequality (left right : Inequality) : SameSort (.inequality left) (.inequality right)
  | leaf
      {left right : Leaf}
      (kind : left.kind = right.kind) :
      SameSort (.leaf left) (.leaf right)

theorem SameSort.refl (part : Part) : part.SameSort part := by
  cases part with
  | claim term => exact .claim term term
  | electable alternative => exact .electable alternative alternative
  | observation term => exact .observation term term
  | inequality term => exact .inequality term term
  | leaf content => exact .leaf rfl

/-! What has the sort of a given part is such a part. -/

section Inversion

variable {operand : Part}

theorem SameSort.exists_claim
    {term : Claim}
    (same : operand.SameSort (.claim term)) :
    ∃ other, operand = .claim other := by
  cases same with
  | claim other => exact ⟨other, rfl⟩

theorem SameSort.exists_electable
    {alternative : Electable}
    (same : operand.SameSort (.electable alternative)) :
    ∃ other, operand = .electable other := by
  cases same with
  | electable other => exact ⟨other, rfl⟩

theorem SameSort.exists_observation
    {term : Observation}
    (same : operand.SameSort (.observation term)) :
    ∃ other, operand = .observation other := by
  cases same with
  | observation other => exact ⟨other, rfl⟩

theorem SameSort.exists_inequality
    {term : Inequality}
    (same : operand.SameSort (.inequality term)) :
    ∃ other, operand = .inequality other := by
  cases same with
  | inequality other => exact ⟨other, rfl⟩

theorem SameSort.exists_leaf
    {content : Leaf}
    (same : operand.SameSort (.leaf content)) :
    ∃ other : Leaf, other.kind = content.kind ∧ operand = .leaf other := by
  cases same with
  | leaf kind => exact ⟨_, kind, rfl⟩

theorem SameSort.exists_asset
    {asset : Asset}
    (same : operand.SameSort (.leaf (.asset asset))) :
    ∃ other, operand = .leaf (.asset other) := by
  obtain ⟨other, kind, rfl⟩ := same.exists_leaf
  cases other with
  | asset other => exact ⟨other, rfl⟩
  | _ => simp [Leaf.kind] at kind

theorem SameSort.exists_decimal
    {value : Decimal}
    (same : operand.SameSort (.leaf (.decimal value))) :
    ∃ other, operand = .leaf (.decimal other) := by
  obtain ⟨other, kind, rfl⟩ := same.exists_leaf
  cases other with
  | decimal other => exact ⟨other, rfl⟩
  | _ => simp [Leaf.kind] at kind

theorem SameSort.exists_date
    {date : Date}
    (same : operand.SameSort (.leaf (.date date))) :
    ∃ other, operand = .leaf (.date other) := by
  obtain ⟨other, kind, rfl⟩ := same.exists_leaf
  cases other with
  | date other => exact ⟨other, rfl⟩
  | _ => simp [Leaf.kind] at kind

theorem SameSort.exists_key
    {key : String}
    (same : operand.SameSort (.leaf (.key key))) :
    ∃ other, operand = .leaf (.key other) := by
  obtain ⟨other, kind, rfl⟩ := same.exists_leaf
  cases other with
  | key other => exact ⟨other, rfl⟩
  | _ => simp [Leaf.kind] at kind

/-- Parts of the sorts of those that one constructor makes are made by it too. -/
theorem exists_map_of_sameSort
    {α : Type}
    {part : α -> Part}
    {terms : List α}
    {operands : List Part}
    (closed : ∀ operand term, SameSort operand (part term) -> ∃ other, operand = part other)
    (same : List.Forall₂ SameSort operands (terms.map part)) :
    ∃ changed : List α, operands = changed.map part := by
  induction terms generalizing operands with
  | nil =>
      obtain rfl := List.forall₂_nil_right_iff.1 same
      exact ⟨[], rfl⟩
  | cons term rest restHypothesis =>
      obtain ⟨_, _, sameFirst, sameRest, rfl⟩ := List.forall₂_cons_right_iff.1 same
      obtain ⟨changed, rfl⟩ := closed _ _ sameFirst
      obtain ⟨others, rfl⟩ := restHypothesis sameRest
      exact ⟨changed :: others, rfl⟩

end Inversion

/-! ## Exchange -/

/-- Another part in the place of one: a claim under the old label in the place of an
alternative, and otherwise a term of the same type or a leaf of the same kind. -/
def exchange? : Part -> Part -> Option Part
  | claim _, claim new => some (claim new)
  | electable old, claim new => some (electable (.mk old.label new))
  | observation _, observation new => some (observation new)
  | inequality _, inequality new => some (inequality new)
  | leaf old, leaf new => if new.kind = old.kind then some (leaf new) else none
  | _, _ => none

theorem sameSort_of_exchange?
    {part content changed : Part}
    (exchanged : part.exchange? content = some changed) :
    changed.SameSort part := by
  cases part <;> cases content <;> simp only [exchange?, reduceCtorEq] at exchanged
  case leaf.leaf old new =>
    split at exchanged
    next kind =>
      obtain rfl := Option.some.inj exchanged
      exact .leaf kind
    next different => simp at exchanged
  all_goals
    obtain rfl := Option.some.inj exchanged
    constructor

/-! ## Other operands -/

/-- The claim of a part that is one. -/
def claim? : Part -> Option Claim
  | claim term => some term
  | _ => none

/-- The alternative of a part that is one. -/
def electable? : Part -> Option Electable
  | electable alternative => some alternative
  | _ => none

end Part

/-- An observation of the same constructor over other operands as they are drawn. -/
def Observation.redraw? : Observation -> List Part -> Option Observation
  | const _, [.leaf (.decimal value)] => some (const value)
  | observe _, [.leaf (.key key)] => some (observe key)
  | observeAt _ _, [.leaf (.key key), .leaf (.date date)] => some (observeAt key date)
  | add _ (neg _), [.observation left, .observation right] => some (sub left right)
  | add _ _, [.observation left, .observation right] => some (add left right)
  | neg _, [.observation operand] => some (neg operand)
  | mul _ _, [.observation left, .observation right] => some (mul left right)
  | div _ _, [.observation left, .observation right] => some (div left right)
  | _, _ => none

/-- An inequality of the same constructor over other operands. -/
def Inequality.redraw? : Inequality -> List Part -> Option Inequality
  | timeGte _, [.leaf (.date date)] => some (timeGte date)
  | timeLte _, [.leaf (.date date)] => some (timeLte date)
  | lte _ _, [.observation left, .observation right] => some (lte left right)
  | _, _ => none

/-- A claim of the same constructor over other operands. -/
def Claim.redraw? : Claim -> List Part -> Option Claim
  | zero, [] => some zero
  | one _, [.leaf (.asset asset)] => some (one asset)
  | give _, [.claim claim] => some (give claim)
  | and _ _ _, operands => operands.mapM Part.claim? >>= all?
  | or _ _ _, operands => operands.mapM Part.electable? >>= anyOf?
  | cond _ _ _, [.inequality predicate, .claim success, .claim failure] =>
      some (cond predicate success failure)
  | scale _ _, [.observation factor, .claim claim] => some (scale factor claim)
  | whenHolds _ _, [.inequality predicate, .claim claim] => some (whenHolds predicate claim)
  | untilHolds _ _, [.inequality predicate, .claim claim] => some (untilHolds predicate claim)
  | anytime _ _, [.inequality predicate, .electable electable] =>
      some (anytime predicate electable)
  | _, _ => none

namespace Part

/-- A part of the same constructor over other operands as they are drawn. An alternative
keeps its label. -/
def redraw? : Part -> List Part -> Option Part
  | claim term, operands => (term.redraw? operands).map claim
  | electable alternative, operands =>
      (alternative.claim.redraw? operands).map fun term =>
        electable (.mk alternative.label term)
  | observation term, operands => (term.redraw? operands).map observation
  | inequality term, operands => (term.redraw? operands).map inequality
  | leaf content, [] => some (leaf content)
  | _, _ => none

theorem mapM_claim? (claims : List Claim) :
    (claims.map claim).mapM claim? = some claims := by
  induction claims with
  | nil => rfl
  | cons claim rest restHypothesis => simp [claim?, restHypothesis]

theorem mapM_electable? (electables : List Electable) :
    (electables.map electable).mapM electable? = some electables := by
  induction electables with
  | nil => rfl
  | cons electable rest restHypothesis => simp [electable?, restHypothesis]

/-- Over its own operands a claim stays as it is. -/
theorem redraw?_operands (term : Claim) : term.redraw? term.operands = some term := by
  cases term with
  | and first second others =>
      change ((first :: second :: others).map claim).mapM claim? >>= Claim.all? = _
      rw [mapM_claim?]
      rfl
  | or first second others =>
      change ((first :: second :: others).map electable).mapM electable? >>= Claim.anyOf? = _
      rw [mapM_electable?]
      rfl
  | _ => rfl

/-- Over its own operands a part stays as it is. -/
theorem redraw?_drawn (part : Part) : part.redraw? part.drawn = some part := by
  cases part with
  | claim term => simp [redraw?, drawn, redraw?_operands]
  | electable alternative =>
      rcases alternative with ⟨label, term⟩
      simp [redraw?, drawn, redraw?_operands]
  | observation term =>
      cases term with
      | add left right => cases right <;> rfl
      | _ => rfl
  | inequality term => cases term <;> rfl
  | leaf content => rfl

/-! ## Occurrences -/

/-- The part at the end of a path. -/
def at? : List Nat -> Part -> Option Part
  | [], part => some part
  | position :: path, part => do
      let operand <- part.drawn[position]?
      operand.at? path

/-- The whole with the part at the end of a path changed. -/
def modifyAt?
    (change : Part -> Option Part) : List Nat -> Part -> Option Part
  | [], part => change part
  | position :: path, part => do
      let operand <- part.drawn[position]?
      let changed <- operand.modifyAt? change path
      part.redraw? (part.drawn.set position changed)

/-- The whole with another part substituted at the end of a path. -/
def substitute?
    (whole : Part)
    (path : List Nat)
    (content : Part) : Option Part :=
  whole.modifyAt? (·.exchange? content) path

/-- The second operand of a difference is what is subtracted. -/
example (left right new : Observation) :
    (observation (.sub left right)).substitute? [1] (.observation new) =
      some (observation (.sub left new)) := rfl

theorem at?_append
    (outer inner : List Nat)
    (whole : Part) :
    whole.at? (outer ++ inner) = (whole.at? outer).bind (·.at? inner) := by
  induction outer generalizing whole with
  | nil => rfl
  | cons position outer outerHypothesis =>
      cases found : whole.drawn[position]? with
      | none => simp [at?, found]
      | some operand => simp [at?, found, outerHypothesis]

/-- A change further inside is a change of the part on the way. -/
theorem modifyAt?_append
    (change : Part -> Option Part)
    (outer inner : List Nat)
    (whole : Part) :
    whole.modifyAt? change (outer ++ inner) =
      whole.modifyAt? (·.modifyAt? change inner) outer := by
  induction outer generalizing whole with
  | nil => rfl
  | cons position outer outerHypothesis =>
      cases found : whole.drawn[position]? with
      | none => simp [modifyAt?, found]
      | some operand => simp [modifyAt?, found, outerHypothesis]

end Part
end ContingentClaims
