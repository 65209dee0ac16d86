/-!
# Constructor tags

The names under which the constructors of claims, observations and inequalities
occur in documents and on the nodes of a tree. A tag is read back from its name
and from no other text.
-/

namespace ContingentClaims

/-- The constructors of claims. -/
inductive ClaimTag
  | zero
  | one
  | give
  | and
  | or
  | cond
  | scale
  | whenHolds
  | untilHolds
  | anytime
  deriving DecidableEq

namespace ClaimTag

/-- The name of a tag. -/
def name : ClaimTag -> String
  | zero => "Zero"
  | one => "One"
  | give => "Give"
  | and => "And"
  | or => "Or"
  | cond => "Cond"
  | scale => "Scale"
  | whenHolds => "When"
  | untilHolds => "Until"
  | anytime => "Anytime"

/-- Every tag. -/
def all : List ClaimTag :=
  [zero, one, give, and, or, cond, scale, whenHolds, untilHolds, anytime]

/-- The tag of a name. -/
def ofName? (text : String) : Option ClaimTag :=
  all.find? fun tag => tag.name == text

@[simp] theorem ofName?_name (tag : ClaimTag) : ofName? tag.name = some tag := by
  cases tag <;> decide

theorem name_of_ofName?
    {text : String}
    {tag : ClaimTag}
    (found : ofName? text = some tag) :
    tag.name = text := by
  simpa using List.find?_some found

end ClaimTag

/-- The constructors of observations. A difference has a tag of its own only on
tree nodes; as a term it is a sum with a negated second operand. -/
inductive ObservationTag
  | const
  | observe
  | observeAt
  | add
  | sub
  | neg
  | mul
  | div
  deriving DecidableEq

namespace ObservationTag

/-- The name of a tag. -/
def name : ObservationTag -> String
  | const => "Const"
  | observe => "Observe"
  | observeAt => "ObserveAt"
  | add => "Add"
  | sub => "Sub"
  | neg => "Neg"
  | mul => "Mul"
  | div => "Div"

/-- Every tag. -/
def all : List ObservationTag :=
  [const, observe, observeAt, add, sub, neg, mul, div]

/-- The tag of a name. -/
def ofName? (text : String) : Option ObservationTag :=
  all.find? fun tag => tag.name == text

@[simp] theorem ofName?_name (tag : ObservationTag) : ofName? tag.name = some tag := by
  cases tag <;> decide

theorem name_of_ofName?
    {text : String}
    {tag : ObservationTag}
    (found : ofName? text = some tag) :
    tag.name = text := by
  simpa using List.find?_some found

end ObservationTag

/-- The constructors of inequalities. -/
inductive InequalityTag
  | timeGte
  | timeLte
  | lte
  deriving DecidableEq

namespace InequalityTag

/-- The name of a tag. -/
def name : InequalityTag -> String
  | timeGte => "TimeGte"
  | timeLte => "TimeLte"
  | lte => "Lte"

/-- Every tag. -/
def all : List InequalityTag :=
  [timeGte, timeLte, lte]

/-- The tag of a name. -/
def ofName? (text : String) : Option InequalityTag :=
  all.find? fun tag => tag.name == text

@[simp] theorem ofName?_name (tag : InequalityTag) : ofName? tag.name = some tag := by
  cases tag <;> decide

theorem name_of_ofName?
    {text : String}
    {tag : InequalityTag}
    (found : ofName? text = some tag) :
    tag.name = text := by
  simpa using List.find?_some found

end InequalityTag
end ContingentClaims
