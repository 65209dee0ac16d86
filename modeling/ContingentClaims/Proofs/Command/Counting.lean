import ContingentClaims.Proofs.Command.Pipeline
import ContingentClaims.Proofs.Ids.Overflow
import ContingentClaims.Proofs.Script.Operations
import ContingentClaims.Proofs.Session.Draws

/-!
# Counting in an editing run

A script that edits a tree draws at most as many names for a step as the largest template has
nodes. The run breaks off if the counter of the names overflows, which happens exactly if some
identifier of the tree leaves too little room for the names that the script draws
(`countsWhileRoom_of_edits`). A document may have any identifiers, so it can make a run
break off even if the script is empty.
-/

namespace ContingentClaims

namespace Session

variable {session : Session}

/-! ## Draws of scripts -/

/-- At most one operation is performed on a node or an entry that may be missing. -/
theorem mostDraws_toList_le
    {α : Type}
    {bound : Nat}
    (operation : α -> Operation)
    (most : ∀ item, (operation item).mostDraws ≤ bound)
    (item? : Option α) :
    mostDraws (item?.map operation).toList ≤ bound := by
  cases item? with
  | none => exact Nat.zero_le _
  | some item => exact most item

theorem mostDraws_onTarget_le
    {bound : Nat}
    (session : Session)
    (node : Option NodeId)
    (operation : NodeId -> Operation)
    (most : ∀ id, (operation id).mostDraws ≤ bound) :
    mostDraws (session.onTarget node operation) ≤ bound :=
  mostDraws_toList_le operation most _

theorem mostDraws_onEntry_le
    {bound : Nat}
    (choice? : Option MenuEntry)
    (operation : NodeId -> Operation)
    (most : ∀ id, (operation id).mostDraws ≤ bound) :
    mostDraws (onEntry choice? operation) ≤ bound :=
  mostDraws_toList_le (fun entry : MenuEntry => operation entry.id) (fun entry => most entry.id) _

/-- Hovering draws nothing. -/
theorem mostDraws_hoverOperations
    (session : Session)
    (depth : Nat)
    (label : String) :
    mostDraws (session.hoverOperations depth label) = 0 :=
  Nat.le_zero.1 (mostDraws_onEntry_le _ (.hover depth) fun _ => Nat.le_refl _)

theorem mostDraws_selectOperations_le
    (session : Session)
    (label : String) :
    mostDraws (session.selectOperations label) ≤ Catalog.largest :=
  mostDraws_onEntry_le _ .select fun _ => Nat.le_refl _

/-- A path is walked along without draws, up to its last entry. -/
theorem mostDraws_pathOperations_le
    (session : Session)
    (depth : Nat)
    (path : List String) :
    mostDraws (session.pathOperations depth path) ≤ Catalog.largest := by
  induction path generalizing session depth with
  | nil => exact Nat.zero_le _
  | cons label rest restHypothesis =>
      cases rest with
      | nil => exact session.mostDraws_selectOperations_le label
      | cons next rest =>
          rw [pathOperations_cons, mostDraws_append, mostDraws_hoverOperations, Nat.zero_add]
          cases session.hoverLabel depth label with
          | ok later => exact restHypothesis later (depth + 1)
          | error error => exact Nat.zero_le _

theorem mostDraws_stepOperations_le
    (session : Session)
    (step : Step) :
    mostDraws (session.stepOperations step) ≤ Catalog.largest := by
  have opening (node : Option NodeId) : mostDraws (session.onTarget node .openMenu) = 0 :=
    Nat.le_zero.1 (session.mostDraws_onTarget_le node .openMenu fun _ => Nat.le_refl _)
  cases step with
  | openMenu node =>
      rw [stepOperations, opening]
      exact Nat.zero_le _
  | hover depth label =>
      rw [stepOperations, mostDraws_hoverOperations]
      exact Nat.zero_le _
  | select label => exact session.mostDraws_selectOperations_le label
  | choose node path =>
      rw [stepOperations, mostDraws_append, opening, Nat.zero_add]
      cases session.openMenuOf node with
      | ok later => exact later.mostDraws_pathOperations_le 0 path
      | error error => exact Nat.zero_le _
  | set node kind literal =>
      have one : 1 ≤ Catalog.largest := by decide
      exact session.mostDraws_onTarget_le node (.setLeaf · kind literal) fun _ => one
  | replace node tree =>
      exact session.mostDraws_onTarget_le node (.replace · tree) fun _ => Nat.zero_le _
  | relabel node label => exact Nat.zero_le _
  | close => exact Nat.zero_le _
  | lock => exact Nat.zero_le _

theorem mostDraws_scriptOperations_le
    (session : Session)
    (steps : List Step) :
    mostDraws (session.scriptOperations steps) ≤ Catalog.largest * steps.length := by
  induction steps generalizing session with
  | nil => exact Nat.zero_le _
  | cons step rest restHypothesis =>
      rw [scriptOperations, mostDraws_append, List.length_cons, Nat.mul_succ, Nat.add_comm]
      refine Nat.add_le_add ?_ (session.mostDraws_stepOperations_le step)
      cases session.performStep step with
      | ok later => exact restHypothesis later
      | error error => exact Nat.zero_le _

/-- A script draws names only for its steps. -/
theorem drawsAtMost_afterScript
    (standard : session.catalogs.IsStandard)
    (steps : List Step) :
    IdSource.DrawsAtMost (Catalog.largest * steps.length) session.ids
      (session.afterScript steps).ids :=
  (drawsAtMost_performAll standard _).mono (session.mostDraws_scriptOperations_le steps)

end Session

/-! ## Editing the tree of a document -/

namespace Command

open SequentialIds

/-- The menus of every run. -/
def standardMenus : Catalogs :=
  (Catalogs.unchecked.run (SequentialIds.mk "m" 0).source).1

theorem standard_eq_ok_standardMenus :
    (Catalogs.standard.run (SequentialIds.mk "m" 0).source).1 = .ok standardMenus :=
  Catalogs.standard_eq_ok (SequentialIds.mk "m" 0).source_injective

theorem catalogs_eq_ok : catalogs = .ok standardMenus := by
  rw [catalogs, standard_eq_ok_standardMenus]

theorem isStandard_standardMenus : standardMenus.IsStandard :=
  Catalogs.isStandard_of_standard standard_eq_ok_standardMenus

/-- A request to run the script of a file on the tree of a file, with sequential names. -/
structure Edits
    (environment : Environment)
    (invocation : Invocation)
    (tree : Tree)
    (steps : List Step) : Prop where
  sequential : invocation.ids = .sequential
  reads :
    ∃ file script submit document scriptDocument,
      invocation.task = .edit (some file) script submit ∧
        environment.readJson file = .ok document ∧ loadTree document = .ok tree ∧
        environment.readJson script = .ok scriptDocument ∧
        Step.listOfJson? scriptDocument = some steps

/-- The sequence that is resumed behind the identifiers of a tree, unless its counter
overflows. -/
def resumedBehind? (tree : Tree) : Option SequentialIds :=
  ({ stem := "n" } : SequentialIds).resumeAfter? tree.ids

/-- The number of names that a script draws until it ends or fails, where the names are counted
on even if the counter overflows. None is drawn if the sequence cannot be resumed. -/
def drawnBy
    (tree : Tree)
    (steps : List Step) : Nat :=
  match resumedBehind? tree with
  | some ids => ((Session.counting ids tree standardMenus).afterScript steps).ids.drawn
  | none => 0

/-- How the counter of an editing run behaves. -/
structure CountsWhileRoom
    (environment : Environment)
    (invocation : Invocation)
    (tree : Tree)
    (steps : List Step) : Prop where
  /-- A step draws no more names than the largest template has nodes. -/
  bounded : drawnBy tree steps ≤ Catalog.largest * steps.length
  /-- If the script succeeds, its draws are those of the session that it leaves. -/
  drawn :
    ∀ ids later, resumedBehind? tree = some ids ->
      (Session.counting ids tree standardMenus).runScript 1 steps = .ok later ->
      later.ids.drawn = drawnBy tree steps
  /-- The names are those that the resumed sequence hands out one after another. -/
  named :
    ∀ ids names last, resumedBehind? tree = some ids ->
      ids.drawAll? (drawnBy tree steps) = some (names, last) ->
      (Session.counting ids tree standardMenus).ids.upcoming (drawnBy tree steps) = names
  /-- The sequence is resumed exactly if no identifier of the tree has the last word. -/
  resumes_iff : (resumedBehind? tree).isSome ↔ HasRoom "n" tree.ids 0
  /-- The run breaks off if the counter overflows, and only then. -/
  breaksOff_iff :
    (run environment invocation).exitCode = 101 ↔
      ¬ NeverOverflows "n" tree.ids (drawnBy tree steps)
  /-- It reports then that the counter has overflowed, and prints nothing. -/
  reported :
    (run environment invocation).exitCode = 101 ->
      run environment invocation = Failure.counterOverflow.outcome invocation
  /-- The counter overflows exactly if an identifier of the tree leaves too little room for
  the names that are drawn. -/
  overflow_iff :
    NeverOverflows "n" tree.ids (drawnBy tree steps) ↔
      HasRoom "n" tree.ids (drawnBy tree steps)
  /-- It does not overflow if there is room for the names of all steps. -/
  safe :
    HasRoom "n" tree.ids (Catalog.largest * steps.length) ->
      NeverOverflows "n" tree.ids (drawnBy tree steps)

section Runs

variable {environment : Environment} {invocation : Invocation}
variable {tree : Tree} {steps : List Step} {ids : SequentialIds}

/-! ### Draws of the run -/

theorem drawsAtMost_counting
    (ids : SequentialIds)
    (tree : Tree)
    (steps : List Step) :
    IdSource.DrawsAtMost (Catalog.largest * steps.length) ids.source
      ((Session.counting ids tree standardMenus).afterScript steps).ids := by
  have standard : (Session.counting ids tree standardMenus).catalogs.IsStandard :=
    isStandard_standardMenus
  exact Session.drawsAtMost_afterScript standard steps

theorem ids_afterScript
    (resumed : resumedBehind? tree = some ids)
    (steps : List Step) :
    ((Session.counting ids tree standardMenus).afterScript steps).ids =
      ids.source.skip (drawnBy tree steps) := by
  obtain ⟨amount, _, behind⟩ := drawsAtMost_counting ids tree steps
  have counted : drawnBy tree steps = amount := by
    simp only [drawnBy, resumed, behind, IdSource.drawn_skip]
    exact Nat.zero_add amount
  rw [behind, counted]

theorem drawnBy_le
    (tree : Tree)
    (steps : List Step) :
    drawnBy tree steps ≤ Catalog.largest * steps.length := by
  cases resumed : resumedBehind? tree with
  | none => simp [drawnBy, resumed]
  | some ids =>
      obtain ⟨amount, few, behind⟩ := drawsAtMost_counting ids tree steps
      rw [ids_afterScript resumed] at behind
      have counted : drawnBy tree steps = amount :=
        Nat.add_left_cancel (congrArg IdSource.drawn behind)
      rwa [counted]

/-- The counter does not overflow exactly if the sequence is resumed and its source lasts for
the script. -/
theorem neverOverflows_drawnBy_iff
    (tree : Tree)
    (steps : List Step) :
    NeverOverflows "n" tree.ids (drawnBy tree steps) ↔
      ∃ ids, resumedBehind? tree = some ids ∧
        ((Session.counting ids tree standardMenus).afterScript steps).ids.overflowed = false := by
  constructor
  · rintro ⟨ids, resumed, drawn⟩
    refine ⟨ids, resumed, ?_⟩
    rw [ids_afterScript resumed, overflowed_skip_source_eq_false_iff]
    exact (isSome_drawAll?_iff _ _).1 drawn
  · rintro ⟨ids, resumed, lasts⟩
    rw [ids_afterScript resumed, overflowed_skip_source_eq_false_iff] at lasts
    exact ⟨ids, resumed, (isSome_drawAll?_iff _ _).2 lasts⟩

/-! ### Outcomes of the run -/

/-- A run that reads a tree and a script resumes the sequence behind the identifiers of the
tree and runs the script. -/
theorem Edits.exists_runTask (edits : Edits environment invocation tree steps) :
    ∃ submit,
      runTask environment invocation =
        match resumedBehind? tree with
        | some ids => editSession (Session.counting ids tree standardMenus) steps submit
        | none => .error .counterOverflow := by
  obtain ⟨sequential, file, script, submit, document, scriptDocument, task, readable, loaded,
    scriptReadable, read⟩ := edits
  refine ⟨submit, ?_⟩
  have started : startSession environment .sequential standardMenus (some file) =
      match resumedBehind? tree with
      | some ids => .ok (Session.counting ids tree standardMenus)
      | none => .error .counterOverflow := by
    have behind : environment.idSourceAfter? tree .sequential =
        (resumedBehind? tree).map (·.source) := rfl
    simp only [startSession, readable, loaded, bind, Except.bind, behind]
    cases resumedBehind? tree <;> rfl
  rw [runTask, task]
  simp only [edit, catalogs_eq_ok, scriptReadable, read, sequential, started, bind, Except.bind]
  cases resumedBehind? tree <;> rfl

/-- If the counter overflows, the run breaks off. -/
theorem Edits.run_eq_of_overflow
    (edits : Edits environment invocation tree steps)
    (overflows : ¬ NeverOverflows "n" tree.ids (drawnBy tree steps)) :
    run environment invocation = Failure.counterOverflow.outcome invocation := by
  obtain ⟨submit, ran⟩ := edits.exists_runTask
  have failed : runTask environment invocation = .error .counterOverflow := by
    rw [ran]
    rw [neverOverflows_drawnBy_iff] at overflows
    cases resumed : resumedBehind? tree with
    | none => rfl
    | some ids =>
        refine if_pos ?_
        by_contra lasts
        exact overflows ⟨ids, resumed, Bool.eq_false_of_not_eq_true lasts⟩
  rw [run, failed]

/-- Otherwise it ends with the script, whether this succeeds or fails. -/
theorem Edits.exitCode_run_le
    (edits : Edits environment invocation tree steps)
    (lasts : NeverOverflows "n" tree.ids (drawnBy tree steps)) :
    (run environment invocation).exitCode ≤ 1 := by
  obtain ⟨submit, ran⟩ := edits.exists_runTask
  obtain ⟨ids, resumed, lasts⟩ := (neverOverflows_drawnBy_iff tree steps).1 lasts
  rw [resumed] at ran
  simp only [editSession, lasts, Bool.false_eq_true, if_false] at ran
  rw [run, ran]
  cases (Session.counting ids tree standardMenus).runScript 1 steps with
  | error error => exact Nat.le_refl 1
  | ok later =>
      cases submit with
      | false => exact Nat.zero_le 1
      | true =>
          simp only [if_true]
          cases later.submit with
          | error error => exact Nat.le_refl 1
          | ok claim => exact Nat.zero_le 1

end Runs

/-- An editing run with sequential names breaks off exactly if an identifier of the document
leaves too little room for the names that the script draws, which are at most as many for a
step as the largest template has nodes. -/
theorem countsWhileRoom_of_edits
    {environment : Environment}
    {invocation : Invocation}
    {tree : Tree}
    {steps : List Step}
    (edits : Edits environment invocation tree steps) :
    CountsWhileRoom environment invocation tree steps := by
  have overflow_iff := neverOverflows_iff "n" tree.ids (drawnBy tree steps)
  have bounded := drawnBy_le tree steps
  have breaksOff_iff : (run environment invocation).exitCode = 101 ↔
      ¬ NeverOverflows "n" tree.ids (drawnBy tree steps) := by
    refine ⟨fun brokenOff lasts => ?_, fun overflows => ?_⟩
    · have ended := edits.exitCode_run_le lasts
      omega
    · rw [edits.run_eq_of_overflow overflows]
      rfl
  refine {
    bounded
    drawn := fun ids later resumed ran => ?_
    named := fun ids names last resumed drawn => ?_
    resumes_iff := ?_
    breaksOff_iff
    reported := fun brokenOff => edits.run_eq_of_overflow (breaksOff_iff.1 brokenOff)
    overflow_iff
    safe := fun room => overflow_iff.2 (room.mono bounded) }
  · rw [Session.runScript_eq_afterScript ran, drawnBy, resumed]
  · have room := (isSome_drawAll?_iff ids _).1 (Option.isSome_of_mem drawn)
    obtain ⟨_, handedOut, _⟩ := exists_drawAll?_of_room room
    rw [drawn] at handedOut
    exact (congrArg Prod.fst (Option.some.inj handedOut)).symm
  · rw [← neverOverflows_iff, NeverOverflows, Option.isSome_iff_exists]
    simp [resumedBehind?, drawAll?]

/-! ## Runs at the edge -/

/-- An environment with a document of a tree and one of a script. -/
def Environment.ofDocuments (tree script : Json) : Environment where
  fileText name :=
    if name = "tree" then some (Outcome.ofJson tree).output
    else if name = "script" then some (Outcome.ofJson script).output
    else none
  randomIds := (SequentialIds.mk "r" 0).source

/-- The request to run the script on the tree. -/
def editRequest : Invocation where
  output := .text
  quiet := false
  ids := .sequential
  task := .edit (some "tree") "script" false

theorem parse_editRequest :
    parse ["edit", "tree", "--ids", "sequential", "--script", "script"] = .ok editRequest := by
  with_unfolding_all rfl

theorem edits_ofDocuments
    {tree : Tree}
    {script : Json}
    {steps : List Step}
    (fits : tree.toJson.depth ≤ Json.maxDepth)
    (unsigned : tree.unsignZeros = tree)
    (plain : script.IsPlain)
    (scriptFits : script.depth ≤ Json.maxDepth)
    (read : Step.listOfJson? script = some steps) :
    Edits (.ofDocuments tree.toJson script) editRequest tree steps := by
  have printed : (Environment.ofDocuments tree.toJson script).fileText "tree" =
      some (Outcome.ofJson tree.toJson).output := rfl
  have document := readJson_of_printed printed
  rw [if_pos fits] at document
  have loaded : loadTree tree.toJson = .ok tree := by
    rw [loadTree_toJson, unsigned]
  have scriptParsed : Json.parse? (Outcome.ofJson script).output = some script := by
    rw [Outcome.output_ofJson, Json.parse?_pretty_line plain, if_pos scriptFits]
  have scriptText : (Environment.ofDocuments tree.toJson script).fileText "script" =
      some (Outcome.ofJson script).output := rfl
  have scriptDocument :
      (Environment.ofDocuments tree.toJson script).readJson "script" = .ok script := by
    simp [Environment.readJson, scriptText, scriptParsed]
  exact ⟨rfl, "tree", "script", false, _, _, rfl, document, loaded, scriptDocument, read⟩

/-- The script that chooses to give something away at a node. -/
def giveScript (node : NodeId) : Json :=
  .array [.array [.string "choose", .string node,
    .array [.string "Primitives", .string "Give"]]]

theorem edits_giveScript
    {tree : Tree}
    (fits : tree.toJson.depth ≤ Json.maxDepth)
    (unsigned : tree.unsignZeros = tree)
    (node : NodeId) :
    Edits (.ofDocuments tree.toJson (giveScript node)) editRequest tree
      [.choose (some node) ["Primitives", "Give"]] := by
  have nested : (giveScript node).depth = 3 := rfl
  refine edits_ofDocuments fits unsigned ?_ ?_ rfl
  · simp [giveScript]
  · rw [nested]
    decide

/-- A document with the greatest identifier that leaves room for one step, and one with a sign
and a zero in front of its number. -/
theorem countsWhileRoom_of_edits_edge :
    let tree : Tree :=
      .claim "n18446744073709551599" .give [.placeholder "n+07" .claim]
    let environment := Environment.ofDocuments tree.toJson (giveScript "n+07")
    let steps : List Step := [.choose (some "n+07") ["Primitives", "Give"]]
    Edits environment editRequest tree steps ∧
      HasRoom "n" tree.ids (Catalog.largest * steps.length) ∧
      CountsWhileRoom environment editRequest tree steps := by
  intro tree environment steps
  have edits : Edits environment editRequest tree steps :=
    edits_giveScript (by decide) rfl "n+07"
  have ids : tree.ids = ["n18446744073709551599", "n+07"] := by
    rw [Tree.ids_eq_map]
    rfl
  have first : counterOf? "n" "n18446744073709551599" = some 18446744073709551599 := by
    decide +kernel
  have second : counterOf? "n" "n+07" = some 7 := by
    decide +kernel
  have room : HasRoom "n" tree.ids (Catalog.largest * steps.length) := by
    refine ⟨by decide, ?_⟩
    rw [ids]
    simp only [List.forall_mem_cons, first, second, Option.some.injEq, forall_eq']
    exact ⟨by decide, by decide, List.forall_mem_nil _⟩
  exact ⟨edits, room, countsWhileRoom_of_edits edits⟩

/-- The script that types an asset into a leaf. -/
def assetScript (node : NodeId) : Json :=
  .array [.array [.string "set", .string node, .string "asset", .string "USD"]]

theorem runArguments_of_overflow
    {environment : Environment}
    {tree : Tree}
    {steps : List Step}
    (edits : Edits environment editRequest tree steps)
    (overflows : ¬ NeverOverflows "n" tree.ids (drawnBy tree steps)) :
    runArguments environment ["edit", "tree", "--ids", "sequential", "--script", "script"] =
      { exitCode := 101, report := .lines ["attempt to add with overflow"] } := by
  rw [runArguments, parse_editRequest]
  exact edits.run_eq_of_overflow overflows

/-- The counter overflows behind an identifier with the last word, although the script is empty,
and behind the only name that a script draws after the word before it is in use. -/
theorem counter_overflows_at_last_word :
    let last : Tree := .placeholder "n18446744073709551615" .claim
    let leaf : NodeId := "n18446744073709551614"
    let nearLast : Tree := .claim "n0" .one [.placeholder leaf .value]
    let arguments := ["edit", "tree", "--ids", "sequential", "--script", "script"]
    let brokenOff : Outcome :=
      { exitCode := 101, report := .lines ["attempt to add with overflow"] }
    resumedBehind? last = none ∧
      runArguments (.ofDocuments last.toJson (.array [])) arguments = brokenOff ∧
      resumedBehind? nearLast = some { stem := "n", next := 18446744073709551615 } ∧
      drawnBy nearLast [.set (some leaf) .asset "USD"] = 1 ∧
      runArguments (.ofDocuments nearLast.toJson (assetScript leaf)) arguments = brokenOff := by
  intro last leaf nearLast arguments brokenOff
  have lastIds : last.ids = ["n18446744073709551615"] := by
    rw [Tree.ids_eq_map]
    rfl
  have nearLastIds : nearLast.ids = ["n0", leaf] := by
    rw [Tree.ids_eq_map]
    rfl
  have notResumed : resumedBehind? last = none := by
    rw [resumedBehind?, lastIds]
    decide +kernel
  have resumed :
      resumedBehind? nearLast = some { stem := "n", next := 18446744073709551615 } := by
    rw [resumedBehind?, nearLastIds]
    decide +kernel
  have one : drawnBy nearLast [.set (some leaf) .asset "USD"] = 1 := by
    decide +kernel
  have lastEdits : Edits (.ofDocuments last.toJson (.array [])) editRequest last [] :=
    edits_ofDocuments (by decide) rfl (by simp) (by decide) rfl
  have nearLastEdits : Edits (.ofDocuments nearLast.toJson (assetScript leaf)) editRequest
      nearLast [.set (some leaf) .asset "USD"] :=
    edits_ofDocuments (by decide) rfl (by simp [assetScript]) (by decide) rfl
  refine ⟨notResumed, runArguments_of_overflow lastEdits ?_, resumed, one,
    runArguments_of_overflow nearLastEdits ?_⟩
  · rintro ⟨ids, found, _⟩
    cases notResumed.symm.trans found
  · rw [one]
    rintro ⟨ids, found, drawn⟩
    obtain rfl := Option.some.inj (resumed.symm.trans found)
    revert drawn
    rw [isSome_drawAll?_iff]
    decide

end Command
end ContingentClaims
