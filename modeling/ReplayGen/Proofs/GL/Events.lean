import ReplayGen.Proofs.GL.FileLines
import ReplayGen.Proofs.GL.Overrides
import ReplayGen.Proofs.GL.Placeholders
import ReplayGen.Proofs.Replay.Events

set_option autoImplicit false

namespace ReplayGen.GL

open Text

section Scripts

variable {function : Function}

theorem events_prologue (function : Function) : Script.events (prologue function) = [] := by
  have check (buffer binding : String) :
      ∀ step ∈ requireBuffer function buffer binding, step.events = [] := by
    simp only [requireBuffer, List.forall_mem_append, List.forall_mem_cons]
    exact ⟨⟨⟨rfl, rfl, rfl, by simp⟩, function.silent_giveUp⟩, rfl, by simp⟩
  exact Script.events_eq_nil (forall_mem_prologue rfl (check _ _) (check _ _) rfl)

theorem events_call (function : Function) : Script.events (call function) = [] := by
  have grow : ∀ step ∈ growWindow, step.events = [] := List.flatMap_eq_nil_iff.mp rfl
  have snapshot : ∀ step ∈ snapshotOnChange, step.events = [] := List.flatMap_eq_nil_iff.mp rfl
  exact Script.events_eq_nil
    (forall_mem_call grow snapshot (fun _ _ => rfl) function.silent_callStatement)

def passageEvents (function : Function) (argument : Argument) (position : Nat) : List Event :=
  (if PassesBlob function argument then [.passingBlob function.name argument.name] else []) ++
    (if LooksUpProgram function argument position then [.lookingUpProgram function.name]
      else []) ++
    if StoodInFor function argument then
      [.undecodable function.name argument.name argument.type] else []

theorem events_passage (sound : function.Sound) (argument : Argument) :
    Script.events (plan.passage function argument) =
      passageEvents function argument argument.index := by
  by_cases blob : PassesBlob function argument
  · have plain : ¬ LooksUpProgram function argument argument.index := fun uniform =>
      not_uniform_of_passesBlob blob uniform.1
    rw [passage_of_isBlob ((isBlob_iff sound argument).mpr blob)]
    simp [passageEvents, StoodInFor, blob, plain, Script.events, Step.events, readStatement]
  · have lookUp : Script.events (lookUpProgram function) =
        [.lookingUpProgram function.name] := rfl
    rw [passage_of_not_isBlob (mt (isBlob_iff sound argument).mp blob), Script.events_append,
      Plan.events_plain_passage, apply_ite Script.events, lookUp]
    simp only [isUniformLocation_iff]
    simp [passageEvents, StoodInFor, blob, Script.events]

end Scripts

section Lines

variable {function : Function}

/-- What the lines between the declaration of an argument and the next one tell of it: that
it is passed as a blob, that the program is looked up, and that a placeholder stands in. -/
def toldEvents (function : Function) (argument : Argument) (position : Nat) (lines : List Line) :
    List Event :=
  (if blobLine argument position ∈ lines then
      [.passingBlob function.name argument.name] else []) ++
    (if ⟨1, "GLint program = -1;"⟩ ∈ lines then [.lookingUpProgram function.name] else []) ++
    if argument.placeholderLine ∈ lines then
      [.undecodable function.name argument.name argument.type] else []

theorem toldEvents_passageLines {argument : Argument} (name : Wordy argument.name)
    (position : Nat) :
    toldEvents function argument position (passageLines function argument position) =
      passageEvents function argument position := by
  simp only [toldEvents, passageEvents, blobLine_mem_passageLines_iff,
    lookupLine_mem_passageLines_iff name, placeholderLine_mem_passageLines_iff]

def unitEvents (function : Function) : List Event :=
  .retracing function.name function.roles ::
    if function.sideEffects then
      function.arguments.zipIdx.flatMap fun (argument, position) =>
        toldEvents function argument position (passageLines function argument position)
    else []

theorem unitEvents_eq (worded : function.Worded) :
    unitEvents function =
      .retracing function.name function.roles ::
        if function.sideEffects then
          function.arguments.zipIdx.flatMap fun item => passageEvents function item.1 item.2
        else [] := by
  have each : ∀ item ∈ function.arguments.zipIdx,
      toldEvents function item.1 item.2 (passageLines function item.1 item.2) =
        passageEvents function item.1 item.2 := fun item listed =>
    toldEvents_passageLines (worded.argumentName _ (List.fst_mem_of_mem_zipIdx listed)) item.2
  rw [unitEvents, List.flatMap_def, List.map_congr_left each, ← List.flatMap_def]

theorem events_unit (spelled : function.Spelled) :
    Script.events (plan.unit function) = unitEvents function := by
  have passages : (fun argument => Script.events (plan.passage function argument)) =
      fun argument => passageEvents function argument argument.index :=
    funext (events_passage spelled.sound)
  rw [Plan.events_unit (events_prologue function) (events_call function), passages,
    unitEvents_eq spelled.worded, spelled.sound.positions, List.flatMap_map]

end Lines

section Count

variable {function : Function}

def eventCount (level : Level) (message : String) (events : List Event) : Nat :=
  events.countP fun event => event.level = level ∧ event.message = message

theorem eventCount_unitEvents (worded : function.Worded) {level : Level} {message : String}
    (other : message ≠ "retracing") {due : Argument × Nat → Bool}
    (each : ∀ item ∈ function.arguments.zipIdx,
      eventCount level message (passageEvents function item.1 item.2) = if due item then 1 else 0) :
    eventCount level message (unitEvents function) =
      if function.sideEffects then function.arguments.zipIdx.countP due else 0 := by
  have heading : eventCount level message [.retracing function.name function.roles] = 0 := by
    simp [eventCount, Event.message, other.symm]
  rw [unitEvents_eq worded, ← List.singleton_append, eventCount, List.countP_append,
    ← eventCount, heading, Nat.zero_add]
  split
  · exact countP_flatMap_of_each each
  · rfl

theorem eventCount_passageEvents (level : Level) (message : String) (argument : Argument)
    (position : Nat) :
    eventCount level message (passageEvents function argument position) =
      (if PassesBlob function argument then
        eventCount level message [.passingBlob function.name argument.name] else 0) +
      (if LooksUpProgram function argument position then
        eventCount level message [.lookingUpProgram function.name] else 0) +
      if StoodInFor function argument then
        eventCount level message [.undecodable function.name argument.name argument.type]
      else 0 := by
  simp only [passageEvents, eventCount, List.countP_append, apply_ite (List.countP _),
    List.countP_nil]

theorem eventCount_passingBlob (worded : function.Worded) :
    eventCount .trace "passing blob" (unitEvents function) =
      blobCount ((unitLines function).map Line.render) := by
  have each : ∀ item ∈ function.arguments.zipIdx,
      eventCount .trace "passing blob" (passageEvents function item.1 item.2) =
        if decide (PassesBlob function item.1) then 1 else 0 := by
    intro item _
    rw [eventCount_passageEvents]
    simp [eventCount, Event.level, Event.message]
  rw [eventCount_unitEvents worded (by decide) each, blobCount_unitLines_eq worded,
    countP_zipIdx_fst function.arguments (PassesBlob function ·)]

theorem eventCount_lookingUpProgram (worded : function.Worded) :
    eventCount .trace "looking up current program" (unitEvents function) =
      occurrences "GLint program = -1;" ((unitLines function).map Line.render) := by
  have each : ∀ item ∈ function.arguments.zipIdx,
      eventCount .trace "looking up current program" (passageEvents function item.1 item.2) =
        if decide (LooksUpProgram function item.1 item.2) then 1 else 0 := by
    intro item _
    rw [eventCount_passageEvents]
    simp [eventCount, Event.level, Event.message]
  rw [eventCount_unitEvents worded (by decide) each, countP_looksUpProgram]
  cases effects : function.sideEffects with
  | true => exact (occurrences_lookupTexts worded effects List.mem_cons_self).symm
  | false => exact (occurrences_of_effectless worded effects List.mem_cons_self).symm

theorem eventCount_undecodable (worded : function.Worded) :
    eventCount .warn "can't decode argument" (unitEvents function) =
      placeholderCount ((unitLines function).map Line.render) := by
  have each : ∀ item ∈ function.arguments.zipIdx,
      eventCount .warn "can't decode argument" (passageEvents function item.1 item.2) =
        if decide (StoodInFor function item.1) then 1 else 0 := by
    intro item _
    rw [eventCount_passageEvents]
    simp [eventCount, Event.level, Event.message]
  rw [eventCount_unitEvents worded (by decide) each, placeholderCount_unitLines,
    countP_zipIdx_fst function.arguments (StoodInFor function ·)]

theorem warns_iff (worded : function.Worded) :
    (∃ event ∈ unitEvents function, event.level = .warn) ↔
      function.sideEffects = true ∧ Undecodable function := by
  have alone (due : Prop) [Decidable due] (event : Event) :
      (∃ shown ∈ (if due then [event] else []), shown.level = .warn) ↔
        due ∧ event.level = .warn := by
    by_cases given : due <;> simp [given]
  have passage (argument : Argument) (position : Nat) :
      (∃ event ∈ passageEvents function argument position, event.level = .warn) ↔
        StoodInFor function argument := by
    simp only [passageEvents, List.mem_append, or_and_right, exists_or, alone]
    simp [Event.level]
  rw [unitEvents_eq worded]
  cases function.sideEffects with
  | false => simp [Event.level]
  | true =>
      constructor
      · rintro ⟨event, listed, warns⟩
        rcases List.mem_cons.mp listed with rfl | inside
        · simp [Event.level] at warns
        · obtain ⟨item, found, inside⟩ := List.mem_flatMap.mp inside
          have stood := (passage item.1 item.2).mp ⟨event, inside, warns⟩
          exact ⟨rfl, item.1, List.fst_mem_of_mem_zipIdx found, stood⟩
      · rintro ⟨-, argument, listed, stood⟩
        obtain ⟨position, found⟩ := List.mem_iff_getElem?.mp listed
        obtain ⟨event, inside, warns⟩ := (passage argument position).mpr stood
        have item := List.mk_mem_zipIdx_iff_getElem?.mpr found
        exact ⟨event, List.mem_cons_of_mem _ (List.mem_flatMap.mpr ⟨_, item, inside⟩), warns⟩

theorem occurrences_giveUpText_pos_iff (worded : function.Worded) :
    0 < occurrences "if (1) \x7b" ((unitLines function).map Line.render) ↔
      ∃ event ∈ unitEvents function, event.level = .warn := by
  have giveUp : giveUpText ∈ lookupTexts ++ [giveUpText] := by simp
  rw [warns_iff worded]
  cases effects : function.sideEffects with
  | true =>
      have shown := occurrences_giveUpText worded effects
      rw [giveUpText] at shown
      rw [shown]
      split <;> simp_all
  | false =>
      have shown := occurrences_of_effectless worded effects giveUp
      rw [giveUpText] at shown
      simp [shown]

end Count

theorem generate_log (functions : List Function)
    (spelled : ∀ function ∈ functions, function.Spelled) :
    (generate functions).log = functions.flatMap unitEvents ++ [.generated functions.length] := by
  rw [generate_eq, Plan.events_file]
  simp only [List.flatMap_def]
  rw [List.map_congr_left fun function listed => events_unit (spelled function listed)]

theorem fileLines_eq_unitLines {functions : List Function}
    (sound : ∀ function ∈ functions, function.Sound) :
    fileLines functions =
      headerLines ++ functions.flatMap unitLines ++ tableLines (functions.map Function.name) := by
  simp only [fileLines, List.flatMap_def]
  rw [List.map_congr_left fun function listed => layout_unit_eq_unitLines (sound function listed)]

theorem log_told_by_lines {functions : List Function}
    (spelled : ∀ function ∈ functions, function.Spelled) :
    (generate functions).log = functions.flatMap unitEvents ++ [.generated functions.length] ∧
    lines (generate functions).text =
      (headerLines ++ functions.flatMap unitLines ++
        tableLines (functions.map Function.name)).map Line.render ∧
    ∀ function ∈ functions,
      unitLines function =
        function.headingLine :: (guardLines function ++
          (if function.sideEffects then
            (function.arguments.zipIdx.flatMap fun (argument, position) =>
              argument.declarationLine :: passageLines function argument position) ++
              giveUpIfUndecodable function ++ wrapperLines function
          else [⟨1, "(void)call;"⟩]) ++ Function.closingLines) ∧
      unitEvents function =
        .retracing function.name (Roles.classify function.name) ::
          (if function.sideEffects then
            function.arguments.zipIdx.flatMap fun (argument, position) =>
              toldEvents function argument position (passageLines function argument position)
          else []) ∧
      ∃ lines, plan.hooks.unitLines? function = some lines ∧
        lines = (unitLines function).map Line.render ∧
        eventCount .trace "passing blob" (unitEvents function) = blobCount lines ∧
        eventCount .trace "looking up current program" (unitEvents function) =
          occurrences "GLint program = -1;" lines ∧
        eventCount .warn "can't decode argument" (unitEvents function) =
          placeholderCount lines ∧
        (0 < occurrences "if (1) \x7b" lines ↔
          ∃ event ∈ unitEvents function, event.level = .warn) := by
  have sound : ∀ function ∈ functions, function.Sound := fun function listed =>
    (spelled function listed).sound
  have worded : ∀ function ∈ functions, function.Worded := fun function listed =>
    (spelled function listed).worded
  refine ⟨generate_log functions spelled, ?_, fun function listed => ⟨rfl, ?_, ?_⟩⟩
  · rw [lines_generate worded, fileLines_eq_unitLines sound]
  · rw [← (sound function listed).roles]
    rfl
  · have own := worded function listed
    exact ⟨_, unitLines?_plan (spelled function listed), rfl, eventCount_passingBlob own,
      eventCount_lookingUpProgram own, eventCount_undecodable own,
      occurrences_giveUpText_pos_iff own⟩

-- The location is looked up and cannot be decoded, the indices are passed whatever their type
-- is, and no argument of a call that is not made again is looked at.
def pendingFunctions : List Function :=
  [.build "glUniform1i" [.argument "location" "GLvoid" false, .argument "v0" "GLint" false],
    drawElements,
    .build "glGetUniformLocation" [.argument "program" "GLvoid" false, .withoutSideEffects]]

theorem log_told_by_lines_pendingFunctions :
    (∀ function ∈ pendingFunctions, function.Spelled) ∧
      (generate pendingFunctions).log =
        [.retracing "glUniform1i" (Roles.classify "glUniform1i"),
          .lookingUpProgram "glUniform1i",
          .undecodable "glUniform1i" "location" "GLvoid",
          .retracing "glDrawElements" (Roles.classify "glDrawElements"),
          .passingBlob "glDrawElements" "indices",
          .retracing "glGetUniformLocation" (Roles.classify "glGetUniformLocation"),
          .generated 3] := by
  have spelled : ∀ function ∈ pendingFunctions, function.Spelled := by
    simp only [pendingFunctions, List.forall_mem_cons]
    exact ⟨Function.build_spelled (by decide) (by decide +kernel),
      Function.build_spelled (by decide) (by decide +kernel),
      Function.build_spelled (by decide) (by decide +kernel), by simp⟩
  refine ⟨spelled, ?_⟩
  rw [(log_told_by_lines spelled).1]
  decide +kernel

end ReplayGen.GL
