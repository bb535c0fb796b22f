import ReplayGen.Proofs.Text.Spelling
import ReplayGen.Function

set_option autoImplicit false

namespace ReplayGen

namespace Function

@[simp] theorem step_name (function : Function) (step : BuildStep) :
    (function.step step).name = function.name := by
  cases step <;> simp [step, returns, argument, withoutSideEffects]

@[simp] theorem step_roles (function : Function) (step : BuildStep) :
    (function.step step).roles = function.roles := by
  cases step <;> simp [step, returns, argument, withoutSideEffects]

@[simp] theorem returns_arguments (function : Function) (type : String) :
    (function.returns type).arguments = function.arguments := by
  simp [returns]

structure Sound (function : Function) : Prop where
  roles : function.roles = Roles.classify function.name
  positions : function.arguments.zipIdx =
    function.arguments.map fun argument => (argument, argument.index)

theorem Sound.step {function : Function} (sound : function.Sound) (step : BuildStep) :
    (function.step step).Sound := by
  constructor
  · simpa using sound.roles
  · cases step with
    | returns type => simpa [Function.step] using sound.positions
    | argument name type array =>
        -- The position is the number of arguments so far, as it is in the longer list.
        simp [Function.step, Function.argument, List.zipIdx_append, sound.positions,
          Argument.declare]
    | withoutSideEffects => exact sound.positions

theorem Sound.steps {function : Function} (sound : function.Sound) (steps : List BuildStep) :
    (steps.foldl Function.step function).Sound := by
  induction steps generalizing function with
  | nil => exact sound
  | cons step rest ih => exact ih (sound.step step)

theorem build_sound (name : String) (steps : List BuildStep) : (build name steps).Sound :=
  Sound.steps ⟨rfl, rfl⟩ steps

@[simp] theorem build_name (name : String) (steps : List BuildStep) :
    (build name steps).name = name := by
  have kept (function : Function) : (steps.foldl step function).name = function.name := by
    induction steps generalizing function with
    | nil => rfl
    | cons step rest ih => simp [ih]
  exact kept (named name)

theorem Sound.getElem?_iff {function : Function} (sound : function.Sound) {argument : Argument}
    {position : Nat} : function.arguments[position]? = some argument ↔
      argument ∈ function.arguments ∧ argument.index = position := by
  rw [← List.mk_mem_zipIdx_iff_getElem?, sound.positions, List.mem_map]
  constructor
  · rintro ⟨other, listed, same⟩
    obtain ⟨rfl, index⟩ := Prod.mk.inj same
    exact ⟨listed, index⟩
  · rintro ⟨listed, rfl⟩
    exact ⟨argument, listed, rfl⟩

structure Worded (function : Function) : Prop where
  name : Text.Wordy function.name
  argumentName : ∀ argument ∈ function.arguments, Text.Wordy argument.name
  argumentType : ∀ argument ∈ function.arguments, Text.Wordy argument.type
  returnType : ∀ type, function.returnType = some type → Text.Wordy type

structure Unbroken (function : Function) : Prop where
  name : '\n' ∉ function.name.toList
  argumentName : ∀ argument ∈ function.arguments, '\n' ∉ argument.name.toList
  argumentType : ∀ argument ∈ function.arguments, '\n' ∉ argument.type.toList
  returnType : ∀ type, function.returnType = some type → '\n' ∉ type.toList

theorem Worded.unbroken {function : Function} (worded : function.Worded) : function.Unbroken where
  name := worded.name.unbroken
  argumentName argument listed := (worded.argumentName argument listed).unbroken
  argumentType argument listed := (worded.argumentType argument listed).unbroken
  returnType type kept := (worded.returnType type kept).unbroken

end Function

def BuildStep.Spelled : BuildStep → Prop
  | .returns type => CType.isPlain type = true
  | .argument name type _ => Text.isIdentifier name.toList = true ∧ CType.isPlain type = true
  | .withoutSideEffects => True

instance (step : BuildStep) : Decidable step.Spelled :=
  match step with
  | .returns _ => inferInstanceAs (Decidable (_ = _))
  | .argument .. => inferInstanceAs (Decidable (_ ∧ _))
  | .withoutSideEffects => inferInstanceAs (Decidable True)

def BuildStep.Gives (argument : Argument → Prop) (returned : String → Prop) : BuildStep → Prop
  | .returns type => returned (CType.normalize type)
  | .argument name type array => ∀ index, argument (Argument.declare index name type array)
  | .withoutSideEffects => True

namespace Function

structure Each (argument : Argument → Prop) (returned : String → Prop) (function : Function) :
    Prop where
  arguments : ∀ a ∈ function.arguments, argument a
  returnType : ∀ type, function.returnType = some type → returned type

variable {argument : Argument → Prop} {returned : String → Prop}

theorem Each.step {function : Function} (each : function.Each argument returned) {step : BuildStep}
    (gives : step.Gives argument returned) : (function.step step).Each argument returned := by
  cases step with
  | returns type =>
      refine ⟨by simpa [Function.step] using each.arguments, fun kept same => ?_⟩
      simp only [Function.step, Function.returns] at same
      split at same
      · simp at same
      · exact Option.some.inj same ▸ gives
  | argument name type array =>
      refine ⟨fun a found => ?_, each.returnType⟩
      have added : a ∈ function.arguments ∨
          a = Argument.declare function.arguments.length name type array := by
        simpa [Function.step, Function.argument] using found
      rcases added with old | rfl
      · exact each.arguments a old
      · exact gives function.arguments.length
  | withoutSideEffects => exact ⟨each.arguments, each.returnType⟩

theorem Each.steps {function : Function} (each : function.Each argument returned)
    {steps : List BuildStep} (gives : ∀ step ∈ steps, step.Gives argument returned) :
    (steps.foldl Function.step function).Each argument returned := by
  induction steps generalizing function with
  | nil => exact each
  | cons step rest ih =>
      exact ih (each.step (gives step (by simp))) fun other later =>
        gives other (by simp [later])

theorem build_each (name : String) {steps : List BuildStep}
    (gives : ∀ step ∈ steps, step.Gives argument returned) :
    (build name steps).Each argument returned := by
  have empty : (named name).Each argument returned := by constructor <;> simp [named]
  exact empty.steps gives

/-- A function whose name and argument names are C identifiers, and whose types are spelled
with letters, digits, underscores, stars and blanks. -/
structure Spelled (function : Function) : Prop where
  name : Text.isIdentifier function.name.toList = true
  built : ∃ steps : List BuildStep,
    (∀ step ∈ steps, step.Spelled) ∧ function = build function.name steps

theorem build_spelled {name : String} {steps : List BuildStep}
    (identifier : Text.isIdentifier name.toList = true) (spelled : ∀ step ∈ steps, step.Spelled) :
    (build name steps).Spelled := by
  refine ⟨?_, steps, spelled, ?_⟩
  · rwa [build_name]
  · rw [build_name]

theorem Spelled.sound {function : Function} (spelled : function.Spelled) : function.Sound := by
  obtain ⟨steps, -, built⟩ := spelled.built
  rw [built]
  exact build_sound function.name steps

theorem Spelled.worded {function : Function} (spelled : function.Spelled) : function.Worded := by
  obtain ⟨steps, plain, built⟩ := spelled.built
  have gives : ∀ step ∈ steps, step.Gives
      (fun argument => Text.Wordy argument.name ∧ Text.Wordy argument.type) Text.Wordy := by
    intro step member
    have own := plain step member
    cases step with
    | returns type => exact CType.wordy_normalize own
    | argument name type array =>
        exact fun _ => ⟨Text.wordy_of_isIdentifier own.1, CType.wordy_normalize own.2⟩
    | withoutSideEffects => trivial
  obtain ⟨arguments, returnType⟩ := build_each function.name gives
  rw [← built] at arguments returnType
  exact ⟨Text.wordy_of_isIdentifier spelled.name, fun a listed => (arguments a listed).1,
    fun a listed => (arguments a listed).2, returnType⟩

end Function

def BuildStep.UnbrokenName : BuildStep → Prop
  | .argument name _ _ => '\n' ∉ name.toList
  | .returns _ | .withoutSideEffects => True

instance (step : BuildStep) : Decidable step.UnbrokenName :=
  match step with
  | .argument .. => inferInstanceAs (Decidable (_ ∉ _))
  | .returns _ | .withoutSideEffects => inferInstanceAs (Decidable True)

namespace Function

structure UnbrokenNames (function : Function) : Prop where
  name : '\n' ∉ function.name.toList
  built : ∃ steps : List BuildStep,
    (∀ step ∈ steps, step.UnbrokenName) ∧ function = build function.name steps

theorem build_unbrokenNames {name : String} {steps : List BuildStep} (line : '\n' ∉ name.toList)
    (lines : ∀ step ∈ steps, step.UnbrokenName) : (build name steps).UnbrokenNames := by
  refine ⟨?_, steps, lines, ?_⟩
  · rwa [build_name]
  · rw [build_name]

theorem UnbrokenNames.unbroken {function : Function} (names : function.UnbrokenNames) :
    function.Unbroken := by
  obtain ⟨steps, lines, built⟩ := names.built
  have gives : ∀ step ∈ steps, step.Gives
      (fun argument => '\n' ∉ argument.name.toList ∧ '\n' ∉ argument.type.toList)
      (fun type => '\n' ∉ type.toList) := by
    intro step member
    have own := lines step member
    cases step with
    | returns type => exact CType.unbroken_normalize type
    | argument name type array => exact fun _ => ⟨own, CType.unbroken_normalize type⟩
    | withoutSideEffects => trivial
  obtain ⟨arguments, returnType⟩ := build_each function.name gives
  rw [← built] at arguments returnType
  exact ⟨names.name, fun a listed => (arguments a listed).1, fun a listed => (arguments a listed).2,
    returnType⟩

end Function

end ReplayGen
