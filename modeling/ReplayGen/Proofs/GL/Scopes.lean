import ReplayGen.Proofs.GL.Declarations

set_option autoImplicit false

namespace ReplayGen.GL

open Source

section Parts

variable (function : Function) {visible : List String}

theorem undeclared_bufferCheckSource (buffer : String) (queried : Binding) :
    (bufferCheckSource function buffer queried).undeclared visible = [] := by
  simp [bufferCheckSource, query, Function.giveUpSource]

theorem undeclared_guardSource : (guardSource function).undeclared visible = [] := by
  have optional (condition : Prop) [Decidable condition] (buffer : String) (queried : Binding)
      (visible : List String) : (if condition then bufferCheckSource function buffer queried
        else done).undeclared visible = [] := by
    split
    · exact undeclared_bufferCheckSource function buffer queried
    · rfl
  unfold guardSource
  split
  · simp [undeclared_append, optional]
  · rfl

theorem undeclared_sectionSource (pair : Argument × Nat) (call : "call" ∈ visible) :
    (sectionSource function pair).undeclared visible = [] := by
  obtain ⟨argument, position⟩ := pair
  have lookup (seen : List String) : lookupSource.undeclared seen = [] := by
    simp [lookupSource, query]
  have passage (seen : List String) (before : "call" ∈ seen) (own : argument.name ∈ seen) :
      (passageSource function argument position).undeclared seen = [] := by
    unfold passageSource
    split
    · simp [Expression.read, Expression.recorded, before, own]
    · rw [undeclared_append, argument.undeclared_decodingSource position (by simp [before])
        (by simp [own]), List.append_nil]
      split
      · exact lookup seen
      · rfl
  rw [sectionSource, undeclared_append, passage _ (by simp [call]), List.append_nil]
  · simp [Argument.declarationSource]
  · simp [Argument.declarationSource]

theorem undeclared_sectionsSource (call : "call" ∈ visible) :
    (sectionsSource function).undeclared visible = [] := by
  have seen : ["call"] ⊆ visible := by simpa using call
  refine undeclared_join_eq_nil seen (List.forall_mem_map.mpr fun pair _ visible seen => ?_)
  exact undeclared_sectionSource function pair (seen (by simp))

theorem undeclared_giveUpSourceIfUndecodable :
    (giveUpSourceIfUndecodable function).undeclared visible = [] := by
  unfold giveUpSourceIfUndecodable
  split
  · simp [Function.giveUpSource]
  · rfl

/-- The names that the growth of the window reads, each axis in its condition and again when
the window has to grow along it. -/
def growthOperands : List String :=
  ["x", "width", "x", "width", "y", "height", "y", "height"]

theorem undeclared_growAxisSource (offset extent size : String)
    (flag : "reshape_window" ∈ visible) :
    (growAxisSource offset extent size).undeclared visible =
      [offset, extent, offset, extent].filter (· ∉ visible) := by
  rw [show [offset, extent, offset, extent] = [offset, extent] ++ [offset, extent] from rfl,
    List.filter_append]
  simp [growAxisSource, flag]

theorem undeclared_growSource :
    growSource.undeclared visible = growthOperands.filter (· ∉ visible) := by
  have flag : "reshape_window" ∈ visible ++ ["reshape_window"] := by simp
  have opening : (simple (.initialized "bool" "reshape_window" (.truth false)) done).declared =
      ["reshape_window"] := rfl
  have axis (offset extent size : String) : (growAxisSource offset extent size).declared = [] := rfl
  have grown : growSource.undeclared visible =
      growthOperands.filter (· ∉ visible ++ ["reshape_window"]) := by
    rw [growthOperands, show ["x", "width", "x", "width", "y", "height", "y", "height"] =
      ["x", "width", "x", "width"] ++ ["y", "height", "y", "height"] from rfl, List.filter_append]
    simp only [growSource, undeclared_append, declared_append, opening, axis, List.append_nil,
      undeclared_growAxisSource _ _ _ flag]
    simp
  rw [grown]
  refine List.filter_congr fun name operand => ?_
  have other : name ≠ "reshape_window" := by
    rintro rfl
    exact absurd operand (by decide)
  simp [other]

theorem undeclared_afterCallSource (call : "call" ∈ visible) :
    (afterCallSource function).undeclared visible = [] := by
  have snapshot : snapshotSource.undeclared visible = [] := by
    simp [snapshotSource, query, call]
  unfold afterCallSource
  simp only [undeclared_append, apply_ite (undeclared _), snapshot, undeclared]
  simp [setInside]

theorem undeclared_wrapperSource (call : "call" ∈ visible)
    (passed : function.argumentNames ⊆ visible) :
    (wrapperSource function).undeclared visible =
      if function.name = "glViewport" then growthOperands.filter (· ∉ visible) else [] := by
  have before : (beforeCallSource function).undeclared visible =
      if function.name = "glViewport" then growthOperands.filter (· ∉ visible) else [] := by
    simp only [beforeCallSource, undeclared_append, apply_ite (undeclared _), undeclared_growSource,
      undeclared]
    simp [setInside]
  rw [wrapperSource, undeclared_append, undeclared_append, before,
    function.undeclared_callSource (List.Subset.trans passed (List.subset_append_left _ _)),
    undeclared_afterCallSource function (by simp [call]), List.append_nil, List.append_nil]

end Parts

section Bodies

variable (function : Function)

theorem not_mem_inventedNames {name : String} (operand : name ∈ growthOperands) :
    name ∉ inventedNames function := by
  have foreign : ∀ operand ∈ growthOperands,
      operand ∉ ["call", "program", "reshape_window", "__result", "__new_fb"] ∧
        ¬ "__a_".toList <+: operand.toList := by decide
  intro invented
  rcases List.mem_append.mp invented with fixed | array
  · exact (foreign name operand).1 ((fixedNames_sublist function).subset fixed)
  · obtain ⟨own, -, rfl⟩ := List.mem_map.mp ((arrayLocals_sublist function).subset array)
    exact (foreign _ operand).2 (by simp)

theorem undeclared_bodySource :
    (bodySource function).undeclared parameters =
      if function.sideEffects = true ∧ function.name = "glViewport" then
        growthOperands.filter (· ∉ function.argumentNames) else [] := by
  rw [bodySource, undeclared_append, undeclared_guardSource, declared_guardSource, List.append_nil,
    List.nil_append, afterGuardSource]
  split
  next replayed =>
    have call : "call" ∈ parameters := by simp [parameters]
    have inBlock (name : String) : name ∈ (sectionsSource function).declared ↔
        name ∈ function.argumentNames ++ (lookupLocals function ++ arrayLocals function) :=
      (declared_sectionsSource function).mem_iff
    have passed : function.argumentNames ⊆ parameters ++
        (sectionsSource function ++ giveUpSourceIfUndecodable function).declared := by
      intro name listed
      simp [declared_append, inBlock, listed]
    rw [undeclared_append, undeclared_append, undeclared_sectionsSource function call,
      undeclared_giveUpSourceIfUndecodable, List.nil_append, List.nil_append,
      undeclared_wrapperSource function (List.mem_append_left _ call) passed]
    simp only [replayed, true_and]
    congr 1
    -- Of the names visible to the growth, only the arguments can be its operands.
    refine List.filter_congr fun name operand => ?_
    have invented := not_mem_inventedNames function operand
    have visible : name ∈ parameters ++
        (sectionsSource function ++ giveUpSourceIfUndecodable function).declared ↔
        name ∈ function.argumentNames := by
      simp only [inventedNames, declared_append, declared_giveUpSourceIfUndecodable,
        List.mem_append, inBlock] at invented ⊢
      tauto
    simp only [visible]
  next unread =>
    simp [parameters, unread]

end Bodies

/-- A replay function is written as its source code reads, and uses no name that is not
declared before, but for the operands of the growth of the window. These are read wherever a
viewport is replayed, and are declared as far as there are arguments of these names. -/
theorem locals_used_undeclared {function : Function} (spelled : function.Spelled) :
    plan.hooks.unitLines? function = some ((sourceLines function).map Line.render) ∧
    (bodySource function).undeclared parameters =
      if function.sideEffects = true ∧ function.name = "glViewport" then
        growthOperands.filter (· ∉ function.argumentNames) else [] := by
  rw [unitLines?_plan spelled, sourceLines_eq]
  exact ⟨rfl, undeclared_bodySource function⟩

def viewportOfGL : Function :=
  .build "glViewport" [.argument "x" "GLint" false, .argument "y" "GLint" false,
    .argument "width" "GLsizei" false, .argument "height" "GLsizei" false]

theorem locals_used_undeclared_viewportOfGL :
    viewportOfGL.Spelled ∧
      plan.hooks.unitLines? viewportOfGL = some ((sourceLines viewportOfGL).map Line.render) ∧
      (bodySource viewportOfGL).undeclared parameters = [] := by
  have spelled : viewportOfGL.Spelled := Function.build_spelled (by decide) (by decide +kernel)
  obtain ⟨written, undeclared⟩ := locals_used_undeclared spelled
  refine ⟨spelled, written, ?_⟩
  rw [undeclared]
  decide

def viewportOfCorner : List Function :=
  [.build "glViewport" [.argument "left" "GLint" false, .argument "bottom" "GLint" false,
    .argument "width" "GLsizei" false, .argument "height" "GLsizei" false]]

theorem viewportOfCorner_uses_undeclared :
    ∃ catalog, Catalog.ofFunctions viewportOfCorner = .ok catalog ∧
      (∀ function ∈ viewportOfCorner, function.Spelled) ∧
      "    if (x + width > glretrace::window_width) \x7b" ∈
        Text.lines (generate catalog.functions).text ∧
      ∀ function ∈ viewportOfCorner,
        (bodySource function).undeclared parameters = ["x", "x", "y", "y"] := by
  have spelled : ∀ function ∈ viewportOfCorner, function.Spelled := by
    simp only [viewportOfCorner, List.forall_mem_singleton]
    exact Function.build_spelled (by decide) (by decide +kernel)
  obtain ⟨catalog, accepted⟩ : ∃ catalog, Catalog.ofFunctions viewportOfCorner = .ok catalog :=
    ⟨_, rfl⟩
  refine ⟨catalog, accepted, spelled, ?_, by decide⟩
  rw [Catalog.functions_of_ofFunctions accepted,
    lines_generate fun function listed => (spelled function listed).worded]
  decide +kernel

end ReplayGen.GL
