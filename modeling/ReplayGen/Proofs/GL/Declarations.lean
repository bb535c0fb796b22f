import Mathlib.Data.List.Perm.Basic
import ReplayGen.Proofs.Catalog.Validation
import ReplayGen.Proofs.GL.FileLines
import ReplayGen.Proofs.GL.Source

set_option autoImplicit false

namespace ReplayGen.GL

open Source

section Invented

variable (function : Function)

def lookupLocals : List String :=
  if "glUniform".toList <+: function.name.toList ∧
    function.argumentNames.head? = some "location" then ["program"] else []

def arrayLocals : List String :=
  function.arguments.flatMap fun argument =>
    if PassesBlob function argument then [] else argument.temporaries

def wrapperLocals : List String :=
  (if function.name = "glViewport" then ["reshape_window"] else []) ++
    (if function.returnType.isSome then ["__result"] else []) ++
    (if function.name ∈ Role.bindFramebuffer.functions then ["__new_fb"] else [])

def inventedNames : List String :=
  parameters ++ lookupLocals function ++ wrapperLocals function ++ arrayLocals function

end Invented

section Blocks

variable (function : Function)

theorem declared_guardSource : (guardSource function).declared = [] := by
  unfold guardSource
  split <;> rfl

theorem declaresOnceInside_guardSource : (guardSource function).DeclaresOnceInside := by
  have check (buffer : String) (queried : Binding) :
      (bufferCheckSource function buffer queried).declared = [buffer] ∧
        (bufferCheckSource function buffer queried).innerBlocks = [[]] :=
    ⟨rfl, rfl⟩
  by_cases vertices : ReadsVertices function.name <;>
    by_cases elements : ReadsElements function.name <;>
    simp [guardSource, vertices, elements, DeclaresOnceInside, innerBlocks_append,
      declared_append, check]

theorem declaresOnceInside_sectionsSource : (sectionsSource function).DeclaresOnceInside := by
  have lookup : lookupSource.DeclaresOnceInside := by
    simp [DeclaresOnceInside, lookupSource]
  refine declaresOnceInside_join (List.forall_mem_map.mpr ?_)
  rintro ⟨argument, position⟩ -
  refine .append declaresOnceInside_done (.ite declaresOnceInside_done (.append ?_ ?_))
  · exact .ite lookup declaresOnceInside_done
  · exact argument.declaresOnceInside_decodingSource position

theorem declaresOnceInside_wrapperSource : (wrapperSource function).DeclaresOnceInside := by
  have grow : growSource.DeclaresOnceInside := by
    simp [DeclaresOnceInside, growSource, growAxisSource]
  have snapshot : snapshotSource.DeclaresOnceInside := by
    simp [DeclaresOnceInside, snapshotSource]
  refine .append (.append (.append ?_ ?_) function.declaresOnceInside_callSource)
    (.append (.append ?_ ?_) ?_)
  · exact .ite grow declaresOnceInside_done
  · exact .ite declaresOnceInside_done declaresOnceInside_done
  · exact .ite snapshot declaresOnceInside_done
  · exact .ite declaresOnceInside_done declaresOnceInside_done
  · exact .ite declaresOnceInside_done declaresOnceInside_done

theorem declaresOnceInside_bodySource : (bodySource function).DeclaresOnceInside := by
  have block : (giveUpSourceIfUndecodable function).DeclaresOnceInside := by
    refine .ite ?_ declaresOnceInside_done
    simp [DeclaresOnceInside, Function.giveUpSource]
  refine (declaresOnceInside_guardSource function).append (.ite (.append (.append ?_ block) ?_) ?_)
  · exact declaresOnceInside_sectionsSource function
  · exact declaresOnceInside_wrapperSource function
  · exact declaresOnceInside_done

end Blocks

section Outermost

variable (function : Function)

theorem declared_passageSource (argument : Argument) (position : Nat) :
    (passageSource function argument position).declared =
      (if LooksUpProgram function argument position then ["program"] else []) ++
        if PassesBlob function argument then [] else argument.temporaries := by
  have lookup : lookupSource.declared = ["program"] := rfl
  unfold passageSource
  split
  next blob =>
    -- What is passed as it was recorded is not named as a location.
    have none : ¬ LooksUpProgram function argument position := by
      rintro ⟨-, -, location⟩
      rcases blob with ⟨-, pointer⟩ | ⟨-, indices⟩
      · simp [location] at pointer
      · simp [location] at indices
    simp [none]
  next plain =>
    simp [declared_append, argument.declared_decodingSource, apply_ite declared, lookup]

-- Only the first argument can be a location, so the program is looked up once at most.
theorem lookupLocals_eq :
    lookupLocals function = function.arguments.zipIdx.flatMap fun pair =>
      if LooksUpProgram function pair.1 pair.2 then ["program"] else [] := by
  have later (rest : List Argument) (start : Nat) (moved : start ≠ 0) :
      ((rest.zipIdx start).flatMap fun pair =>
        if LooksUpProgram function pair.1 pair.2 then ["program"] else []) = [] := by
    rw [List.flatMap_eq_nil_iff]
    intro pair listed
    have counted := List.le_snd_of_mem_zipIdx listed
    have none : ¬ LooksUpProgram function pair.1 pair.2 := fun lookup =>
      moved (Nat.le_zero.mp (lookup.2.1 ▸ counted))
    simp [none]
  unfold lookupLocals Function.argumentNames
  cases function.arguments with
  | nil => simp
  | cons first rest =>
      rw [List.zipIdx_cons, List.flatMap_cons, later rest _ (by simp), List.append_nil]
      simp only [LooksUpProgram, List.map_cons, List.head?_cons, Option.some.injEq, true_and]

theorem declared_sectionsSource :
    (sectionsSource function).declared.Perm
      (function.argumentNames ++ (lookupLocals function ++ arrayLocals function)) := by
  have pairs : function.arguments.zipIdx.map Prod.fst = function.arguments :=
    List.zipIdx_map_fst 0 function.arguments
  have names : function.argumentNames = function.arguments.zipIdx.map fun pair => pair.1.name :=
    calc function.arguments.map Argument.name
        = (function.arguments.zipIdx.map Prod.fst).map Argument.name := by rw [pairs]
      _ = _ := List.map_map
  have arrays : arrayLocals function = function.arguments.zipIdx.flatMap fun pair =>
      if PassesBlob function pair.1 then [] else pair.1.temporaries := by
    rw [arrayLocals]
    conv_lhs => rw [← pairs, List.flatMap_map]
  have each : (sectionsSource function).declared =
      function.arguments.zipIdx.flatMap fun pair =>
        pair.1.name :: ((if LooksUpProgram function pair.1 pair.2 then ["program"] else []) ++
          if PassesBlob function pair.1 then [] else pair.1.temporaries) := by
    rw [sectionsSource, declared_join, List.flatMap_map]
    congr 1
    funext pair
    rw [sectionSource, declared_append, declared_passageSource]
    rfl
  rw [each, lookupLocals_eq, arrays, names]
  exact (List.map_append_flatMap_perm _ _ _).symm.trans
    ((List.flatMap_append_perm _ _ _).symm.append_left _)

theorem declared_wrapperSource : (wrapperSource function).declared = wrapperLocals function := by
  have grow : growSource.declared = ["reshape_window"] := rfl
  have snapshot : snapshotSource.declared = ["__new_fb"] := rfl
  simp only [wrapperSource, beforeCallSource, afterCallSource, wrapperLocals, declared_append,
    function.declared_callSource, apply_ite declared, grow, snapshot, declared, setInside,
    Statement.declared, ite_self, List.append_nil]

theorem declared_giveUpSourceIfUndecodable :
    (giveUpSourceIfUndecodable function).declared = [] := by
  unfold giveUpSourceIfUndecodable
  split <;> rfl

theorem declared_bodySource (replayed : function.sideEffects = true) :
    (parameters ++ (bodySource function).declared).Perm
      (function.argumentNames ++ inventedNames function) := by
  have body : (bodySource function).declared =
      (sectionsSource function).declared ++ wrapperLocals function := by
    simp [bodySource, declared_append, declared_guardSource, afterGuardSource, replayed,
      declared_giveUpSourceIfUndecodable, declared_wrapperSource]
  rw [List.perm_iff_count]
  intro name
  have sections := (declared_sectionsSource function).count_eq name
  simp only [body, inventedNames, List.count_append] at sections ⊢
  omega

theorem arrayLocals_sublist :
    (arrayLocals function).Sublist (function.argumentNames.map ("__a_" ++ ·)) := by
  have each (argument : Argument) :
      (if PassesBlob function argument then [] else argument.temporaries).Sublist
        ["__a_" ++ argument.name] := by
    unfold Argument.temporaries
    split
    · exact List.nil_sublist _
    · split
      · exact .refl _
      · exact List.nil_sublist _
  unfold arrayLocals Function.argumentNames
  induction function.arguments with
  | nil => exact .slnil
  | cons first rest ih => exact (each first).append ih

theorem fixedNames_sublist :
    (parameters ++ lookupLocals function ++ wrapperLocals function).Sublist
      ["call", "program", "reshape_window", "__result", "__new_fb"] := by
  have optional (condition : Prop) [Decidable condition] (name : String) :
      (if condition then [name] else []).Sublist [name] := by
    split
    · exact .refl _
    · exact List.nil_sublist _
  exact ((List.Sublist.refl ["call"]).append (optional _ "program")).append
    (((optional _ "reshape_window").append (optional _ "__result")).append (optional _ "__new_fb"))

theorem nodup_inventedNames (distinct : function.argumentNames.Nodup) :
    (inventedNames function).Nodup := by
  have arrays : (arrayLocals function).Nodup := by
    have injective : Function.Injective ("__a_" ++ · : String → String) := fun a b same => by
      simpa [← String.toList_inj] using same
    exact (distinct.map injective).sublist (arrayLocals_sublist function)
  have fixed := (fixedNames_sublist function).nodup (by decide)
  have foreign : ∀ name ∈ ["call", "program", "reshape_window", "__result", "__new_fb"],
      ¬ "__a_".toList <+: name.toList := by decide
  refine List.nodup_append'.mpr ⟨fixed, arrays, fun name listed array => ?_⟩
  obtain ⟨own, -, rfl⟩ := List.mem_map.mp ((arrayLocals_sublist function).subset array)
  refine foreign _ ((fixedNames_sublist function).subset listed) ?_
  rw [String.toList_append]
  exact List.prefix_append _ _

variable {function}

theorem declaresOnce_bodySource_iff (distinct : function.argumentNames.Nodup) :
    (bodySource function).DeclaresOnce parameters ↔
      (function.sideEffects = true →
        ∀ name ∈ inventedNames function, name ∉ function.argumentNames) := by
  rw [DeclaresOnce, and_iff_left (declaresOnceInside_bodySource function)]
  by_cases replayed : function.sideEffects = true
  · rw [(declared_bodySource function replayed).nodup_iff, List.nodup_append',
      forall_prop_of_true replayed, and_iff_right distinct,
      and_iff_right (nodup_inventedNames function distinct), List.disjoint_right]
  · have alone : (bodySource function).declared = [] := by
      simp [bodySource, declared_append, declared_guardSource, afterGuardSource, replayed]
    simp [alone, replayed, parameters]

end Outermost

/-- The replay functions of a catalog are written as their source code reads. No block of one
declares a name twice exactly if no name that it invents is that of an argument. -/
theorem locals_declared_once_iff {functions : List Function} {catalog : Catalog}
    (accepted : Catalog.ofFunctions functions = .ok catalog)
    (spelled : ∀ function ∈ functions, function.Spelled) :
    Text.lines (generate catalog.functions).text =
      (headerLines ++ functions.flatMap sourceLines ++
        tableLines (functions.map Function.name)).map Line.render ∧
    ∀ function ∈ functions,
      ((bodySource function).DeclaresOnce parameters ↔
        (function.sideEffects = true →
          ∀ name ∈ inventedNames function, name ∉ function.argumentNames)) := by
  obtain rfl := Catalog.functions_of_ofFunctions accepted
  constructor
  · have units : catalog.functions.flatMap sourceLines =
        catalog.functions.flatMap fun function => Script.layout 0 (plan.unit function) := by
      refine List.flatMap_congr fun function listed => ?_
      rw [sourceLines_eq, layout_unit_eq_unitLines (spelled function listed).sound]
    rw [lines_generate fun function listed => (spelled function listed).worded, fileLines, units]
  · exact fun function listed =>
      declaresOnce_bodySource_iff (catalog.distinctArguments function listed)

def uniformArray : List Function :=
  [.build "glUniform1fv" [.argument "location" "GLint" false, .argument "count" "GLsizei" false,
    .argument "value" "const GLfloat *" true]]

theorem locals_declared_once_iff_uniformArray :
    ∃ catalog, Catalog.ofFunctions uniformArray = .ok catalog ∧
      (∀ function ∈ uniformArray, function.Spelled) ∧
      ∀ function ∈ uniformArray,
        inventedNames function = ["call", "program", "__a_value"] ∧
          (bodySource function).DeclaresOnce parameters := by
  have spelled : ∀ function ∈ uniformArray, function.Spelled := by
    simp only [uniformArray, List.forall_mem_singleton]
    exact Function.build_spelled (by decide) (by decide +kernel)
  obtain ⟨catalog, accepted⟩ : ∃ catalog, Catalog.ofFunctions uniformArray = .ok catalog :=
    ⟨_, rfl⟩
  have invented : ∀ function ∈ uniformArray,
      inventedNames function = ["call", "program", "__a_value"] ∧
        function.argumentNames = ["location", "count", "value"] := by decide
  obtain ⟨-, once⟩ := locals_declared_once_iff accepted spelled
  refine ⟨catalog, accepted, spelled, fun function listed => ⟨(invented function listed).1, ?_⟩⟩
  refine (once function listed).mpr fun _ => ?_
  rw [(invented function listed).1, (invented function listed).2]
  decide

-- Its second argument bears the name of the local that holds the program looked up.
def uniformOfProgram : List Function :=
  [.build "glUniform1i" [.argument "location" "GLint" false, .argument "program" "GLint" false]]

theorem uniformOfProgram_declares_twice :
    ∃ catalog, Catalog.ofFunctions uniformOfProgram = .ok catalog ∧
      (∀ function ∈ uniformOfProgram, function.Spelled) ∧
      "    GLint program = -1;" ∈ Text.lines (generate catalog.functions).text ∧
      "    GLint program;" ∈ Text.lines (generate catalog.functions).text ∧
      ∀ function ∈ uniformOfProgram, ¬ (bodySource function).DeclaresOnce parameters := by
  have spelled : ∀ function ∈ uniformOfProgram, function.Spelled := by
    simp only [uniformOfProgram, List.forall_mem_singleton]
    exact Function.build_spelled (by decide) (by decide +kernel)
  obtain ⟨catalog, accepted⟩ : ∃ catalog, Catalog.ofFunctions uniformOfProgram = .ok catalog :=
    ⟨_, rfl⟩
  refine ⟨catalog, accepted, spelled, ?_, ?_, by decide⟩
  all_goals
    rw [Catalog.functions_of_ofFunctions accepted,
      lines_generate fun function listed => (spelled function listed).worded]
    decide +kernel

end ReplayGen.GL
