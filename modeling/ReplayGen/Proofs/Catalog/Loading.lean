import ReplayGen.Proofs.Catalog.Documents
import ReplayGen.Proofs.Catalog.Validation
import ReplayGen.Proofs.Function.Steps

set_option autoImplicit false

namespace ReplayGen.Catalog

open Toml

def FunctionEntry.described (entry : FunctionEntry) : Function where
  name := entry.name
  returnType := entry.returnType.bind Function.keptReturnType
  arguments := entry.arguments.mapIdx fun index argument =>
    Argument.declare index argument.name argument.type argument.array
  sideEffects := entry.sideEffects
  roles := Roles.classify entry.name

namespace FunctionEntry

variable (entry : FunctionEntry)

theorem filterMap_buildSteps {β : Type} {pick : BuildStep → Option β}
    (ignores : pick .withoutSideEffects = none) :
    entry.buildSteps.filterMap pick =
      (entry.returnType.bind fun type => pick (.returns type)).toList ++
        entry.arguments.filterMap fun argument => pick argument.buildStep := by
  have returned : (entry.returnType.map BuildStep.returns).toList.filterMap pick =
      (entry.returnType.bind fun type => pick (.returns type)).toList := by
    cases entry.returnType with
    | none => rfl
    | some type => cases picked : pick (.returns type) <;> simp [picked]
  have last : (if entry.sideEffects then [] else [BuildStep.withoutSideEffects]).filterMap
      pick = [] := by
    cases entry.sideEffects <;> simp [ignores]
  rw [buildSteps, List.filterMap_append, List.filterMap_append, returned, last, List.append_nil,
    List.filterMap_map]
  rfl

theorem argumentsOf_buildSteps :
    Function.argumentsOf entry.buildSteps = entry.described.arguments := by
  rw [Function.argumentsOf, filterMap_buildSteps entry rfl]
  simp only [BuildStep.argument?, ArgumentEntry.buildStep, Option.bind_fun_none, Option.toList_none,
    List.nil_append]
  rw [List.filterMap_eq_map']
  refine List.ext_getElem? fun index => ?_
  simp only [described, List.getElem?_mapIdx, List.getElem?_map, Option.map_map]
  rfl

theorem returnTypeOf_buildSteps :
    Function.returnTypeOf entry.buildSteps = entry.described.returnType := by
  have arguments : (entry.arguments.filterMap fun argument =>
      argument.buildStep.returnType?) = [] := by
    simp [ArgumentEntry.buildStep, BuildStep.returnType?]
  rw [Function.returnTypeOf, filterMap_buildSteps entry rfl, arguments, List.append_nil, described]
  cases entry.returnType <;> rfl

theorem withoutSideEffects_mem_buildSteps :
    BuildStep.withoutSideEffects ∈ entry.buildSteps ↔ entry.sideEffects = false := by
  cases kept : entry.sideEffects <;> simp [buildSteps, ArgumentEntry.buildStep, kept]

theorem function_eq_described : entry.function = entry.described := by
  have kept : decide (BuildStep.withoutSideEffects ∉ entry.buildSteps) = entry.sideEffects := by
    simp [withoutSideEffects_mem_buildSteps]
  rw [function, Function.build_eq, argumentsOf_buildSteps, returnTypeOf_buildSteps, kept]
  rfl

end FunctionEntry

section Described

variable {document : Value} (keyed : document.Keyed)
include keyed

theorem ofValue_of_describes {listed : List FunctionEntry}
    (described : DescribesCatalog document listed) :
    ofValue document =
      (ofFunctions (listed.map FunctionEntry.described)).mapError .duplicate := by
  have same : FunctionEntry.function = FunctionEntry.described :=
    funext FunctionEntry.function_eq_described
  rw [ofValue, (entries_eq_ok_iff keyed).mpr described, ← same]
  rfl

theorem ofValue_refused_iff :
    (∃ error, ofValue document = .error (.schema error)) ↔
      ¬ ∃ listed, DescribesCatalog document listed := by
  constructor
  · rintro ⟨error, failed⟩ ⟨listed, described⟩
    rw [ofValue_of_describes keyed described] at failed
    cases built : ofFunctions (listed.map FunctionEntry.described) <;>
      simp [built, Except.mapError] at failed
  · intro refused
    cases result : entries document with
    | error error =>
        refine ⟨error, ?_⟩
        rw [ofValue, result]
        rfl
    | ok listed => exact absurd ⟨listed, (entries_eq_ok_iff keyed).mp result⟩ refused

end Described

/-- No text reads as a document with a key given twice, so what holds of keyed documents holds of
all that are read. -/
theorem ofValue_of_described {document : Value} (keyed : document.Keyed) :
    (∀ listed, entries document = .ok listed ↔ DescribesCatalog document listed) ∧
    ((∃ error, ofValue document = .error (.schema error)) ↔
      ¬ ∃ listed, DescribesCatalog document listed) ∧
    (∀ listed, DescribesCatalog document listed →
      ofValue document =
        (ofFunctions (listed.map FunctionEntry.described)).mapError .duplicate) ∧
    ∀ text read, read? text = some read →
      ofText text = ofValue read ∧
      ((∃ error, ofText text = .error (.schema error)) ↔
        ¬ ∃ listed, DescribesCatalog read listed) ∧
      ∀ listed, DescribesCatalog read listed →
        ofText text = (ofFunctions (listed.map FunctionEntry.described)).mapError .duplicate := by
  refine ⟨fun listed => entries_eq_ok_iff keyed, ofValue_refused_iff keyed,
    fun listed => ofValue_of_describes keyed, fun text read found => ?_⟩
  have readKeyed := read?_keyed found
  have loaded : ofText text = ofValue read := by simp [ofText, found]
  rw [loaded]
  exact ⟨rfl, ofValue_refused_iff readKeyed, fun listed => ofValue_of_describes readKeyed⟩

-- One function is given by a table, the other by an array, and so are two of the arguments.
def pointerCatalog : Value :=
  .table [("function", .array
    [.table [("args", .array
        [.array [.string "size", .string "GLint"],
          .table [("type", .string "const  GLvoid *"), ("array", .boolean true),
            ("name", .string "pointer")]]),
        ("name", .string "glVertexPointer")],
      .array [.string "glGetError", .string " GLenum", .array [], .boolean false,
        .integer 7]])]

def pointerEntries : List FunctionEntry :=
  [{ name := "glVertexPointer",
     arguments := [{ name := "size", type := "GLint" },
       { name := "pointer", type := "const  GLvoid *", array := true }] },
   { name := "glGetError", returnType := some " GLenum", sideEffects := false }]

theorem describesCatalog_pointerCatalog : DescribesCatalog pointerCatalog pointerEntries := by
  have size : DescribesArgument (.array [.string "size", .string "GLint"])
      { name := "size", type := "GLint" } :=
    ⟨_, rfl, by decide, rfl, rfl, rfl⟩
  have pointer : DescribesArgument
      (.table [("type", .string "const  GLvoid *"), ("array", .boolean true),
        ("name", .string "pointer")])
      { name := "pointer", type := "const  GLvoid *", array := true } :=
    ⟨_, rfl, by decide, rfl, rfl, rfl⟩
  refine ⟨_, rfl, by decide, _, rfl, ?_⟩
  refine .cons ⟨_, rfl, by decide, rfl, rfl, ?_, rfl⟩ (.cons ⟨_, rfl, ?_, rfl, rfl, ?_, rfl⟩ .nil)
  · exact ⟨_, rfl, .cons size (.cons pointer .nil)⟩
  · decide
  · exact ⟨_, rfl, .nil⟩

theorem ofValue_of_described_pointerCatalog :
    pointerCatalog.Keyed ∧
      ∃ catalog, ofValue pointerCatalog = .ok catalog ∧
        catalog.get? "glGetError" = some
          { name := "glGetError", returnType := some "GLenum", sideEffects := false,
            roles := Roles.classify "glGetError" } := by
  have keyed : pointerCatalog.Keyed := by
    simp [pointerCatalog]
  refine ⟨keyed, ?_⟩
  have loaded := (ofValue_of_described keyed).2.2.1 _ describesCatalog_pointerCatalog
  have clear : Duplicate.first? [] (pointerEntries.map FunctionEntry.described) = none := by decide
  obtain ⟨catalog, built⟩ := exists_ofFunctions_iff.mpr clear
  refine ⟨catalog, by rw [loaded, built]; rfl, ?_⟩
  rw [get?, functions_of_ofFunctions built]
  decide

end ReplayGen.Catalog
