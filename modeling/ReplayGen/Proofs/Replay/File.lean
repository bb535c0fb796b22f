import ReplayGen.Proofs.Replay.Lines

set_option autoImplicit false

namespace ReplayGen

namespace Plan

variable (plan : Plan)

def file (functions : List Function) : Script :=
  functions.flatMap plan.unit ++ dispatchTable (functions.map Function.name) ++
    [.note (.generated functions.length)]

variable {plan}

theorem Balanced.unit {function : Function} (balanced : plan.Balanced function) :
    Script.Balanced (plan.unit function) := by
  intro depth
  simp [Plan.unit, Script.depthAfter?_append, Script.depthAfter?_cons, Function.heading,
    Step.begins, Step.ends, Step.depthAfter?, balanced.body (depth + 1)]

theorem hooks_function_eq {function : Function} (balanced : plan.Balanced function) :
    plan.hooks.function function = Emit.play (plan.unit function) := by
  funext draft
  rw [hooks_function balanced.body, Emit.play_eq (balanced.unit draft.depth)]

theorem hooks_functions_eq {functions : List Function}
    (balanced : ∀ function ∈ functions, plan.Balanced function) :
    plan.hooks.functions functions = Emit.play (plan.file functions) := by
  have units : functions.forM plan.hooks.function = Emit.play (functions.flatMap plan.unit) := by
    induction functions with
    | nil => rfl
    | cons function rest ih =>
        have first : (function :: rest).forM plan.hooks.function =
            (do plan.hooks.function function; rest.forM plan.hooks.function) := rfl
        rw [first, hooks_function_eq (balanced function (by simp)),
          ih fun other member => balanced other (by simp [member]), List.flatMap_cons,
          Emit.play_append]
  have noted (event : Event) : Emit.play [.note event] = Emit.step (.note event) := by
    rw [Emit.play_cons, Emit.play_nil]
    exact bind_pure_unit
  rw [Hooks.functions, units, file, Emit.play_append, Emit.play_append, noted, bind_assoc]

end Plan

def tableStart : String :=
  "const glretrace::Entry glretrace::gl_callbacks[] = \x7b"

def tableEntry (name : String) : String :=
  "\x7b\"" ++ name ++ "\", &retrace_" ++ name ++ "\x7d,"

def tableSentinel : String :=
  "\x7bNULL, NULL\x7d"

theorem balanced_dispatchEntries (names : List String) :
    Script.Balanced (names.map dispatchEntry) := by
  rw [List.map_eq_flatMap]
  exact Script.balanced_flatMap fun _ _ _ => rfl

theorem dispatchTable_eq (names : List String) :
    dispatchTable names =
      .openBlock tableStart ::
        ((names.map dispatchEntry ++ [.line tableSentinel]) ++ [.closeBlock "\x7d;"]) := by
  simp [dispatchTable, tableStart, tableSentinel, Step.begins]

theorem balanced_dispatchTable (names : List String) :
    Script.Balanced (dispatchTable names) := by
  rw [dispatchTable_eq]
  exact ((balanced_dispatchEntries names).append fun _ => rfl).block _ _

def entryText (depth : Nat) (name : String) : String :=
  indentedLine (depth + 1) (tableEntry name)

def tableHead (depth : Nat) : String :=
  indentedLine depth tableStart

def tableFoot (depth : Nat) : String :=
  indentedLine (depth + 1) tableSentinel ++ indentedLine depth "\x7d;"

def tableText (depth : Nat) (names : List String) : String :=
  tableHead depth ++ String.join (names.map (entryText depth)) ++ tableFoot depth

theorem written_dispatchTable (depth : Nat) (names : List String) :
    Script.written depth (dispatchTable names) = tableText depth names := by
  have entries : Script.written (depth + 1) (names.map dispatchEntry) =
      String.join (names.map (entryText depth)) := by
    rw [List.map_eq_flatMap, Script.written_flatMap fun _ _ _ => rfl]
    congr 2
    funext name
    exact String.append_empty
  have opened : Script.depthAfter? depth [.openBlock tableStart] = some (depth + 1) := rfl
  rw [dispatchTable_eq, ← List.singleton_append, Script.written_append opened, List.append_assoc,
    Script.written_append (balanced_dispatchEntries names (depth + 1)), entries, tableText]
  simp [Script.written, Step.written, Step.depthAfter?, tableHead, tableFoot, String.append_assoc]

def tableLines (names : List String) : List Line :=
  ⟨0, tableStart⟩ :: (names.map (⟨1, tableEntry ·⟩) ++ [⟨1, tableSentinel⟩, ⟨0, "\x7d;"⟩])

theorem layout_dispatchTable (names : List String) :
    Script.layout 0 (dispatchTable names) = tableLines names := by
  have entries : Script.layout 1 (names.map dispatchEntry) = names.map (⟨1, tableEntry ·⟩) := by
    rw [List.map_eq_flatMap, Script.layout_flatMap fun _ _ _ => rfl, List.map_eq_flatMap]
    rfl
  have balanced : Script.Balanced (names.map dispatchEntry ++ [.line tableSentinel]) :=
    (balanced_dispatchEntries names).append fun _ => rfl
  rw [dispatchTable_eq, Script.layout_block balanced,
    (balanced_dispatchEntries names).layout_append, entries, tableLines]
  simp [Script.layout, Step.layout]

theorem unbroken_dispatchTable {names : List String}
    (unbroken : ∀ name ∈ names, '\n' ∉ name.toList) :
    Script.Unbroken (dispatchTable names) := by
  have entries : Script.Unbroken (names.map dispatchEntry) := by
    intro step member
    obtain ⟨name, listed, rfl⟩ := List.mem_map.mp member
    simp [dispatchEntry, Step.Unbroken, unbroken name listed]
  simp [dispatchTable, Step.begins, Step.Unbroken, entries]

theorem Plan.balanced_units {plan : Plan} {functions : List Function}
    (balanced : ∀ function ∈ functions, plan.Balanced function) :
    Script.Balanced (functions.flatMap plan.unit) :=
  Script.balanced_flatMap fun function member => (balanced function member).unit

theorem Plan.balanced_file {plan : Plan} {functions : List Function}
    (balanced : ∀ function ∈ functions, plan.Balanced function) :
    Script.Balanced (plan.file functions) :=
  ((balanced_units balanced).append (balanced_dispatchTable _)).append fun _ => rfl

def Hooks.unitText (hooks : Hooks) (depth : Nat) (function : Function) : String :=
  ((hooks.function function).draft { depth }).text

def Hooks.fileText (hooks : Hooks) (depth : Nat) (functions : List Function) : String :=
  ((hooks.functions functions).draft { depth }).text

namespace Plan

variable {plan : Plan}

theorem unitText_eq {function : Function} (balanced : plan.Balanced function) (depth : Nat) :
    plan.hooks.unitText depth function = Script.written depth (plan.unit function) := by
  rw [Hooks.unitText, Emit.draft, hooks_function balanced.body]
  simp [Draft.extended]

theorem written_units {functions : List Function}
    (balanced : ∀ function ∈ functions, plan.Balanced function) (depth : Nat) :
    Script.written depth (functions.flatMap plan.unit) =
      String.join (functions.map (plan.hooks.unitText depth)) := by
  rw [Script.written_flatMap fun function member => (balanced function member).unit]
  congr 1
  exact List.map_congr_left fun function member =>
    (unitText_eq (balanced function member) depth).symm

theorem written_file {functions : List Function}
    (balanced : ∀ function ∈ functions, plan.Balanced function) (depth : Nat) :
    Script.written depth (plan.file functions) =
      String.join (functions.map (plan.hooks.unitText depth)) ++
        tableText depth (functions.map Function.name) := by
  have units := balanced_units balanced
  have table := balanced_dispatchTable (functions.map Function.name)
  rw [file, Script.written_append ((units.append table) depth), Script.written_append (units depth),
    written_units balanced, written_dispatchTable]
  simp [Script.written, Step.written]

theorem fileText_eq {functions : List Function}
    (balanced : ∀ function ∈ functions, plan.Balanced function) (depth : Nat) :
    plan.hooks.fileText depth functions = Script.written depth (plan.file functions) := by
  rw [Hooks.fileText, Emit.draft, hooks_functions_eq balanced,
    Emit.play_eq (balanced_file balanced depth)]
  simp [Draft.extended]

theorem layout_file {functions : List Function}
    (balanced : ∀ function ∈ functions, plan.Balanced function) :
    Script.layout 0 (plan.file functions) =
      (functions.flatMap fun function => Script.layout 0 (plan.unit function)) ++
        tableLines (functions.map Function.name) := by
  have units := balanced_units balanced
  have table := balanced_dispatchTable (functions.map Function.name)
  rw [file, (units.append table).layout_append, units.layout_append,
    Script.layout_flatMap fun function member => (balanced function member).unit,
    layout_dispatchTable]
  simp [Script.layout, Step.layout]

theorem forall_mem_units {holds : Step → Prop} {functions : List Function}
    (units : ∀ function ∈ functions, ∀ step ∈ plan.unit function, holds step) :
    ∀ step ∈ functions.flatMap plan.unit, holds step := by
  intro step member
  obtain ⟨function, listed, inside⟩ := List.mem_flatMap.mp member
  exact units function listed step inside

theorem forall_mem_file {holds : Step → Prop} {functions : List Function}
    (units : ∀ function ∈ functions, ∀ step ∈ plan.unit function, holds step)
    (table : ∀ step ∈ dispatchTable (functions.map Function.name), holds step)
    (note : holds (.note (.generated functions.length))) :
    ∀ step ∈ plan.file functions, holds step := by
  simp only [file, List.forall_mem_append, List.forall_mem_singleton]
  exact ⟨⟨forall_mem_units units, table⟩, note⟩

theorem unbroken_file {functions : List Function}
    (unbroken : ∀ function ∈ functions, plan.Unbroken function)
    (named : ∀ function ∈ functions, function.Unbroken) : Script.Unbroken (plan.file functions) := by
  refine forall_mem_file (fun function member => ?_) (unbroken_dispatchTable ?_) trivial
  · exact (unbroken function member).unit (named function member)
  · intro name member
    obtain ⟨function, listed, rfl⟩ := List.mem_map.mp member
    exact (named function listed).name

end Plan

end ReplayGen
