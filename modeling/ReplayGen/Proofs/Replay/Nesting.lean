import ReplayGen.Proofs.Emission.Nesting
import ReplayGen.Proofs.Function.Lettered
import ReplayGen.Proofs.Replay.File

set_option autoImplicit false

namespace ReplayGen

open Text

namespace Argument

variable {argument : Argument}

theorem nested_declaration (name : Wordy argument.name) (type : Wordy argument.type)
    (start : Solid argument.localType) : argument.declaration.Nested := by
  refine ⟨((start.append _).append _).append _, .inl ?_⟩
  simp [braces, (wordy_localType type).braceless, name.braceless, isBrace]

theorem nested_placeholder (name : Wordy argument.name) (start : Solid argument.name)
    (function : Function) : Script.Nested (argument.placeholder function) := by
  simp [placeholder, Step.Nested, start.append, braces, name.braceless, isBrace]

theorem nested_decoding (name : Wordy argument.name) (type : Wordy argument.type)
    (start : Solid argument.name) :
    Script.Nested (argument.decoding argument.name (recordedValue argument.index)).script := by
  have methods (kind : Scalar) : kind.reader.toList.filter isBrace = [] := by
    cases kind <;> decide
  have position : (Nat.toDigits 10 argument.index).filter isBrace = [] :=
    filter_isBrace fun c member => not_mark_of_mem_toDigits member
  obtain ⟨c, head, flush, other⟩ := solid_iff.mp start
  unfold decoding
  cases argument.kind <;>
    simp [Decoding.supported, Decoding.unsupported, arrayCopy, arrayLocal, indexLocal, arrayLength,
      readStatement, recordedValue, Step.Nested, Step.begins, Step.ends, Solid,
      head, flush, other, braces, name.braceless, type.braceless,
      (wordy_elementType type).braceless, methods, position, isBrace]

end Argument

namespace Function

variable {function : Function}

theorem nested_heading (worded : function.Worded) : Script.Nested function.heading := by
  simp [heading, Step.begins, Step.Nested, Text.Solid, braces, worded.name.braceless, isBrace]

theorem nested_giveUp (worded : function.Worded) : Script.Nested function.giveUp := by
  simp [giveUp, Step.Nested, Text.Solid, braces, worded.name.braceless, isBrace]

theorem nested_giveUpBlock (worded : function.Worded) : Script.Nested function.giveUpBlock := by
  simp [giveUpBlock, Step.begins, Step.ends, Step.Nested, nested_giveUp worded, Text.Solid, braces,
    isBrace]

theorem nested_callStatement (worded : function.Worded) (solid : function.Solid) :
    Script.Nested function.callStatement := by
  have joined :
      ([',', ' '].intercalate (function.argumentNames.map String.toList)).filter isBrace = [] := by
    rw [List.filter_eq_nil_iff]
    intro c member
    rcases mem_joined_names worded member with rfl | unmarked
    · decide
    · simp [isBrace_of_not_mark unmarked]
  unfold callStatement
  cases type : function.returnType with
  | none =>
      obtain ⟨c, head, flush, other⟩ := solid_iff.mp solid.name
      simp [callExpression, Step.Nested, Text.Solid, head, flush, other, braces,
        worded.name.braceless, joined, isBrace]
  | some kept =>
      obtain ⟨c, head, flush, other⟩ := solid_iff.mp (solid.returnType kept type)
      simp [callExpression, Step.Nested, Text.Solid, head, flush, other, braces,
        worded.name.braceless, joined, (worded.returnType kept type).braceless, isBrace]

end Function

theorem nested_dispatchTable {names : List String} (wordy : ∀ name ∈ names, Text.Wordy name) :
    Script.Nested (dispatchTable names) := by
  have entries : Script.Nested (names.map dispatchEntry) := by
    intro step member
    obtain ⟨name, listed, rfl⟩ := List.mem_map.mp member
    simp [dispatchEntry, Step.Nested, Solid, braces, (wordy name listed).braceless, isBrace]
  simp [dispatchTable, Step.begins, Step.Nested, Solid, braces, isBrace, entries]

namespace Plan

structure Nested (plan : Plan) (function : Function) : Prop where
  prologue : Script.Nested (plan.prologue function)
  decoding : ∀ argument ∈ function.arguments,
    Script.Nested (plan.decoding function argument).script
  call : Script.Nested (plan.call function)

variable {plan : Plan}

theorem Nested.unit {function : Function} (nested : plan.Nested function)
    (worded : function.Worded) (solid : function.Solid) : Script.Nested (plan.unit function) := by
  have each : plan.EachStep Step.Nested function := {
    heading := Function.nested_heading worded
    prologue := nested.prologue
    declaration := fun argument member =>
      Argument.nested_declaration (worded.argumentName argument member)
        (worded.argumentType argument member) (solid.localType argument member)
    decoding := nested.decoding
    placeholder := fun argument member =>
      Argument.nested_placeholder (worded.argumentName argument member)
        (solid.argumentName argument member) function
    giveUpBlock := Function.nested_giveUpBlock worded
    call := nested.call
    unread := Step.nested_line (plain_literal _ (by decide))
    ends := Step.nested_ends
    blank := trivial }
  exact each.unit

end Plan

end ReplayGen
