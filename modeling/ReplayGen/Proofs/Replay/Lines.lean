import ReplayGen.Proofs.Replay.Unit
import ReplayGen.Proofs.Function.Building

set_option autoImplicit false

namespace ReplayGen

namespace Function

def headingLine (function : Function) : Line :=
  ⟨0, "static void retrace_" ++ function.name ++ "(Trace::Call &call) \x7b"⟩

def closingLines : List Line :=
  [⟨0, "\x7d"⟩, ⟨0, ""⟩]

def giveUpLines (function : Function) (depth : Nat) : List Line :=
  [⟨depth, "std::cerr << \"warning: unsupported call " ++ function.name ++ "\\n\";"⟩,
    ⟨depth, "return;"⟩]

def giveUpBlockLines (function : Function) : List Line :=
  [⟨1, "if (1) \x7b"⟩] ++ function.giveUpLines 2 ++ [⟨1, "\x7d"⟩]

def callText (function : Function) : String :=
  function.name ++ "(" ++ ", ".intercalate (function.arguments.map Argument.name) ++ ");"

def callLines (function : Function) : List Line :=
  match function.returnType with
  | none => [⟨1, function.callText⟩]
  | some type =>
      [⟨1, type ++ " __result;"⟩, ⟨1, "__result = " ++ function.callText⟩,
        ⟨1, "(void)__result;"⟩]

theorem layout_giveUpBlock (function : Function) :
    Script.layout 1 function.giveUpBlock = function.giveUpBlockLines := rfl

theorem layout_callStatement (function : Function) :
    Script.layout 1 function.callStatement = function.callLines := by
  have ended : function.callExpression ++ ";" = function.callText := by
    simp [callExpression, callText, argumentNames, String.append_assoc]
  unfold callStatement callLines
  cases function.returnType <;>
    simp [Script.layout, Step.layout, Step.depthAfter?, ended, String.append_assoc]

theorem balanced_callStatement (function : Function) : Script.Balanced function.callStatement := by
  intro depth
  unfold callStatement
  cases function.returnType <;> rfl

end Function

namespace Argument

def declarationLine (argument : Argument) : Line :=
  ⟨1, argument.localType ++ " " ++ argument.name ++ ";"⟩

def decodingLines (argument : Argument) (position : Nat) : List Line :=
  let value := "call.arg(" ++ toString position ++ ")"
  let array := "__a_" ++ argument.name
  let index := "__j_" ++ argument.name
  match argument.kind with
  | .scalar kind => [⟨1, argument.name ++ " = (" ++ value ++ ")." ++ kind.reader ++ "();"⟩]
  | .text => [⟨1, argument.name ++ " = (" ++ value ++ ").toString();"⟩]
  | .address =>
      [⟨1, argument.name ++ " = (" ++ argument.type ++ ")(" ++ value ++ ").toPointer();"⟩]
  | .array element =>
      [⟨1, "const Trace::Array *" ++ array ++ " = dynamic_cast<const Trace::Array *>(&"
          ++ value ++ ");"⟩,
        ⟨1, "if (" ++ array ++ ") \x7b"⟩,
        ⟨2, argument.name ++ " = new " ++ argument.elementType ++ "[" ++ array
          ++ "->values.size()];"⟩,
        ⟨2, "for (size_t " ++ index ++ " = 0; " ++ index ++ " < " ++ array
          ++ "->values.size(); ++" ++ index ++ ") \x7b"⟩,
        ⟨3, argument.name ++ "[" ++ index ++ "] = (*" ++ array ++ "->values[" ++ index ++ "])."
          ++ element.reader ++ "();"⟩,
        ⟨2, "\x7d"⟩,
        ⟨1, "\x7d else \x7b"⟩,
        ⟨2, argument.name ++ " = NULL;"⟩,
        ⟨1, "\x7d"⟩]
  | .unknown => [⟨1, argument.name ++ " = 0; // FIXME"⟩]

theorem balanced_decoding (argument : Argument) (lvalue rvalue : String) :
    Script.Balanced (argument.decoding lvalue rvalue).script := by
  intro depth
  unfold decoding
  cases argument.kind <;> rfl

theorem layout_plain_passage (argument : Argument) (function : Function) :
    Script.layout 1 (Plan.plain.passage function argument) =
      argument.decodingLines argument.index := by
  cases kind : argument.kind <;>
    simp [Plan.passage, Plan.decodes, Plan.decoding, Plan.plain, decoding, decodingLines, kind,
      Decoding.supported, Decoding.unsupported, placeholder, arrayCopy, arrayLocal, indexLocal,
      arrayLength, readStatement, recordedValue, Script.layout, Step.layout, Step.depthAfter?,
      Step.begins, Step.ends, ← String.toList_inj]

theorem wordy_elementType {argument : Argument} (type : Text.Wordy argument.type) :
    Text.Wordy argument.elementType :=
  CType.wordy_element type

theorem wordy_localType {argument : Argument} (type : Text.Wordy argument.type) :
    Text.Wordy argument.localType := by
  unfold localType
  split
  · exact (wordy_elementType type).append (Text.wordy_literal _ (by decide))
  · exact type

theorem wordy_declared {argument : Argument} (name : Text.Wordy argument.name)
    (type : Text.Wordy argument.type) :
    Text.Wordy (argument.localType ++ " " ++ argument.name) :=
  ((wordy_localType type).append (Text.wordy_literal _ (by decide))).append name

theorem unbroken_elementType {argument : Argument} (type : '\n' ∉ argument.type.toList) :
    '\n' ∉ argument.elementType.toList :=
  fun member => type (CType.mem_of_mem_element member)

theorem unbroken_localType {argument : Argument} (type : '\n' ∉ argument.type.toList) :
    '\n' ∉ argument.localType.toList := by
  unfold localType
  split
  · simp [unbroken_elementType type]
  · exact type

theorem unbroken_decoding {argument : Argument} (name : '\n' ∉ argument.name.toList)
    (type : '\n' ∉ argument.type.toList) :
    Script.Unbroken
      (argument.decoding argument.name (recordedValue argument.index)).script := by
  have methods (kind : Scalar) : '\n' ∉ kind.reader.toList := by cases kind <;> decide
  have position : '\n' ∉ Nat.toDigits 10 argument.index := fun member =>
    Text.not_mark_of_mem_toDigits member (by decide)
  unfold decoding
  cases argument.kind <;>
    simp [Decoding.supported, Decoding.unsupported, arrayCopy, arrayLocal, indexLocal, arrayLength,
      readStatement, recordedValue, Step.Unbroken, Step.begins, Step.ends, name, type,
      unbroken_elementType type, methods, position]

end Argument

namespace Function

variable {function : Function}

theorem mem_joined_names (worded : function.Worded) {c : Char}
    (member : c ∈ [',', ' '].intercalate (function.argumentNames.map String.toList)) :
    c = ',' ∨ c ∉ Text.marks := by
  rcases Text.mem_of_mem_intercalate member with separator | ⟨part, found, inside⟩
  · simp only [List.mem_cons, List.not_mem_nil, or_false] at separator
    rcases separator with rfl | rfl
    · exact .inl rfl
    · exact .inr (by decide)
  · simp only [argumentNames, List.map_map, List.mem_map] at found
    obtain ⟨argument, listed, rfl⟩ := found
    exact .inr (worded.argumentName argument listed c inside)

theorem unbroken_giveUp (unbroken : function.Unbroken) : Script.Unbroken function.giveUp := by
  simp [giveUp, Step.Unbroken, unbroken.name]

theorem unbroken_callStatement (unbroken : function.Unbroken) :
    Script.Unbroken function.callStatement := by
  have joined : '\n' ∉ [',', ' '].intercalate (function.argumentNames.map String.toList) := by
    intro member
    rcases Text.mem_of_mem_intercalate member with separator | ⟨part, found, inside⟩
    · exact absurd separator (by decide)
    · simp only [argumentNames, List.map_map, List.mem_map] at found
      obtain ⟨argument, listed, rfl⟩ := found
      exact unbroken.argumentName argument listed inside
  unfold callStatement
  cases type : function.returnType with
  | none => simp [callExpression, Step.Unbroken, unbroken.name, joined]
  | some kept =>
      simp [callExpression, Step.Unbroken, unbroken.name, joined, unbroken.returnType kept type]

end Function

theorem Plan.plain_balanced (function : Function) : Plan.plain.Balanced function where
  prologue := Script.balanced_nil
  decoding argument := argument.balanced_decoding _ _
  call := function.balanced_callStatement

theorem Plan.layout_unit {plan : Plan} {function : Function} (balanced : plan.Balanced function) :
    Script.layout 0 (plan.unit function) =
      function.headingLine ::
        (Script.layout 1 (plan.prologue function) ++
          Script.layout 1 (plan.afterPrologue function) ++ Function.closingLines) := by
  have opened : Script.depthAfter? 0 function.heading = some 1 := rfl
  have closed : Script.depthAfter? 0 (function.heading ++ plan.body function) = some 1 := by
    rw [Script.depthAfter?_append, opened, Option.bind_some, balanced.body]
  rw [unit, List.append_assoc _ [Step.ends], Script.layout_append closed,
    Script.layout_append opened, Plan.body, balanced.prologue.layout_append]
  simp [Script.layout, Function.heading, Function.headingLine, Function.closingLines, Step.begins,
    Step.ends, Step.layout, Step.depthAfter?, String.append_assoc]

structure Plan.Unbroken (plan : Plan) (function : Function) : Prop where
  prologue : Script.Unbroken (plan.prologue function)
  decoding : ∀ argument ∈ function.arguments,
    Script.Unbroken (plan.decoding function argument).script
  call : Script.Unbroken (plan.call function)

theorem Plan.plain_unbroken {function : Function} (unbroken : function.Unbroken) :
    Plan.plain.Unbroken function where
  prologue := Script.unbroken_nil
  decoding argument listed :=
    Argument.unbroken_decoding (unbroken.argumentName argument listed)
      (unbroken.argumentType argument listed)
  call := Function.unbroken_callStatement unbroken

theorem Plan.Unbroken.unit {plan : Plan} {function : Function}
    (unbroken : plan.Unbroken function) (named : function.Unbroken) :
    Script.Unbroken (plan.unit function) := by
  have name (argument : Argument) (member : argument ∈ function.arguments) :
      '\n' ∉ argument.name.toList := named.argumentName argument member
  have type (argument : Argument) (member : argument ∈ function.arguments) :
      '\n' ∉ argument.localType.toList :=
    Argument.unbroken_localType (named.argumentType argument member)
  have block : Script.Unbroken function.giveUpBlock := by
    simp [Function.giveUpBlock, Function.unbroken_giveUp named, Step.begins, Step.ends,
      Step.Unbroken]
  -- Plans answer for what they decode; the declarations and the blocks are the same for all.
  have each : plan.EachStep Step.Unbroken function := {
    heading := by simp [Function.heading, Step.begins, Step.Unbroken, named.name]
    prologue := unbroken.prologue
    declaration := fun argument member => by
      simp [Argument.declaration, Step.Unbroken, name argument member, type argument member]
    decoding := unbroken.decoding
    placeholder := fun argument member => by
      simp [Argument.placeholder, Step.Unbroken, name argument member]
    giveUpBlock := block
    call := unbroken.call
    unread := by simp [Step.Unbroken]
    ends := by simp [Step.ends, Step.Unbroken]
    blank := trivial }
  exact each.unit

end ReplayGen
