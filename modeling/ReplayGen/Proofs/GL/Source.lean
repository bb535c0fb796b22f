import ReplayGen.Proofs.Replay.Source
import ReplayGen.Proofs.GL.Layout

set_option autoImplicit false

namespace ReplayGen.GL

def player (name : String) : Expression :=
  .qualified "glretrace" name

@[simp] theorem text_player (name : String) : (player name).text = "glretrace::" ++ name := by
  simp [player]

@[simp] theorem names_player (name : String) : (player name).names = [] := rfl

def query (queried : Binding) (target : String) : Statement :=
  .evaluation (.called "glGetIntegerv" [.state queried, .unary .address (.identifier target)])

section Parts

variable (function : Function)

def bufferCheckSource (buffer : String) (queried : Binding) : Source :=
  .simple (.initialized "GLint" buffer (.number 0)) <|
    .simple (query queried buffer) <|
    .branch (.unary .negation (.identifier buffer)) function.giveUpSource .done

def guardSource : Source :=
  if ReadsVertices function.name ∨ ReadsElements function.name then
    .branch (.binary .below (.field (player "parser") "version") (.number 1))
      ((if ReadsVertices function.name then
          bufferCheckSource function "__array_buffer" .arrayBuffer else .done) ++
        (if ReadsElements function.name then
          bufferCheckSource function "__element_array_buffer" .elementBuffer else .done))
      .done
  else .done

def lookupSource : Source :=
  .simple (.initialized "GLint" "program" (.unary .minus (.number 1))) <|
    .simple (query .program "program") .done

def passageSource (argument : Argument) (position : Nat) : Source :=
  if PassesBlob function argument then
    .simple (.assignment (.identifier argument.name) (.read "blob" (.recorded position))) .done
  else (if LooksUpProgram function argument position then lookupSource else .done) ++
    argument.decodingSource position

def sectionSource : Argument × Nat → Source
  | (argument, position) => argument.declarationSource ++ passageSource function argument position

def sectionsSource : Source :=
  .join (function.arguments.zipIdx.map (sectionSource function))

def giveUpSourceIfUndecodable : Source :=
  if Undecodable function then .branch (.number 1) function.giveUpSource .done else .done

def growAxisSource (offset extent size : String) : Source :=
  let reached := Expression.binary .sum (.identifier offset) (.identifier extent)
  .branch (.binary .exceeds reached (player size))
    (.simple (.assignment (player size) reached) <|
      .simple (.assignment (.identifier "reshape_window") (.truth true)) .done)
    .done

def growSource : Source :=
  .simple (.initialized "bool" "reshape_window" (.truth false)) .done ++
    growAxisSource "x" "width" "window_width" ++
    growAxisSource "y" "height" "window_height" ++
    .branch (.identifier "reshape_window")
      (.simple (.comment "XXX: does not always work") <|
        .simple (.evaluation (.applied (.arrow (player "drawable") "resize")
          [player "window_width", player "window_height"])) <|
        .simple (.assignment (.identifier "reshape_window") (.truth false)) .done)
      .done

def snapshotSource : Source :=
  .simple (.initialized "GLint" "__new_fb" (.number 0)) <|
    .simple (query .framebuffer "__new_fb") <|
    .branch (.binary .differs (.identifier "__new_fb") (player "fb"))
      (.simple (.evaluation (.applied (player "snapshot") [.field (.identifier "call") "no"])) <|
        .simple (.assignment (player "fb") (.identifier "__new_fb")) .done)
      .done

def setInside (inside : Bool) : Statement :=
  .assignment (player "insideGlBeginEnd") (.truth inside)

def beforeCallSource : Source :=
  (if function.name = "glViewport" then growSource else .done) ++
    (if function.name = "glEnd" then .simple (setInside false) .done else .done)

def afterCallSource : Source :=
  (if function.name ∈ Role.bindFramebuffer.functions then snapshotSource else .done) ++
    (if CountsAsDraw function.name then .simple (.increment (player "unsaved_draws")) .done
      else .done) ++
    (if function.name = "glBegin" then .simple (setInside true) .done
      else .simple (.evaluation (.applied (player "checkGlError") [])) .done)

def wrapperSource : Source :=
  beforeCallSource function ++ function.callSource ++ afterCallSource function

def afterGuardSource : Source :=
  if function.sideEffects then
    sectionsSource function ++ giveUpSourceIfUndecodable function ++ wrapperSource function
  else .simple (.evaluation (.cast "void" (.identifier "call"))) .done

def bodySource : Source :=
  guardSource function ++ afterGuardSource function

def parameters : List String := ["call"]

def sourceLines : List Line :=
  function.headingLine :: ((bodySource function).lines 1 ++ Function.closingLines)

end Parts

section Lines

theorem repr_zero : Nat.repr 0 = "0" := rfl

theorem repr_one : Nat.repr 1 = "1" := rfl

variable (function : Function)

theorem lines_bufferCheckSource (buffer : String) (queried : Binding) :
    (bufferCheckSource function buffer queried).lines 2 =
      bufferCheckLines function buffer queried.text := by
  simp [bufferCheckSource, bufferCheckLines, query, Function.lines_giveUpSource,
    ← String.toList_inj]

theorem lines_guardSource : (guardSource function).lines 1 = guardLines function := by
  unfold guardSource guardLines
  split
  · simp [Source.lines_append, apply_ite (Source.lines 2), lines_bufferCheckSource, repr_one]
  · rfl

theorem lines_passageSource (argument : Argument) (position : Nat) :
    (passageSource function argument position).lines 1 =
      passageLines function argument position := by
  unfold passageSource passageLines
  split
  · simp [Expression.read, Expression.recorded, blobLine, ← String.toList_inj]
  · have lookup : lookupSource.lines 1 = lookupLines := by
      simp [lookupSource, lookupLines, query, repr_one]
    rw [Source.lines_append, argument.lines_decodingSource]
    simp only [apply_ite (Source.lines 1), lookup]
    rfl

theorem lines_sectionsSource : (sectionsSource function).lines 1 = sectionLines function := by
  rw [sectionsSource, Source.lines_join, List.flatMap_map, sectionLines]
  congr 1
  funext pair
  obtain ⟨argument, position⟩ := pair
  rw [sectionSource, Source.lines_append, argument.lines_declarationSource, lines_passageSource]
  rfl

theorem lines_giveUpSourceIfUndecodable :
    (giveUpSourceIfUndecodable function).lines 1 = giveUpIfUndecodable function := by
  unfold giveUpSourceIfUndecodable giveUpIfUndecodable
  split
  · simp [repr_one, Function.giveUpBlockLines, Function.lines_giveUpSource]
  · rfl

theorem lines_growSource : growSource.lines 1 = growWindowLines := by
  simp [growSource, growAxisSource, growWindowLines]

theorem lines_snapshotSource : snapshotSource.lines 1 = snapshotLines := by
  simp [snapshotSource, snapshotLines, query, repr_zero]

theorem lines_wrapperSource : (wrapperSource function).lines 1 = wrapperLines function := by
  have inside (value : Bool) : (Source.simple (setInside value) .done).lines 1 =
      [⟨1, "glretrace::insideGlBeginEnd = " ++ (if value then "true" else "false") ++ ";"⟩] := by
    simp [setInside]
  have draws : (Source.simple (.increment (player "unsaved_draws")) .done).lines 1 =
      [⟨1, "glretrace::unsaved_draws++;"⟩] := by
    simp
  have errors : (Source.simple (.evaluation (.applied (player "checkGlError") [])) .done).lines 1 =
      [⟨1, "glretrace::checkGlError();"⟩] := by
    simp
  unfold wrapperSource wrapperLines beforeCallSource beforeCallLines afterCallSource afterCallLines
  simp only [Source.lines_append, apply_ite (Source.lines 1), function.lines_callSource,
    lines_growSource, lines_snapshotSource, inside, draws, errors]
  rfl

theorem lines_bodySource :
    (bodySource function).lines 1 = guardLines function ++ afterGuardLines function := by
  rw [bodySource, Source.lines_append, lines_guardSource]
  congr 1
  unfold afterGuardSource afterGuardLines
  split
  · rw [Source.lines_append, Source.lines_append, lines_sectionsSource,
      lines_giveUpSourceIfUndecodable, lines_wrapperSource]
  · simp

theorem sourceLines_eq : sourceLines function = unitLines function := by
  rw [sourceLines, lines_bodySource, unitLines]

end Lines

end ReplayGen.GL
