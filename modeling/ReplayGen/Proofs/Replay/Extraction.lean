import ReplayGen.Proofs.Kind.Raw
import ReplayGen.Proofs.Replay.Decoding

set_option autoImplicit false

namespace ReplayGen

def RawKind.extractScalar (kind : RawKind) (lvalue rvalue : String) : Emit Extraction :=
  match kind.reader? with
  | some method => do
      Emit.step (readStatement method lvalue rvalue)
      return .decoded
  | none => return .unsupported

namespace Argument

def copyOpening (argument : Argument) (lvalue rvalue : String) : Script :=
  let array := argument.arrayLocal
  let index := argument.indexLocal
  let length := argument.arrayLength
  [.line ("const Trace::Array *" ++ array ++ " = dynamic_cast<const Trace::Array *>(&"
      ++ rvalue ++ ");"),
    .begins ("if (" ++ array ++ ")"),
    .line (lvalue ++ " = new " ++ argument.elementType ++ "[" ++ length ++ "];"),
    .begins ("for (size_t " ++ index ++ " = 0; " ++ index ++ " < " ++ length ++ "; ++"
      ++ index ++ ")")]

def copyClosing (lvalue : String) : Script :=
  [.ends, .reopenBlock "\x7d else \x7b", .line (lvalue ++ " = NULL;"), .ends]

-- The frame is written before it is known what becomes of the element in it.
def extractArray (argument : Argument) (element : RawKind) (lvalue rvalue : String) :
    Emit Extraction := do
  Emit.play (argument.copyOpening lvalue rvalue)
  let extraction ← element.extractScalar
    (lvalue ++ "[" ++ argument.indexLocal ++ "]")
    ("*" ++ argument.arrayLocal ++ "->values[" ++ argument.indexLocal ++ "]")
  Emit.play (copyClosing lvalue)
  return extraction

def extract (argument : Argument) (kind : RawKind) (lvalue rvalue : String) : Emit Extraction :=
  match kind with
  | .address => do
      Emit.step (.line (lvalue ++ " = (" ++ argument.type ++ ")(" ++ rvalue ++ ").toPointer();"))
      return .decoded
  | .array element => argument.extractArray element lvalue rvalue
  | kind => kind.extractScalar lvalue rvalue

end Argument

namespace RawKind

def scalarOutcome (kind : RawKind) : Extraction :=
  if kind.reader?.isSome then .decoded else .unsupported

def readingLines (kind : RawKind) (depth : Nat) (target source : String) : List Line :=
  kind.reader?.toList.map fun method =>
    assignment depth target ("(" ++ source ++ ")." ++ method ++ "()")

theorem scalarOutcome_ofScalar (scalar : Scalar) : (ofScalar scalar).scalarOutcome = .decoded := by
  simp [scalarOutcome, reader?_ofScalar]

theorem readingLines_ofScalar (scalar : Scalar) (depth : Nat) (target source : String) :
    (ofScalar scalar).readingLines depth target source =
      [assignment depth target ("(" ++ source ++ ")." ++ scalar.reader ++ "()")] := by
  simp [readingLines, reader?_ofScalar]

theorem extractScalar_eq (kind : RawKind) (lvalue rvalue : String) (draft : Draft) :
    kind.extractScalar lvalue rvalue draft =
      .ok kind.scalarOutcome (draft.extended
        (Text.unlines ((kind.readingLines draft.depth lvalue rvalue).map Line.render))
        draft.depth []) := by
  cases read : kind.reader? with
  | none =>
      simp [extractScalar, scalarOutcome, readingLines, read, Draft.extended, pure, EStateM.pure]
  | some method =>
      have text : lvalue ++ " = (" ++ rvalue ++ ")." ++ method ++ "();" =
          lvalue ++ " = " ++ ("(" ++ rvalue ++ ")." ++ method ++ "()") ++ ";" := by
        simp [← String.toList_inj]
      simp only [extractScalar, scalarOutcome, readingLines, read]
      rw [Emit.bind_eq (Emit.step_eq rfl)]
      simp [readStatement, Step.written, Step.events, assignment, text, Line.indentedLine_eq,
        Text.unlines_cons, pure, EStateM.pure]

end RawKind

namespace Argument

theorem arrayCopy_eq (argument : Argument) (element : Scalar) (lvalue rvalue : String) :
    argument.arrayCopy element lvalue rvalue =
      argument.copyOpening lvalue rvalue ++
        [readStatement element.reader (lvalue ++ "[" ++ argument.indexLocal ++ "]")
          ("*" ++ argument.arrayLocal ++ "->values[" ++ argument.indexLocal ++ "]")] ++
        copyClosing lvalue := rfl

theorem written_copyOpening (argument : Argument) (lvalue rvalue : String) (depth : Nat) :
    Script.written depth (argument.copyOpening lvalue rvalue) =
      Text.unlines ((Script.layout depth (argument.copyOpening lvalue rvalue)).map Line.render) := by
  simp [copyOpening, Script.written, Step.written, Script.layout, Step.layout, Step.depthAfter?,
    Step.begins, Text.unlines_cons, Line.indentedLine_eq]

theorem written_copyClosing (lvalue : String) (depth : Nat) :
    Script.written (depth + 2) (copyClosing lvalue) =
      Text.unlines ((Script.layout (depth + 2) (copyClosing lvalue)).map Line.render) := by
  simp [copyClosing, Script.written, Step.written, Script.layout, Step.layout, Step.depthAfter?,
    Step.ends, Text.unlines_cons, Line.indentedLine_eq]

theorem copyLines_eq (argument : Argument) (lvalue rvalue : String) (depth : Nat)
    (body : List Line) :
    copyLines depth argument.name argument.elementType lvalue rvalue body =
      Script.layout depth (argument.copyOpening lvalue rvalue) ++ body ++
        Script.layout (depth + 2) (copyClosing lvalue) := by
  simp [copyLines, copyOpening, copyClosing, arrayLocal, indexLocal, arrayLength, Script.layout,
    Step.layout, Step.depthAfter?, Step.begins, Step.ends, ← String.toList_inj]

theorem elementTarget_eq (argument : Argument) (lvalue : String) :
    lvalue ++ "[" ++ argument.indexLocal ++ "]" = elementTarget argument.name lvalue := by
  simp [elementTarget, indexLocal, ← String.toList_inj]

theorem elementSource_eq (argument : Argument) :
    "*" ++ argument.arrayLocal ++ "->values[" ++ argument.indexLocal ++ "]" =
      elementSource argument.name := by
  simp [elementSource, arrayLocal, indexLocal, ← String.toList_inj]

/-- An array is extracted exactly if its elements are, and else an empty loop is left behind. -/
theorem extractArray_eq (argument : Argument) (element : RawKind) (lvalue rvalue : String)
    (draft : Draft) :
    argument.extractArray element lvalue rvalue draft =
      .ok element.scalarOutcome (draft.extended
        (Text.unlines ((copyLines draft.depth argument.name argument.elementType lvalue rvalue
          (element.readingLines (draft.depth + 2) (elementTarget argument.name lvalue)
            (elementSource argument.name))).map Line.render))
        draft.depth []) := by
  let target := elementTarget argument.name lvalue
  let source := elementSource argument.name
  let inner := draft.extended (Script.written draft.depth (argument.copyOpening lvalue rvalue))
    (draft.depth + 2) []
  have opened : Emit.play (argument.copyOpening lvalue rvalue) draft = .ok () inner :=
    Emit.play_eq rfl
  have read := element.extractScalar_eq target source inner
  have closed (inside : String) :
      Emit.play (copyClosing lvalue) (inner.extended inside inner.depth []) =
        .ok () ((inner.extended inside inner.depth []).extended
          (Script.written (draft.depth + 2) (copyClosing lvalue)) draft.depth []) :=
    Emit.play_eq rfl
  have text : Text.unlines ((copyLines draft.depth argument.name argument.elementType lvalue rvalue
        (element.readingLines (draft.depth + 2) target source)).map Line.render) =
      Script.written draft.depth (argument.copyOpening lvalue rvalue) ++
        (Text.unlines ((element.readingLines inner.depth target source).map Line.render) ++
          Script.written (draft.depth + 2) (copyClosing lvalue)) := by
    rw [copyLines_eq, written_copyOpening, written_copyClosing]
    simp [Text.unlines_append, inner]
  rw [extractArray, Emit.bind_eq opened, elementTarget_eq, elementSource_eq, Emit.bind_eq read,
    Emit.bind_eq (closed _), Draft.extended_extended, Draft.extended_extended, text]
  rfl

theorem extract_ofScalar (argument : Argument) (scalar : Scalar) :
    argument.extract (.ofScalar scalar) = (RawKind.ofScalar scalar).extractScalar := by
  cases scalar <;> rfl

theorem extract_raw (argument : Argument) (lvalue rvalue : String) :
    argument.extract argument.kind.raw lvalue rvalue = (argument.decoding lvalue rvalue).emit := by
  cases kind : argument.kind with
  | scalar kind' =>
      simp [Kind.raw, extract_ofScalar, RawKind.extractScalar, RawKind.reader?_ofScalar,
        decoding_of_scalar kind, Decoding.emit, Decoding.supported, Emit.play_cons]
  | text =>
      simp [Kind.raw, extract, RawKind.extractScalar, RawKind.reader?,
        decoding_of_text kind, Decoding.emit, Decoding.supported, Emit.play_cons]
  | address =>
      simp [Kind.raw, extract, decoding_of_address kind, Decoding.emit, Decoding.supported,
        Emit.play_cons]
  | array element =>
      simp [Kind.raw, extract, extractArray, RawKind.extractScalar, RawKind.reader?_ofScalar,
        decoding_of_array kind, arrayCopy_eq, Decoding.emit, Decoding.supported, Emit.play_cons]
  | unknown =>
      simp [Kind.raw, extract, RawKind.extractScalar, RawKind.reader?,
        decoding_of_unknown kind, Decoding.emit, Decoding.unsupported]

end Argument

namespace RawKind

def outcome : RawKind → Extraction
  | address => .decoded
  | .array element => element.scalarOutcome
  | kind => kind.scalarOutcome

def lines (kind : RawKind) (argument : Argument) (depth : Nat) (lvalue rvalue : String) : List Line :=
  match kind with
  | address =>
      [assignment depth lvalue ("(" ++ argument.type ++ ")(" ++ rvalue ++ ").toPointer()")]
  | .array element =>
      Argument.copyLines depth argument.name argument.elementType lvalue rvalue
        (element.readingLines (depth + 2) (Argument.elementTarget argument.name lvalue)
          (Argument.elementSource argument.name))
  | kind => kind.readingLines depth lvalue rvalue

theorem lines_ofScalar (scalar : Scalar) (argument : Argument) (depth : Nat)
    (lvalue rvalue : String) :
    (ofScalar scalar).lines argument depth lvalue rvalue =
      [assignment depth lvalue ("(" ++ rvalue ++ ")." ++ scalar.reader ++ "()")] := by
  cases scalar <;> rfl

theorem extract_eq (kind : RawKind) (argument : Argument) (lvalue rvalue : String) (draft : Draft) :
    argument.extract kind lvalue rvalue draft =
      .ok kind.outcome (draft.extended
        (Text.unlines ((kind.lines argument draft.depth lvalue rvalue).map Line.render))
        draft.depth []) := by
  cases kind with
  | address =>
      have text : lvalue ++ " = (" ++ argument.type ++ ")(" ++ rvalue ++ ").toPointer();" =
          lvalue ++ " = " ++ ("(" ++ argument.type ++ ")(" ++ rvalue ++ ").toPointer()") ++ ";" := by
        simp [← String.toList_inj]
      rw [Argument.extract, Emit.bind_eq (Emit.step_eq rfl)]
      simp [outcome, lines, Step.written, Step.events, assignment, text, Line.indentedLine_eq,
        Text.unlines_cons, pure, EStateM.pure]
  | array element => exact argument.extractArray_eq element lvalue rvalue draft
  | _ =>
      simp only [Argument.extract, outcome, lines]
      exact extractScalar_eq _ lvalue rvalue draft

variable {kind : RawKind}

theorem outcome_eq_unsupported_iff (flat : kind.Flat) :
    kind.outcome = .unsupported ↔ kind = unknown := by
  cases kind with
  | array element =>
      obtain ⟨scalar, rfl⟩ := flat element rfl
      simp [outcome, scalarOutcome_ofScalar]
  | _ => simp [outcome, scalarOutcome, reader?]

theorem outcome_eq_decoded (flat : kind.Flat) (known : kind ≠ unknown) :
    kind.outcome = .decoded := by
  cases settled : kind.outcome with
  | decoded => rfl
  | unsupported => exact absurd ((outcome_eq_unsupported_iff flat).mp settled) known

end RawKind

theorem Argument.raw_declare (index : Nat) (name type : String) (array : Bool) :
    (declare index name type array).kind.raw =
      RawKind.ofType (declare index name type array).type array := by
  simp only [declare, Kind.raw_ofType]

/-- The frame of a copy is written before its element is read. A copy is whole for the one reason
that no type tells of an array of anything but scalars. -/
theorem decoding_all_or_nothing (index : Nat) (name type : String) (array : Bool)
    (lvalue rvalue : String) (draft : Draft) :
    let argument := Argument.declare index name type array
    let kind := RawKind.ofType argument.type array
    let run := argument.extract kind lvalue rvalue
    (run.answer? draft = some .unsupported ↔ kind = .unknown) ∧
    (kind = .unknown → run draft = .ok .unsupported draft) ∧
    (kind ≠ .unknown → ∃ lines : List Line,
      run draft =
        .ok .decoded { draft with text := draft.text ++ Text.unlines (lines.map Line.render) } ∧
      (∀ scalar, kind = .ofScalar scalar →
        lines = [assignment draft.depth lvalue ("(" ++ rvalue ++ ")." ++ scalar.reader ++ "()")]) ∧
      (kind = .text →
        lines = [assignment draft.depth lvalue ("(" ++ rvalue ++ ").toString()")]) ∧
      (kind = .address →
        lines = [assignment draft.depth lvalue
          ("(" ++ argument.type ++ ")(" ++ rvalue ++ ").toPointer()")]) ∧
      ∀ element, kind = .array element →
        let target := Argument.elementTarget name lvalue
        let source := Argument.elementSource name
        ∃ scalar, element = .ofScalar scalar ∧
          let read := "(" ++ source ++ ")." ++ scalar.reader ++ "()"
          (∀ inner : Draft, element.extractScalar target source inner =
            .ok .decoded { inner with
              text := inner.text ++ Text.unlines [(assignment inner.depth target read).render] }) ∧
          lines = Argument.copyLines draft.depth name argument.elementType lvalue rvalue
            [assignment (draft.depth + 2) target read]) ∧
    (argument.kind.raw = kind ∧ (argument.decoding lvalue rvalue).emit = run) ∧
    ∀ (plan : Plan) (function : Function), plan.extract function argument = argument.decoding →
      plan.passage function argument =
        if kind = .unknown then argument.placeholder function
        else (argument.decoding name (recordedValue index)).script := by
  intro argument kind run
  have flat : kind.Flat := RawKind.flat_ofType argument.type array
  have same : argument.kind.raw = kind := Argument.raw_declare index name type array
  have settled := RawKind.outcome_eq_unsupported_iff flat
  have ran : run draft = .ok kind.outcome _ := kind.extract_eq argument lvalue rvalue draft
  have running : (argument.decoding lvalue rvalue).emit = run := by
    rw [← argument.extract_raw lvalue rvalue, same]
  refine ⟨?_, fun unknown => ?_, fun known => ?_, ⟨same, running⟩, fun plan function default => ?_⟩
  · simp only [Emit.answer?, ran, Option.some.injEq, settled]
  · rw [ran, settled.mpr unknown, unknown]
    simp [RawKind.lines, RawKind.readingLines, RawKind.reader?, Draft.extended]
  · have decoded : kind.outcome = .decoded := RawKind.outcome_eq_decoded flat known
    rw [decoded] at ran
    refine ⟨kind.lines argument draft.depth lvalue rvalue, ?_, fun scalar told => ?_, fun told => ?_,
      fun told => ?_, fun element told => ?_⟩
    · simp [ran, Draft.extended]
    · rw [told, RawKind.lines_ofScalar]
    · simp [told, RawKind.lines, RawKind.readingLines, RawKind.reader?, assignment, ← String.toList_inj]
    · rw [told]
      rfl
    · obtain ⟨scalar, rfl⟩ := flat element told
      refine ⟨scalar, rfl, fun inner => ?_, ?_⟩
      · rw [RawKind.extractScalar_eq, RawKind.scalarOutcome_ofScalar, RawKind.readingLines_ofScalar]
        simp [Draft.extended]
      · rw [told, RawKind.lines, RawKind.readingLines_ofScalar]
        rfl
  · have read : plan.decoding function argument = argument.decoding name (recordedValue index) :=
      congrFun (congrFun default name) (recordedValue index)
    have told := argument.decoding_outcome name (recordedValue index)
    have unknown : kind = .unknown ↔ argument.kind = .unknown := same ▸ Kind.raw_eq_unknown_iff
    unfold Plan.passage Plan.decodes
    rw [read]
    by_cases silent : argument.kind = .unknown
    · simp [unknown, silent, Argument.decoding_of_unknown silent, Decoding.unsupported]
    · simp [unknown, silent, Decoding.outcome_of_ne_unsupported (mt told.mp silent)]

theorem decoding_all_or_nothing_uniformMatrix :
    let matrix := Argument.declare 3 "value" "const GLfloat *" true
    let copied := RawKind.ofType matrix.type true
    let handle := Argument.declare 0 "programObj" "GLhandleARB" false
    let unread := RawKind.ofType handle.type false
    copied = .array .float ∧
      (∃ lines : List Line, matrix.extract copied "value" "call.arg(3)" { depth := 1 } =
          .ok .decoded { text := Text.unlines (lines.map Line.render), depth := 1 } ∧
        lines.length = 9 ∧
        lines[4]? = some ⟨3, "value[__j_value] = (*__a_value->values[__j_value]).toFloat();"⟩) ∧
      unread = .unknown ∧
      handle.extract unread "programObj" "call.arg(0)" { depth := 1 } =
        .ok .unsupported { depth := 1 } := by
  intro matrix copied handle unread
  have array : copied = .array .float := by decide +kernel
  have unknown : unread = .unknown := by decide +kernel
  obtain ⟨-, -, decoded, -⟩ :=
    decoding_all_or_nothing 3 "value" "const GLfloat *" true "value" "call.arg(3)" { depth := 1 }
  obtain ⟨-, unsupported, -⟩ :=
    decoding_all_or_nothing 0 "programObj" "GLhandleARB" false "programObj" "call.arg(0)"
      { depth := 1 }
  have known : copied ≠ .unknown := by simp [array]
  obtain ⟨lines, ran, -, -, -, elements⟩ := decoded known
  obtain ⟨scalar, float, -, rfl⟩ := elements _ array
  obtain rfl : scalar = .float := by cases scalar <;> first | rfl | cases float
  rw [String.empty_append] at ran
  exact ⟨array, ⟨_, ran, rfl, by decide +kernel⟩, unknown, unsupported unknown⟩

end ReplayGen
