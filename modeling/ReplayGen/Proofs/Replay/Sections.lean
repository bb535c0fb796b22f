import ReplayGen.Proofs.Emission.Paths
import ReplayGen.Proofs.Replay.GivingUp
import ReplayGen.Proofs.Replay.Ordinary
import ReplayGen.Proofs.Text.Mentions

set_option autoImplicit false

namespace ReplayGen

open Text

section Assigning

def assigns (name text : String) : Bool :=
  (name ++ " = ").toList.isPrefixOf text.toList

variable {name : String}

theorem not_assigns_of_mark (wordy : Wordy name) {text : String}
    (other : (fromMark text).head?.any (· != '=') = true) : assigns name text = false := by
  rw [assigns, Bool.eq_false_iff]
  intro shown
  obtain ⟨rest, letters⟩ := List.isPrefixOf_iff_prefix.mp shown
  have whole : text = name ++ String.ofList (' ' :: '=' :: ' ' :: rest) := by
    simp [← String.toList_inj, ← letters]
  have equal : (fromMark (String.ofList (' ' :: '=' :: ' ' :: rest))).head? = some '=' := by
    rw [fromMark_literal]
    rfl
  rw [whole, fromMark_append wordy, equal] at other
  simp at other

theorem unequal_literal (chars : List Char)
    (other : (chars.dropWhile (· ∉ marks)).head?.any (· != '=') = true) (rest : String) :
    (fromMark (String.ofList chars ++ rest)).head?.any (· != '=') = true := by
  rw [fromMark, String.toList_append, String.toList_ofList, List.dropWhile_append, if_neg]
  · cases marked : chars.dropWhile (· ∉ marks) with
    | nil =>
        rw [marked] at other
        simp at other
    | cons mark others =>
        rw [marked] at other
        exact other
  · intro empty
    rw [List.isEmpty_iff.mp empty] at other
    simp at other

theorem passes_assignment {text : String} (assigned : assigns name text = true) :
    (Code.statement text .done).Passes (assigns name) 1 := by
  have nothing : Code.done.Passes (assigns name) 0 := Code.passes_zero (by simp [Code.texts])
  have passes := nothing.statement text
  rwa [assigned, if_pos rfl, Nat.zero_add] at passes

theorem count_assignment {text : String} (assigned : assigns name text = true) :
    (Code.statement text .done).texts.countP (assigns name) = 1 := by
  simp [Code.texts, assigned]

end Assigning

def Kind.isArray : Kind → Bool
  | .array _ => true
  | .scalar _ | .text | .address | .unknown => false

namespace Argument

variable {argument : Argument}

theorem not_assigns_declaration (name : Wordy argument.name) (type : Wordy argument.type) :
    assigns argument.name argument.declarationLine.text = false := by
  have words := wordy_declared name type
  apply not_assigns_of_mark name
  rw [declarationLine, fromMark_append words]
  rfl

def copying (cast test fresh loop store missing : String) : Code :=
  .statement cast (.block test
    (.statement fresh (.block loop (.statement store .done) "\x7d"
      (.turn "\x7d else \x7b" (.statement missing .done)))) "\x7d" .done)

theorem code_arrayCopy (name : Wordy argument.name) (element : Scalar) (rvalue : String) :
    ∃ cast test fresh loop store missing,
      Script.code (argument.arrayCopy element argument.name rvalue) =
        copying cast test fresh loop store missing ∧
      isLoop test = false ∧
      (∀ text ∈ [cast, test, loop, store], assigns argument.name text = false) ∧
      ∀ text ∈ [fresh, missing], assigns argument.name text = true := by
  refine ⟨_, _, _, _, _, _, rfl, ?_, ?_, ?_⟩
  · simp [isLoop, List.isPrefixOf]
  · simp only [List.forall_mem_cons, String.append_assoc]
    refine ⟨?_, ?_, ?_, ?_, List.forall_mem_nil _⟩
    · exact not_assigns_of_mark name (unequal_literal _ (by decide) _)
    · exact not_assigns_of_mark name (unequal_literal _ (by decide) _)
    · exact not_assigns_of_mark name (unequal_literal _ (by decide) _)
    · apply not_assigns_of_mark name
      rw [fromMark_append name]
      exact unequal_literal _ (by decide) _
  · simp [assigns]

section Copying

variable {kind : String → Bool} {cast test fresh loop store missing : String}

-- Of the two branches one is run, and the loop in one of them only fills the array.
theorem passes_copying (once : isLoop test = false)
    (others : ∀ text ∈ [cast, test, loop, store], kind text = false)
    (assigned : ∀ text ∈ [fresh, missing], kind text = true) :
    (copying cast test fresh loop store missing).Passes kind 1 := by
  simp only [List.forall_mem_cons] at others assigned
  obtain ⟨castApart, testApart, loopApart, storeApart, -⟩ := others
  let body := Code.statement fresh (.block loop (.statement store .done) "\x7d"
    (.turn "\x7d else \x7b" (.statement missing .done)))
  have copied : (Code.block loop (.statement store .done) "\x7d" .done).Passes kind 0 :=
    Code.passes_zero (by simp [Code.texts, loopApart, storeApart])
  have nothing : Code.done.Passes kind 0 := Code.passes_zero (by simp [Code.texts])
  have filled := copied.statement fresh
  have emptied := nothing.statement missing
  rw [assigned.1, if_pos rfl, Nat.zero_add] at filled
  rw [assigned.2.1, if_pos rfl, Nat.zero_add] at emptied
  have tested : (Code.block test body "\x7d" .done).Passes kind 1 :=
    @Code.Passes.block _ _ _ _ _ body _ once testApart filled emptied nothing
  have whole := tested.statement cast
  rwa [castApart] at whole

theorem count_copying (others : ∀ text ∈ [cast, test, loop, store], kind text = false)
    (assigned : ∀ text ∈ [fresh, missing], kind text = true) :
    (copying cast test fresh loop store missing).texts.countP kind = 2 := by
  simp only [List.forall_mem_cons] at others assigned
  obtain ⟨castApart, testApart, loopApart, storeApart, -⟩ := others
  simp [copying, Code.texts, castApart, testApart, loopApart, storeApart, assigned.1, assigned.2.1]

end Copying

theorem plain_passage_eq (argument : Argument) (function : Function) :
    Plan.plain.passage function argument =
      match argument.kind with
      | .scalar kind => [readStatement kind.reader argument.name (recordedValue argument.index)]
      | .text => [readStatement "toString" argument.name (recordedValue argument.index)]
      | .address =>
          [.line (argument.name ++ " = (" ++ argument.type ++ ")("
            ++ recordedValue argument.index ++ ").toPointer();")]
      | .array element => argument.arrayCopy element argument.name (recordedValue argument.index)
      | .unknown => argument.placeholder function := by
  cases kind : argument.kind <;>
    simp [Plan.passage, Plan.decodes, Plan.decoding, Plan.plain, decoding, kind,
      Decoding.supported, Decoding.unsupported]

theorem passes_plain_passage (name : Wordy argument.name) (function : Function) :
    (Script.code (Plan.plain.passage function argument)).Passes (assigns argument.name) 1 := by
  rw [plain_passage_eq]
  cases argument.kind with
  | array element =>
      obtain ⟨_, _, _, _, _, _, read, once, others, assigned⟩ :=
        code_arrayCopy name element (recordedValue argument.index)
      rw [read]
      exact passes_copying once others assigned
  | _ => exact passes_assignment (by simp [assigns])

theorem count_plain_passage (name : Wordy argument.name) (function : Function) :
    (Script.code (Plan.plain.passage function argument)).texts.countP (assigns argument.name) =
      if argument.kind.isArray then 2 else 1 := by
  rw [plain_passage_eq]
  cases argument.kind with
  | array element =>
      obtain ⟨_, _, _, _, _, _, read, -, others, assigned⟩ :=
        code_arrayCopy name element (recordedValue argument.index)
      rw [read]
      exact count_copying others assigned
  | _ => exact count_assignment (by simp [assigns])

section Mentions

variable (position : Nat)

theorem mentions_arrayLines (name : '.' ∉ argument.name.toList)
    (elementType : '.' ∉ argument.elementType.toList) {element : Scalar}
    (kind : argument.kind = .array element) (other : Nat) :
    mentions (recordedValue position) ((argument.decodingLines other).map Line.render) =
      if position = other then 1 else 0 := by
  let array := "__a_" ++ argument.name
  let index := "__j_" ++ argument.name
  have arrayPlain : '.' ∉ array.toList := by simp [array, name]
  have indexPlain : '.' ∉ index.toList := by simp [index, name]
  have method : '.' ∉ (element.reader ++ "();").toList := by cases element <;> decide
  have lines : argument.decodingLines other =
      [⟨1, "const Trace::Array *" ++ array ++ " = dynamic_cast<const Trace::Array *>(&" ++
          (recordedValue other ++ ");")⟩,
        ⟨1, "if (" ++ array ++ ") \x7b"⟩,
        ⟨2, argument.name ++ " = new " ++ argument.elementType ++ "[" ++ array ++ "->values" ++
          ("." ++ "size()];")⟩,
        ⟨2, "for (size_t " ++ index ++ " = 0; " ++ index ++ " < " ++ array ++ "->values" ++
          ("." ++ ("size(); ++" ++ index ++ ") \x7b"))⟩,
        ⟨3, argument.name ++ "[" ++ index ++ "] = (*" ++ array ++ "->values[" ++ index ++ "])" ++
          ("." ++ (element.reader ++ "();"))⟩,
        ⟨2, "\x7d"⟩, ⟨1, "\x7d else \x7b"⟩, ⟨2, argument.name ++ " = NULL;"⟩, ⟨1, "\x7d"⟩] := by
    simp [decodingLines, kind, recordedValue, array, index, ← String.toList_inj]
  have cast := @found_passing position
    ("const Trace::Array *" ++ array ++ " = dynamic_cast<const Trace::Array *>(&") ");"
    (by simp [arrayPlain]) other (by decide)
  have test := @found_recordedValue_eq_zero position ("if (" ++ array ++ ") \x7b").toList
    (by simp [arrayPlain])
  have fresh := @found_member position
    (argument.name ++ " = new " ++ argument.elementType ++ "[" ++ array) "size()];" "->values"
    (by decide) (by simp [name, elementType, arrayPlain]) (by decide)
  have loop := @found_member position
    ("for (size_t " ++ index ++ " = 0; " ++ index ++ " < " ++ array)
    ("size(); ++" ++ index ++ ") \x7b") "->values" (by decide)
    (by simp [indexPlain, arrayPlain]) (by simp [indexPlain])
  have store := @found_member position
    (argument.name ++ "[" ++ index ++ "] = (*" ++ array ++ "->values[" ++ index)
    (element.reader ++ "();") "])" (by decide) (by simp [name, indexPlain, arrayPlain]) method
  have missing := @found_recordedValue_eq_zero position (argument.name ++ " = NULL;").toList
    (by simp [name])
  have brace := @found_recordedValue_eq_zero position "\x7d".toList (by decide)
  have turn := @found_recordedValue_eq_zero position "\x7d else \x7b".toList (by decide)
  rw [mentions_render, lines]
  simp only [List.map_cons, List.map_nil, List.sum_cons, List.sum_nil, cast, test, fresh, loop, store,
    missing, brace, turn, Nat.add_zero]

theorem mentions_decodingLines (name : Wordy argument.name) (type : Wordy argument.type)
    (position other : Nat) :
    mentions (recordedValue position) ((argument.decodingLines other).map Line.render) =
      if position = other ∧ argument.kind ≠ .unknown then 1 else 0 := by
  have named := name.dotless
  have typed := type.dotless
  have pointee := (wordy_elementType type).dotless
  have methods (kind : Scalar) : '.' ∉ kind.reader.toList := by cases kind <;> decide
  have opened : '.' ∉ (argument.name ++ " = (").toList := by simp [named]
  have cast : '.' ∉ (argument.name ++ " = (" ++ argument.type ++ ")(").toList := by
    simp [named, typed]
  have reading {front method : String} (plain : '.' ∉ front.toList) (ended : '.' ∉ method.toList) :
      found (recordedValue position).toList
        (front ++ ("call.arg(" ++ toString other ++ ")") ++ (")." ++ method)).toList =
          if position = other then 1 else 0 := by
    have read := found_reading position plain other ended
    simpa only [recordedValue, String.append_assoc] using read
  cases decoded : argument.kind with
  | scalar kind =>
      have ended : '.' ∉ (kind.reader ++ "();").toList := by simp [methods kind]
      have read := reading opened ended
      rw [mentions_render, decodingLines, decoded]
      simpa [String.append_assoc] using read
  | text =>
      have read := @reading _ "toString();" opened (by decide)
      rw [mentions_render, decodingLines, decoded]
      simpa [String.append_assoc] using read
  | address =>
      have read := @reading _ "toPointer();" cast (by decide)
      rw [mentions_render, decodingLines, decoded]
      simpa [String.append_assoc] using read
  | array element =>
      rw [mentions_arrayLines position named pointee decoded other]
      simp
  | unknown =>
      have silent : '.' ∉ (argument.name ++ " = 0; // FIXME").toList := by simp [named]
      have read := found_recordedValue_eq_zero position silent
      rw [mentions_render, decodingLines, decoded]
      simpa using read

end Mentions

end Argument

/-- A section declares its argument. However it is run, it goes on to what comes next and has
assigned the argument once; and it reads the value recorded at the argument's position, if that
is decoded. -/
structure Section (argument : Argument) (position : Nat) (decoded : Bool) (code : Code) : Prop where
  opens : ∃ rest, code = .statement (argument.localType ++ " " ++ argument.name ++ ";") rest
  runs : ∃ path, code.Runs path .falls
  assigned : ∀ path ending, code.Runs path ending →
    ending = .falls ∧ path.countP (assigns argument.name) = 1
  reads : ∀ other, mentions (recordedValue other) ((code.lines 1).map Line.render) =
    if other = position ∧ decoded = true then 1 else 0

theorem code_section (argument : Argument) (passage : Script) :
    Script.code (argument.declaration :: passage) =
      .statement argument.declarationLine.text (Script.code passage) := by
  rw [Script.code, Script.read_cons]
  exact Reading.code_map _ _

theorem section_of_passage {argument : Argument} {position : Nat} {decoded : Bool} {passage : Script}
    (balanced : Script.Balanced passage) (name : Wordy argument.name) (type : Wordy argument.type)
    (proceeds : ∀ line ∈ argument.declarationLine :: Script.layout 1 passage, line.Proceeds)
    (assigned : (Script.code passage).Passes (assigns argument.name) 1)
    (reads : ∀ other, mentions (recordedValue other) ((Script.layout 1 passage).map Line.render) =
      if other = position ∧ decoded = true then 1 else 0) :
    Section argument position decoded (Script.code (argument.declaration :: passage)) := by
  have level : Script.Balanced (argument.declaration :: passage) := balanced.cons fun _ => rfl
  have layout : Script.layout 1 (argument.declaration :: passage) =
      argument.declarationLine :: Script.layout 1 passage := rfl
  have read := code_section argument passage
  refine ⟨⟨_, read⟩, level.exists_run proceeds, ?_, ?_⟩
  · intro path ending run
    have stays : "return;" ∉ (Script.code (argument.declaration :: passage)).texts := by
      apply Code.not_mem_texts_of_not_returns
      rw [← level.layout_eq_lines 1]
      exact fun line member => (proceeds line member).stays
    obtain rfl := run.falls stays
    have once := assigned.statement argument.declarationLine.text
    rw [Argument.not_assigns_declaration name type, ← read] at once
    exact ⟨rfl, once path run⟩
  · intro other
    have dotless : '.' ∉ argument.declarationLine.text.toList := by
      have declared := (Argument.wordy_declared name type).dotless
      simpa [Argument.declarationLine] using declared
    have silent := found_recordedValue_eq_zero other dotless
    have rest := reads other
    rw [mentions_render] at rest
    rw [← level.layout_eq_lines 1, layout, mentions_render, List.map_cons, List.sum_cons, silent, rest,
      Nat.zero_add]

theorem sum_positions_from {arguments : List Argument} {start : Nat}
    (positions : arguments.zipIdx start = arguments.map fun argument => (argument, argument.index))
    (holds : Argument → Bool) (position : Nat) :
    (arguments.map fun argument =>
      if position = argument.index ∧ holds argument = true then 1 else 0).sum =
        if start ≤ position ∧ arguments[position - start]?.any holds then 1 else 0 := by
  induction arguments generalizing start with
  | nil => simp
  | cons first rest ih =>
      rw [List.zipIdx_cons, List.map_cons] at positions
      obtain ⟨same, positions⟩ := List.cons.inj positions
      have index : first.index = start := (Prod.mk.inj same).2.symm
      rw [List.map_cons, List.sum_cons, ih positions, index]
      by_cases here : position = start
      · have past : ¬ start + 1 ≤ start := by omega
        simp [here, past]
      · by_cases later : start ≤ position
        · obtain ⟨offset, rfl⟩ : ∃ offset, position = start + 1 + offset :=
            ⟨position - (start + 1), by omega⟩
          have next : start + 1 + offset - start = offset + 1 := by omega
          simp [here, later, next]
        · have before : ¬ start + 1 ≤ position := by omega
          simp [here, later, before]

theorem Function.Sound.sum_positions {function : Function} (sound : function.Sound)
    (holds : Argument → Bool) (position : Nat) :
    (function.arguments.map fun argument =>
      if position = argument.index ∧ holds argument = true then 1 else 0).sum =
        if function.arguments[position]?.any holds then 1 else 0 := by
  simpa using sum_positions_from sound.positions holds position

end ReplayGen
