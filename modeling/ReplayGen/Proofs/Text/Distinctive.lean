import ReplayGen.Proofs.Text.Marks

set_option autoImplicit false

namespace ReplayGen

namespace Text

def foreignMarks : List Char :=
  marks.filter (· ∉ ['(', ')', ',', '=', ';'])

def HasForeignMark (text : String) : Prop :=
  ∃ c ∈ text.toList, c ∈ foreignMarks

theorem hasForeignMark_append (first second : String) :
    HasForeignMark (first ++ second) ↔ HasForeignMark first ∨ HasForeignMark second := by
  simp only [HasForeignMark, String.toList_append, List.mem_append, or_and_right, exists_or]

theorem hasForeignMark_literal (chars : List Char)
    (foreign : chars.any (· ∈ foreignMarks) = true) : HasForeignMark (String.ofList chars) := by
  simpa [HasForeignMark] using foreign

theorem noForeignMark_literal (chars : List Char)
    (calling : chars.all (· ∉ foreignMarks) = true) : ¬ HasForeignMark (String.ofList chars) := by
  simpa [HasForeignMark] using calling

theorem Wordy.noForeignMark {text : String} (wordy : Wordy text) : ¬ HasForeignMark text :=
  fun ⟨c, member, foreign⟩ => wordy c member ((List.mem_filter.mp foreign).1)

def CallLike (text : String) : Prop :=
  '(' ∈ text.toList ∧ ¬ HasForeignMark text

theorem HasForeignMark.uncalled {text : String} (foreign : HasForeignMark text) :
    ¬ CallLike text :=
  fun called => called.2 foreign

def plainHeads : List (List Char) :=
  [[';'], ['\x7d'], ['['], ['(', 'T'], ['(', '_', '_', 'a'], ['(', 's'], [':', ':', 'A'],
    [':', ':', 'c', 'e'], ['=', ' ', '('], ['=', ' ', 'n'], ['=', ' ', 'N'],
    ['=', ' ', '0', ';', ' ']]

def GoesOnPlainly (text : String) : Prop :=
  ∃ head ∈ plainHeads, head <+: fromMark text

theorem fromMark_literal (chars : List Char) :
    fromMark (String.ofList chars) = chars.dropWhile (· ∉ marks) := by
  rw [fromMark, String.toList_ofList]

theorem goesOnPlainly_literal (chars : List Char)
    (known : ∃ head ∈ plainHeads, head <+: chars.dropWhile (· ∉ marks)) :
    GoesOnPlainly (String.ofList chars) := by
  rwa [GoesOnPlainly, fromMark_literal]

theorem Wordy.goesOnPlainly {first second : String} (wordy : Wordy first)
    (plain : GoesOnPlainly second) : GoesOnPlainly (first ++ second) := by
  rwa [GoesOnPlainly, fromMark_append wordy]

theorem GoesOnPlainly.append {first : String} (plain : GoesOnPlainly first) (second : String) :
    GoesOnPlainly (first ++ second) := by
  obtain ⟨head, known, shown⟩ := plain
  -- The first text has a mark of its own, so more text behind it leaves that mark first.
  have marked : head ≠ [] := (by decide : ∀ head ∈ plainHeads, head ≠ []) head known
  have kept : fromMark first <+: fromMark (first ++ second) := by
    rw [fromMark, fromMark, String.toList_append, List.dropWhile_append, if_neg]
    · exact List.prefix_append _ _
    · rw [List.isEmpty_iff]
      exact fun empty => marked (List.prefix_nil.mp (empty ▸ shown))
  exact ⟨head, known, shown.trans kept⟩

/-- What the lines of plain replay say but for the call itself. -/
structure Ordinary (text : String) : Prop where
  plain : GoesOnPlainly text
  uncalled : ¬ CallLike text

theorem Wordy.ordinary {first second : String} (wordy : Wordy first) (ordinary : Ordinary second) :
    Ordinary (first ++ second) := by
  refine ⟨wordy.goesOnPlainly ordinary.plain, fun called => ordinary.uncalled ⟨?_, ?_⟩⟩
  · have opened := called.1
    rw [String.toList_append, List.mem_append] at opened
    exact opened.resolve_left fun inside => wordy '(' inside (by decide)
  · exact fun foreign => called.2 ((hasForeignMark_append first second).mpr (.inr foreign))

theorem ordinary_opening (chars : List Char)
    (known : ∃ head ∈ plainHeads, head <+: chars.dropWhile (· ∉ marks)) {rest : String}
    (foreign : HasForeignMark (String.ofList chars ++ rest)) :
    Ordinary (String.ofList chars ++ rest) :=
  ⟨(goesOnPlainly_literal chars known).append rest, foreign.uncalled⟩

theorem ordinary_literal (chars : List Char)
    (known : ∃ head ∈ plainHeads, head <+: chars.dropWhile (· ∉ marks))
    (foreign : chars.any (· ∈ foreignMarks) = true ∨ '(' ∉ chars) :
    Ordinary (String.ofList chars) := by
  refine ⟨goesOnPlainly_literal chars known, fun called => ?_⟩
  rcases foreign with foreign | unopened
  · exact called.2 (hasForeignMark_literal chars foreign)
  · exact unopened (by simpa using called.1)

/-- What no line of plain replay says, written without leading spaces. -/
structure Distinctive (text : String) : Prop where
  strange : ¬ GoesOnPlainly text
  uncalled : ¬ CallLike text
  flush : unindented text = text

theorem distinctive_literal (first : Char) (rest : List Char)
    (strange : ¬ ∃ head ∈ plainHeads, head <+: (first :: rest).dropWhile (· ∉ marks))
    (foreign : (first :: rest).any (· ∈ foreignMarks) = true ∨ '(' ∉ first :: rest)
    (solid : first ≠ ' ') : Distinctive (String.ofList (first :: rest)) := by
  refine ⟨?_, fun called => ?_, ?_⟩
  · rwa [GoesOnPlainly, fromMark_literal]
  · rcases foreign with foreign | unopened
    · exact called.2 (hasForeignMark_literal _ foreign)
    · exact unopened (by simpa using called.1)
  · rw [unindented, String.toList_ofList, List.dropWhile_cons_of_neg (by simpa using solid)]

theorem hasForeignMark_unindented {text : String} :
    HasForeignMark (unindented text) ↔ HasForeignMark text := by
  have solid {c : Char} (foreign : c ∈ foreignMarks) : c ≠ ' ' := by
    rintro rfl
    exact absurd foreign (by decide)
  constructor
  · exact fun ⟨c, member, foreign⟩ => ⟨c, (mem_unindented (solid foreign)).mp member, foreign⟩
  · exact fun ⟨c, member, foreign⟩ => ⟨c, (mem_unindented (solid foreign)).mpr member, foreign⟩

theorem callLike_unindented {text : String} : CallLike (unindented text) ↔ CallLike text := by
  rw [CallLike, CallLike, mem_unindented (by decide), hasForeignMark_unindented]

theorem Distinctive.unsaid {text : String} (distinctive : Distinctive text) {line : Line}
    (other : Ordinary line.text ∨ CallLike line.text) : unindented line.render ≠ text := by
  rintro rfl
  rcases other with ordinary | called
  · apply distinctive.strange
    rw [GoesOnPlainly, fromMark_unindented, fromMark_render]
    exact ordinary.plain
  · apply distinctive.uncalled
    rwa [unindented_render, callLike_unindented]

theorem CallLike.unsaid {text : String} (called : CallLike text) {line : Line}
    (uncalled : ¬ CallLike line.text) : unindented line.render ≠ text := by
  rintro rfl
  rw [unindented_render, callLike_unindented] at called
  exact uncalled called

def Within (texts : List String) (lines : List Line) : Prop :=
  ∀ line ∈ lines, Ordinary line.text ∨ line.text ∈ texts

theorem Within.append {someTexts moreTexts : List String} {first second : List Line}
    (firstWithin : Within someTexts first) (secondWithin : Within moreTexts second) :
    Within (someTexts ++ moreTexts) (first ++ second) := by
  intro line member
  rcases List.mem_append.mp member with inside | inside
  · exact (firstWithin line inside).imp_right (List.mem_append_left _)
  · exact (secondWithin line inside).imp_right (List.mem_append_right _)

theorem Within.count_eq_zero {texts : List String} {lines : List Line}
    (within : Within texts lines) {text : String} (distinctive : Distinctive text)
    (foreign : text ∉ texts) : (lines.map Line.text).count text = 0 := by
  rw [List.count_eq_zero]
  intro member
  obtain ⟨line, inside, rfl⟩ := List.mem_map.mp member
  rcases within line inside with ordinary | known
  · exact distinctive.strange ordinary.plain
  · exact foreign known

def occurrences (text : String) (lines : List String) : Nat :=
  lines.countP fun line => unindented line = text

theorem occurrences_append (text : String) (first second : List String) :
    occurrences text (first ++ second) = occurrences text first + occurrences text second :=
  List.countP_append

theorem Within.occurrences_eq {texts : List String} {lines : List Line}
    (within : Within texts lines) {text : String} (distinctive : Distinctive text)
    (others : ∀ other ∈ texts, CallLike other ∨ Distinctive other) :
    occurrences text (lines.map Line.render) = (lines.map Line.text).count text := by
  rw [occurrences, List.countP_map, List.count, List.countP_map]
  apply List.countP_congr
  intro line member
  -- Only for texts that start with no space is it the same to say them at any indentation.
  have said : unindented line.render = text ↔ line.text = text := by
    have other (different : Ordinary line.text ∨ CallLike line.text) :
        unindented line.render = text ↔ line.text = text := by
      refine ⟨fun same => absurd same (distinctive.unsaid different), ?_⟩
      rintro rfl
      rcases different with ordinary | called
      · exact absurd ordinary.plain distinctive.strange
      · exact absurd called distinctive.uncalled
    rcases within line member with ordinary | known
    · exact other (.inl ordinary)
    · rcases others line.text known with called | flush
      · exact other (.inr called)
      · rw [unindented_render, flush.flush]
  simpa using said

theorem Within.occurrences_call {texts : List String} {lines : List Line}
    (within : Within texts lines) {text : String} (called : CallLike text)
    (others : ∀ other ∈ texts, ¬ CallLike other) :
    occurrences text (lines.map Line.render) = 0 := by
  simp only [occurrences, List.countP_map, List.countP_eq_zero, Function.comp_apply,
    decide_eq_true_eq]
  intro line member
  rcases within line member with ordinary | known
  · exact called.unsaid ordinary.uncalled
  · exact called.unsaid (others line.text known)

end Text

end ReplayGen
