import ReplayGen.Proofs.Kind.Raw
import ReplayGen.Proofs.Text.Words

set_option autoImplicit false

namespace ReplayGen

namespace Text

instance (word : List Char) : Decidable (IsWord word) :=
  decidable_of_iff (word ≠ [] ∧ word.all (fun c => !isBlank c) = true)
    ⟨fun ⟨nonempty, solid⟩ => ⟨nonempty, by simpa using solid⟩,
      fun ⟨nonempty, solid⟩ => ⟨nonempty, by simpa using solid⟩⟩

variable {parts : List (List Char)}

theorem IsWord.words_eq {word : List Char} (isWord : IsWord word) : words word = [word] := by
  simpa using @words_append word [] isWord rfl

theorem IsWord.intercalate_eq_iff {word : List Char} (isWord : IsWord word)
    (each : ∀ part ∈ parts, IsWord part) : [' '].intercalate parts = word ↔ parts = [word] := by
  constructor
  · intro joined
    rw [← words_intercalate each, joined, isWord.words_eq]
  · rintro rfl
    simp

theorem trim_intercalate (each : ∀ part ∈ parts, IsWord part) :
    trim ([' '].intercalate parts) = [' '].intercalate parts := by
  rw [trim, trimEnd_intercalate each]
  cases parts with
  | nil => rfl
  | cons part rest =>
      have word := each part (by simp)
      cases part with
      | nil => exact absurd rfl word.nonempty
      | cons c letters =>
          obtain ⟨tail, joined⟩ := List.head?_eq_some_iff.mp (head?_intercalate c letters rest)
          have solid : isBlank c = false := word.solid c (by simp)
          rw [joined, trimStart, List.dropWhile_cons_of_neg (by simp [solid])]

end Text

namespace CType

open Text

variable {parts : List (List Char)}

theorem isWord_typeWords (cs : List Char) : ∀ part ∈ typeWords cs, IsWord part := by
  intro part member
  rw [← words_spell] at member
  exact isWord_of_mem_words member

theorem getLast?_intercalate {last : List Char} {front : List (List Char)} (word : IsWord last) :
    ([' '].intercalate (front ++ [last])).getLast? = last.getLast? := by
  obtain ⟨c, ended⟩ := Option.ne_none_iff_exists'.mp (mt List.getLast?_eq_none_iff.mp word.nonempty)
  rw [intercalate_append_single, List.getLast?_append, ended, Option.some_or]

theorem spell_cases (cs : List Char) :
    ((typeWords cs).getLast? ≠ some ['*'] ∧ beforeStar? (spell cs) = none ∧
      spell cs = [' '].intercalate (typeWords cs)) ∨
    ∃ parts, (∀ part ∈ parts, IsWord part) ∧ typeWords cs = parts ++ [['*']] ∧
      beforeStar? (spell cs) = some ([' '].intercalate parts ++ [' ']) := by
  cases starred : beforeStar? ([' '].intercalate (words cs)) with
  | none =>
      have joined := spell_of_unstarred starred
      rw [← typeWords_of_unstarred starred] at joined starred
      refine .inl ⟨fun last => ?_, joined ▸ starred, joined⟩
      obtain ⟨front, ended⟩ := List.getLast?_eq_some_iff.mp last
      have word : IsWord ['*'] := by decide
      rw [ended] at starred
      simp [beforeStar?, getLast?_intercalate word] at starred
  | some target =>
      obtain ⟨front, rest, parted⟩ := words_of_beforeStar? starred
      refine .inr ⟨_, isWord_wordsBeforeStar parted, typeWords_of_starred parted, ?_⟩
      rw [spell_of_starred parted, ← beforeStar?_append_star, List.append_assoc]
      rfl

def constWord : List Char := "const".toList

def pointeeWords : List (List Char) → List (List Char)
  | first :: second :: rest => if first = constWord then second :: rest else first :: second :: rest
  | parts => parts

theorem pointeeWords_eq_single_iff {name : List Char} :
    pointeeWords parts = [name] ↔ parts = [name] ∨ parts = [constWord, name] := by
  match parts with
  | [] => simp [pointeeWords]
  | [only] => simp [pointeeWords]
  | first :: second :: rest =>
      by_cases const : first = constWord <;> simp [pointeeWords, const]

theorem mem_of_mem_pointeeWords {part : List Char} (member : part ∈ pointeeWords parts) :
    part ∈ parts := by
  match parts with
  | [] => exact member
  | [only] => exact member
  | first :: second :: rest =>
      by_cases const : first = constWord
      · simp only [pointeeWords, const, if_true] at member
        exact List.mem_cons_of_mem first member
      · simpa only [pointeeWords, const, if_false] using member

theorem constPrefix_eq : constPrefix = constWord ++ [' '] := by
  decide

theorem constPrefix_prefix_iff (each : ∀ part ∈ parts, IsWord part) :
    constPrefix <+: [' '].intercalate parts ↔
      ∃ next rest, parts = constWord :: next :: rest := by
  rw [constPrefix_eq]
  constructor
  · rintro ⟨rest, joined⟩
    have const : IsWord constWord := by decide
    have first : parts = constWord :: words rest := by
      have parted := congrArg words joined
      rwa [List.append_assoc, words_append const rfl, List.singleton_append,
        words_blank rest isBlank_space, words_intercalate each, eq_comm] at parted
    cases others : words rest with
    | nil =>
        rw [first, others] at joined
        have short := congrArg List.length joined
        simp at short
    | cons next more => exact ⟨next, more, others ▸ first⟩
  · rintro ⟨next, rest, rfl⟩
    rw [List.intercalate_cons_cons]
    exact List.prefix_append _ _

theorem withoutConst_intercalate (each : ∀ part ∈ parts, IsWord part) :
    withoutConst ([' '].intercalate parts) = [' '].intercalate (pointeeWords parts) := by
  have prefixed := constPrefix_prefix_iff each
  unfold withoutConst
  simp only [List.isPrefixOf_iff_prefix]
  split
  next const =>
    obtain ⟨next, rest, rfl⟩ := prefixed.mp const
    have dropped : ([' '].intercalate (constWord :: next :: rest)).drop constPrefix.length =
        [' '].intercalate (next :: rest) := by
      rw [List.intercalate_cons_cons, ← constPrefix_eq, List.drop_left]
    rw [dropped, trim_intercalate fun part member => each part (by simp [List.mem_cons.mp member])]
    simp [pointeeWords]
  next other =>
    have kept : pointeeWords parts = parts := by
      match parts with
      | [] => rfl
      | [only] => rfl
      | first :: second :: rest =>
          have plain : first ≠ constWord := fun same =>
            other (prefixed.mpr ⟨second, rest, by rw [same]⟩)
          simp [pointeeWords, plain]
    rw [trim_intercalate each, kept]

def wordTexts (type : String) : List String :=
  (typeWords type.toList).map String.ofList

theorem wordTexts_eq_iff {type : String} {words : List String} :
    wordTexts type = words ↔ typeWords type.toList = words.map String.toList := by
  constructor
  · rintro rfl
    simp [wordTexts, Function.comp_def]
  · intro same
    simp [wordTexts, same, Function.comp_def]

theorem wordTexts_normalize (type : String) : wordTexts (normalize type) = wordTexts type := by
  rw [wordTexts, normalize, String.toList_ofList, spell_eq_iff.mp (spell_spell type.toList), wordTexts]

end CType

namespace Scalar

theorem ofType?_eq_some_iff {type : String} {kind : Scalar} :
    ofType? type = some kind ↔ type ∈ kind.types := by
  have known : ∀ name ∈ kind.types, ofType? name = some kind := by
    cases kind <;> decide +kernel
  exact ⟨mem_types_of_ofType?, known type⟩

theorem ofType?_eq_none_iff {type : String} :
    ofType? type = none ↔ ∀ kind : Scalar, type ∉ kind.types := by
  simp only [Option.eq_none_iff_forall_ne_some, ne_eq, ofType?_eq_some_iff]

theorem isWord_types (kind : Scalar) : ∀ name ∈ kind.types, Text.IsWord name.toList := by
  cases kind <;> decide +kernel

theorem star_not_mem_types (kind : Scalar) : "*" ∉ kind.types := by
  cases kind <;> decide

theorem eq_of_mem_types {name : String} {first second : Scalar} (one : name ∈ first.types)
    (other : name ∈ second.types) : first = second := by
  rw [← ofType?_eq_some_iff] at one other
  exact Option.some.inj (one.symm.trans other)

end Scalar

namespace Kind

open CType Text

def pointeeName (target : List Char) : String :=
  String.ofList (withoutConst (trimEnd target))

theorem ofType_of_pointer {type : String} {target : List Char}
    (pointer : beforeStar? (spell type.toList) = some target) (array : Bool) :
    ofType type array = ofPointer target array := by
  simp only [ofType, pointer]

theorem ofType_of_not_pointer {type : String} (unstarred : beforeStar? (spell type.toList) = none)
    (array : Bool) :
    ofType type array =
      (Scalar.ofType? (String.ofList (spell type.toList))).elim unknown scalar := by
  simp only [ofType, unstarred]
  cases Scalar.ofType? (String.ofList (spell type.toList)) <;> rfl

theorem ofPointer_array (target : List Char) :
    ofPointer target true = (Scalar.ofType? (pointeeName target)).elim unknown .array := by
  simp only [ofPointer, if_true]
  rw [← pointeeName]
  cases Scalar.ofType? (pointeeName target) <;> rfl

theorem ofPointer_no_array (target : List Char) :
    ofPointer target false =
      if constPrefix.isPrefixOf (trimEnd target) = true ∧ pointeeName target ∈ characterTypes then
        text
      else address := by
  simp [ofPointer, pointeeName]

variable {parts : List (List Char)}

theorem pointeeName_intercalate (each : ∀ part ∈ parts, IsWord part) :
    pointeeName ([' '].intercalate parts ++ [' ']) =
      String.ofList ([' '].intercalate (pointeeWords parts)) := by
  rw [pointeeName, trimEnd_append_blank _ isBlank_space, trimEnd_intercalate each,
    withoutConst_intercalate each]

theorem ofList_intercalate_eq_iff {name : String} (isWord : IsWord name.toList)
    (each : ∀ part ∈ parts, IsWord part) :
    String.ofList ([' '].intercalate parts) = name ↔ parts = [name.toList] := by
  rw [← isWord.intercalate_eq_iff each, ← String.toList_inj, String.toList_ofList]

theorem pointeeName_eq_iff {name : String} (isWord : IsWord name.toList)
    (each : ∀ part ∈ parts, IsWord part) :
    pointeeName ([' '].intercalate parts ++ [' ']) = name ↔
      parts = [name.toList] ∨ parts = [constWord, name.toList] := by
  have kept : ∀ part ∈ pointeeWords parts, IsWord part := fun part member =>
    each part (mem_of_mem_pointeeWords member)
  rw [pointeeName_intercalate each, ofList_intercalate_eq_iff isWord kept,
    pointeeWords_eq_single_iff]

theorem const_pointeeName_iff {name : String} (isWord : IsWord name.toList)
    (each : ∀ part ∈ parts, IsWord part) :
    (constPrefix.isPrefixOf (trimEnd ([' '].intercalate parts ++ [' '])) = true ∧
      pointeeName ([' '].intercalate parts ++ [' ']) = name) ↔ parts = [constWord, name.toList] := by
  rw [trimEnd_append_blank _ isBlank_space, trimEnd_intercalate each, List.isPrefixOf_iff_prefix,
    constPrefix_prefix_iff each, pointeeName_eq_iff isWord each]
  constructor
  · rintro ⟨⟨next, rest, rfl⟩, alone | const⟩
    · simp at alone
    · exact const
  · rintro rfl
    exact ⟨⟨name.toList, [], rfl⟩, .inr rfl⟩

def PointTo (words : List String) (name : String) : Prop :=
  words = [name, "*"] ∨ words = ["const", name, "*"]

def SaidBy (words : List String) (array : Bool) : Kind → Prop
  | scalar kind => ∃ name ∈ kind.types, words = [name]
  | .array element => array = true ∧ ∃ name ∈ element.types, PointTo words name
  | text => array = false ∧ ∃ name ∈ characterTypes, words = ["const", name, "*"]
  | address =>
      array = false ∧ words.getLast? = some "*" ∧
        ∀ name ∈ characterTypes, words ≠ ["const", name, "*"]
  | unknown =>
      (∀ kind : Scalar, ∀ name ∈ kind.types, words ≠ [name]) ∧
      (array = true → ∀ element : Scalar, ∀ name ∈ element.types, ¬ PointTo words name) ∧
      (array = false → words.getLast? ≠ some "*")

theorem isWord_characterTypes : ∀ name ∈ characterTypes, IsWord name.toList := by
  decide

theorem SaidBy.unique {words : List String} {array : Bool} {first second : Kind}
    (one : first.SaidBy words array) (other : second.SaidBy words array) : first = second := by
  have star := Scalar.star_not_mem_types
  have names := @Scalar.eq_of_mem_types
  cases first <;> cases second <;> grind [SaidBy, PointTo]

theorem saidBy_ofType_of_unstarred {type : String}
    (last : (typeWords type.toList).getLast? ≠ some ['*'])
    (unstarred : beforeStar? (spell type.toList) = none)
    (joined : spell type.toList = [' '].intercalate (typeWords type.toList)) (array : Bool) :
    (ofType type array).SaidBy (wordTexts type) array := by
  have each := isWord_typeWords type.toList
  have noStar : (wordTexts type).getLast? ≠ some "*" := by
    simpa [wordTexts, ← String.toList_inj] using last
  rw [ofType_of_not_pointer unstarred, joined]
  cases found : Scalar.ofType? (String.ofList ([' '].intercalate (typeWords type.toList))) with
  | some kind =>
      have listed := Scalar.ofType?_eq_some_iff.mp found
      have single := (ofList_intercalate_eq_iff (kind.isWord_types _ listed) each).mp rfl
      exact ⟨_, listed, wordTexts_eq_iff.mpr single⟩
  | none =>
      have unlisted := Scalar.ofType?_eq_none_iff.mp found
      refine ⟨fun kind name listed words => unlisted kind ?_, fun _ element name _ => ?_, fun _ => noStar⟩
      · have single := wordTexts_eq_iff.mp words
        rwa [(ofList_intercalate_eq_iff (kind.isWord_types name listed) each).mpr single]
      · rintro (words | words) <;> simp [words] at noStar

theorem saidBy_ofType_of_starred {type : String} (each : ∀ part ∈ parts, IsWord part)
    (words : typeWords type.toList = parts ++ [['*']])
    (pointer : beforeStar? (spell type.toList) = some ([' '].intercalate parts ++ [' ']))
    (array : Bool) : (ofType type array).SaidBy (wordTexts type) array := by
  have inFront (names : List String) : wordTexts type = names ++ ["*"] ↔
      parts = names.map String.toList := by
    rw [wordTexts_eq_iff, words, List.map_append]
    exact List.append_left_inj [['*']]
  have pointTo (name : String) : PointTo (wordTexts type) name ↔
      parts = [name.toList] ∨ parts = [constWord, name.toList] :=
    or_congr (inFront [name]) (inFront ["const", name])
  have pointConst (name : String) : wordTexts type = ["const", name, "*"] ↔
      parts = [constWord, name.toList] := inFront ["const", name]
  have last : (wordTexts type).getLast? = some "*" := by
    simp [wordTexts, words]
  rw [ofType_of_pointer pointer]
  cases array with
  | true =>
      rw [ofPointer_array]
      cases found : Scalar.ofType? (pointeeName ([' '].intercalate parts ++ [' '])) with
      | some element =>
          have listed := Scalar.ofType?_eq_some_iff.mp found
          have read := (pointeeName_eq_iff (element.isWord_types _ listed) each).mp rfl
          exact ⟨rfl, _, listed, (pointTo _).mpr read⟩
      | none =>
          have unlisted := Scalar.ofType?_eq_none_iff.mp found
          refine ⟨fun kind name listed alone => ?_, fun _ element name listed points => ?_, by simp⟩
          · have star : name = "*" := by simpa [alone] using last
            exact kind.star_not_mem_types (star ▸ listed)
          · have read := (pointeeName_eq_iff (element.isWord_types name listed) each).mpr
              ((pointTo name).mp points)
            exact unlisted element (read ▸ listed)
  | false =>
      rw [ofPointer_no_array]
      split
      next const =>
        have isWord := isWord_characterTypes _ const.2
        have read := (const_pointeeName_iff isWord each).mp ⟨const.1, rfl⟩
        exact ⟨rfl, _, const.2, (pointConst _).mpr read⟩
      next other =>
        refine ⟨rfl, last, fun name listed points => other ?_⟩
        obtain ⟨const, read⟩ := (const_pointeeName_iff (isWord_characterTypes name listed) each).mpr
          ((pointConst name).mp points)
        exact ⟨const, read ▸ listed⟩

theorem saidBy_ofType (type : String) (array : Bool) :
    (ofType type array).SaidBy (wordTexts type) array := by
  obtain ⟨last, unstarred, joined⟩ | ⟨parts, each, words, pointer⟩ := spell_cases type.toList
  · exact saidBy_ofType_of_unstarred last unstarred joined array
  · exact saidBy_ofType_of_starred each words pointer array

theorem ofType_eq_iff {type : String} {array : Bool} {kind : Kind} :
    ofType type array = kind ↔ kind.SaidBy (wordTexts type) array :=
  ⟨fun same => same ▸ saidBy_ofType type array, (saidBy_ofType type array).unique⟩

theorem ofType_normalize (type : String) (array : Bool) :
    ofType (CType.normalize type) array = ofType type array := by
  rw [ofType_eq_iff, wordTexts_normalize]
  exact saidBy_ofType type array

theorem ofType_name {name : String} {kind : Scalar} (listed : name ∈ kind.types) (array : Bool) :
    ofType name array = scalar kind := by
  have known : ∀ name ∈ kind.types, wordTexts name = [name] := by
    cases kind <;> decide +kernel
  exact ofType_eq_iff.mpr ⟨name, listed, known name listed⟩

end Kind

theorem kind_told_by_words (type : String) (array : Bool) :
    (∀ kind, Kind.ofType type array = kind ↔ kind.SaidBy (CType.wordTexts type) array) ∧
    (∀ element, Kind.ofType type array = .array element →
      ∃ name ∈ element.types, Kind.PointTo (CType.wordTexts type) name ∧
        ∀ alone, Kind.ofType name alone = .scalar element) ∧
    (RawKind.ofType type array = (Kind.ofType type array).raw ∧
      ∀ element, RawKind.ofType type array = .array element →
        element ∈ [.signed, .unsigned, .enumeration, .bitmask, .float, .double]) ∧
    Kind.ofType (CType.normalize type) array = Kind.ofType type array := by
  refine ⟨fun kind => Kind.ofType_eq_iff, fun element kind => ?_,
    ⟨(Kind.raw_ofType type array).symm, fun element kind => ?_⟩, Kind.ofType_normalize type array⟩
  · obtain ⟨-, name, listed, points⟩ := Kind.ofType_eq_iff.mp kind
    exact ⟨name, listed, points, Kind.ofType_name listed⟩
  · obtain ⟨scalar, rfl⟩ := RawKind.flat_ofType type array element kind
    cases scalar <;> decide

-- The star is glued on, and a blank other than a space parts the words.
theorem kind_told_by_words_constFloats :
    let type := " const\u2003GLfloat*\n"
    Kind.ofType type true = .array .float ∧
      (∃ name ∈ Scalar.float.types, Kind.PointTo (CType.wordTexts type) name ∧
        ∀ alone, Kind.ofType name alone = .scalar .float) ∧
      RawKind.ofType type true = .array .float ∧
      Kind.ofType "const GLfloat *" true = .array .float := by
  intro type
  obtain ⟨told, elements, ⟨raw, -⟩, spelled⟩ := kind_told_by_words type true
  have words : CType.wordTexts type = ["const", "GLfloat", "*"] := by decide +kernel
  have kind : Kind.ofType type true = .array .float :=
    (told _).mpr ⟨rfl, "GLfloat", by decide, .inr words⟩
  have normalized : CType.normalize type = "const GLfloat *" := by decide +kernel
  exact ⟨kind, elements _ kind, raw.trans (by rw [kind]; rfl), normalized ▸ spelled.trans kind⟩

end ReplayGen
