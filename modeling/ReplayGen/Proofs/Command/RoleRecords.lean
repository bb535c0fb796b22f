import Mathlib.Data.List.Forall2
import Mathlib.Data.List.Sort
import ReplayGen.Command.ShowRoles
import ReplayGen.Proofs.Catalog.Records
import ReplayGen.Proofs.Catalog.Validation
import ReplayGen.Proofs.Command.Generation
import ReplayGen.Proofs.Emission.Lines
import ReplayGen.Proofs.Function.Building
import ReplayGen.Proofs.Kind.Classification

set_option autoImplicit false

namespace ReplayGen

namespace CommandLine

theorem foldl_addWord (words : List String) (line : CommandLine) :
    words.foldl addWord line = { line with words := words.reverse ++ line.words } := by
  induction words generalizing line with
  | nil => rfl
  | cons word rest ih => simp [ih, addWord]

theorem read?_dashes (specs : List OptionSpec) (words : List String) :
    read? specs ("--" :: words) = some { words } := by
  simp [read?, readFrom, foldl_addWord]

end CommandLine

namespace Role

def Before (first second : Role) : Prop :=
  first.position < second.position

instance : DecidableRel Before :=
  fun first second => inferInstanceAs (Decidable (first.position < second.position))

instance : Std.Irrefl Before where
  irrefl role := Nat.lt_irrefl role.position

instance : Std.Antisymm Before where
  antisymm _ _ before after := absurd before (Nat.lt_asymm after)

theorem pairwise_all : all.Pairwise Before := by
  decide

theorem name_injective {a b : Role} (same : a.name = b.name) : a = b := by
  cases a <;> cases b <;> simp_all [name]

theorem isWord_name (role : Role) : Text.IsWord role.name.toList := by
  cases role <;> decide

theorem name_ne_dash (role : Role) : role.name.toList ≠ ['-'] := by
  cases role <;> decide

end Role

namespace Roles

theorem mem_toList {roles : Roles} {role : Role} : role ∈ roles.toList ↔ roles.has role = true := by
  simp [toList, Role.mem_all]

theorem pairwise_toList (roles : Roles) : roles.toList.Pairwise Role.Before :=
  Role.pairwise_all.sublist List.filter_sublist

theorem mem_toList_classify {name : String} {role : Role} :
    role ∈ (classify name).toList ↔ name ∈ role.functions := by
  rw [mem_toList, has_classify, decide_eq_true_eq]

-- A list of roles has no place for bits that belong to none of them.
theorem ofList_toList (roles : Roles) : ofList roles.toList = roles.known := by
  have every : ∀ bits : BitVec 8, ofList (toList ⟨bits⟩) = known ⟨bits⟩ := by decide +kernel
  exact every roles.bits

theorem known_classify (name : String) : (classify name).known = classify name := by
  rw [← ofList_toList, toList, funext (has_classify name), classify]

end Roles

namespace Catalog

theorem functions_of_ofEntries {entries : List FunctionEntry} {catalog : Catalog}
    (accepted : ofEntries entries = .ok catalog) :
    catalog.functions = entries.map FunctionEntry.function := by
  unfold ofEntries at accepted
  cases built : ofFunctions (entries.map FunctionEntry.function) with
  | error offence =>
      rw [built, mapError_error] at accepted
      exact absurd accepted (by simp)
  | ok found =>
      rw [built, mapError_ok] at accepted
      rw [← Except.ok.inj accepted, functions_of_ofFunctions built]

theorem exists_entries_of_ofText {text : String} {catalog : Catalog}
    (loaded : ofText text = .ok catalog) : ∃ entries, ofEntries entries = .ok catalog := by
  unfold ofText at loaded
  split at loaded
  next document read =>
    obtain ⟨entries, -, accepted⟩ := bind_eq_ok_iff.mp loaded
    exact ⟨entries, accepted⟩
  next => simp at loaded

theorem map_name_of_ofEntries {entries : List FunctionEntry} {catalog : Catalog}
    (accepted : ofEntries entries = .ok catalog) :
    catalog.functions.map Function.name = entries.map FunctionEntry.name := by
  rw [functions_of_ofEntries accepted, List.map_map]
  exact List.map_congr_left fun entry _ => Function.build_name entry.name entry.buildSteps

theorem exists_builtin : ∃ catalog, builtin = .ok catalog := by
  have clear : Duplicate.first? [] (Builtin.entries.map FunctionEntry.function) = none := by
    decide +kernel
  obtain ⟨catalog, built⟩ := exists_ofFunctions_iff.mpr clear
  exact ⟨catalog, by rw [builtin, ofEntries, built, mapError_ok]⟩

end Catalog

namespace ShowRoles

open Text

section Requests

variable {words : List String} {files : Files}

theorem ofWords?_dashes {names : List String} (nonempty : names ≠ []) :
    Request.ofWords? ("--" :: names) = some (.names names) := by
  cases names with
  | nil => exact absurd rfl nonempty
  | cons name rest =>
      simp [Request.ofWords?, CommandLine.read?_dashes, CommandLine.count, CommandLine.valuesOf]

theorem execute_of_text {request : Request} {printed : String}
    (requested : Request.ofWords? words = some request) (told : text request = .ok printed) :
    execute words files = .print printed files := by
  simp only [execute, requested, told]

end Requests

section Shown

theorem roleNames_eq (roles : Roles) :
    roleNames roles =
      if roles.toList = [] then "-" else " ".intercalate (roles.toList.map Role.name) := by
  unfold roleNames
  split
  next none => rw [if_pos none]
  next some => rw [if_neg some]

def shownWords (roles : Roles) : List (List Char) :=
  if roles.toList = [] then [['-']] else roles.toList.map (·.name.toList)

theorem toList_roleNames (roles : Roles) :
    (roleNames roles).toList = [' '].intercalate (shownWords roles) := by
  rw [roleNames_eq, shownWords]
  split
  next => rfl
  next =>
    rw [String.toList_intercalate, List.map_map]
    rfl

theorem isWord_shownWords {roles : Roles} : ∀ part ∈ shownWords roles, IsWord part := by
  unfold shownWords
  split
  next =>
    have dash : IsWord ['-'] := by decide
    simpa using dash
  next => simp [Role.isWord_name]

theorem words_roleNames (roles : Roles) : words (roleNames roles).toList = shownWords roles := by
  rw [toList_roleNames, words_intercalate isWord_shownWords]

theorem name_mem_shownWords {roles : Roles} {role : Role} :
    role.name.toList ∈ shownWords roles ↔ role ∈ roles.toList := by
  rw [shownWords]
  split
  next none => simp [role.name_ne_dash, none]
  next =>
    rw [List.mem_map]
    constructor
    · rintro ⟨other, listed, same⟩
      exact Role.name_injective (String.toList_inj.mp same) ▸ listed
    · exact fun listed => ⟨role, listed, rfl⟩

theorem roleNames_eq_dash_iff {roles : Roles} : roleNames roles = "-" ↔ roles.toList = [] := by
  refine ⟨fun dash => ?_, fun none => by rw [roleNames_eq, if_pos none]⟩
  have alone : shownWords roles = [['-']] := by
    rw [← words_roleNames, dash]
    rfl
  refine List.eq_nil_iff_forall_not_mem.mpr fun role listed => ?_
  have shown := name_mem_shownWords.mpr listed
  rw [alone, List.mem_singleton] at shown
  exact role.name_ne_dash shown

end Shown

structure IsShown (name shown : String) : Prop where
  dash : shown = "-" ↔ ∀ role : Role, name ∉ role.functions
  names : ∃ list : List Role, list.Pairwise Role.Before ∧
    (∀ role, role ∈ list ↔ name ∈ role.functions) ∧
    (list ≠ [] → shown = " ".intercalate (list.map Role.name))

/-- The name stands first, filled up with spaces to 36 characters if it is shorter, and after
one more space its roles are shown. -/
def IsRecord (name text : String) : Prop :=
  ∃ padding shown, text = name ++ padding ++ " " ++ shown ++ "\n" ∧
    (∀ c ∈ padding.toList, c = ' ') ∧ (name ++ padding).length = max 36 name.length ∧
    IsShown name shown

theorem isShown_iff {name shown : String} :
    IsShown name shown ↔ shown = roleNames (Roles.classify name) := by
  have listed (role : Role) : role ∈ (Roles.classify name).toList ↔ name ∈ role.functions :=
    Roles.mem_toList_classify
  have none : (Roles.classify name).toList = [] ↔ ∀ role : Role, name ∉ role.functions := by
    simp only [List.eq_nil_iff_forall_not_mem, listed]
  constructor
  · rintro ⟨dash, list, ordered, told, names⟩
    have same : list = (Roles.classify name).toList :=
      ordered.eq_of_mem_iff (Roles.pairwise_toList _) fun role => (told role).trans (listed role).symm
    rw [roleNames_eq]
    split
    next empty => exact dash.mpr (none.mp empty)
    next some => exact same ▸ names (same ▸ some)
  · rintro rfl
    refine ⟨roleNames_eq_dash_iff.trans none, _, Roles.pairwise_toList _, listed, fun some => ?_⟩
    rw [roleNames_eq, if_neg some]

theorem isRecord_iff {name text : String} :
    IsRecord name text ↔ text = record name (Roles.classify name) := by
  constructor
  · rintro ⟨padding, shown, rfl, spaces, width, told⟩
    -- The width leaves only one number of spaces.
    have filled : padding = String.ofList (List.replicate (36 - name.length) ' ') := by
      rw [← String.toList_inj, String.toList_ofList, List.eq_replicate_iff]
      rw [String.length_append] at width
      exact ⟨by rw [String.length_toList]; omega, spaces⟩
    rw [isShown_iff.mp told, filled]
    rfl
  · rintro rfl
    refine ⟨_, _, rfl, ?_, ?_, isShown_iff.mpr rfl⟩
    · simp [List.mem_replicate]
    · rw [String.length_append, String.length_ofList, List.length_replicate, nameWidth,
        String.length_toList]
      omega

section ReadingBack

variable {name : String} {roles : Roles}

def rolesOf (shown : List (List Char)) : Roles :=
  Roles.ofList (Role.all.filter (·.name.toList ∈ shown))

theorem rolesOf_shownWords (roles : Roles) : rolesOf (shownWords roles) = roles.known := by
  simp only [rolesOf, name_mem_shownWords, Roles.mem_toList, ← Roles.ofList_toList]
  simp [Roles.toList]

def recordLine (name : String) (roles : Roles) : String :=
  pad name ++ " " ++ roleNames roles

theorem words_recordLine (isWord : IsWord name.toList) :
    words (recordLine name roles).toList = name.toList :: shownWords roles := by
  -- The padding and the space after it are one run of spaces, so a long name is parted too.
  have line : (recordLine name roles).toList = name.toList ++
      (List.replicate (nameWidth - name.toList.length + 1) ' ' ++ (roleNames roles).toList) := by
    simp [recordLine, pad, List.replicate_succ']
  rw [line, words_append isWord rfl, words_spaces_append (fun _ => List.eq_of_mem_replicate),
    words_roleNames]

theorem unbroken_recordLine (isWord : IsWord name.toList) :
    '\n' ∉ (recordLine name roles).toList := by
  have solid {part : List Char} (word : IsWord part) : '\n' ∉ part := fun member =>
    absurd (word.solid _ member) (by decide)
  have shown : '\n' ∉ (roleNames roles).toList := by
    rw [toList_roleNames]
    intro member
    obtain separator | ⟨part, listed, inside⟩ := mem_of_mem_intercalate member
    · simp at separator
    · exact solid (isWord_shownWords part listed) inside
  simp [recordLine, pad, solid isWord, shown, List.mem_replicate]

def readRecord (line : String) : String × Roles :=
  match words line.toList with
  | [] => ("", Roles.empty)
  | name :: shown => (String.ofList name, rolesOf shown)

def readRecords (text : String) : List (String × Roles) :=
  (lines text).map readRecord

theorem readRecord_recordLine (isWord : IsWord name.toList) :
    readRecord (recordLine name roles) = (name, roles.known) := by
  simp only [readRecord, words_recordLine isWord, rolesOf_shownWords, String.ofList_toList]

theorem readRecords_join {shown : List (String × Roles)}
    (isWord : ∀ entry ∈ shown, IsWord entry.1.toList) :
    readRecords (String.join (shown.map fun entry => record entry.1 entry.2)) =
      shown.map fun entry => (entry.1, entry.2.known) := by
  let lineOf (entry : String × Roles) := recordLine entry.1 entry.2
  have unbroken : ∀ line ∈ shown.map lineOf, '\n' ∉ line.toList := by
    intro line member
    obtain ⟨entry, listed, rfl⟩ := List.mem_map.mp member
    exact unbroken_recordLine (isWord entry listed)
  have written : String.join (shown.map fun entry => record entry.1 entry.2) =
      unlines (shown.map lineOf) := by
    rw [unlines, List.map_map]
    rfl
  have read : lines (unlines (shown.map lineOf)) = shown.map lineOf := by
    simpa using lines_unlines_append unbroken ""
  rw [readRecords, written, read, List.map_map]
  exact List.map_congr_left fun entry listed => readRecord_recordLine (isWord entry listed)

theorem readRecords_namesText {names : List String} (isWord : ∀ name ∈ names, IsWord name.toList) :
    readRecords (namesText names) = names.map fun name => (name, Roles.classify name) := by
  have entries : ∀ entry ∈ names.map fun name => (name, Roles.classify name),
      IsWord entry.1.toList := by
    simpa using isWord
  have read := readRecords_join entries
  simp only [List.map_map, Function.comp_def, Roles.known_classify] at read
  exact read

end ReadingBack

theorem functionsText_eq_namesText {entries : List Catalog.FunctionEntry} {catalog : Catalog}
    (accepted : Catalog.ofEntries entries = .ok catalog) :
    functionsText catalog.functions = namesText (catalog.functions.map Function.name) := by
  have carried : ∀ f ∈ catalog.functions, f.roles = Roles.classify f.name := by
    rw [Catalog.functions_of_ofEntries accepted]
    intro f listed
    obtain ⟨entry, -, rfl⟩ := List.mem_map.mp listed
    exact (Function.build_sound entry.name entry.buildSteps).roles
  rw [functionsText, namesText, List.map_map]
  exact congrArg String.join (List.map_congr_left fun f listed => by
    rw [carried f listed, Function.comp_apply])

theorem records_printed (files : Files) :
    (∀ words names, Request.ofWords? words = some (.names names) →
      ∃ records, (execute words files).Prints (String.join records) files ∧
        List.Forall₂ IsRecord names records ∧
        ((∀ name ∈ names, IsWord name.toList) →
          readRecords (String.join records) =
            names.map fun name => (name, Roles.classify name))) ∧
    (∀ names, names ≠ [] → Request.ofWords? ("--" :: names) = some (.names names)) ∧
    (∃ catalog, Catalog.builtin = .ok catalog ∧
      catalog.functions.map Function.name =
        Catalog.Builtin.entries.map Catalog.FunctionEntry.name ∧
      Request.ofWords? ["--all"] = some .allFunctions ∧
      ∀ words others, Request.ofWords? words = some .allFunctions →
        Request.ofWords? others = some (.names (catalog.functions.map Function.name)) →
        execute words files = execute others files) ∧
    ∀ text catalog, Catalog.ofText text = .ok catalog →
      functionsText catalog.functions = namesText (catalog.functions.map Function.name) := by
  refine ⟨fun words names requested => ?_, fun names => ofWords?_dashes, ?_,
    fun text catalog loaded => ?_⟩
  · refine ⟨names.map fun name => record name (Roles.classify name), ?_, ?_, fun isWord => ?_⟩
    · rw [execute_of_text requested rfl]
      exact Outcome.prints_print _ files _
    · rw [List.forall₂_map_right_iff, List.forall₂_same]
      exact fun name _ => isRecord_iff.mpr rfl
    · exact readRecords_namesText isWord
  · obtain ⟨catalog, loaded⟩ := Catalog.exists_builtin
    refine ⟨catalog, loaded, Catalog.map_name_of_ofEntries loaded, by decide,
      fun words others all requested => ?_⟩
    have told : text .allFunctions = .ok (functionsText catalog.functions) := by
      rw [text, loaded]
      rfl
    rw [execute_of_text all told, functionsText_eq_namesText loaded,
      execute_of_text requested rfl]
  · obtain ⟨entries, accepted⟩ := Catalog.exists_entries_of_ofText loaded
    exact functionsText_eq_namesText accepted

def endTwice : List String :=
  ["glEnd", "glFlush", "glEnd"]

def clearText : String :=
  "[[function]]\nname = \"glClear\"\n"

theorem records_printed_endTwice :
    let files := Files.inWork []
    (∃ records, (execute endTwice files).Prints (String.join records) files ∧
      readRecords (String.join records) =
        [("glEnd", .ofList [.miscDraw]), ("glFlush", .empty), ("glEnd", .ofList [.miscDraw])]) ∧
    (∃ catalog, Catalog.builtin = .ok catalog ∧
      execute ["--all"] files =
        execute ("--" :: catalog.functions.map Function.name) files) ∧
    ∃ catalog, Catalog.ofText clearText = .ok catalog ∧
      functionsText catalog.functions = namesText ["glClear"] := by
  intro files
  obtain ⟨given, dashes, ⟨catalog, loaded, names, all, alike⟩, texts⟩ := records_printed files
  refine ⟨?_, ⟨catalog, loaded, ?_⟩, ?_⟩
  · obtain ⟨records, prints, -, read⟩ := given endTwice endTwice (by decide)
    have isWord : ∀ name ∈ endTwice, IsWord name.toList := by decide +kernel
    exact ⟨records, prints, (read isWord).trans (by decide +kernel)⟩
  · have some : catalog.functions.map Function.name ≠ [] := by
      rw [names]
      simp [Catalog.Builtin.entries]
    exact alike _ _ all (dashes _ some)
  · have clear : (Catalog.ofText clearText).toOption.map (·.functions.map Function.name) =
        some ["glClear"] := by decide +kernel
    cases read : Catalog.ofText clearText with
    | error error => simp [read, Except.toOption] at clear
    | ok found =>
        refine ⟨found, rfl, (texts _ _ read).trans ?_⟩
        rw [read] at clear
        exact congrArg namesText (Option.some.inj clear)

end ShowRoles

end ReplayGen
