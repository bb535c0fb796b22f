import Mathlib.Data.List.Nodup
import Mathlib.Data.Option.Basic
import ReplayGen.Toml.Document

set_option autoImplicit false

namespace ReplayGen.Toml

open Decimal

inductive Value.Keyed : Value → Prop
  | string (text : String) : Keyed (.string text)
  | integer (value : Int) : Keyed (.integer value)
  | float (value : Binary64) : Keyed (.float value)
  | boolean (value : Bool) : Keyed (.boolean value)
  | moment (spelling : String) : Keyed (.moment spelling)
  | array {items : List Value} (each : ∀ item ∈ items, item.Keyed) : Keyed (.array items)
  | table {entries : List (String × Value)} (distinct : (entries.map Prod.fst).Nodup)
      (each : ∀ entry ∈ entries, entry.2.Keyed) : Keyed (.table entries)

@[simp] theorem Value.keyed_array_iff {items : List Value} :
    (Value.array items).Keyed ↔ ∀ item ∈ items, item.Keyed :=
  ⟨fun | .array each => each, .array⟩

@[simp] theorem Value.keyed_table_iff {entries : List (String × Value)} :
    (Value.table entries).Keyed ↔
      (entries.map Prod.fst).Nodup ∧ ∀ entry ∈ entries, entry.2.Keyed :=
  ⟨fun | .table distinct each => ⟨distinct, each⟩, fun ⟨distinct, each⟩ => .table distinct each⟩

attribute [simp] Value.Keyed.string Value.Keyed.integer Value.Keyed.float Value.Keyed.boolean
  Value.Keyed.moment

section Outlines

inductive Node.Keyed : Node → Prop
  | value {value : Value} (keyed : value.Keyed) : Keyed (.value value)
  | table (origin : Origin) {entries : Entries} (distinct : (entries.map Prod.fst).Nodup)
      (each : ∀ entry ∈ entries, entry.2.Keyed) : Keyed (.table origin entries)
  | tables {newestFirst : List Node} (each : ∀ node ∈ newestFirst, node.Keyed) :
      Keyed (.tables newestFirst)

structure Entries.Keyed (entries : Entries) : Prop where
  distinct : (entries.map Prod.fst).Nodup
  each : ∀ entry ∈ entries, entry.2.Keyed

theorem Node.keyed_table_iff {origin : Origin} {entries : Entries} :
    (Node.table origin entries).Keyed ↔ Entries.Keyed entries := by
  constructor
  · rintro (_ | ⟨_, distinct, each⟩)
    exact ⟨distinct, each⟩
  · rintro ⟨distinct, each⟩
    exact .table origin distinct each

theorem Entries.keyed_nil : Entries.Keyed [] :=
  ⟨.nil, by simp⟩

theorem Entries.Keyed.append_single {entries : Entries} (keyed : Entries.Keyed entries)
    {key : String} (fresh : key ∉ entries.map Prod.fst) {node : Node} (own : node.Keyed) :
    Entries.Keyed (entries ++ [(key, node)]) := by
  refine ⟨?_, ?_⟩
  · rw [List.map_append, List.map_singleton, List.nodup_append_comm, List.singleton_append]
    exact List.nodup_cons.mpr ⟨fresh, keyed.distinct⟩
  · rw [List.forall_mem_append, List.forall_mem_singleton]
    exact ⟨keyed.each, own⟩

theorem entryValues_eq_map (entries : Entries) :
    entryValues entries = entries.map fun entry => (entry.1, entry.2.toValue) := by
  induction entries with
  | nil => rfl
  | cons entry rest ih => rw [entryValues, ih, List.map_cons]

theorem nodeValues_eq_map (nodes : List Node) : nodeValues nodes = nodes.map Node.toValue := by
  induction nodes with
  | nil => rfl
  | cons node rest ih => rw [nodeValues, ih, List.map_cons]

theorem Node.Keyed.toValue {node : Node} (keyed : node.Keyed) : node.toValue.Keyed := by
  induction keyed with
  | value keyed => exact keyed
  | table origin distinct _ ih =>
      rw [Node.toValue, entryValues_eq_map]
      refine .table ?_ (List.forall_mem_map.mpr ih)
      rw [List.map_map]
      exact distinct
  | tables _ ih =>
      rw [Node.toValue, nodeValues_eq_map]
      exact .array fun item listed =>
        List.forall_mem_map.mpr ih item (List.mem_reverse.mp listed)

theorem Entries.Keyed.toValue {entries : Entries} (keyed : Entries.Keyed entries) :
    (Value.table (entryValues entries)).Keyed := by
  have root : (Node.table .header entries).Keyed := Node.keyed_table_iff.mpr keyed
  exact root.toValue

def KeepsNodes (change : Option Node → Option Node) : Prop :=
  ∀ node changed, (∀ old, node = some old → old.Keyed) → change node = some changed →
    changed.Keyed

def KeepsEntries (change : Entries → Option Entries) : Prop :=
  ∀ entries changed, Entries.Keyed entries → change entries = some changed →
    Entries.Keyed changed

theorem keys_alter {key : String} {change : Option Node → Option Node} {entries altered : Entries}
    (done : entries.alter key change = some altered) :
    altered.map Prod.fst =
      if key ∈ entries.map Prod.fst then entries.map Prod.fst
      else entries.map Prod.fst ++ [key] := by
  induction entries generalizing altered with
  | nil =>
      obtain ⟨node, -, rfl⟩ := Option.map_eq_some_iff.mp done
      rfl
  | cons entry rest ih =>
      obtain ⟨other, node⟩ := entry
      rw [Entries.alter] at done
      split at done
      next same =>
        obtain ⟨changed, -, rfl⟩ := Option.map_eq_some_iff.mp done
        simp [same]
      next different =>
        obtain ⟨altered, doneRest, rfl⟩ := Option.map_eq_some_iff.mp done
        have listed : key ∈ (other :: rest.map Prod.fst) ↔ key ∈ rest.map Prod.fst := by
          simp [Ne.symm different]
        simp only [List.map_cons, ih doneRest, listed]
        split <;> rfl

theorem keepsEntries_alter {key : String} {change : Option Node → Option Node}
    (keeps : KeepsNodes change) : KeepsEntries (Entries.alter key change) := by
  intro entries altered keyed done
  refine ⟨?_, ?_⟩
  · rw [keys_alter done]
    split
    next => exact keyed.distinct
    next fresh =>
      rw [List.nodup_append_comm, List.singleton_append]
      exact List.nodup_cons.mpr ⟨fresh, keyed.distinct⟩
  · have each := keyed.each
    clear keyed
    induction entries generalizing altered with
    | nil =>
        obtain ⟨node, made, rfl⟩ := Option.map_eq_some_iff.mp done
        simpa using keeps none node (by simp) made
    | cons entry rest ih =>
        obtain ⟨other, node⟩ := entry
        obtain ⟨own, each⟩ := List.forall_mem_cons.mp each
        rw [Entries.alter] at done
        split at done
        next same =>
          obtain ⟨changed, made, rfl⟩ := Option.map_eq_some_iff.mp done
          have keyed := keeps (some node) changed (fun old same => Option.some.inj same ▸ own) made
          exact List.forall_mem_cons.mpr ⟨keyed, each⟩
        next different =>
          obtain ⟨altered, doneRest, rfl⟩ := Option.map_eq_some_iff.mp done
          exact List.forall_mem_cons.mpr ⟨own, ih _ doneRest each⟩

theorem keepsEntries_atPath {created : Origin} {change : Origin → Entries → Option Entries}
    (keeps : ∀ origin, KeepsEntries (change origin)) (path : List String) (origin : Origin) :
    KeepsEntries (atPath created change path origin) := by
  induction path generalizing origin with
  | nil => exact keeps origin
  | cons key path ih =>
      refine keepsEntries_alter fun node changed keyed made => ?_
      split at made
      next =>
        obtain ⟨inner, done, rfl⟩ := Option.map_eq_some_iff.mp made
        exact Node.keyed_table_iff.mpr (ih created [] inner Entries.keyed_nil done)
      next origin inner =>
        split at made
        · simp at made
        · obtain ⟨changed, done, rfl⟩ := Option.map_eq_some_iff.mp made
          have own := Node.keyed_table_iff.mp (keyed _ rfl)
          exact Node.keyed_table_iff.mpr (ih origin inner changed own done)
      next origin inner older =>
        obtain ⟨changed, done, rfl⟩ := Option.map_eq_some_iff.mp made
        obtain - | - | ⟨each⟩ := keyed _ rfl
        obtain ⟨own, others⟩ := List.forall_mem_cons.mp each
        have now := ih origin inner changed (Node.keyed_table_iff.mp own) done
        exact .tables (List.forall_mem_cons.mpr ⟨Node.keyed_table_iff.mpr now, others⟩)
      next => simp at made

theorem Entries.not_has_iff {entries : Entries} {key : String} :
    ¬ entries.has key ↔ key ∉ entries.map Prod.fst := by
  simp [Entries.has]

theorem keepsEntries_setKey {path : List String} {key : String} {value : Value}
    (own : value.Keyed) (origin : Origin) : KeepsEntries (setKey path key value origin) := by
  refine keepsEntries_atPath (fun origin entries changed keyed done => ?_) path origin
  split at done
  · simp at done
  · split at done
    · simp at done
    next fresh =>
      obtain rfl := Option.some.inj done
      exact keyed.append_single (Entries.not_has_iff.mp fresh) (.value own)

theorem keepsEntries_defineTable (key : String) : KeepsEntries (defineTable key) := by
  intro entries changed keyed done
  rw [defineTable] at done
  split at done
  next missing =>
    obtain rfl := Option.some.inj done
    have fresh : key ∉ entries.map Prod.fst := by
      simpa using fun node listed => List.find?_eq_none.mp missing (key, node) listed
    exact keyed.append_single fresh (Node.keyed_table_iff.mpr Entries.keyed_nil)
  next other inner found =>
    obtain rfl := Option.some.inj done
    have others : Entries.Keyed (entries.filter (·.1 ≠ key)) :=
      ⟨keyed.distinct.sublist (List.filter_sublist.map _), fun entry listed =>
        keyed.each entry (List.mem_of_mem_filter listed)⟩
    have own := Node.keyed_table_iff.mp (keyed.each _ (List.mem_of_find?_eq_some found))
    exact others.append_single (by simp) (Node.keyed_table_iff.mpr own)
  next => simp at done

theorem keepsEntries_addTable (key : String) : KeepsEntries (addTable key) := by
  have new : (Node.table .header []).Keyed := Node.keyed_table_iff.mpr Entries.keyed_nil
  refine keepsEntries_alter fun node changed keyed made => ?_
  split at made
  next =>
    obtain rfl := Option.some.inj made
    exact .tables (by simpa using new)
  next newestFirst =>
    obtain rfl := Option.some.inj made
    obtain - | - | ⟨each⟩ := keyed _ rfl
    exact .tables (List.forall_mem_cons.mpr ⟨new, each⟩)
  next => simp at made

theorem define_keyed {outline next : Outline} (keyed : Entries.Keyed outline.root)
    {path : List String} {add : String → Entries → Option Entries}
    (keeps : ∀ key, KeepsEntries (add key)) (done : outline.define path add = some next) :
    Entries.Keyed next.root := by
  simp only [Outline.define, bind, Option.bind_eq_some_iff, pure, Option.some.injEq] at done
  obtain ⟨key, -, root, made, rfl⟩ := done
  exact keepsEntries_atPath (fun _ => keeps key) _ _ _ _ keyed made

theorem set_keyed {outline next : Outline} (keyed : Entries.Keyed outline.root)
    {path : List String} {value : Value} (own : value.Keyed)
    (done : outline.set path value = some next) : Entries.Keyed next.root := by
  simp only [Outline.set, bind, Option.bind_eq_some_iff, pure, Option.some.injEq] at done
  obtain ⟨key, -, root, made, rfl⟩ := done
  exact keepsEntries_atPath (keepsEntries_setKey own) _ _ _ _ keyed made

end Outlines

section Scanning

def Yields {α : Type} (scan : Scan α) (holds : α → Prop) : Prop :=
  ∀ cs answer rest, scan cs = some (answer, rest) → holds answer

theorem integer?_keyed {value : Int} {answer : Value} (made : integer? value = some answer) :
    answer.Keyed := by
  rw [integer?] at made
  split at made
  · exact Option.some.inj made ▸ .integer _
  · simp at made

theorem float?_keyed {negative : Bool} {value : Binary64} {answer : Value}
    (made : float? negative value = some answer) : answer.Keyed := by
  rw [float?.eq_def] at made
  split at made
  · split at made
    · exact Option.some.inj made ▸ .float _
    · simp at made
  · exact Option.some.inj made ▸ .float _

theorem based_keyed {base : Nat} {isDigit : Char → Bool} :
    Yields (based base isDigit) Value.Keyed := by
  intro cs answer rest scanned
  simp only [based, bind, Option.bind_eq_some_iff, pure, Option.some.injEq, Prod.mk.injEq]
    at scanned
  obtain ⟨⟨ds, left⟩, -, value, made, rfl, -⟩ := scanned
  exact integer?_keyed made

theorem decimalNumber_keyed : Yields decimalNumber Value.Keyed := by
  intro cs answer rest scanned
  simp only [decimalNumber, bind, Option.bind_eq_some_iff] at scanned
  obtain ⟨⟨whole, left⟩, -, scanned⟩ := scanned
  split at scanned
  · simp only [Option.bind_eq_some_iff, pure, Option.some.injEq, Prod.mk.injEq] at scanned
    obtain ⟨⟨places, _⟩, -, ⟨power, _⟩, -, float, made, rfl, -⟩ := scanned
    exact float?_keyed made
  · simp only [Option.bind_eq_some_iff, pure, Option.some.injEq, Prod.mk.injEq] at scanned
    obtain ⟨number, made, rfl, -⟩ := scanned
    exact integer?_keyed made

theorem number_keyed : Yields number Value.Keyed := by
  have special {negative : Bool} : Yields (specialFloat? negative) Value.Keyed := by
    intro cs answer rest scanned
    rw [specialFloat?.eq_def] at scanned
    split at scanned
    · exact (Prod.mk.inj (Option.some.inj scanned)).1 ▸ .float _
    · exact (Prod.mk.inj (Option.some.inj scanned)).1 ▸ .float _
    · simp at scanned
  intro cs answer rest scanned
  rw [number.eq_def] at scanned
  split at scanned
  · exact based_keyed _ _ _ scanned
  · exact based_keyed _ _ _ scanned
  · exact based_keyed _ _ _ scanned
  · rcases (Option.orElse_eq_some ..).mp scanned with scanned | ⟨-, scanned⟩
    · exact special _ _ _ scanned
    · exact decimalNumber_keyed _ _ _ scanned

theorem moment_keyed : Yields moment Value.Keyed := by
  intro cs answer rest scanned
  simp only [moment, bind, Option.bind_eq_some_iff, pure, Option.some.injEq, Prod.mk.injEq]
    at scanned
  obtain ⟨left, -, rfl, -⟩ := scanned
  exact .moment _

theorem atom_keyed : Yields atom Value.Keyed := by
  intro cs answer rest scanned
  rw [atom.eq_def] at scanned
  split at scanned
  · exact (Prod.mk.inj (Option.some.inj scanned)).1 ▸ .boolean _
  · exact (Prod.mk.inj (Option.some.inj scanned)).1 ▸ .boolean _
  · obtain ⟨⟨text, left⟩, -, same⟩ := Option.map_eq_some_iff.mp scanned
    exact (Prod.mk.inj same).1 ▸ .string _
  · obtain ⟨⟨text, left⟩, -, same⟩ := Option.map_eq_some_iff.mp scanned
    exact (Prod.mk.inj same).1 ▸ .string _
  · rcases (Option.orElse_eq_some ..).mp scanned with scanned | ⟨-, scanned⟩
    · exact moment_keyed _ _ _ scanned
    · exact number_keyed _ _ _ scanned

variable {scan : Scan Value}

theorem pair_keyed (each : Yields scan Value.Keyed) :
    Yields (pair scan) fun pair => pair.2.Keyed := by
  intro cs answer rest scanned
  simp only [pair, bind, Option.bind_eq_some_iff, pure, Option.some.injEq, Prod.mk.injEq]
    at scanned
  obtain ⟨⟨path, _⟩, -, left, -, ⟨value, _⟩, read, rfl, -⟩ := scanned
  exact each _ _ _ read

theorem items_keyed (each : Yields scan Value.Keyed) (fuel : Nat) :
    Yields (items scan fuel) fun values => ∀ value ∈ values, value.Keyed := by
  induction fuel with
  | zero =>
      intro cs answer rest scanned
      simp [items] at scanned
  | succ fuel ih =>
      intro cs answer rest scanned
      rw [items] at scanned
      split at scanned
      · obtain rfl := (Prod.mk.inj (Option.some.inj scanned)).1
        simp
      · simp only [bind, Option.bind_eq_some_iff] at scanned
        obtain ⟨⟨first, left⟩, read, scanned⟩ := scanned
        have own := each _ _ _ read
        split at scanned
        · simp only [Option.bind_eq_some_iff, pure, Option.some.injEq, Prod.mk.injEq] at scanned
          obtain ⟨⟨others, _⟩, readOthers, rfl, -⟩ := scanned
          exact List.forall_mem_cons.mpr ⟨own, ih _ _ _ readOthers⟩
        · obtain rfl := (Prod.mk.inj (Option.some.inj scanned)).1
          exact List.forall_mem_singleton.mpr own
        · simp at scanned

theorem pairs_keyed (each : Yields scan Value.Keyed) (fuel : Nat) {entries : Entries}
    (keyed : Entries.Keyed entries) : Yields (pairs scan fuel entries) Entries.Keyed := by
  induction fuel generalizing entries with
  | zero =>
      intro cs answer rest scanned
      simp [pairs] at scanned
  | succ fuel ih =>
      intro cs answer rest scanned
      simp only [pairs, bind, Option.bind_eq_some_iff] at scanned
      obtain ⟨⟨⟨path, value⟩, left⟩, read, key, -, next, set, scanned⟩ := scanned
      have keyedNext := keepsEntries_setKey (pair_keyed each _ _ _ read) _ _ _ keyed set
      split at scanned
      · exact ih keyedNext _ _ _ scanned
      · exact (Prod.mk.inj (Option.some.inj scanned)).1 ▸ keyedNext
      · simp at scanned

theorem inlineTable_keyed (each : Yields scan Value.Keyed) :
    Yields (inlineTable scan) Value.Keyed := by
  intro cs answer rest scanned
  rw [inlineTable] at scanned
  split at scanned
  · exact (Prod.mk.inj (Option.some.inj scanned)).1 ▸ .table .nil (by simp)
  · obtain ⟨⟨entries, left⟩, read, same⟩ := Option.map_eq_some_iff.mp scanned
    have keyed := pairs_keyed each _ Entries.keyed_nil _ _ _ read
    exact (Prod.mk.inj same).1 ▸ keyed.toValue

theorem valueOfDepth_keyed (depth : Nat) : Yields (valueOfDepth depth) Value.Keyed := by
  induction depth with
  | zero => exact atom_keyed
  | succ depth ih =>
      intro cs answer rest scanned
      rw [valueOfDepth.eq_def] at scanned
      simp only at scanned
      split at scanned
      · obtain ⟨⟨values, left⟩, read, same⟩ := Option.map_eq_some_iff.mp scanned
        exact (Prod.mk.inj same).1 ▸ .array (items_keyed ih _ _ _ _ read)
      · exact inlineTable_keyed ih _ _ _ scanned
      · exact atom_keyed _ _ _ scanned

theorem line_keyed {outline : Outline} (keyed : Entries.Keyed outline.root) :
    Yields (line outline) fun next => Entries.Keyed next.root := by
  intro cs answer rest scanned
  rw [line.eq_def] at scanned
  split at scanned
  · simp only [bind, Option.bind_eq_some_iff, pure, Option.some.injEq, Prod.mk.injEq] at scanned
    obtain ⟨⟨path, _⟩, -, _, -, _, -, _, -, next, defined, rfl, -⟩ := scanned
    exact define_keyed keyed keepsEntries_addTable defined
  · simp only [bind, Option.bind_eq_some_iff, pure, Option.some.injEq, Prod.mk.injEq] at scanned
    obtain ⟨⟨path, _⟩, -, _, -, _, -, next, defined, rfl, -⟩ := scanned
    exact define_keyed keyed keepsEntries_defineTable defined
  · split at scanned
    · exact (Prod.mk.inj (Option.some.inj scanned)).1 ▸ keyed
    · simp only [bind, Option.bind_eq_some_iff, pure, Option.some.injEq, Prod.mk.injEq] at scanned
      obtain ⟨⟨⟨path, value⟩, _⟩, read, _, -, next, set, rfl, -⟩ := scanned
      exact set_keyed keyed (pair_keyed (valueOfDepth_keyed maxDepth) _ _ _ read) set

theorem lines_keyed (fuel : Nat) {outline next : Outline} (keyed : Entries.Keyed outline.root)
    {cs : List Char} (read : lines fuel outline cs = some next) : Entries.Keyed next.root := by
  induction fuel generalizing outline cs with
  | zero => simp [lines] at read
  | succ fuel ih =>
      rw [lines] at read
      split at read
      · exact Option.some.inj read ▸ keyed
      · simp only [bind, Option.bind_eq_some_iff] at read
        obtain ⟨⟨middle, rest⟩, readLine, readRest⟩ := read
        exact ih (line_keyed keyed _ _ _ readLine) readRest

end Scanning

theorem read?_keyed {text : String} {document : Value} (read : read? text = some document) :
    document.Keyed := by
  simp only [read?, bind, Option.bind_eq_some_iff, pure, Option.some.injEq] at read
  obtain ⟨outline, readLines, rfl⟩ := read
  exact (lines_keyed _ Entries.keyed_nil readLines).toValue

end ReplayGen.Toml
