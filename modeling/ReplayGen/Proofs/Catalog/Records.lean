import Mathlib.Data.List.Forall2
import Mathlib.Data.List.Induction
import Mathlib.Data.List.Nodup
import Mathlib.Data.List.Perm.Subperm
import Mathlib.Logic.Function.Basic
import ReplayGen.Catalog.Schema
import ReplayGen.Proofs.Toml.Keyed

set_option autoImplicit false

namespace ReplayGen

open Toml

namespace Catalog

theorem bind_eq_ok_iff {ε α β : Type} {first : Except ε α} {next : α → Except ε β} {answer : β} :
    (first >>= next) = .ok answer ↔ ∃ middle, first = .ok middle ∧ next middle = .ok answer := by
  cases first <;> simp [bind, Except.bind]

theorem map_eq_ok_iff {ε α β : Type} {make : α → β} {first : Except ε α} {answer : β} :
    make <$> first = .ok answer ↔ ∃ middle, first = .ok middle ∧ answer = make middle := by
  cases first <;> simp [Functor.map, Except.map, eq_comm]

theorem mapM_eq_ok_iff {ε α β : Type} {decode : α → Except ε β} {items : List α}
    {answers : List β} :
    items.mapM decode = .ok answers ↔
      List.Forall₂ (fun item answer => decode item = .ok answer) items answers := by
  induction items generalizing answers with
  | nil => cases answers <;> simp [pure, Except.pure]
  | cons item rest ih =>
      rw [List.mapM_cons, bind_eq_ok_iff]
      simp only [bind_eq_ok_iff, ih]
      constructor
      · rintro ⟨first, decoded, others, decodedRest, same⟩
        obtain rfl := Except.ok.inj same
        exact .cons decoded decodedRest
      · rintro (_ | ⟨decoded, decodedRest⟩)
        exact ⟨_, decoded, _, decodedRest, rfl⟩

/-- The fields that a record with fields of these names gives. Values of an array beyond the
last field are ignored. -/
def given? (fields : List String) : Value → Option (List (String × Value))
  | .table pairs => some pairs
  | .array items => some (fields.zip items)
  | _ => none

theorem map_fst_zip (fields : List String) (items : List Value) :
    (fields.zip items).map Prod.fst = fields.take items.length := by
  induction fields generalizing items with
  | nil => simp
  | cons field rest ih => cases items <;> simp [ih]

end Catalog

theorem Toml.Value.Keyed.given {fields : List String} {value : Value} (keyed : value.Keyed)
    (distinct : fields.Nodup) {given : List (String × Value)}
    (gives : Catalog.given? fields value = some given) :
    (given.map Prod.fst).Nodup ∧ ∀ field ∈ given, field.2.Keyed := by
  cases keyed with
  | table distinctKeys each =>
      obtain rfl := Option.some.inj gives
      exact ⟨distinctKeys, each⟩
  | array each =>
      obtain rfl := Option.some.inj gives
      rw [Catalog.map_fst_zip]
      exact ⟨distinct.sublist (List.take_sublist _ _), fun field listed =>
        each field.2 (List.of_mem_zip listed).2⟩
  | string | integer | float | boolean | moment => simp [Catalog.given?] at gives

namespace Catalog

def valueOf? (given : List (String × Value)) (key : String) : Option Value :=
  List.lookup key given

theorem valueOf?_eq_none_iff {given : List (String × Value)} {key : String} :
    valueOf? given key = none ↔ key ∉ given.map Prod.fst := by
  simp only [valueOf?, List.lookup_eq_none_iff, List.mem_map, not_exists, not_and, bne_iff_ne, ne_eq]
  exact forall_congr' fun field => forall_congr' fun _ => not_congr eq_comm

theorem valueOf?_append_single {given : List (String × Value)} {key : String}
    (fresh : key ∉ given.map Prod.fst) (value : Value) :
    valueOf? (given ++ [(key, value)]) = Function.update (valueOf? given) key (some value) := by
  funext other
  have appended : valueOf? (given ++ [(key, value)]) other =
      (valueOf? given other).or (if other = key then some value else none) := by
    by_cases same : other = key
    · simp [valueOf?, List.lookup_append, same]
    · simp [valueOf?, List.lookup_append, List.lookup_cons, same, beq_false_of_ne same]
  rw [appended]
  by_cases same : other = key
  · subst same
    simp [valueOf?_eq_none_iff.mpr fresh]
  · simp [same]

namespace RecordType

variable {α : Type} {type : RecordType α}

/-- What the record type decodes is known by a relation between the fields that are given and
the one record they make. -/
structure Makes (type : RecordType α) (made : (String → Option Value) → α → Prop) : Prop where
  distinct : type.fields.Nodup
  bounded : type.required ≤ type.fields.length
  unique : ∀ {given : String → Option Value} {first second : α}, made given first →
    made given second → first = second
  start : made (fun _ => none) type.start
  set : ∀ {given : String → Option Value} {record next : α} {position : Nat} {key : String}
    {value : Value}, type.fields[position]? = some key → value.Keyed → made given record →
    type.set position value record = .ok next →
    made (Function.update given key (some value)) next
  accepts : ∀ {given : String → Option Value} {record next : α} {position : Nat} {key : String}
    {value : Value}, type.fields[position]? = some key → value.Keyed → made given record →
    made (Function.update given key (some value)) next →
    ∃ other, type.set position value record = .ok other
  before : ∀ {given : String → Option Value} {next : α} {key : String} {value : Value},
    key ∈ type.fields → given key = none → made (Function.update given key (some value)) next →
    ∃ record, made given record

variable {made : (String → Option Value) → α → Prop}

theorem setNamed_of_field (distinct : type.fields.Nodup) {position : Nat} {key : String}
    (named : type.fields[position]? = some key) (record : α) (value : Value) :
    type.setNamed record (key, value) = type.set position value record := by
  obtain ⟨within, rfl⟩ := List.getElem?_eq_some_iff.mp named
  have found : type.fields.findIdx? (· = type.fields[position]) = some position := by
    rw [List.findIdx?_eq_some_iff_getElem]
    refine ⟨within, by simp, fun earlier before same => ?_⟩
    have := (distinct.getElem_inj_iff).mp (by simpa using same)
    omega
  simp only [setNamed, found]

theorem setNamed_eq_ok_iff (makes : type.Makes made) {given : String → Option Value}
    {record next : α} {field : String × Value} (keyed : field.2.Keyed)
    (sofar : made given record) :
    type.setNamed record field = .ok next ↔
      field.1 ∈ type.fields ∧ made (Function.update given field.1 (some field.2)) next := by
  obtain ⟨key, value⟩ := field
  by_cases known : key ∈ type.fields
  · obtain ⟨position, named⟩ := List.mem_iff_getElem?.mp known
    rw [setNamed_of_field makes.distinct named]
    refine ⟨fun set => ⟨known, makes.set named keyed sofar set⟩, fun ⟨_, whole⟩ => ?_⟩
    obtain ⟨other, set⟩ := makes.accepts named keyed sofar whole
    rw [set, makes.unique (makes.set named keyed sofar set) whole]
  · have missing : type.fields.findIdx? (· = key) = none := by
      rw [List.findIdx?_eq_none_iff]
      intro other listed
      simpa using fun same : other = key => known (same ▸ listed)
    simp [setNamed, missing, known]

theorem foldlM_setNamed (makes : type.Makes made) {given : List (String × Value)}
    (distinct : (given.map Prod.fst).Nodup) (keyed : ∀ field ∈ given, field.2.Keyed)
    {record : α} :
    given.foldlM type.setNamed type.start = .ok record ↔
      (∀ field ∈ given, field.1 ∈ type.fields) ∧ made (valueOf? given) record := by
  induction given using List.reverseRecOn generalizing record with
  | nil =>
      have empty : valueOf? [] = fun _ => none := by
        funext key
        rfl
      have start : type.start = record ↔ made (fun _ => none) record :=
        ⟨fun same => same ▸ makes.start, makes.unique makes.start⟩
      simp [empty, start, pure, Except.pure]
  | append_singleton front field ih =>
      obtain ⟨key, value⟩ := field
      rw [List.map_append, List.map_singleton, List.nodup_append_comm, List.singleton_append,
        List.nodup_cons] at distinct
      obtain ⟨fresh, distinct⟩ := distinct
      rw [List.forall_mem_append, List.forall_mem_singleton] at keyed
      obtain ⟨frontKeyed, own⟩ := keyed
      have last (middle : α) : [(key, value)].foldlM type.setNamed middle =
          type.setNamed middle (key, value) := by
        simp
      simp only [List.foldlM_append, bind_eq_ok_iff, ih distinct frontKeyed, last,
        List.forall_mem_append, List.forall_mem_singleton, valueOf?_append_single fresh]
      constructor
      · rintro ⟨middle, ⟨known, sofar⟩, set⟩
        obtain ⟨named, whole⟩ := (setNamed_eq_ok_iff makes own sofar).mp set
        exact ⟨⟨known, named⟩, whole⟩
      · rintro ⟨⟨known, named⟩, whole⟩
        obtain ⟨middle, sofar⟩ := makes.before named (valueOf?_eq_none_iff.mpr fresh) whole
        exact ⟨middle, ⟨known, sofar⟩, (setNamed_eq_ok_iff makes own sofar).mpr ⟨named, whole⟩⟩

theorem missing?_eq_none_iff {given : List (String × Value)} :
    type.missing? (given.map Prod.fst) = none ↔
      ∀ key ∈ type.fields.take type.required, (valueOf? given key).isSome := by
  simp only [missing?, List.find?_eq_none, decide_eq_true_eq, not_not, Option.isSome_iff_ne_none,
    ne_eq, valueOf?_eq_none_iff]

theorem ofTable_eq_ok_iff {pairs : List (String × Value)} {record : α} :
    type.ofTable pairs = .ok record ↔
      pairs.foldlM type.setNamed type.start = .ok record ∧
        ∀ key ∈ type.fields.take type.required, (valueOf? pairs key).isSome := by
  simp only [ofTable, bind_eq_ok_iff, ← missing?_eq_none_iff]
  constructor
  · rintro ⟨middle, folded, checked⟩
    split at checked
    · simp at checked
    next complete => exact ⟨folded.trans checked, complete⟩
  · rintro ⟨folded, complete⟩
    exact ⟨record, folded, by rw [complete]⟩

theorem setFrom_eq_foldlM (distinct : type.fields.Nodup) (position : Nat) (record : α)
    (items : List Value) :
    type.setFrom position record items =
      ((type.fields.drop position).zip items).foldlM type.setNamed record := by
  induction items generalizing position record with
  | nil => simp [setFrom, pure, Except.pure]
  | cons item rest ih =>
      rw [setFrom]
      split
      next within =>
        rw [List.drop_eq_getElem_cons within, List.zip_cons_cons, List.foldlM_cons,
          setNamed_of_field distinct (List.getElem?_eq_getElem within)]
        simp only [ih]
      next beyond =>
        rw [List.drop_eq_nil_of_le (Nat.le_of_not_lt beyond), List.zip_nil_left]
        rfl

theorem ofArray_eq_ok_iff (makes : type.Makes made) {items : List Value} {record : α} :
    type.ofArray items = .ok record ↔ type.ofTable (type.fields.zip items) = .ok record := by
  -- The names of the fields are distinct, so the first are all given only if there are enough.
  have complete : (∀ key ∈ type.fields.take type.required,
      (valueOf? (type.fields.zip items) key).isSome) ↔ type.required ≤ items.length := by
    simp only [Option.isSome_iff_ne_none, ne_eq, valueOf?_eq_none_iff, not_not, map_fst_zip]
    constructor
    · intro given
      have sizes := (List.subperm_of_subset (makes.distinct.sublist (List.take_sublist _ _))
        given).length_le
      have bounded := makes.bounded
      rw [List.length_take, List.length_take] at sizes
      omega
    · intro enough key named
      exact (List.take_subset_take_left _ enough) named
  rw [ofTable_eq_ok_iff, complete]
  simp only [ofArray, bind_eq_ok_iff, setFrom_eq_foldlM makes.distinct, List.drop_zero]
  constructor
  · rintro ⟨middle, folded, checked⟩
    split at checked
    · simp at checked
    next enough => exact ⟨folded.trans checked, Nat.le_of_not_lt enough⟩
  · rintro ⟨folded, enough⟩
    exact ⟨record, folded, by rw [if_neg (Nat.not_lt.mpr enough)]⟩

theorem ofValue_eq_ok_iff (makes : type.Makes made) {value : Value}
    (keyed : value.Keyed) {record : α} :
    type.ofValue value = .ok record ↔
      ∃ given, given? type.fields value = some given ∧
        (∀ field ∈ given, field.1 ∈ type.fields) ∧ made (valueOf? given) record ∧
        ∀ key ∈ type.fields.take type.required, (valueOf? given key).isSome := by
  have given {given : List (String × Value)} (gives : given? type.fields value = some given) :
      type.ofTable given = .ok record ↔
        (∀ field ∈ given, field.1 ∈ type.fields) ∧ made (valueOf? given) record ∧
        ∀ key ∈ type.fields.take type.required, (valueOf? given key).isSome := by
    obtain ⟨distinct, each⟩ := keyed.given makes.distinct gives
    rw [ofTable_eq_ok_iff, foldlM_setNamed makes distinct each, and_assoc]
  cases value with
  | table pairs =>
      have gives : given? type.fields (.table pairs) = some pairs := rfl
      simp [ofValue, given gives, gives]
  | array items =>
      have gives : given? type.fields (.array items) = some (type.fields.zip items) := rfl
      simp only [ofValue, ofArray_eq_ok_iff makes, given gives, gives, Option.some.injEq,
        exists_eq_left']
  | string | integer | float | boolean | moment => simp [ofValue, given?]

theorem Makes.unique_of_fields (makes : type.Makes made)
    {describes : List (String × Value) → α → Prop}
    (described : ∀ {given record}, describes given record → made (valueOf? given) record)
    {fields : List String} {value : Value} {first second : α}
    (one : ∃ given, given? fields value = some given ∧ describes given first)
    (other : ∃ given, given? fields value = some given ∧ describes given second) :
    first = second := by
  obtain ⟨given, gives, own⟩ := one
  obtain ⟨_, givesToo, too⟩ := other
  obtain rfl := Option.some.inj (gives.symm.trans givesToo)
  exact makes.unique (described own) (described too)

end RecordType

end Catalog

end ReplayGen
