import ReplayGen.Catalog.Load
import ReplayGen.Proofs.Catalog.Records

set_option autoImplicit false

namespace ReplayGen.Catalog

open Toml

section Fields

def Defaulted {α : Type} (means : Value → α → Prop) (default : α) : Option Value → α → Prop
  | none, meant => meant = default
  | some value, meant => means value meant

theorem Defaulted.unique {α : Type} {means : Value → α → Prop} {default first second : α}
    (only : ∀ value first second, means value first → means value second → first = second)
    {value : Option Value} (one : Defaulted means default value first)
    (other : Defaulted means default value second) : first = second := by
  cases value with
  | none => exact one.trans other.symm
  | some value => exact only value first second one other

def IsString (value : Value) (text : String) : Prop :=
  value = .string text

def IsBoolean (value : Value) (truth : Bool) : Prop :=
  value = .boolean truth

def IsArrayOf {α : Type} (describes : Value → α → Prop) (value : Value) (entries : List α) :
    Prop :=
  ∃ items, value = .array items ∧ List.Forall₂ describes items entries

theorem asString_eq_ok_iff {value : Value} {text : String} :
    asString value = .ok text ↔ IsString value text := by
  cases value <;> simp [asString, IsString]

theorem asBoolean_eq_ok_iff {value : Value} {truth : Bool} :
    asBoolean value = .ok truth ↔ IsBoolean value truth := by
  cases value <;> simp [asBoolean, IsBoolean]

theorem asSequence_eq_ok_iff {value : Value} {items : List Value} :
    asSequence value = .ok items ↔ value = .array items := by
  cases value <;> simp [asSequence]

theorem mapM_asSequence_eq_ok_iff {α : Type} {decode : Value → Except SchemaError α}
    {describes : Value → α → Prop} {value : Value}
    (decodes : ∀ {item entry}, item.Keyed → (decode item = .ok entry ↔ describes item entry))
    (keyed : value.Keyed) {entries : List α} :
    (asSequence value >>= fun items => items.mapM decode) = .ok entries ↔
      IsArrayOf describes value entries := by
  simp only [bind_eq_ok_iff, asSequence_eq_ok_iff, mapM_eq_ok_iff, IsArrayOf]
  refine exists_congr fun items => and_congr_right ?_
  rintro rfl
  cases keyed with
  | array each =>
      have only (relation : Value → α → Prop) : List.Forall₂ relation items entries ↔
          List.Forall₂ (fun item entry => item.Keyed ∧ relation item entry) items entries := by
        rw [List.forall₂_and_left, and_iff_right each]
      have same : ∀ item entry, item.Keyed ∧ decode item = .ok entry ↔
          item.Keyed ∧ describes item entry :=
        fun _ _ => and_congr_right decodes
      rw [only, only describes]
      simp only [same]

theorem isString_unique (value : Value) (first second : String) (one : IsString value first)
    (other : IsString value second) : first = second := by
  simpa using one.symm.trans other

theorem isBoolean_unique (value : Value) (first second : Bool) (one : IsBoolean value first)
    (other : IsBoolean value second) : first = second := by
  simpa using one.symm.trans other

theorem defaulted_isSome_iff {α : Type} {means : Value → α → Prop} {default meant : α}
    {value : Option Value} : Defaulted means default value meant ∧ value.isSome ↔
      ∃ given, value = some given ∧ means given meant := by
  cases value <;> simp [Defaulted]

theorem isArrayOf_unique {α : Type} {describes : Value → α → Prop}
    (only : ∀ value first second, describes value first → describes value second → first = second)
    (value : Value) (first second : List α) (one : IsArrayOf describes value first)
    (other : IsArrayOf describes value second) : first = second := by
  obtain ⟨items, rfl, described⟩ := one
  obtain ⟨items', same, describedToo⟩ := other
  obtain rfl := Value.array.inj same
  clear same
  induction described generalizing second with
  | nil =>
      cases describedToo
      rfl
  | cons own _ ih =>
      cases describedToo with
      | cons ownToo restToo => rw [only _ _ _ own ownToo, ih _ restToo]

end Fields

section Arguments

def argumentFields : List String :=
  ["name", "type", "array"]

/-- The fields give an argument its name and its type, both strings, and say by a boolean if it
is an array, which it is not if nothing is said. -/
structure ArgumentFields (given : List (String × Value)) (entry : ArgumentEntry) : Prop where
  known : ∀ field ∈ given, field.1 ∈ argumentFields
  name : valueOf? given "name" = some (.string entry.name)
  type : valueOf? given "type" = some (.string entry.type)
  array : Defaulted IsBoolean false (valueOf? given "array") entry.array

def DescribesArgument (value : Value) (entry : ArgumentEntry) : Prop :=
  ∃ given, given? argumentFields value = some given ∧ ArgumentFields given entry

structure ArgumentMade (given : String → Option Value) (entry : ArgumentEntry) : Prop where
  name : Defaulted IsString "" (given "name") entry.name
  type : Defaulted IsString "" (given "type") entry.type
  array : Defaulted IsBoolean false (given "array") entry.array

theorem argumentType_set_eq_ok_iff {position : Nat} {key : String} {value : Value}
    {record next : ArgumentEntry} (named : argumentType.fields[position]? = some key) :
    argumentType.set position value record = .ok next ↔
      (key = "name" ∧ ∃ name, IsString value name ∧ next = { record with name }) ∨
      (key = "type" ∧ ∃ type, IsString value type ∧ next = { record with type }) ∨
      (key = "array" ∧ ∃ array, IsBoolean value array ∧ next = { record with array }) := by
  match position, named with
  | 0, named | 1, named | 2, named =>
      obtain rfl := Option.some.inj named
      simp [argumentType, map_eq_ok_iff, asString_eq_ok_iff, asBoolean_eq_ok_iff]

theorem argumentType_makes : argumentType.Makes ArgumentMade where
  distinct := by decide
  bounded := by decide
  unique {given first second} one other := by
    obtain ⟨name, type, array⟩ := first
    obtain ⟨name', type', array'⟩ := second
    obtain rfl : name = name' := one.name.unique isString_unique other.name
    obtain rfl : type = type' := one.type.unique isString_unique other.type
    obtain rfl : array = array' := one.array.unique isBoolean_unique other.array
    rfl
  start := ⟨rfl, rfl, rfl⟩
  set {given record next position key value} named _ sofar set := by
    obtain ⟨rfl, name, read, rfl⟩ | ⟨rfl, type, read, rfl⟩ | ⟨rfl, array, read, rfl⟩ :=
      (argumentType_set_eq_ok_iff named).mp set
    · exact ⟨read, sofar.type, sofar.array⟩
    · exact ⟨sofar.name, read, sofar.array⟩
    · exact ⟨sofar.name, sofar.type, read⟩
  accepts {given record next position key value} named _ sofar whole := by
    have cases : key = "name" ∨ key = "type" ∨ key = "array" := by
      simpa [argumentType] using List.mem_of_getElem? named
    simp only [argumentType_set_eq_ok_iff named]
    rcases cases with rfl | rfl | rfl
    · exact ⟨_, .inl ⟨rfl, next.name, whole.name, rfl⟩⟩
    · exact ⟨_, .inr (.inl ⟨rfl, next.type, whole.type, rfl⟩)⟩
    · exact ⟨_, .inr (.inr ⟨rfl, next.array, whole.array, rfl⟩)⟩
  before {given next key value} known fresh whole := by
    have cases : key = "name" ∨ key = "type" ∨ key = "array" := by
      simpa [argumentType] using known
    rcases cases with rfl | rfl | rfl
    · exact ⟨{ next with name := "" }, by rw [fresh]; rfl, whole.type, whole.array⟩
    · exact ⟨{ next with type := "" }, whole.name, by rw [fresh]; rfl, whole.array⟩
    · exact ⟨{ next with array := false }, whole.name, whole.type, by rw [fresh]; rfl⟩

theorem argumentFields_iff {given : List (String × Value)} {entry : ArgumentEntry} :
    ArgumentFields given entry ↔
      (∀ field ∈ given, field.1 ∈ argumentFields) ∧ ArgumentMade (valueOf? given) entry ∧
        ∀ key ∈ ["name", "type"], (valueOf? given key).isSome := by
  constructor
  · rintro ⟨known, name, type, array⟩
    refine ⟨known, ⟨?_, ?_, array⟩, by simp [name, type]⟩
    · rw [name]
      rfl
    · rw [type]
      rfl
  · rintro ⟨known, made, complete⟩
    obtain ⟨_, name, rfl⟩ := defaulted_isSome_iff.mp ⟨made.name, complete _ (by simp)⟩
    obtain ⟨_, type, rfl⟩ := defaulted_isSome_iff.mp ⟨made.type, complete _ (by simp)⟩
    exact ⟨known, name, type, made.array⟩

theorem argumentType_ofValue_eq_ok_iff {value : Value} {entry : ArgumentEntry}
    (keyed : value.Keyed) :
    argumentType.ofValue value = .ok entry ↔ DescribesArgument value entry := by
  rw [RecordType.ofValue_eq_ok_iff argumentType_makes keyed]
  exact exists_congr fun given => and_congr_right fun _ => argumentFields_iff.symm

theorem describesArgument_unique (value : Value) (first second : ArgumentEntry)
    (one : DescribesArgument value first) (other : DescribesArgument value second) : first = second :=
  argumentType_makes.unique_of_fields (fun fields => (argumentFields_iff.mp fields).2.1) one other

theorem argumentEntries_eq_ok_iff {value : Value} {entries : List ArgumentEntry}
    (keyed : value.Keyed) :
    argumentEntries value = .ok entries ↔ IsArrayOf DescribesArgument value entries :=
  mapM_asSequence_eq_ok_iff argumentType_ofValue_eq_ok_iff keyed

end Arguments

section Functions

def functionFields : List String :=
  ["name", "ret", "args", "sideeffects"]

/-- The fields give a function its name, perhaps a type to return, its arguments one by one,
and say by a boolean if it has side effects, which it has if nothing is said. -/
structure FunctionFields (given : List (String × Value)) (entry : FunctionEntry) : Prop where
  known : ∀ field ∈ given, field.1 ∈ functionFields
  name : valueOf? given "name" = some (.string entry.name)
  returnType : valueOf? given "ret" = entry.returnType.map .string
  arguments : Defaulted (IsArrayOf DescribesArgument) [] (valueOf? given "args") entry.arguments
  sideEffects : Defaulted IsBoolean true (valueOf? given "sideeffects") entry.sideEffects

def DescribesFunction (value : Value) (entry : FunctionEntry) : Prop :=
  ∃ given, given? functionFields value = some given ∧ FunctionFields given entry

structure FunctionMade (given : String → Option Value) (entry : FunctionEntry) : Prop where
  name : Defaulted IsString "" (given "name") entry.name
  returnType : given "ret" = entry.returnType.map .string
  arguments : Defaulted (IsArrayOf DescribesArgument) [] (given "args") entry.arguments
  sideEffects : Defaulted IsBoolean true (given "sideeffects") entry.sideEffects

theorem functionType_set_eq_ok_iff {position : Nat} {key : String} {value : Value}
    {record next : FunctionEntry} (named : functionType.fields[position]? = some key)
    (keyed : value.Keyed) :
    functionType.set position value record = .ok next ↔
      (key = "name" ∧ ∃ name, IsString value name ∧ next = { record with name }) ∨
      (key = "ret" ∧ ∃ type, IsString value type ∧
        next = { record with returnType := some type }) ∨
      (key = "args" ∧ ∃ arguments, IsArrayOf DescribesArgument value arguments ∧
        next = { record with arguments }) ∨
      (key = "sideeffects" ∧ ∃ sideEffects, IsBoolean value sideEffects ∧
        next = { record with sideEffects }) := by
  match position, named with
  | 0, named | 1, named | 2, named | 3, named =>
      obtain rfl := Option.some.inj named
      simp [functionType, map_eq_ok_iff, asString_eq_ok_iff, asBoolean_eq_ok_iff,
        argumentEntries_eq_ok_iff keyed]

theorem functionType_makes : functionType.Makes FunctionMade where
  distinct := by decide
  bounded := by decide
  unique {given first second} one other := by
    obtain ⟨name, returnType, arguments, sideEffects⟩ := first
    obtain ⟨name', returnType', arguments', sideEffects'⟩ := second
    obtain rfl : name = name' := one.name.unique isString_unique other.name
    obtain rfl : returnType = returnType' :=
      Option.map_injective (fun _ _ => Value.string.inj) (one.returnType.symm.trans other.returnType)
    obtain rfl : arguments = arguments' :=
      one.arguments.unique (isArrayOf_unique describesArgument_unique) other.arguments
    obtain rfl : sideEffects = sideEffects' :=
      one.sideEffects.unique isBoolean_unique other.sideEffects
    rfl
  start := ⟨rfl, rfl, rfl, rfl⟩
  set {given record next position key value} named keyed sofar set := by
    obtain ⟨rfl, name, read, rfl⟩ | ⟨rfl, type, read, rfl⟩ | ⟨rfl, arguments, read, rfl⟩ |
      ⟨rfl, sideEffects, read, rfl⟩ := (functionType_set_eq_ok_iff named keyed).mp set
    · exact ⟨read, sofar.returnType, sofar.arguments, sofar.sideEffects⟩
    · exact ⟨sofar.name, congrArg some read, sofar.arguments, sofar.sideEffects⟩
    · exact ⟨sofar.name, sofar.returnType, read, sofar.sideEffects⟩
    · exact ⟨sofar.name, sofar.returnType, sofar.arguments, read⟩
  accepts {given record next position key value} named keyed sofar whole := by
    have cases : key = "name" ∨ key = "ret" ∨ key = "args" ∨ key = "sideeffects" := by
      simpa [functionType] using List.mem_of_getElem? named
    simp only [functionType_set_eq_ok_iff named keyed]
    rcases cases with rfl | rfl | rfl | rfl
    · exact ⟨_, .inl ⟨rfl, next.name, whole.name, rfl⟩⟩
    · obtain ⟨type, -, read⟩ := Option.map_eq_some_iff.mp whole.returnType.symm
      exact ⟨_, .inr (.inl ⟨rfl, type, read.symm, rfl⟩)⟩
    · exact ⟨_, .inr (.inr (.inl ⟨rfl, next.arguments, whole.arguments, rfl⟩))⟩
    · exact ⟨_, .inr (.inr (.inr ⟨rfl, next.sideEffects, whole.sideEffects, rfl⟩))⟩
  before {given next key value} known fresh whole := by
    have cases : key = "name" ∨ key = "ret" ∨ key = "args" ∨ key = "sideeffects" := by
      simpa [functionType] using known
    obtain ⟨name, returnType, arguments, sideEffects⟩ := whole
    rcases cases with rfl | rfl | rfl | rfl
    · exact ⟨{ next with name := "" }, by rw [fresh]; rfl, returnType, arguments, sideEffects⟩
    · exact ⟨{ next with returnType := none }, name, fresh, arguments, sideEffects⟩
    · exact ⟨{ next with arguments := [] }, name, returnType, by rw [fresh]; rfl, sideEffects⟩
    · exact ⟨{ next with sideEffects := true }, name, returnType, arguments, by rw [fresh]; rfl⟩

theorem functionFields_iff {given : List (String × Value)} {entry : FunctionEntry} :
    FunctionFields given entry ↔
      (∀ field ∈ given, field.1 ∈ functionFields) ∧ FunctionMade (valueOf? given) entry ∧
        ∀ key ∈ ["name"], (valueOf? given key).isSome := by
  constructor
  · rintro ⟨known, name, returnType, arguments, sideEffects⟩
    refine ⟨known, ⟨?_, returnType, arguments, sideEffects⟩, by simp [name]⟩
    rw [name]
    rfl
  · rintro ⟨known, made, complete⟩
    obtain ⟨_, name, rfl⟩ := defaulted_isSome_iff.mp ⟨made.name, complete _ (by simp)⟩
    exact ⟨known, name, made.returnType, made.arguments, made.sideEffects⟩

theorem functionType_ofValue_eq_ok_iff {value : Value} {entry : FunctionEntry}
    (keyed : value.Keyed) :
    functionType.ofValue value = .ok entry ↔ DescribesFunction value entry := by
  rw [RecordType.ofValue_eq_ok_iff functionType_makes keyed]
  exact exists_congr fun given => and_congr_right fun _ => functionFields_iff.symm

theorem describesFunction_unique (value : Value) (first second : FunctionEntry)
    (one : DescribesFunction value first) (other : DescribesFunction value second) : first = second :=
  functionType_makes.unique_of_fields (fun fields => (functionFields_iff.mp fields).2.1) one other

theorem functionEntries_eq_ok_iff {value : Value} {entries : List FunctionEntry}
    (keyed : value.Keyed) :
    functionEntries value = .ok entries ↔ IsArrayOf DescribesFunction value entries :=
  mapM_asSequence_eq_ok_iff functionType_ofValue_eq_ok_iff keyed

end Functions

section Catalogs

/-- The document is a table with no key but one, which need not be there, and its value is an
array that describes the functions one by one. -/
def DescribesCatalog (document : Value) (entries : List FunctionEntry) : Prop :=
  ∃ pairs, document = .table pairs ∧ (∀ pair ∈ pairs, pair.1 = functionKey) ∧
    Defaulted (IsArrayOf DescribesFunction) [] (valueOf? pairs functionKey) entries

-- A document is read as a record is that has one field, and that has to be a table.
def catalogType : RecordType (List FunctionEntry) where
  name := "CatalogFile"
  fields := [functionKey]
  required := 0
  start := []
  set _ value _ := functionEntries value

theorem entries_table (pairs : List (String × Value)) :
    entries (.table pairs) = catalogType.ofTable pairs := by
  have set : catalogType.setNamed = fun _ pair =>
      if pair.1 = functionKey then functionEntries pair.2
      else .error (.unknownField pair.1 [functionKey]) := by
    funext record ⟨key, value⟩
    by_cases known : key = functionKey
    · subst known
      have named : catalogType.fields[0]? = some functionKey := rfl
      exact RecordType.setNamed_of_field (by decide) named record value
    · have missing : catalogType.fields.findIdx? (· = key) = none := by
        simpa [catalogType] using fun same => known same.symm
      simp only [RecordType.setNamed, missing, if_neg known]
      rfl
  have complete : catalogType.missing? (pairs.map Prod.fst) = none := rfl
  simp only [RecordType.ofTable, complete, set, entries]
  exact (bind_pure _).symm

theorem catalogType_makes :
    catalogType.Makes fun given entries =>
      Defaulted (IsArrayOf DescribesFunction) [] (given functionKey) entries where
  distinct := by decide
  bounded := by decide
  unique one other := one.unique (isArrayOf_unique describesFunction_unique) other
  start := rfl
  set {given record next position key value} named keyed sofar set := by
    obtain rfl : key = functionKey := by simpa [catalogType] using List.mem_of_getElem? named
    simpa [Defaulted] using (functionEntries_eq_ok_iff keyed).mp set
  accepts {given record next position key value} named keyed sofar whole := by
    obtain rfl : key = functionKey := by simpa [catalogType] using List.mem_of_getElem? named
    exact ⟨next, (functionEntries_eq_ok_iff keyed).mpr (by simpa [Defaulted] using whole)⟩
  before {given next key value} known fresh whole := by
    obtain rfl : key = functionKey := by simpa [catalogType] using known
    exact ⟨[], by rw [fresh]; rfl⟩

theorem entries_eq_ok_iff {document : Value} (keyed : document.Keyed)
    {listed : List FunctionEntry} :
    entries document = .ok listed ↔ DescribesCatalog document listed := by
  cases keyed with
  | @table pairs distinct each =>
      rw [entries_table, RecordType.ofTable_eq_ok_iff,
        RecordType.foldlM_setNamed catalogType_makes distinct each]
      simp [DescribesCatalog, catalogType]
  | string | integer | float | boolean | moment | array =>
      simp [entries, DescribesCatalog]

end Catalogs

end ReplayGen.Catalog
