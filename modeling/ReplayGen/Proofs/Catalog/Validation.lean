import Mathlib.Data.List.Nodup
import Mathlib.Order.Nat
import ReplayGen.Catalog.Basic

set_option autoImplicit false

namespace ReplayGen

def RepeatsAt (names : List String) (position : Nat) : Prop :=
  ∃ name, names[position]? = some name ∧ name ∈ names.take position

theorem repeatsAt_take {names : List String} {limit position : Nat} :
    RepeatsAt (names.take limit) position ↔ position < limit ∧ RepeatsAt names position := by
  by_cases within : position < limit
  · simp [RepeatsAt, List.take_take, within, Nat.min_eq_left within.le]
  · have outside : (names.take limit)[position]? = none :=
      List.getElem?_take_eq_none (Nat.le_of_not_lt within)
    rw [RepeatsAt, outside]
    simp [within]

theorem nodup_iff_not_repeatsAt {names : List String} :
    names.Nodup ↔ ∀ position, ¬ RepeatsAt names position := by
  constructor
  · rintro distinct position ⟨name, here, earlier⟩
    have later : name ∈ names.drop position := by
      rw [← Nat.add_zero position, ← List.getElem?_drop] at here
      exact List.mem_of_getElem? here
    exact List.disjoint_take_drop distinct position.le_refl earlier later
  · rw [List.nodup_iff_getElem?_ne_getElem?]
    intro clear first second before within same
    have here := List.getElem?_eq_getElem within
    refine clear second ⟨names[second], here, ?_⟩
    apply List.mem_of_getElem? (i := first)
    rw [List.getElem?_take_of_lt before, same, here]

theorem eq_take_append_of_getElem? {α : Type} {items : List α} {position : Nat} {item : α}
    (here : items[position]? = some item) :
    items = items.take position ++ item :: items.drop (position + 1) := by
  obtain ⟨within, rfl⟩ := List.getElem?_eq_some_iff.mp here
  rw [← List.drop_eq_getElem_cons within, List.take_append_drop]

theorem firstRepeat?_append (seen front rest : List String) :
    firstRepeat? seen (front ++ rest) =
      (firstRepeat? seen front).or (firstRepeat? (front.reverse ++ seen) rest) := by
  induction front generalizing seen with
  | nil => simp [firstRepeat?]
  | cons name others ih =>
      by_cases known : name ∈ seen <;> simp [firstRepeat?, known, ih]

theorem firstRepeat?_of_least {names : List String} {position : Nat} {name : String}
    (least : IsLeast {i | RepeatsAt names i} position) (here : names[position]? = some name) :
    firstRepeat? [] names = some name := by
  have distinct : (names.take position).Nodup := by
    rw [nodup_iff_not_repeatsAt]
    intro earlier repeats
    obtain ⟨before, repeats⟩ := repeatsAt_take.mp repeats
    exact absurd (least.2 repeats) (by omega)
  have clear := (firstRepeat?_eq_none_iff [] (names.take position)).mpr ⟨distinct, by simp⟩
  obtain ⟨other, there, earlier⟩ := least.1
  obtain rfl : name = other := Option.some.inj (here.symm.trans there)
  rw [eq_take_append_of_getElem? here, firstRepeat?_append, clear]
  simp [firstRepeat?, earlier]

def OffendsAt (functions : List Function) (position : Nat) : Prop :=
  RepeatsAt (functions.map Function.name) position ∨
    ∃ f, functions[position]? = some f ∧ ¬ f.argumentNames.Nodup

inductive ReportedAt (functions : List Function) (position : Nat) : Duplicate → Prop
  | function {f : Function} (here : functions[position]? = some f)
      (repeated : RepeatsAt (functions.map Function.name) position) :
      ReportedAt functions position (.function f.name)
  | argument {f : Function} (here : functions[position]? = some f)
      (fresh : ¬ RepeatsAt (functions.map Function.name) position) {place : Nat} {name : String}
      (least : IsLeast {i | RepeatsAt f.argumentNames i} place)
      (there : f.argumentNames[place]? = some name) :
      ReportedAt functions position (.argument f.name name)

theorem offendsAt_take {functions : List Function} {limit position : Nat} :
    OffendsAt (functions.take limit) position ↔
      position < limit ∧ OffendsAt functions position := by
  rw [OffendsAt, List.map_take, repeatsAt_take, OffendsAt, and_or_left]
  by_cases within : position < limit
  · simp [within]
  · have outside : (functions.take limit)[position]? = none :=
      List.getElem?_take_eq_none (Nat.le_of_not_lt within)
    rw [outside]
    simp [within]

theorem exists_reportedAt {functions : List Function} {position : Nat}
    (offends : OffendsAt functions position) : ∃ offence, ReportedAt functions position offence := by
  classical
  by_cases repeated : RepeatsAt (functions.map Function.name) position
  · have ⟨name, here, _⟩ := repeated
    rw [List.getElem?_map, Option.map_eq_some_iff] at here
    obtain ⟨f, here, -⟩ := here
    exact ⟨_, .function here repeated⟩
  · obtain ⟨f, here, twice⟩ := offends.resolve_left repeated
    rw [nodup_iff_not_repeatsAt, not_forall_not] at twice
    have least := Nat.isLeast_find twice
    obtain ⟨name, there, -⟩ := least.1
    exact ⟨_, .argument here repeated least there⟩

namespace Duplicate

theorem first?_append (seen : List String) (front rest : List Function) :
    first? seen (front ++ rest) =
      (first? seen front).or (first? ((front.map Function.name).reverse ++ seen) rest) := by
  induction front generalizing seen with
  | nil => simp [first?]
  | cons f others ih =>
      by_cases known : f.name ∈ seen
      · simp [first?, known]
      · cases repeated : firstRepeat? [] f.argumentNames <;> simp [first?, known, repeated, ih]

theorem first?_eq_none_iff_not_offendsAt {functions : List Function} :
    first? [] functions = none ↔ ∀ position, ¬ OffendsAt functions position := by
  simp only [OffendsAt, not_or, forall_and, ← nodup_iff_not_repeatsAt]
  rw [first?_eq_none_iff]
  refine and_congr (by simp) ⟨?_, ?_⟩
  · rintro distinct position ⟨f, here, twice⟩
    exact twice (distinct f (List.mem_of_getElem? here))
  · intro clear f listed
    obtain ⟨position, here⟩ := List.mem_iff_getElem?.mp listed
    exact Classical.byContradiction fun twice => clear position ⟨f, here, twice⟩

theorem first?_of_least {functions : List Function} {position : Nat} {offence : Duplicate}
    (least : IsLeast {i | OffendsAt functions i} position)
    (reported : ReportedAt functions position offence) : first? [] functions = some offence := by
  have clear : first? [] (functions.take position) = none := by
    rw [first?_eq_none_iff_not_offendsAt]
    intro earlier offends
    obtain ⟨before, offends⟩ := offendsAt_take.mp offends
    exact absurd (least.2 offends) (by omega)
  -- The functions in front are clear, and have the names that were seen.
  have scanned {f : Function} (here : functions[position]? = some f) :
      first? [] functions =
        first? ((functions.take position).map Function.name).reverse
          (f :: functions.drop (position + 1)) := by
    conv => lhs; rw [eq_take_append_of_getElem? here]
    rw [first?_append, clear, Option.none_or, List.append_nil]
  have seen {f : Function} (here : functions[position]? = some f) :
      f.name ∈ ((functions.take position).map Function.name).reverse ↔
        RepeatsAt (functions.map Function.name) position := by
    simp [RepeatsAt, here, List.map_take]
  cases reported with
  | function here repeated => rw [scanned here, first?, if_pos ((seen here).mpr repeated)]
  | argument here fresh leastPlace there =>
      rw [scanned here, first?, if_neg (mt (seen here).mp fresh),
        firstRepeat?_of_least leastPlace there]

theorem first?_eq_some_iff {functions : List Function} {offence : Duplicate} :
    first? [] functions = some offence ↔
      ∃ position, IsLeast {i | OffendsAt functions i} position ∧
        ReportedAt functions position offence := by
  classical
  constructor
  · intro found
    have some : ∃ position, OffendsAt functions position := by
      rw [← not_forall_not, ← first?_eq_none_iff_not_offendsAt, found]
      simp
    have least := Nat.isLeast_find some
    obtain ⟨other, reported⟩ := exists_reportedAt least.1
    obtain rfl : offence = other :=
      Option.some.inj (found.symm.trans (first?_of_least least reported))
    exact ⟨_, least, reported⟩
  · rintro ⟨position, least, reported⟩
    exact first?_of_least least reported

end Duplicate

namespace Catalog

theorem functions_of_ofFunctions {functions : List Function} {catalog : Catalog}
    (accepted : ofFunctions functions = .ok catalog) : catalog.functions = functions := by
  unfold ofFunctions at accepted
  split at accepted
  · simp at accepted
  · obtain rfl := Except.ok.inj accepted
    rfl

theorem exists_ofFunctions_iff {functions : List Function} :
    (∃ catalog, ofFunctions functions = .ok catalog) ↔ Duplicate.first? [] functions = none := by
  unfold ofFunctions
  split
  next found => simp [found]
  next clear => simp [clear]

theorem ofFunctions_eq_error_iff {functions : List Function} {offence : Duplicate} :
    ofFunctions functions = .error offence ↔ Duplicate.first? [] functions = some offence := by
  unfold ofFunctions
  split
  next found => simp [found]
  next clear => simp [clear]

theorem get?_eq_some_iff (catalog : Catalog) (name : String) (f : Function) :
    catalog.get? name = some f ↔ catalog.functions.filter (·.name = name) = [f] := by
  rw [get?, ← List.head?_filter]
  constructor
  · intro found
    obtain ⟨others, same⟩ := List.head?_eq_some_iff.mp found
    have named : ∀ g ∈ catalog.functions.filter (·.name = name), g.name = name := by simp
    have distinct : ((catalog.functions.filter (·.name = name)).map Function.name).Nodup :=
      catalog.distinctNames.sublist (List.filter_sublist.map Function.name)
    rw [same] at named distinct ⊢
    cases others with
    | nil => rfl
    | cons second rest => simp [named f (by simp), named second (by simp)] at distinct
  · intro alone
    rw [alone]
    rfl

theorem ofFunctions_first_offence (functions : List Function) :
    ((∃ catalog, ofFunctions functions = .ok catalog) ↔
      (functions.map Function.name).Nodup ∧ ∀ f ∈ functions, f.argumentNames.Nodup) ∧
    (∀ catalog, ofFunctions functions = .ok catalog →
      catalog.functions = functions ∧
      (∀ f ∈ functions, catalog.get? f.name = some f) ∧
      ∀ name f, catalog.get? name = some f ↔ functions.filter (·.name = name) = [f]) ∧
    ∀ offence, ofFunctions functions = .error offence ↔
      ∃ position, IsLeast {i | OffendsAt functions i} position ∧
        ReportedAt functions position offence := by
  refine ⟨?_, fun catalog accepted => ?_, fun offence => ?_⟩
  · rw [exists_ofFunctions_iff, Duplicate.first?_eq_none_iff]
    simp
  · obtain rfl := functions_of_ofFunctions accepted
    refine ⟨rfl, fun f listed => ?_, catalog.get?_eq_some_iff⟩
    obtain ⟨g, found⟩ : ∃ g, catalog.get? f.name = some g :=
      Option.isSome_iff_exists.mp (List.find?_isSome.mpr ⟨f, listed, by simp⟩)
    have listedOther := List.mem_of_find?_eq_some found
    have sameName : g.name = f.name := by simpa using List.find?_some found
    rw [found, List.inj_on_of_nodup_map catalog.distinctNames listedOther listed sameName]
  · rw [ofFunctions_eq_error_iff, Duplicate.first?_eq_some_iff]

-- The second function offends in two ways, and the third in one of them.
def twiceListed : List Function :=
  [.build "glScissor" [.argument "x" "GLint" false, .argument "y" "GLint" false],
    .build "glScissor" [.argument "x" "GLint" false, .argument "x" "GLint" false],
    .build "glViewport" [.argument "x" "GLint" false, .argument "x" "GLint" false]]

theorem ofFunctions_first_offence_twiceListed :
    ofFunctions twiceListed = .error (.function "glScissor") ∧
      ∃ catalog, ofFunctions (twiceListed.take 1) = .ok catalog ∧
        catalog.get? "glScissor" = twiceListed.head? := by
  constructor
  · have repeated : RepeatsAt (twiceListed.map Function.name) 1 := ⟨"glScissor", rfl, by decide⟩
    have least : IsLeast {i | OffendsAt twiceListed i} 1 := by
      refine ⟨.inl repeated, fun position offends => Nat.pos_of_ne_zero ?_⟩
      rintro rfl
      rcases offends with ⟨name, -, earlier⟩ | ⟨f, here, twice⟩
      · simp at earlier
      · obtain rfl := Option.some.inj here
        exact twice (by decide)
    exact ((ofFunctions_first_offence twiceListed).2.2 _).mpr ⟨1, least, .function rfl repeated⟩
  · obtain ⟨accepted, kept, -⟩ := ofFunctions_first_offence (twiceListed.take 1)
    obtain ⟨catalog, held⟩ := accepted.mpr (by decide)
    exact ⟨catalog, held, (kept catalog held).2.1 _ List.mem_cons_self⟩

end Catalog

end ReplayGen
