import ReplayGen.Proofs.Emission.Lines

set_option autoImplicit false

/-!
# Emitted text as source code

The C++ of replay functions, as far as they use it: expressions, statements and blocks. Their
forms are closed, so that what is printed as code holds no name that is not known here, either
as a local or as something declared elsewhere.

A block starts with the names it is given, such as the parameters of a function, and declares
more names as it goes. Inner blocks see what is declared before them, and keep their own names
to themselves.
-/

namespace ReplayGen

inductive Binding where
  | arrayBuffer
  | elementBuffer
  | framebuffer
  | program
  deriving DecidableEq, Repr

@[simp] def Binding.text : Binding → String
  | arrayBuffer => "GL_ARRAY_BUFFER_BINDING"
  | elementBuffer => "GL_ELEMENT_ARRAY_BUFFER_BINDING"
  | framebuffer => "GL_FRAMEBUFFER_BINDING_EXT"
  | program => "GL_CURRENT_PROGRAM"

inductive Prefixed where
  | minus
  | negation
  | address
  | pointee
  deriving DecidableEq, Repr

@[simp] def Prefixed.text : Prefixed → String
  | minus => "-"
  | negation => "!"
  | address => "&"
  | pointee => "*"

inductive Operator where
  | shift
  | sum
  | exceeds
  | below
  | differs
  deriving DecidableEq, Repr

@[simp] def Operator.text : Operator → String
  | shift => "<<"
  | sum => "+"
  | exceeds => ">"
  | below => "<"
  | differs => "!="

inductive Expression where
  | identifier (name : String)
  | qualified (space name : String)
  | number (value : Nat)
  | truth (value : Bool)
  | null
  | message (text : String)
  | state (queried : Binding)
  | unary (operator : Prefixed) (operand : Expression)
  | binary (operator : Operator) (left right : Expression)
  | grouped (inner : Expression)
  | field (owner : Expression) (member : String)
  | arrow (owner : Expression) (member : String)
  | element (array index : Expression)
  | cast (type : String) (operand : Expression)
  | narrowed (type : String) (operand : Expression)
  | created (type : String) (count : Expression)
  | called (function : String) (arguments : List Expression)
  | applied (method : Expression) (arguments : List Expression)

namespace Expression

mutual

@[simp] def text : Expression → String
  | identifier name => name
  | qualified space name => space ++ "::" ++ name
  | number value => toString value
  | truth value => if value then "true" else "false"
  | null => "NULL"
  | message text => "\"" ++ text ++ "\\n\""
  | state queried => queried.text
  | unary operator operand => operator.text ++ operand.text
  | binary operator left right => left.text ++ " " ++ operator.text ++ " " ++ right.text
  | grouped inner => "(" ++ inner.text ++ ")"
  | field owner member => owner.text ++ "." ++ member
  | arrow owner member => owner.text ++ "->" ++ member
  | element array index => array.text ++ "[" ++ index.text ++ "]"
  | cast type operand => "(" ++ type ++ ")" ++ operand.text
  | narrowed type operand => "dynamic_cast<" ++ type ++ ">(" ++ operand.text ++ ")"
  | created type count => "new " ++ type ++ "[" ++ count.text ++ "]"
  | called function arguments => function ++ "(" ++ ", ".intercalate (texts arguments) ++ ")"
  | applied method arguments => method.text ++ "(" ++ ", ".intercalate (texts arguments) ++ ")"

@[simp] def texts : List Expression → List String
  | [] => []
  | first :: rest => first.text :: texts rest

end

mutual

@[simp] def names : Expression → List String
  | identifier name => [name]
  | qualified .. | number _ | truth _ | null | message _ | state _ => []
  | unary _ operand | grouped operand | cast _ operand | narrowed _ operand => operand.names
  | binary _ left right => left.names ++ right.names
  | field owner _ | arrow owner _ => owner.names
  | element array index => array.names ++ index.names
  | created _ count => count.names
  | called _ arguments => allNames arguments
  | applied method arguments => method.names ++ allNames arguments

@[simp] def allNames : List Expression → List String
  | [] => []
  | first :: rest => first.names ++ allNames rest

end

@[simp] theorem texts_identifiers (list : List String) :
    texts (list.map identifier) = list := by
  induction list with
  | nil => rfl
  | cons first rest ih => simp [texts, text, ih]

@[simp] theorem allNames_identifiers (list : List String) :
    allNames (list.map identifier) = list := by
  induction list with
  | nil => rfl
  | cons first rest ih => simp [allNames, names, ih]

end Expression

inductive Statement where
  | declaration (type name : String)
  | initialized (type name : String) (value : Expression)
  | pointer (type name : String) (value : Expression)
  | assignment (target value : Expression)
  | placeholder (target : Expression)
  | increment (target : Expression)
  | evaluation (value : Expression)
  | leave
  | comment (text : String)

namespace Statement

@[simp] def text : Statement → String
  | declaration type name => type ++ " " ++ name ++ ";"
  | initialized type name value => type ++ " " ++ name ++ " = " ++ value.text ++ ";"
  | pointer type name value => type ++ " *" ++ name ++ " = " ++ value.text ++ ";"
  | assignment target value => target.text ++ " = " ++ value.text ++ ";"
  | placeholder target => target.text ++ " = 0; // FIXME"
  | increment target => target.text ++ "++;"
  | evaluation value => value.text ++ ";"
  | leave => "return;"
  | comment text => "// " ++ text

@[simp] def declared : Statement → List String
  | declaration _ name | initialized _ name _ | pointer _ name _ => [name]
  | assignment .. | placeholder _ | increment _ | evaluation _ | leave | comment _ => []

@[simp] def names : Statement → List String
  | declaration .. | leave | comment _ => []
  | initialized _ _ value | pointer _ _ value | evaluation value => value.names
  | assignment target value => target.names ++ value.names
  | placeholder target | increment target => target.names

end Statement

/-- Statements in order, and blocks. A loop counts an index of its own up to a bound. -/
inductive Source where
  | done
  | simple (statement : Statement) (rest : Source)
  | branch (condition : Expression) (taken rest : Source)
  | choice (condition : Expression) (taken otherwise rest : Source)
  | loop (index : String) (bound : Expression) (body rest : Source)

namespace Source

def append : Source → Source → Source
  | done, last => last
  | simple statement rest, last => simple statement (rest.append last)
  | branch condition taken rest, last => branch condition taken (rest.append last)
  | choice condition taken otherwise rest, last =>
      choice condition taken otherwise (rest.append last)
  | loop index bound body rest, last => loop index bound body (rest.append last)

instance : Append Source := ⟨append⟩

section Append

variable (last rest : Source)

@[simp] theorem done_append : done ++ last = last := rfl

@[simp] theorem simple_append (statement : Statement) :
    simple statement rest ++ last = simple statement (rest ++ last) := rfl

@[simp] theorem branch_append (condition : Expression) (taken : Source) :
    branch condition taken rest ++ last = branch condition taken (rest ++ last) := rfl

@[simp] theorem choice_append (condition : Expression) (taken otherwise : Source) :
    choice condition taken otherwise rest ++ last =
      choice condition taken otherwise (rest ++ last) := rfl

@[simp] theorem loop_append (index : String) (bound : Expression) (body : Source) :
    loop index bound body rest ++ last = loop index bound body (rest ++ last) := rfl

end Append

def join (parts : List Source) : Source :=
  parts.foldr (· ++ ·) done

@[simp] theorem join_cons (first : Source) (rest : List Source) :
    join (first :: rest) = first ++ join rest := rfl

section Printing

@[simp] def lines : Nat → Source → List Line
  | _, done => []
  | depth, simple statement rest => ⟨depth, statement.text⟩ :: rest.lines depth
  | depth, branch condition taken rest =>
      ⟨depth, "if (" ++ condition.text ++ ") \x7b"⟩ ::
        (taken.lines (depth + 1) ++ ⟨depth, "\x7d"⟩ :: rest.lines depth)
  | depth, choice condition taken otherwise rest =>
      ⟨depth, "if (" ++ condition.text ++ ") \x7b"⟩ ::
        (taken.lines (depth + 1) ++ ⟨depth, "\x7d else \x7b"⟩ ::
          (otherwise.lines (depth + 1) ++ ⟨depth, "\x7d"⟩ :: rest.lines depth))
  | depth, loop index bound body rest =>
      ⟨depth, "for (size_t " ++ index ++ " = 0; " ++ index ++ " < " ++ bound.text ++ "; ++"
          ++ index ++ ") \x7b"⟩ ::
        (body.lines (depth + 1) ++ ⟨depth, "\x7d"⟩ :: rest.lines depth)

theorem lines_append (first second : Source) (depth : Nat) :
    (first ++ second).lines depth = first.lines depth ++ second.lines depth := by
  induction first generalizing depth with
  | done => rfl
  | simple statement rest ih => simp [ih]
  | branch condition taken rest _ ih => simp [ih]
  | choice condition taken otherwise rest _ _ ih => simp [ih]
  | loop index bound body rest _ ih => simp [ih]

theorem lines_join (parts : List Source) (depth : Nat) :
    (join parts).lines depth = parts.flatMap (·.lines depth) := by
  induction parts with
  | nil => rfl
  | cons first rest ih => simp [lines_append, ih]

end Printing

section Declarations

@[simp] def declared : Source → List String
  | done => []
  | simple statement rest => statement.declared ++ rest.declared
  | branch _ _ rest | choice _ _ _ rest | loop _ _ _ rest => rest.declared

@[simp] def innerBlocks : Source → List (List String)
  | done => []
  | simple _ rest => rest.innerBlocks
  | branch _ taken rest => taken.declared :: (taken.innerBlocks ++ rest.innerBlocks)
  | choice _ taken otherwise rest =>
      taken.declared :: otherwise.declared ::
        (taken.innerBlocks ++ otherwise.innerBlocks ++ rest.innerBlocks)
  | loop index _ body rest =>
      (index :: body.declared) :: (body.innerBlocks ++ rest.innerBlocks)

def DeclaresOnceInside (source : Source) : Prop :=
  ∀ block ∈ source.innerBlocks, block.Nodup

/-- No block declares a name twice, the outermost one being given some already. -/
def DeclaresOnce (given : List String) (source : Source) : Prop :=
  (given ++ source.declared).Nodup ∧ source.DeclaresOnceInside

instance (source : Source) : Decidable source.DeclaresOnceInside :=
  inferInstanceAs (Decidable (∀ block ∈ source.innerBlocks, block.Nodup))

instance (given : List String) (source : Source) : Decidable (source.DeclaresOnce given) :=
  inferInstanceAs (Decidable (_ ∧ _))

theorem declared_append (first second : Source) :
    (first ++ second).declared = first.declared ++ second.declared := by
  induction first with
  | done => rfl
  | simple statement rest ih => simp [ih]
  | branch condition taken rest _ ih => simp [ih]
  | choice condition taken otherwise rest _ _ ih => simp [ih]
  | loop index bound body rest _ ih => simp [ih]

theorem innerBlocks_append (first second : Source) :
    (first ++ second).innerBlocks = first.innerBlocks ++ second.innerBlocks := by
  induction first with
  | done => rfl
  | simple statement rest ih => simp [ih]
  | branch condition taken rest _ ih => simp [ih]
  | choice condition taken otherwise rest _ _ ih => simp [ih]
  | loop index bound body rest _ ih => simp [ih]

theorem declared_join (parts : List Source) :
    (join parts).declared = parts.flatMap declared := by
  induction parts with
  | nil => rfl
  | cons first rest ih => simp [declared_append, ih]

theorem DeclaresOnceInside.append {first second : Source} (former : first.DeclaresOnceInside)
    (latter : second.DeclaresOnceInside) : (first ++ second).DeclaresOnceInside := by
  unfold DeclaresOnceInside
  rw [innerBlocks_append, List.forall_mem_append]
  exact ⟨former, latter⟩

theorem DeclaresOnceInside.ite {condition : Prop} [Decidable condition] {first second : Source}
    (former : first.DeclaresOnceInside) (latter : second.DeclaresOnceInside) :
    (if condition then first else second).DeclaresOnceInside := by
  split
  · exact former
  · exact latter

theorem declaresOnceInside_done : done.DeclaresOnceInside := by
  simp [DeclaresOnceInside]

theorem declaresOnceInside_join {parts : List Source}
    (each : ∀ part ∈ parts, part.DeclaresOnceInside) : (join parts).DeclaresOnceInside := by
  induction parts with
  | nil => exact declaresOnceInside_done
  | cons first rest ih =>
      exact (each first (by simp)).append (ih fun part listed => each part (by simp [listed]))

end Declarations

section Scopes

/-- The names that are used where none of the names visible there is the same, in order. A
name is visible from its declaration to the end of the block that declares it. -/
@[simp] def undeclared : List String → Source → List String
  | _, done => []
  | visible, simple statement rest =>
      statement.names.filter (· ∉ visible) ++ rest.undeclared (visible ++ statement.declared)
  | visible, branch condition taken rest =>
      condition.names.filter (· ∉ visible) ++ taken.undeclared visible ++ rest.undeclared visible
  | visible, choice condition taken otherwise rest =>
      condition.names.filter (· ∉ visible) ++ taken.undeclared visible ++
        otherwise.undeclared visible ++ rest.undeclared visible
  -- The head of the loop declares the index before it is compared and counted up.
  | visible, loop index bound body rest =>
      bound.names.filter (· ∉ visible ++ [index]) ++ body.undeclared (visible ++ [index]) ++
        rest.undeclared visible

theorem undeclared_append (first second : Source) (visible : List String) :
    (first ++ second).undeclared visible =
      first.undeclared visible ++ second.undeclared (visible ++ first.declared) := by
  induction first generalizing visible with
  | done => simp
  | simple statement rest ih => simp [ih]
  | branch condition taken rest _ ih => simp [ih]
  | choice condition taken otherwise rest _ _ ih => simp [ih]
  | loop index bound body rest _ ih => simp [ih]

theorem undeclared_join_eq_nil {parts : List Source} {needed visible : List String}
    (seen : needed ⊆ visible)
    (each : ∀ part ∈ parts, ∀ visible, needed ⊆ visible → part.undeclared visible = []) :
    (join parts).undeclared visible = [] := by
  induction parts generalizing visible with
  | nil => rfl
  | cons first rest ih =>
      have later : needed ⊆ visible ++ first.declared :=
        List.Subset.trans seen (List.subset_append_left _ _)
      rw [join_cons, undeclared_append, each first (by simp) visible seen,
        ih later fun part listed => each part (by simp [listed]), List.nil_append]

end Scopes

end Source

end ReplayGen
