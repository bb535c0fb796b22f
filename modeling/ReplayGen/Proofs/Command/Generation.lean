import ReplayGen.Command.Generate
import ReplayGen.Proofs.Command.Files

set_option autoImplicit false

namespace ReplayGen

namespace Catalog

inductive Refuses : Except FileError ByteArray → LoadError → Prop where
  | unread (error : FileError) : Refuses (.error error) (.file error)
  | notText {bytes : ByteArray} (encoded : String.fromUTF8? bytes = none) :
      Refuses (.ok bytes) (.file .invalidText)
  | notDocument {bytes : ByteArray} {text : String} (encoded : String.fromUTF8? bytes = some text)
      (read : Toml.read? text = none) : Refuses (.ok bytes) .malformed
  | notDescribed {bytes : ByteArray} {text : String} {document : Toml.Value} {error : SchemaError}
      (encoded : String.fromUTF8? bytes = some text) (read : Toml.read? text = some document)
      (described : entries document = .error error) : Refuses (.ok bytes) (.schema error)
  | twice {bytes : ByteArray} {text : String} {document : Toml.Value} {list : List FunctionEntry}
      {offence : Duplicate} (encoded : String.fromUTF8? bytes = some text)
      (read : Toml.read? text = some document) (described : entries document = .ok list)
      (offends : ofFunctions (list.map FunctionEntry.function) = .error offence) :
      Refuses (.ok bytes) (.duplicate offence)

section Errors

variable {α ε δ : Type} (change : ε → δ)

theorem mapError_ok (answer : α) :
    (Except.ok answer : Except ε α).mapError change = .ok answer := rfl

theorem mapError_error (error : ε) :
    (Except.error error : Except ε α).mapError change = .error (change error) := rfl

end Errors

theorem refuses_of_ofFile {content : Except FileError ByteArray} {error : LoadError}
    (failed : ofFile content = .error error) : Refuses content error := by
  cases content with
  | error unread =>
      obtain rfl := Except.error.inj failed
      exact .unread unread
  | ok bytes =>
      have failed : ofBytes bytes = .error error := failed
      unfold ofBytes at failed
      split at failed
      next text encoded =>
        unfold ofText at failed
        split at failed
        next document read =>
          unfold ofValue at failed
          cases described : entries document with
          | error wrong =>
              rw [described] at failed
              obtain rfl := Except.error.inj failed
              exact .notDescribed encoded read described
          | ok list =>
              rw [described] at failed
              have failed : ofEntries list = .error error := failed
              unfold ofEntries at failed
              cases offends : ofFunctions (list.map FunctionEntry.function) with
              | error offence =>
                  rw [offends] at failed
                  obtain rfl := Except.error.inj failed
                  exact .twice encoded read described offends
              | ok catalog => simp [offends, mapError_ok] at failed
        next read =>
          obtain rfl := Except.error.inj failed
          exact .notDocument encoded read
      next encoded =>
        obtain rfl := Except.error.inj failed
        exact .notText encoded

theorem ofFile_of_refuses {content : Except FileError ByteArray} {error : LoadError}
    (refuses : Refuses content error) : ofFile content = .error error := by
  cases refuses with
  | unread error => rfl
  | notText encoded => simp [ofFile, ofBytes, encoded, mapError_ok, bind, Except.bind]
  | notDocument encoded read =>
      simp [ofFile, ofBytes, ofText, encoded, read, mapError_ok, bind, Except.bind]
  | notDescribed encoded read described =>
      simp [ofFile, ofBytes, ofText, ofValue, encoded, read, described, mapError_ok,
        mapError_error, bind, Except.bind]
  | twice encoded read described offends =>
      simp [ofFile, ofBytes, ofText, ofValue, ofEntries, encoded, read, described, offends,
        mapError_ok, mapError_error, bind, Except.bind]

end Catalog

namespace Outcome

structure Prints (outcome : Outcome) (text : String) (files : Files) : Prop where
  status : outcome.status = 0
  printed : outcome.printed = text
  files : outcome.files = files

structure Saves (outcome : Outcome) (text path : String) (files : Files) : Prop where
  status : outcome.status = 0
  printed : outcome.printed = ""
  files : files.Wrote path text.toUTF8 outcome.files

structure Fails (outcome : Outcome) (error : LoadError) (files : Files) : Prop where
  failure : outcome.failure = some (.load error)
  status : outcome.status ≠ 0
  printed : outcome.printed = ""
  files : outcome.files = files

theorem fails_fail (error : LoadError) (files : Files) :
    (fail (.load error) files).Fails error files :=
  ⟨rfl, by simp, rfl, rfl⟩

theorem prints_print (text : String) (files : Files) (log : List Event) :
    (print text files log).Prints text files :=
  ⟨rfl, rfl, rfl⟩

end Outcome

namespace Generate

def loaded (catalog : Option String) (files : Files) : Except LoadError Catalog :=
  match catalog with
  | some path => Catalog.ofFile (files.read path)
  | none => Catalog.builtin

theorem draft_eq (catalog : Option String) (files : Files) :
    draft (catalog.map files.read) =
      (loaded catalog files).map fun catalog => GL.generate catalog.functions := by
  have generated (found : Except LoadError Catalog) :
      (do return GL.generate (← found).functions : Except LoadError Draft) =
        found.map fun catalog => GL.generate catalog.functions := by
    cases found <;> rfl
  cases catalog with
  | some path => exact generated (Catalog.ofFile (files.read path))
  | none => exact generated Catalog.builtin

/-- The text is generated from the files as they were, even if the output replaces the catalog. -/
theorem run_all_or_nothing (catalog output : Option String) (files : Files) :
    let outcome := run { catalog, output } files
    (∀ path error, loaded (some path) files = .error error ↔
      Catalog.Refuses (files.read path) error) ∧
    match loaded catalog files with
    | .error error => outcome.Fails error files
    | .ok catalog =>
        let text := (GL.generate catalog.functions).text
        match output with
        | none => outcome.Prints text files
        | some path =>
            if files.leadsTo path Files.standardOutput then outcome.Prints text files
            else
              match files.write path text.toUTF8 with
              | .ok written => outcome.Saves text path files ∧ outcome.files = written
              | .error error => outcome.Fails (.file error) files := by
  refine ⟨fun path error => ⟨Catalog.refuses_of_ofFile, Catalog.ofFile_of_refuses⟩, ?_⟩
  unfold run
  rw [draft_eq]
  cases loaded catalog files with
  | error error => exact Outcome.fails_fail error files
  | ok catalog =>
      simp only [Except.map, deliver]
      cases output with
      | none => exact Outcome.prints_print _ files _
      | some path =>
          dsimp only
          split
          next => exact Outcome.prints_print _ files _
          next =>
            cases done : files.write path (GL.generate catalog.functions).text.toUTF8 with
            | ok written => exact ⟨⟨rfl, rfl, Files.wrote_of_write done⟩, rfl⟩
            | error error => exact Outcome.fails_fail _ files

def flushCatalog : Files :=
  .inWork [("gl.toml", "[[function]]\nname = \"glFlush\"\n".toUTF8)]

-- The output goes over the catalog that it is generated from.
theorem run_all_or_nothing_flushCatalog :
    ∃ catalog, loaded (some "gl.toml") flushCatalog = .ok catalog ∧
      let outcome := run { catalog := some "gl.toml", output := some "gl.toml" } flushCatalog
      outcome.status = 0 ∧ outcome.printed = "" ∧
        outcome.files.read "gl.toml" = .ok (GL.generate catalog.functions).text.toUTF8 := by
  have status : (run { catalog := some "gl.toml", output := some "gl.toml" } flushCatalog).status =
      0 := by decide +kernel
  have elsewhere : flushCatalog.leadsTo "gl.toml" Files.standardOutput = false := by decide +kernel
  obtain ⟨-, told⟩ := run_all_or_nothing (some "gl.toml") (some "gl.toml") flushCatalog
  cases found : loaded (some "gl.toml") flushCatalog with
  | error error =>
      rw [found] at told
      exact absurd status told.status
  | ok catalog =>
      refine ⟨catalog, rfl, status, ?_⟩
      simp only [found, elsewhere, Bool.false_eq_true, if_false] at told
      split at told
      next => exact ⟨told.1.printed, told.1.files.reads⟩
      next => exact absurd status told.status

end Generate

end ReplayGen
