import ReplayGen.Command.Files

set_option autoImplicit false

namespace ReplayGen.Files

variable {files written : Files} {path : String} {bytes : ByteArray} {place : Place}

def replace (files : Files) (place : Place) (bytes : ByteArray) : Files :=
  { files with contents := (place, bytes) :: files.contents.filter (·.1 ≠ place) }

/-- The path led to a file, or to where one is made, and in `written` that file holds the
bytes. No other file is made or changed. -/
structure Wrote (files : Files) (path : String) (bytes : ByteArray) (written : Files) : Prop where
  reads : written.read path = .ok bytes
  others : ∃ place, files.place path = .ok place ∧ written.find? place = some bytes ∧
    ∀ other, other ≠ place → written.find? other = files.find? other
  surroundings : (written.work, written.directories, written.links, written.closed) =
    (files.work, files.directories, files.links, files.closed)

theorem find?_replace (files : Files) (place : Place) (bytes : ByteArray) (other : Place) :
    (files.replace place bytes).find? other =
      if other = place then some bytes else files.find? other := by
  unfold find? replace
  by_cases same : other = place
  · simp [same]
  · rw [if_neg same, List.find?_cons_of_neg (by simpa using Ne.symm same), List.find?_filter]
    congr 2
    funext entry
    by_cases found : entry.1 = other <;> simp [found, same]

theorem isDirectory_replace {other : Place} (directory : files.isDirectory other = true) :
    (files.replace place bytes).isDirectory other = true := by
  unfold isDirectory replace at *
  rw [Bool.or_eq_true] at directory ⊢
  refine directory.imp_right fun above => ?_
  obtain ⟨⟨file, content⟩, listed, inside⟩ := List.any_eq_true.mp above
  rw [List.any_cons, Bool.or_eq_true]
  by_cases same : file = place
  · exact .inl (same ▸ inside)
  · exact .inr (List.any_eq_true.mpr ⟨(file, content), by simp [listed, same], inside⟩)

theorem not_isDirectory_replace (file : files.isDirectory place = false) :
    (files.replace place bytes).isDirectory place = false := by
  unfold isDirectory replace at *
  rw [Bool.or_eq_false_iff] at file ⊢
  refine ⟨file.1, ?_⟩
  rw [List.any_cons, Bool.or_eq_false_iff]
  refine ⟨by simp, List.any_eq_false.mpr fun entry listed inside => ?_⟩
  exact List.any_eq_false.mp file.2 entry ((List.mem_filter.mp listed).1) inside

theorem walk_of_directories {start : Place} {names : List String}
    (kept : ∀ other, files.isDirectory other = true → written.isDirectory other = true)
    (links : written.links = files.links) (walked : files.walk start names = .ok place) :
    written.walk start names = .ok place := by
  induction names generalizing start with
  | nil => exact walked
  | cons name rest ih =>
      rw [walk] at walked
      split at walked
      next => simp at walked
      next directory =>
        have still := kept start (by simpa using directory)
        rw [walk, if_neg (by simpa using still)]
        split at walked
        next stays => rw [if_pos stays, ih walked]
        next moves =>
          rw [if_neg moves]
          split at walked
          next up => rw [if_pos up, ih walked]
          next down =>
            rw [if_neg down]
            split at walked
            next => simp at walked
            next short =>
              rw [if_neg short, show written.follow = files.follow by
                funext place
                rw [follow, follow, links], ih walked]

theorem place_replace (leads : files.place path = .ok place) (bytes : ByteArray) :
    (files.replace place bytes).place path = .ok place := by
  unfold Files.place at *
  split at leads
  next => simp at leads
  next filled =>
    rw [if_neg filled]
    split at leads
    next => simp at leads
    next short =>
      rw [if_neg short]
      exact walk_of_directories (fun _ => isDirectory_replace) rfl leads

theorem wrote_of_write (done : files.write path bytes = .ok written) :
    files.Wrote path bytes written := by
  simp only [write, bind, Except.bind] at done
  split at done
  next => simp at done
  next place leads =>
    split at done
    next => simp at done
    next file =>
      split at done
      next => simp at done
      next =>
        obtain rfl : files.replace place bytes = written := Except.ok.inj done
        have found : (files.replace place bytes).find? place = some bytes := by
          rw [find?_replace, if_pos rfl]
        refine ⟨?_, ⟨place, leads, found, fun other apart => ?_⟩, rfl⟩
        · have plain : files.isDirectory place = false := Bool.not_eq_true _ ▸ file
          have still : (files.replace place bytes).isDirectory place = false :=
            not_isDirectory_replace plain
          simp [read, bind, Except.bind, place_replace leads bytes, still, found]
        · rw [find?_replace, if_neg apart]

end ReplayGen.Files
