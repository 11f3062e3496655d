import ErrorTaxonomy.Proofs.FileSystem.Growth
import ErrorTaxonomy.Proofs.FileSystem.Way

/-! # Footprints — where a file system is changed

A change of a file system has a **footprint** (`Footprint`): the locations where directories may have been
made and those where files may have been written; everywhere else all is as it was, and so are the working
directory and what is refused. Making a directory with its parents leaves directories on the way to it
(`footprint_makeDirs`), and writing a file leaves the file at the end of its way
(`footprint_of_writeFile`), whether or not they get to their end. -/

namespace ErrorTaxonomy.FileSystem

/-- A directory was **made** at a location, where nothing stood. -/
def DirMade (fs fs' : FileSystem) (l : Location) : Prop :=
  fs.get? l = none ∧ fs'.get? l = some .dir

/-- A file was **written** at a location, where no directory stood. -/
def FileWritten (fs fs' : FileSystem) (l : Location) : Prop :=
  fs.get? l ≠ some .dir ∧ ∃ content executable, fs'.get? l = some (.file content executable)

/-- The **footprint** of a change: directories are made at some locations only, and files are written at
some locations only. -/
structure Footprint (dirs files : Location → Prop) (fs fs' : FileSystem) : Prop where
  workingDir : fs'.workingDir = fs.workingDir
  refusals : fs'.refusals = fs.refusals
  changed : ∀ l, fs'.get? l = fs.get? l ∨ (dirs l ∧ DirMade fs fs' l) ∨ (files l ∧ FileWritten fs fs' l)

namespace Footprint

variable {dirs dirs' files files' : Location → Prop} {fs fs' fs'' : FileSystem}

theorem refl (dirs files : Location → Prop) (fs : FileSystem) : Footprint dirs files fs fs :=
  ⟨rfl, rfl, fun _ => .inl rfl⟩

/-- A footprint may be taken larger. -/
theorem mono (h : Footprint dirs files fs fs') (hdirs : ∀ l, dirs l → dirs' l)
    (hfiles : ∀ l, files l → files' l) : Footprint dirs' files' fs fs' where
  workingDir := h.workingDir
  refusals := h.refusals
  changed l := by
    obtain hsame | ⟨hl, hmade⟩ | ⟨hl, hwritten⟩ := h.changed l
    · exact .inl hsame
    · exact .inr (.inl ⟨hdirs l hl, hmade⟩)
    · exact .inr (.inr ⟨hfiles l hl, hwritten⟩)

/-- One change after another stays in a footprint that both have. -/
theorem trans (h : Footprint dirs files fs fs') (h' : Footprint dirs files fs' fs'') :
    Footprint dirs files fs fs'' where
  workingDir := h'.workingDir.trans h.workingDir
  refusals := h'.refusals.trans h.refusals
  changed l := by
    obtain hsame' | ⟨hl', hnone', hdir'⟩ | ⟨hl', hother', hfile'⟩ := h'.changed l
    · -- the second change leaves the location alone
      obtain hsame | ⟨hl, hnone, hdir⟩ | ⟨hl, hother, content, executable, hfile⟩ := h.changed l
      · exact .inl (hsame'.trans hsame)
      · exact .inr (.inl ⟨hl, hnone, hsame'.trans hdir⟩)
      · exact .inr (.inr ⟨hl, hother, content, executable, hsame'.trans hfile⟩)
    · -- where the second change makes a directory the first one has left nothing
      obtain hsame | ⟨-, -, hdir⟩ | ⟨-, -, content, executable, hfile⟩ := h.changed l
      · exact .inr (.inl ⟨hl', hsame.symm.trans hnone', hdir'⟩)
      · rw [hnone'] at hdir
        cases hdir
      · rw [hnone'] at hfile
        cases hfile
    · -- where the second change writes a file the first one has made no directory
      obtain hsame | ⟨-, -, hdir⟩ | ⟨-, hother, -⟩ := h.changed l
      · exact .inr (.inr ⟨hl', hsame ▸ hother', hfile'⟩)
      · exact absurd hdir hother'
      · exact .inr (.inr ⟨hl', hother, hfile'⟩)

/-- Making a directory where nothing stands changes that location only. -/
theorem put_dir {m : Location} (h : fs.get? m = none) (hm : dirs m) :
    Footprint dirs files fs (fs.put m .dir) where
  workingDir := rfl
  refusals := rfl
  changed l := by
    by_cases hl : l = m
    · subst hl
      have hroot : l ≠ [] := by
        rintro rfl
        cases h
      exact .inr (.inl ⟨hm, h, get?_put_self fs hroot _⟩)
    · exact .inl (get?_put_of_ne fs hl _)

/-- Writing a file where no directory stands changes that location only. -/
theorem put_file {m : Location} (h : fs.get? m ≠ some .dir) (hm : files m) (content : Text.Bytes)
    (executable : Bool) : Footprint dirs files fs (fs.put m (.file content executable)) where
  workingDir := rfl
  refusals := rfl
  changed l := by
    by_cases hl : l = m
    · subst hl
      have hroot : l ≠ [] := by
        rintro rfl
        exact h rfl
      exact .inr (.inr ⟨hm, h, content, executable, get?_put_self fs hroot _⟩)
    · exact .inl (get?_put_of_ne fs hl _)

end Footprint

/-! ## Directories and files -/

section Changes

variable {fs fs' : FileSystem} {p content : String}

/-- Making a directory changes the end of its way. -/
theorem footprint_of_makeDir (h : fs.makeDir p = .ok fs') :
    Footprint (· = resolve fs.workingDir p) (fun _ => False) fs fs' := by
  obtain ⟨l, hl, hnone, rfl⟩ := eq_put_of_makeDir h
  exact .put_dir hnone (eq_resolve_of_locate hl)

/-- What is made for the parent of a path is made for the path. -/
theorem Footprint.of_parent? {q : String} {above : FileSystem} {r : Except OsError Unit}
    (hq : parent? p = some q) (habove : fs.makeDirs q = (above, r))
    (h : Footprint (OnWay fs.workingDir q) (fun _ => False) fs above) :
    Footprint (OnWay fs.workingDir p) (fun _ => False) fs above := by
  by_cases hempty : q = ""
  · -- nothing is made for the empty path, which may start elsewhere
    subst hempty
    rw [makeDirs, if_pos rfl] at habove
    cases habove
    exact .refl ..
  · exact h.mono (fun l => onWay_of_parent? hq hempty) fun _ => id

/-- **Making a directory with its parents** makes directories on the way to it, also when it stops
half-way. -/
theorem footprint_makeDirs (fs : FileSystem) (p : String) :
    Footprint (OnWay fs.workingDir p) (fun _ => False) fs (fs.makeDirs p).1 := by
  have hend : ∀ {p : String} {above made : FileSystem}, above.workingDir = fs.workingDir →
      above.makeDir p = .ok made → Footprint (OnWay fs.workingDir p) (fun _ => False) above made := by
    intro p above made hhome hmade
    refine (footprint_of_makeDir hmade).mono ?_ fun _ => id
    rintro l rfl
    rw [hhome]
    exact onWay_resolve fs.workingDir p
  fun_induction makeDirs fs p with
  | case1 => exact .refl ..
  | case2 p hp made hmade => exact hend rfl hmade
  | case3 => exact .refl ..
  | case4 p hp hmissing q hq above e habove ih =>
    rw [habove] at ih
    exact .of_parent? hq habove ih
  | case5 p hp hmissing q hq above habove made hmade ih =>
    rw [habove] at ih
    have hmost := Footprint.of_parent? hq habove ih
    exact hmost.trans (hend hmost.workingDir hmade)
  | case6 p hp hmissing q hq above habove e he ih =>
    rw [habove] at ih
    exact .of_parent? hq habove ih
  | case7 => exact .refl ..

/-- **Writing a file** changes the end of its way. -/
theorem footprint_of_writeFile (h : fs.writeFile p content = .ok fs') :
    Footprint (fun _ => False) (· = resolve fs.workingDir p) fs fs' := by
  obtain ⟨l, executable, hl, hdir, rfl⟩ := exists_put_of_writeFile h
  exact .put_file hdir (eq_resolve_of_locate hl) _ executable

end Changes
end ErrorTaxonomy.FileSystem
