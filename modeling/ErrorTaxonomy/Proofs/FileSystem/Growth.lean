import ErrorTaxonomy.FileSystem.Change
import ErrorTaxonomy.Proofs.Text.Utf8
import ErrorTaxonomy.Proofs.Traversal

/-! # Growth — what stays when a file system is changed

Directories and files are made and files are replaced, but nothing is ever removed. A changed file system
**grows** (`Grows`): all directories stay, and so do the files, except where one is replaced, and nothing
is permitted or refused that was not before. Therefore a path that leads somewhere leads there ever after
(`Grows.locate`), and a file holds the text that was written last at its path (`Holds`,
`grows_of_writeFile`). -/

namespace ErrorTaxonomy.FileSystem

/-- A file system **grows** into another: whatever stands in it stays, except that files at some
locations may be replaced. -/
structure Grows (ls : List Location) (fs fs' : FileSystem) : Prop where
  workingDir : fs'.workingDir = fs.workingDir
  refusals : fs'.refusals = fs.refusals
  stays : ∀ l e, fs.get? l = some e → (l ∈ ls → e = .dir) → fs'.get? l = some e

namespace Grows

variable {fs fs' fs'' : FileSystem} {ls ms : List Location}

theorem refl (fs : FileSystem) : Grows [] fs fs := ⟨rfl, rfl, fun _ _ h _ => h⟩

/-- Growing twice may replace the files that either step may replace. -/
theorem trans (h : Grows ls fs fs') (h' : Grows ms fs' fs'') : Grows (ls ++ ms) fs fs'' where
  workingDir := h'.workingDir.trans h.workingDir
  refusals := h'.refusals.trans h.refusals
  stays l e he hdir :=
    h'.stays l e (h.stays l e he fun hl => hdir (List.mem_append_left ms hl))
      fun hl => hdir (List.mem_append_right ls hl)

/-- Putting an entry where there is no directory replaces that location at most. -/
theorem put {l : Location} (h : fs.get? l ≠ some .dir) (e : Entry) : Grows [l] fs (fs.put l e) where
  workingDir := rfl
  refusals := rfl
  stays m e' he' hdir := by
    have hne : m ≠ l := by
      rintro rfl
      exact h (he'.trans (congrArg some (hdir (List.mem_singleton_self m))))
    rw [get?_put_of_ne fs hne e, he']

/-- Putting an entry where there is nothing replaces nothing. -/
theorem put_new {l : Location} (h : fs.get? l = none) (e : Entry) : Grows [] fs (fs.put l e) where
  workingDir := rfl
  refusals := rfl
  stays m e' he' _ := by
    have hne : m ≠ l := by
      rintro rfl
      rw [h] at he'
      cases he'
    rw [get?_put_of_ne fs hne e, he']

/-! ## Paths -/

/-- What is permitted stays permitted. -/
theorem permit (h : Grows ls fs fs') (a : Access) (l : Location) : fs'.permit a l = fs.permit a l := by
  rw [FileSystem.permit, FileSystem.permit, h.refusals]

theorem enter (h : Grows ls fs fs') {l m : Location} {name : String}
    (henter : fs.enter l name = .ok m) : fs'.enter l name = .ok m := by
  rw [FileSystem.enter] at henter ⊢
  split at henter
  · cases henter
  · cases henter
  · next hdir =>
    rw [h.stays l .dir hdir fun _ => rfl]
    simp only [h.permit]
    exact henter

theorem foldlM_enter (h : Grows ls fs fs') {names : List String} {l m : Location}
    (hnames : names.foldlM fs.enter l = .ok m) : names.foldlM fs'.enter l = .ok m := by
  induction names generalizing l with
  | nil => exact hnames
  | cons name names ih =>
    rw [List.foldlM_cons] at hnames ⊢
    obtain ⟨k, hk, hrest⟩ := bind_eq_ok_iff.1 hnames
    exact bind_eq_ok_iff.2 ⟨k, h.enter hk, ih hrest⟩

/-- A path that leads to a location still leads there. -/
theorem locate (h : Grows ls fs fs') {p : String} {l : Location} (hp : fs.locate p = .ok l) :
    fs'.locate p = .ok l := by
  rw [FileSystem.locate] at hp ⊢
  split_ifs at hp ⊢
  rw [h.workingDir]
  exact h.foldlM_enter hp

end Grows

/-! ## Directories -/

section Directories

variable {fs fs' : FileSystem} {p : String}

/-- Making a directory puts one where its path leads, and nothing is there. -/
theorem eq_put_of_makeDir (h : fs.makeDir p = .ok fs') :
    ∃ l, fs.locate p = .ok l ∧ fs.get? l = none ∧ fs' = fs.put l .dir := by
  obtain ⟨l, hl, hrest⟩ := bind_eq_ok_iff.1 h
  split at hrest
  · cases hrest
  · next hnone =>
    obtain ⟨_, -, hput⟩ := bind_eq_ok_iff.1 hrest
    exact ⟨l, hl, hnone, (Except.ok.inj hput).symm⟩

theorem grows_of_makeDir (h : fs.makeDir p = .ok fs') : Grows [] fs fs' := by
  obtain ⟨l, -, hnone, rfl⟩ := eq_put_of_makeDir h
  exact .put_new hnone .dir

/-- **Making directories** replaces nothing, also when it stops half-way. -/
theorem grows_makeDirs (fs : FileSystem) (p : String) : Grows [] fs (fs.makeDirs p).1 := by
  fun_induction makeDirs fs p with
  | case1 => exact .refl _
  | case2 p hp made hmade => exact grows_of_makeDir hmade
  | case3 => exact .refl _
  | case4 p hp hmissing q hq above e habove ih =>
    rw [habove] at ih
    exact ih
  | case5 p hp hmissing q hq above habove made hmade ih =>
    rw [habove] at ih
    exact ih.trans (grows_of_makeDir hmade)
  | case6 p hp hmissing q hq above habove e he ih =>
    rw [habove] at ih
    exact ih
  | case7 => exact .refl _

end Directories

/-! ## Files -/

/-- A text is in the file at a location. -/
def HoldsAt (fs : FileSystem) (l : Location) (content : String) : Prop :=
  ∃ executable, fs.get? l = some (.file (Text.encodeUtf8 content) executable)

/-- The file at a path **holds** a text. -/
def Holds (fs : FileSystem) (p content : String) : Prop :=
  ∃ l, fs.locate p = .ok l ∧ fs.HoldsAt l content

/-- Two paths **meet** when they lead to one location. -/
def Meet (fs : FileSystem) (p q : String) : Prop :=
  ∃ l, fs.locate p = .ok l ∧ fs.locate q = .ok l

section Files

variable {fs fs' : FileSystem} {p q content content' : String} {l : Location}

/-- A file holds one text at most. -/
theorem HoldsAt.unique (h : fs.HoldsAt l content) (h' : fs.HoldsAt l content') :
    content = content' := by
  obtain ⟨_, hfile⟩ := h
  obtain ⟨_, hfile'⟩ := h'
  rw [hfile] at hfile'
  obtain ⟨hbytes, -⟩ := Entry.file.inj (Option.some.inj hfile')
  exact Text.encodeUtf8_injective hbytes

/-- Paths that meet are to the same file, which holds one text. -/
theorem Holds.unique (h : fs.Holds p content) (h' : fs.Holds q content') (hmeet : fs.Meet p q) :
    content = content' := by
  obtain ⟨l, hp, hq⟩ := hmeet
  obtain ⟨l₁, hl₁, h⟩ := h
  obtain ⟨l₂, hl₂, h'⟩ := h'
  rw [hp] at hl₁
  rw [hq] at hl₂
  cases hl₁
  cases hl₂
  exact h.unique h'

/-- A text that a file holds is read from it, when reading is not refused and no slash asks for a
directory. -/
theorem Holds.readText (h : fs.Holds p content) (hslash : (Route.ofPath p).slash = false)
    (hpermit : ∀ l, fs.locate p = .ok l → fs.permit .read l = .ok ()) :
    fs.readText p = .ok content := by
  obtain ⟨l, hl, executable, hfile⟩ := h
  have hfind : fs.find p = .ok (.file (Text.encodeUtf8 content) executable) := by
    refine bind_eq_ok_iff.2 ⟨l, hl, ?_⟩
    simp only [hfile, hslash]
    rfl
  have hbytes : fs.readBytes p = .ok (Text.encodeUtf8 content) :=
    bind_eq_ok_iff.2 ⟨_, hfind, bind_eq_ok_iff.2 ⟨l, hl, bind_eq_ok_iff.2 ⟨(), hpermit l hl, rfl⟩⟩⟩
  refine bind_eq_ok_iff.2 ⟨_, hbytes, ?_⟩
  rw [Text.decodeUtf8?_encodeUtf8]
  rfl

/-- Writing a file puts it where its path leads, and no directory is there. -/
theorem exists_put_of_writeFile (h : fs.writeFile p content = .ok fs') :
    ∃ l executable, fs.locate p = .ok l ∧ fs.get? l ≠ some .dir ∧
      fs' = fs.put l (.file (Text.encodeUtf8 content) executable) := by
  obtain ⟨l, hl, hrest⟩ := bind_eq_ok_iff.1 h
  by_cases hslash : endsInSlash p = true
  · simp only [if_pos hslash] at hrest
    obtain ⟨_, hthrow, -⟩ := bind_eq_ok_iff.1 hrest
    cases hthrow
  · simp only [if_neg hslash] at hrest
    split at hrest
    · cases hrest
    · next executable hfile =>
      obtain ⟨_, -, hput⟩ := bind_eq_ok_iff.1 hrest
      exact ⟨l, executable, hl, by simp [hfile], (Except.ok.inj hput).symm⟩
    · next hnone =>
      obtain ⟨_, -, hput⟩ := bind_eq_ok_iff.1 hrest
      exact ⟨l, false, hl, by simp [hnone], (Except.ok.inj hput).symm⟩

/-- **Writing a file** replaces no other one, and leaves the text at its path. -/
theorem grows_of_writeFile (h : fs.writeFile p content = .ok fs') :
    ∃ l, fs.locate p = .ok l ∧ Grows [l] fs fs' ∧ fs'.HoldsAt l content := by
  obtain ⟨l, executable, hl, hdir, rfl⟩ := exists_put_of_writeFile h
  have hroot : l ≠ [] := by
    rintro rfl
    exact hdir (get?_root fs)
  exact ⟨l, hl, .put hdir _, executable, get?_put_self fs hroot _⟩

end Files
end ErrorTaxonomy.FileSystem
