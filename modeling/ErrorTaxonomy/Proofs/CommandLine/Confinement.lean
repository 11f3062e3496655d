import ErrorTaxonomy.Proofs.CommandLine.Storage
import ErrorTaxonomy.Proofs.FileSystem.Footprint

/-! # Confinement — where artifacts are written

Generating into a directory changes a file system, which has no links, on the ways of its artifacts only,
also when it stops half-way. The name of an artifact goes on from the directory, and nothing holds it
there: names that **descend** stay below the directory (`generate_leaves_ways`), while one that is absolute
or climbs is written where it leads (`generate_leaves_directory`). -/

namespace ErrorTaxonomy.CommandLine

open FileSystem

/-- An artifact is **generated** from inputs. -/
def Inputs.Generates (i : Inputs) (tools : Load.Tools) (post : PostProcessor) (fs : FileSystem)
    (a : Artifact) : Prop :=
  ∃ as, i.artifacts tools post fs = .ok as ∧ a ∈ as

section Writing

variable {fs : FileSystem} {d : String}

/-! ## One file -/

/-- Making the directories of a file leaves them on the way to it. -/
theorem footprint_makeParent (fs : FileSystem) (path : String) :
    Footprint (OnWay fs.workingDir path) (fun _ => False) fs (makeParent fs path).1 := by
  rw [makeParent]
  split
  · exact .refl ..
  · next parent hparent =>
    have hdirs := footprint_makeDirs fs parent
    split
    · next hmade =>
      rw [hmade] at hdirs
      exact hdirs.of_parent? hparent hmade
    · next hmade =>
      rw [hmade] at hdirs
      exact hdirs.of_parent? hparent hmade

/-- **Writing a file with its directories** leaves directories on the way to it and the file at its end,
also when it stops half-way. -/
theorem footprint_writeFile (fs : FileSystem) (path content : String) :
    Footprint (OnWay fs.workingDir path) (· = resolve fs.workingDir path) fs
      (writeFile fs path content).1 := by
  have hparent : Footprint (OnWay fs.workingDir path) (· = resolve fs.workingDir path) fs
      (makeParent fs path).1 :=
    (footprint_makeParent fs path).mono (fun _ => id) fun _ => False.elim
  rw [writeFile]
  split
  · next hmade =>
    rw [hmade] at hparent
    exact hparent
  · next made hmade =>
    rw [hmade] at hparent
    split
    · next written hwritten =>
      have hfile := footprint_of_writeFile hwritten
      rw [hparent.workingDir] at hfile
      exact hparent.trans (hfile.mono (fun _ => False.elim) fun _ => id)
    · exact hparent

/-! ## All artifacts -/

/-- **Writing artifacts** has the footprint that each of them has. -/
theorem footprint_writeArtifacts {dirs files : Location → Prop} (as : List Artifact)
    (hdirs : ∀ a ∈ as, ∀ l, OnWay fs.workingDir (artifactPath d a) l → dirs l)
    (hfiles : ∀ a ∈ as, files (resolve fs.workingDir (artifactPath d a))) :
    Footprint dirs files fs (writeArtifacts d fs as).1 := by
  induction as generalizing fs with
  | nil => exact .refl ..
  | cons a as ih =>
    have hfirst : Footprint dirs files fs (writeFile fs (artifactPath d a) a.content).1 := by
      refine (footprint_writeFile fs _ _).mono (hdirs a List.mem_cons_self) ?_
      rintro l rfl
      exact hfiles a List.mem_cons_self
    rw [writeArtifacts_cons]
    split
    · next made hwrite =>
      rw [artifactPath, hwrite] at hfirst
      refine hfirst.trans (ih ?_ ?_)
      · rw [hfirst.workingDir]
        exact fun b hb => hdirs b (List.mem_cons_of_mem a hb)
      · rw [hfirst.workingDir]
        exact fun b hb => hfiles b (List.mem_cons_of_mem a hb)
    · next made e hwrite =>
      rw [artifactPath, hwrite] at hfirst
      exact hfirst

end Writing

/-! ## Generating into a directory -/

/-- Generating into a directory has the footprint that each of its artifacts has. -/
theorem footprint_generate {tools : Load.Tools} {formatter : PostProcessor} {fs : FileSystem}
    {i : Inputs} {d : String} {format : Bool} {dirs files : Location → Prop}
    (hdirs : ∀ a, i.Generates tools (if format then formatter else .passthrough) fs a →
      ∀ l, OnWay fs.workingDir (artifactPath d a) l → dirs l)
    (hfiles : ∀ a, i.Generates tools (if format then formatter else .passthrough) fs a →
      files (resolve fs.workingDir (artifactPath d a))) :
    Footprint dirs files fs (Command.run tools formatter fs (.generate i (some d) format)).files := by
  rw [run_generate]
  cases has : i.artifacts tools (if format then formatter else .passthrough) fs with
  | error e => exact .refl ..
  | ok as =>
    have hwritten : (finishGenerate fs (some d) as).files = (writeArtifacts d fs as).1 := by
      rw [finishGenerate]
      cases writeArtifacts d fs as with
      | mk made r => cases r <;> rfl
    rw [Outcome.prepared_ok, hwritten]
    exact footprint_writeArtifacts as (fun a ha => hdirs a ⟨as, has, ha⟩)
      fun a ha => hfiles a ⟨as, has, ha⟩

/-- **Confinement.** However it ends, generating into a directory changes nothing but the ways of its
artifacts: it makes directories on them and writes files at their ends. If all names of artifacts stay
below the directory, as those do that descend, it writes files below the directory only and makes
directories only there and on the way to it. When it succeeds, each artifact has been written at the end
of its way, wherever that is. -/
theorem generate_leaves_ways (tools : Load.Tools) (formatter : PostProcessor) (fs : FileSystem)
    (i : Inputs) (d : String) (format : Bool) :
    Footprint
      (fun l => ∃ a, i.Generates tools (if format then formatter else .passthrough) fs a ∧
        OnWay fs.workingDir (artifactPath d a) l)
      (fun l => ∃ a, i.Generates tools (if format then formatter else .passthrough) fs a ∧
        l = resolve fs.workingDir (artifactPath d a))
      fs (Command.run tools formatter fs (.generate i (some d) format)).files ∧
    ((∀ a, i.Generates tools (if format then formatter else .passthrough) fs a →
        StaysBelow fs.workingDir d a.name) →
      Footprint (fun l => Below fs.workingDir d l ∨ OnWay fs.workingDir d l) (Below fs.workingDir d)
        fs (Command.run tools formatter fs (.generate i (some d) format)).files) ∧
    (∀ name, Descends name → StaysBelow fs.workingDir d name) ∧
    ((Command.run tools formatter fs (.generate i (some d) format)).ending = .success →
      ∀ a, i.Generates tools (if format then formatter else .passthrough) fs a →
        ∃ content, (Command.run tools formatter fs (.generate i (some d) format)).files.HoldsAt
          (resolve fs.workingDir (artifactPath d a)) content) := by
  refine ⟨?_, ?_, ?_, ?_⟩
  · exact footprint_generate (fun a ha l hl => ⟨a, ha, hl⟩) fun a ha => ⟨a, ha, rfl⟩
  · intro hstays
    exact footprint_generate (fun a ha => (hstays a ha).passes) fun a ha => (hstays a ha).ends
  · intro name hname
    exact hname.staysBelow fs.workingDir d
  · rintro hsuccess a ⟨as, has, ha⟩
    obtain ⟨arts, fs', harts, hwrite, hrun⟩ := writeArtifacts_of_success hsuccess
    obtain rfl : arts = as := Except.ok.inj (harts.symm.trans has)
    obtain ⟨l, b, hl, -, hcontent⟩ := exists_holdsAt hwrite ha
    obtain ⟨ls, -, hgrows⟩ := grows_of_writeArtifacts hwrite
    rw [hrun, ← hgrows.workingDir, ← eq_resolve_of_locate hl]
    exact ⟨b.content, hcontent⟩

/-- A directory with a document of one unit, whose file has a name. -/
def oneUnit (file : String) : FileSystem := ⟨["work"], [
  (["work"], .dir),
  (["work", "units.json"], .file (Text.encodeUtf8
    ("[[\"" ++ file ++ "\", \"app\", " ++
      "[[\"AppError\", [[\"text\", \"string\", \"singular\", \"kind\"]]]]]]"))
    false)], []⟩

/-- The inputs that are read from the document. -/
def oneUnitInputs : Inputs := ⟨["units.json"], none, {}⟩

/-- A name that goes up and down again below the directory stays there: its file is written below the
directory, and so is all that is made for it. -/
theorem generate_leaves_ways_descending :
    (∀ a, oneUnitInputs.Generates noTools .passthrough (oneUnit "sub/../app.proto") a →
      StaysBelow ["work"] "out" a.name) ∧
    Footprint (fun l => Below ["work"] "out" l ∨ OnWay ["work"] "out" l) (Below ["work"] "out")
      (oneUnit "sub/../app.proto")
      (Command.run noTools .passthrough (oneUnit "sub/../app.proto")
        (.generate oneUnitInputs (some "out") false)).files ∧
    ∃ content, (Command.run noTools .passthrough (oneUnit "sub/../app.proto")
      (.generate oneUnitInputs (some "out") false)).files.HoldsAt ["work", "out", "app.errors.rs"]
        content := by
  obtain ⟨-, hbelow, hdescends, hends⟩ :=
    generate_leaves_ways noTools .passthrough (oneUnit "sub/../app.proto") oneUnitInputs "out" false
  obtain ⟨hsuccess, hnames, hdescending, hend⟩ :
      (Command.run noTools .passthrough (oneUnit "sub/../app.proto")
        (.generate oneUnitInputs (some "out") false)).ending = .success ∧
      (oneUnitInputs.artifacts noTools .passthrough (oneUnit "sub/../app.proto")).map
        (fun as => as.map Artifact.name) = .ok ["sub/../app.errors.rs"] ∧
      Descends "sub/../app.errors.rs" ∧
      resolve ["work"] (join "out" "sub/../app.errors.rs") = ["work", "out", "app.errors.rs"] := by
    decide +kernel
  obtain ⟨as, has⟩ :
      ∃ as, oneUnitInputs.artifacts noTools .passthrough (oneUnit "sub/../app.proto") = .ok as :=
    exists_eq_ok_of_isOk (by decide +kernel)
  rw [has] at hnames
  obtain ⟨a, rfl, ha⟩ := List.map_eq_singleton_iff.1 (Except.ok.inj hnames)
  have hstays : ∀ b, oneUnitInputs.Generates noTools .passthrough (oneUnit "sub/../app.proto") b →
      StaysBelow ["work"] "out" b.name := by
    rintro b ⟨bs, hbs, hb⟩
    obtain rfl : [a] = bs := Except.ok.inj (has.symm.trans hbs)
    obtain rfl := List.mem_singleton.1 hb
    rw [ha]
    exact hdescends _ hdescending
  refine ⟨hstays, hbelow hstays, ?_⟩
  rw [← hend, ← ha]
  exact hends hsuccess a ⟨[a], has, List.mem_singleton_self a⟩

/-- **A name that climbs** leaves the directory: generating into one writes a file beside it. So what is
changed does not always lie below the directory or on the way to it. -/
theorem generate_leaves_directory :
    ¬ ∀ (tools : Load.Tools) (formatter : PostProcessor) (fs : FileSystem) (i : Inputs) (d : String)
      (format : Bool) (l : Location),
      (Command.run tools formatter fs (.generate i (some d) format)).files.get? l ≠ fs.get? l →
        Below fs.workingDir d l ∨ OnWay fs.workingDir d l := by
  intro h
  have hchanged : (Command.run noTools .passthrough (oneUnit "../app.proto")
      (.generate oneUnitInputs (some "out") false)).files.get? ["work", "app.errors.rs"] ≠
        (oneUnit "../app.proto").get? ["work", "app.errors.rs"] := by
    decide +kernel
  obtain hbelow | hway := h _ _ _ _ _ _ _ hchanged
  · have houtside : ¬ resolve ["work"] "out" <+: ["work", "app.errors.rs"] := by decide +kernel
    exact houtside hbelow
  · have houtside : ¬ OnWay ["work"] "out" ["work", "app.errors.rs"] := by decide +kernel
    exact houtside hway

end ErrorTaxonomy.CommandLine
