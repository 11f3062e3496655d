import ErrorTaxonomy.Proofs.CommandLine.Stages
import ErrorTaxonomy.Proofs.FileSystem.Growth

/-! # Storage — which artifacts are found in their files

Generating into a directory writes the artifacts one after another, each into the file its name leads to
from that directory. Names come from the units alone, and two of them may lead to one file: then the
artifact written **last** there is found (`LastAt`, `generate_stores`), and the others are lost unless
their content is the same. -/

namespace ErrorTaxonomy.CommandLine

open FileSystem

/-- The path of an artifact in a directory. -/
def artifactPath (directory : String) (a : Artifact) : String := join directory a.name

/-- An artifact is the **last** of some that is written to a location. -/
def LastAt (fs : FileSystem) (directory : String) (as : List Artifact) (l : Location)
    (a : Artifact) : Prop :=
  ∃ before after, as = before ++ a :: after ∧ fs.locate (artifactPath directory a) = .ok l ∧
    ∀ b ∈ after, fs.locate (artifactPath directory b) ≠ .ok l

section Writing

variable {fs fs' : FileSystem} {d path content : String} {as : List Artifact}

/-! ## One file -/

/-- Making the directories of a file replaces nothing. -/
theorem grows_makeParent (fs : FileSystem) (path : String) : Grows [] fs (makeParent fs path).1 := by
  rw [makeParent]
  split
  · exact .refl fs
  · next parent _ =>
    have hdirs := grows_makeDirs fs parent
    split
    · next hmade =>
      rw [hmade] at hdirs
      exact hdirs
    · next hmade =>
      rw [hmade] at hdirs
      exact hdirs

/-- Writing a file with its directories replaces no other one, and leaves the text at its path. -/
theorem stored_of_writeFile (h : writeFile fs path content = (fs', .ok ())) :
    ∃ l, fs'.locate path = .ok l ∧ Grows [l] fs fs' ∧ fs'.HoldsAt l content := by
  have hparent := grows_makeParent fs path
  rw [writeFile] at h
  split at h
  · cases h
  · next made hmade =>
    rw [hmade] at hparent
    split at h
    · next hwritten =>
      cases h
      obtain ⟨l, hl, hgrows, hcontent⟩ := grows_of_writeFile hwritten
      exact ⟨l, hgrows.locate hl, hparent.trans hgrows, hcontent⟩
    · cases h

/-! ## All artifacts -/

/-- **Writing artifacts** replaces no files but theirs. -/
theorem grows_of_writeArtifacts (h : writeArtifacts d fs as = (fs', .ok ())) :
    ∃ ls, List.Forall₂ (fun a l => fs'.locate (artifactPath d a) = .ok l) as ls ∧
      Grows ls fs fs' := by
  induction as generalizing fs with
  | nil =>
    cases h
    exact ⟨[], .nil, .refl _⟩
  | cons a as ih =>
    rw [writeArtifacts_cons] at h
    split at h
    · next made hwrite =>
      obtain ⟨l, hl, hfirst, -⟩ := stored_of_writeFile hwrite
      obtain ⟨ls, hls, hrest⟩ := ih h
      exact ⟨l :: ls, .cons (hrest.locate hl) hls, hfirst.trans hrest⟩
    · cases h

/-- What stands where no artifact is written is still there after writing them. -/
theorem stays_of_writeArtifacts (h : writeArtifacts d fs as = (fs', .ok ())) {l : Location} {e : Entry}
    (he : fs.get? l = some e) (hl : ∀ a ∈ as, fs'.locate (artifactPath d a) ≠ .ok l) :
    fs'.get? l = some e := by
  obtain ⟨ls, hls, hgrows⟩ := grows_of_writeArtifacts h
  refine hgrows.stays l e he fun hmem => ?_
  obtain ⟨a, ha, hlocate⟩ := exists_mem_of_forall₂ hls.flip hmem
  exact absurd hlocate (hl a ha)

/-- Writing artifacts is writing some of them and then the others. -/
theorem writeArtifacts_append {before after : List Artifact} :
    writeArtifacts d fs (before ++ after) = (fs', .ok ()) ↔
      ∃ made, writeArtifacts d fs before = (made, .ok ()) ∧
        writeArtifacts d made after = (fs', .ok ()) := by
  induction before generalizing fs with
  | nil =>
    constructor
    · intro h
      exact ⟨fs, rfl, h⟩
    · rintro ⟨made, hnil, h⟩
      cases hnil
      exact h
  | cons a before ih =>
    rw [List.cons_append, writeArtifacts_cons, writeArtifacts_cons]
    split
    · exact ih
    · next e hwrite =>
      refine ⟨nofun, ?_⟩
      rintro ⟨made, hmade, -⟩
      cases hmade

/-- The last artifact at a location is found there. -/
theorem holdsAt_of_lastAt (h : writeArtifacts d fs as = (fs', .ok ())) {l : Location} {a : Artifact}
    (hlast : LastAt fs' d as l a) : fs'.HoldsAt l a.content := by
  obtain ⟨before, after, rfl, hl, hafter⟩ := hlast
  obtain ⟨made, -, hmade⟩ := writeArtifacts_append.1 h
  rw [writeArtifacts_cons] at hmade
  split at hmade
  · next written hwrite =>
    obtain ⟨m, hm, -, executable, hfile⟩ := stored_of_writeFile hwrite
    obtain ⟨ls, -, hgrows⟩ := grows_of_writeArtifacts hmade
    -- the path leads to one location, before the artifacts after it are written and then
    have hlm : m = l := by
      have hm' : fs'.locate (artifactPath d a) = .ok m := hgrows.locate hm
      rw [hl] at hm'
      exact (Except.ok.inj hm').symm
    rw [hlm] at hfile
    exact ⟨executable, stays_of_writeArtifacts hmade hfile hafter⟩
  · cases hmade

/-- Where some artifact is written, one is the last. -/
theorem exists_lastAt {l : Location} (h : ∃ a ∈ as, fs.locate (artifactPath d a) = .ok l) :
    ∃ b, LastAt fs d as l b := by
  induction as with
  | nil => simp at h
  | cons a as ih =>
    by_cases hlater : ∃ b ∈ as, fs.locate (artifactPath d b) = .ok l
    · obtain ⟨b, before, after, rfl, hb⟩ := ih hlater
      exact ⟨b, a :: before, after, rfl, hb⟩
    · obtain ⟨b, hb, hl⟩ := h
      obtain rfl | hb := List.mem_cons.1 hb
      · exact ⟨b, [], as, rfl, hl, fun c hc hcl => hlater ⟨c, hc, hcl⟩⟩
      · exact absurd ⟨b, hb, hl⟩ hlater

/-- **What is found.** At the path of each artifact that was written, the last one there is found. -/
theorem exists_holdsAt (h : writeArtifacts d fs as = (fs', .ok ())) {a : Artifact} (ha : a ∈ as) :
    ∃ l b, fs'.locate (artifactPath d a) = .ok l ∧ LastAt fs' d as l b ∧
      fs'.HoldsAt l b.content := by
  obtain ⟨ls, hls, -⟩ := grows_of_writeArtifacts h
  obtain ⟨l, -, hl⟩ := exists_mem_of_forall₂ hls ha
  obtain ⟨b, hb⟩ := exists_lastAt ⟨a, ha, hl⟩
  exact ⟨l, b, hl, hb, holdsAt_of_lastAt h hb⟩

/-- **Nothing is lost** exactly when artifacts whose paths meet have the same content. -/
theorem forall_holds_iff (h : writeArtifacts d fs as = (fs', .ok ())) :
    (∀ a ∈ as, fs'.Holds (artifactPath d a) a.content) ↔
      ∀ a ∈ as, ∀ b ∈ as, fs'.Meet (artifactPath d a) (artifactPath d b) →
        a.content = b.content := by
  constructor
  · intro hall a ha b hb hmeet
    exact (hall a ha).unique (hall b hb) hmeet
  · intro hsame a ha
    obtain ⟨l, b, hl, hlast, hcontent⟩ := exists_holdsAt h ha
    obtain ⟨before, after, rfl, hb, -⟩ := hlast
    rw [hsame a ha b (by simp) ⟨l, hl, hb⟩]
    exact ⟨l, hl, hcontent⟩

end Writing

/-! ## Generating into a directory -/

/-- Generating into a directory that succeeds has written all its artifacts. -/
theorem writeArtifacts_of_success {tools : Load.Tools} {formatter : PostProcessor} {fs : FileSystem}
    {i : Inputs} {d : String} {format : Bool}
    (h : (Command.run tools formatter fs (.generate i (some d) format)).ending = .success) :
    ∃ arts fs', i.artifacts tools (if format then formatter else .passthrough) fs = .ok arts ∧
      writeArtifacts d fs arts = (fs', .ok ()) ∧
      Command.run tools formatter fs (.generate i (some d) format) = ⟨.success, "", "", fs'⟩ := by
  rw [run_generate] at h ⊢
  cases harts : i.artifacts tools (if format then formatter else .passthrough) fs with
  | error e =>
    rw [harts] at h
    cases e <;> cases h
  | ok arts =>
    rw [harts, Outcome.prepared_ok, finishGenerate] at h
    rw [Outcome.prepared_ok, finishGenerate]
    cases hwrite : writeArtifacts d fs arts with
    | mk fs' r =>
      cases r with
      | error e =>
        rw [hwrite] at h
        cases h
      | ok => exact ⟨arts, fs', rfl, hwrite, rfl⟩

/-- **Storage.** When generating into a directory succeeds, the file at the path of each artifact holds
the content of the last artifact that was written to it. So every artifact is found in its file exactly
when no two with different contents are written to one file; nothing else keeps them apart. -/
theorem generate_stores (tools : Load.Tools) (formatter : PostProcessor) (fs : FileSystem) (i : Inputs)
    (d : String) (format : Bool)
    (hsuccess : (Command.run tools formatter fs (.generate i (some d) format)).ending = .success) :
    ∃ us arts fs', i.load tools fs = .ok us ∧
      (Generator.mk i.options (if format then formatter else .passthrough)).generate us = .ok arts ∧
      Command.run tools formatter fs (.generate i (some d) format) = ⟨.success, "", "", fs'⟩ ∧
      (∀ a ∈ arts, ∃ l b, fs'.locate (artifactPath d a) = .ok l ∧ LastAt fs' d arts l b ∧
        fs'.HoldsAt l b.content) ∧
      ((∀ a ∈ arts, fs'.Holds (artifactPath d a) a.content) ↔
        ∀ a ∈ arts, ∀ b ∈ arts, fs'.Meet (artifactPath d a) (artifactPath d b) →
          a.content = b.content) := by
  obtain ⟨arts, fs', harts, hwrite, hrun⟩ := writeArtifacts_of_success hsuccess
  obtain ⟨us, hload, hgenerate⟩ := bind_eq_ok_iff.1 harts
  exact ⟨us, arts, fs', hload, mapError_eq_ok_iff.1 hgenerate, hrun,
    fun a ha => exists_holdsAt hwrite ha, forall_holds_iff hwrite⟩

/-- A document with two units of one file in different packages. -/
def twins : FileSystem := ⟨["work"], [
  (["work"], .dir),
  (["work", "units.json"], .file (Text.encodeUtf8
    ("[[\"app.proto\", \"one\", [[\"OneError\", [[\"text\", \"string\", \"singular\", \"kind\"]]]]], " ++
      "[\"app.proto\", \"two\", [[\"TwoError\", [[\"text\", \"string\", \"singular\", \"kind\"]]]]]]"))
    false)], []⟩

/-- The inputs that are read from the document. -/
def twinInputs : Inputs := ⟨["units.json"], none, {}⟩

/-- Generating from the document succeeds, with two artifacts of one name and different contents. -/
theorem run_twins :
    (Command.run noTools .passthrough twins (.generate twinInputs (some "out") false)).ending = .success ∧
      (twinInputs.artifacts noTools .passthrough twins).map
        (fun as => (as.map Artifact.name, decide (as.map Artifact.content).Nodup)) =
          .ok (["app.errors.rs", "app.errors.rs"], true) := by
  decide +kernel

/-- Generating from the document stores the last of the two artifacts. -/
theorem generate_stores_twins :
    (Command.run noTools .passthrough twins (.generate twinInputs (some "out") false)).ending = .success ∧
    ∃ us arts fs', twinInputs.load noTools twins = .ok us ∧
      (Generator.mk twinInputs.options .passthrough).generate us = .ok arts ∧
      Command.run noTools .passthrough twins (.generate twinInputs (some "out") false) =
        ⟨.success, "", "", fs'⟩ ∧
      (∀ a ∈ arts, ∃ l b, fs'.locate (artifactPath "out" a) = .ok l ∧ LastAt fs' "out" arts l b ∧
        fs'.HoldsAt l b.content) ∧
      ((∀ a ∈ arts, fs'.Holds (artifactPath "out" a) a.content) ↔
        ∀ a ∈ arts, ∀ b ∈ arts, fs'.Meet (artifactPath "out" a) (artifactPath "out" b) →
          a.content = b.content) := by
  obtain ⟨hsuccess, -⟩ := run_twins
  exact ⟨hsuccess, generate_stores noTools .passthrough twins twinInputs "out" false hsuccess⟩

/-- Generating from the document **loses an artifact**: the run succeeds, but the file at the path of
one of the two holds another content. -/
theorem generate_loses_twin :
    ∃ us arts fs', twinInputs.load noTools twins = .ok us ∧
      (Generator.mk twinInputs.options .passthrough).generate us = .ok arts ∧
      Command.run noTools .passthrough twins (.generate twinInputs (some "out") false) =
        ⟨.success, "", "", fs'⟩ ∧
      ∃ a ∈ arts, ¬ fs'.Holds (artifactPath "out" a) a.content := by
  obtain ⟨hsuccess, htwins⟩ := run_twins
  obtain ⟨arts, fs', harts, hwrite, hrun⟩ := writeArtifacts_of_success hsuccess
  rw [if_neg Bool.false_ne_true] at harts
  obtain ⟨us, hload, hgenerate⟩ := bind_eq_ok_iff.1 harts
  refine ⟨us, arts, fs', hload, mapError_eq_ok_iff.1 hgenerate, hrun, ?_⟩
  rw [harts] at htwins
  obtain ⟨hnames, hnodup⟩ := Prod.mk.inj (Except.ok.inj htwins)
  obtain ⟨a, b, rfl⟩ := List.length_eq_two.1 (by simpa using congrArg List.length hnames)
  obtain ⟨ha, hb⟩ : a.name = "app.errors.rs" ∧ b.name = "app.errors.rs" := by simpa using hnames
  have hne : a.content ≠ b.content := by simpa using hnodup
  obtain ⟨l, -, hl, -⟩ := exists_holdsAt hwrite (a := a) (by simp)
  have hmeet : fs'.Meet (artifactPath "out" a) (artifactPath "out" b) :=
    ⟨l, hl, by rw [artifactPath, hb, ← ha]; exact hl⟩
  -- both are written to one file, which holds one text
  by_cases hfirst : fs'.Holds (artifactPath "out" a) a.content
  · exact ⟨b, by simp, fun hsecond => hne (hfirst.unique hsecond hmeet)⟩
  · exact ⟨a, by simp, hfirst⟩

end ErrorTaxonomy.CommandLine
