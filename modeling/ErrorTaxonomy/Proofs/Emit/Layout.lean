import ErrorTaxonomy.Emit.Code
import ErrorTaxonomy.Proofs.Text.Affix

/-! # Layout — reading generated code back from its lines

A reader of the layout, written without regard to what is generated: a text is cut into lines, the blanks
in front of a line do not count, a line that ends in an opening brace is the head of a block and a closing
brace on its own ends the innermost one. It goes through the lines from the last one up and keeps the
pieces of every block that still waits for its head. The main statement is `readCode?_renderAll`: code
whose lines are not mistaken for heads or ends of blocks is read back from its text. -/

namespace ErrorTaxonomy.Code

/-! ## The reader -/

/-- The lines of a text, without their line feeds. -/
def linesOf : List Char → List (List Char)
  | [] => []
  | c :: s =>
    if c = '\n' then [] :: linesOf s
    else match linesOf s with
      | [] => [[c]]
      | l :: ls => (c :: l) :: ls

/-- A line without the blanks in front of it. -/
def unindent (l : List Char) : String := String.ofList (l.dropWhile (· = ' '))

/-- What was **read** so far: the pieces of the innermost block, then those of the blocks around it. -/
structure Reading where
  inner : List Code
  outer : List (List Code)

/-- Puts pieces of code in front of what was read. -/
def Reading.put (cs : List Code) (r : Reading) : Reading := ⟨cs ++ r.inner, r.outer⟩

/-- Puts a line in front of what was read. -/
def Reading.putLine (text : String) (r : Reading) : Option Reading :=
  if text = "\x7d" then some ⟨[], r.inner :: r.outer⟩
  else if text = "" then some (r.put [.blank])
  else match Text.beforeSuffix? " \x7b" text, r.outer with
    | none, _ => some (r.put [.line text])
    -- the block is complete and stands in the one around it
    | some head, cs :: outer => some ⟨.block head r.inner :: cs, outer⟩
    | some _, [] => none

/-- Reads lines from the last one up. -/
def readLines : List (List Char) → Option Reading
  | [] => some ⟨[], []⟩
  | l :: ls => (readLines ls).bind (Reading.putLine (unindent l))

/-- Reads **code** from its text; every block has to be complete. -/
def readCode? (text : String) : Option (List Code) :=
  match readLines (linesOf text.toList) with
  | some ⟨cs, []⟩ => some cs
  | _ => none

/-! ## Lines -/

/-- The first line of a text ends at its line feed. -/
theorem linesOf_append {w : List Char} (h : '\n' ∉ w) (s : List Char) :
    linesOf (w ++ '\n' :: s) = w :: linesOf s := by
  induction w with
  | nil => simp [linesOf]
  | cons c w ih =>
    have hc : c ≠ '\n' := fun he => h (he ▸ List.mem_cons_self)
    rw [List.cons_append, linesOf, if_neg hc, ih fun hw => h (List.mem_cons_of_mem c hw)]

/-- A text that can be **one line** of code: it has no line feed and does not start with a blank. -/
structure OneLine (s : String) : Prop where
  unbroken : '\n' ∉ s.toList
  start : s.toList.head?.any (· ≠ ' ') = true

/-- A line has a first character. -/
theorem OneLine.exists_cons {s : String} (hs : OneLine s) : ∃ c w, s.toList = c :: w ∧ c ≠ ' ' := by
  have hstart := hs.start
  cases hcw : s.toList with
  | nil => simp [hcw] at hstart
  | cons c w => exact ⟨c, w, rfl, by simpa [hcw] using hstart⟩

/-- A line goes on behind its start. -/
theorem OneLine.append {s t : String} (hs : OneLine s) (ht : '\n' ∉ t.toList) : OneLine (s ++ t) where
  unbroken h := by
    rw [String.toList_append, List.mem_append] at h
    exact h.elim hs.unbroken ht
  start := by
    obtain ⟨c, w, hcw, hc⟩ := hs.exists_cons
    simp [hcw, hc]

/-- A line stays one behind characters that are no blanks and no line feeds. -/
theorem OneLine.prepend {s t : String} (hblank : ' ' ∉ s.toList) (hs : '\n' ∉ s.toList)
    (ht : OneLine t) : OneLine (s ++ t) where
  unbroken h := by
    rw [String.toList_append, List.mem_append] at h
    exact h.elim hs ht.unbroken
  start := by
    rw [String.toList_append]
    cases hcw : s.toList with
    | nil => exact ht.start
    | cons c w =>
      have hc : c ≠ ' ' := fun he => hblank (by rw [hcw, he]; exact List.mem_cons_self)
      simp [hc]

/-- A line is not empty. -/
theorem OneLine.ne_empty {s : String} (hs : OneLine s) : s ≠ "" := by
  rintro rfl
  obtain ⟨c, w, hcw, -⟩ := hs.exists_cons
  cases hcw

/-- The blanks in front of a line are found again. -/
theorem unindent_indent {s : String} (h : OneLine s) (n : Nat) :
    unindent ((indent n).toList ++ s.toList) = s := by
  obtain ⟨c, w, hcw, hc⟩ := h.exists_cons
  have hblanks : (indent n).toList.dropWhile (· = ' ') = [] := by simp [indent]
  unfold unindent
  rw [List.dropWhile_append, hblanks, List.isEmpty_nil, if_pos rfl, hcw, List.dropWhile_cons,
    if_neg (by simpa using hc), ← hcw, String.ofList_toList]

/-- A line at any depth is put in front of what follows. -/
theorem readLines_line {text : String} (h : OneLine text) (n : Nat) (s : List Char) :
    readLines (linesOf ((indent n ++ text).toList ++ '\n' :: s)) =
      (readLines (linesOf s)).bind (Reading.putLine text) := by
  have hunbroken : '\n' ∉ (indent n ++ text).toList := by
    rw [String.toList_append, List.mem_append]
    rintro (hn | hn)
    · simp [indent] at hn
    · exact h.unbroken hn
  rw [linesOf_append hunbroken, readLines, String.toList_append, unindent_indent h]

/-! ## Code -/

/-- A piece of code is **readable**: its texts are single lines, and a line is not mistaken for the head
or the end of a block. -/
inductive Readable : Code → Prop
  | line {text : String} (h : OneLine text) (hopen : Text.endsWith " \x7b" text = false)
      (hclose : text ≠ "\x7d") : Readable (.line text)
  | blank : Readable .blank
  | block {head : String} {body : List Code} (h : OneLine head) (hbody : ∀ c ∈ body, Readable c) :
      Readable (.block head body)

/-- A line is readable when its last character is no brace. -/
theorem Readable.of_last {s t : String} {c : Char} (h : OneLine (s ++ t))
    (hlast : t.toList.getLast? = some c) (hopen : c ≠ '\x7b') (hclose : c ≠ '\x7d') :
    Readable (.line (s ++ t)) := by
  have hc : (s ++ t).toList.getLast? = some c := by
    rw [String.toList_append, List.getLast?_append, hlast]
    rfl
  refine .line h ?_ ?_
  · rw [Bool.eq_false_iff, Ne, Text.endsWith_iff]
    rintro ⟨r, hr⟩
    rw [hr, String.toList_append, List.getLast?_append] at hc
    exact hopen (Option.some.inj hc).symm
  · intro hbrace
    rw [hbrace] at hc
    exact hclose (Option.some.inj hc).symm

/-- A block of one piece of code. -/
theorem Readable.single {head : String} {c : Code} (h : OneLine head) (hc : c.Readable) :
    Readable (.block head [c]) :=
  .block h fun d hd => by rwa [List.mem_singleton.1 hd]

/-- Where every piece of code is read from its text and put in front of what follows, so are several. -/
theorem readLines_renderAll_of {n : Nat} {cs : List Code} (h : ∀ c ∈ cs, ∀ s,
    readLines (linesOf ((render n c).toList ++ s)) = (readLines (linesOf s)).map (Reading.put [c]))
    (s : List Char) :
    readLines (linesOf ((renderAll n cs).toList ++ s)) =
      (readLines (linesOf s)).map (Reading.put cs) := by
  induction cs with
  | nil =>
    rw [renderAll_nil]
    show readLines (linesOf s) = _
    cases readLines (linesOf s) <;> rfl
  | cons c cs ih =>
    rw [renderAll_cons, String.toList_append, List.append_assoc, h c List.mem_cons_self,
      ih fun d hd => h d (List.mem_cons_of_mem c hd), Option.map_map]
    rfl

/-- **One piece of code** is read from its text and put in front of what follows. -/
theorem readLines_render {c : Code} (h : c.Readable) (n : Nat) (s : List Char) :
    readLines (linesOf ((render n c).toList ++ s)) =
      (readLines (linesOf s)).map (Reading.put [c]) := by
  induction h generalizing n s with
  | @line text h hopen hclose =>
    have htext : (render n (.line text)).toList ++ s = (indent n ++ text).toList ++ '\n' :: s := by
      simp [render]
    have hnone : Text.beforeSuffix? " \x7b" text = none := by simpa [Text.endsWith] using hopen
    rw [htext, readLines_line h, Option.map_eq_bind]
    congr 1
    funext r
    unfold Reading.putLine
    rw [if_neg hclose, if_neg h.ne_empty, hnone]
    rfl
  | blank =>
    have htext : (render n .blank).toList ++ s = [] ++ '\n' :: s := by simp [render]
    rw [htext, linesOf_append List.not_mem_nil, readLines, Option.map_eq_bind]
    rfl
  | @block head body h hbody ih =>
    have htext : (render n (.block head body)).toList ++ s =
        (indent n ++ (head ++ " \x7b")).toList ++ '\n' :: ((renderAll (n + 1) body).toList ++
          ((indent n ++ "\x7d").toList ++ '\n' :: s)) := by
      simp [render]
    have hhead : OneLine (head ++ " \x7b") := h.append (by decide)
    have hclose : OneLine "\x7d" := ⟨by decide, by decide⟩
    have hsuffix : Text.beforeSuffix? " \x7b" (head ++ " \x7b") = some head :=
      Text.beforeSuffix?_eq_some_iff.2 rfl
    have hne : head ++ " \x7b" ≠ "\x7d" := by
      intro he
      simpa using congrArg (·.toList.getLast?) he
    rw [htext, readLines_line hhead, readLines_renderAll_of fun c hc s => ih c hc (n + 1) s,
      readLines_line hclose]
    cases readLines (linesOf s) with
    | none => rfl
    | some r =>
      -- the end opened an empty block, the body filled it, and the head takes it
      show Reading.putLine (head ++ " \x7b") ⟨body ++ [], r.inner :: r.outer⟩ = _
      unfold Reading.putLine
      rw [if_neg hne, if_neg hhead.ne_empty, hsuffix, List.append_nil]
      rfl

/-- **Code is read back** from its text. -/
theorem readCode?_renderAll {cs : List Code} (h : ∀ c ∈ cs, c.Readable) (n : Nat) :
    readCode? (renderAll n cs) = some cs := by
  have hread : readLines (linesOf (renderAll n cs).toList) = some ⟨cs, []⟩ := by
    rw [← List.append_nil (renderAll n cs).toList,
      readLines_renderAll_of fun c hc s => readLines_render (h c hc) n s]
    show some (Reading.mk (cs ++ []) []) = _
    rw [List.append_nil]
  unfold readCode?
  rw [hread]

end ErrorTaxonomy.Code
