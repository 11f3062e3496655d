import Mathlib.Data.List.Induction
import Mathlib.Data.List.Infix
import ErrorTaxonomy.FileSystem.Basic
import ErrorTaxonomy.Proofs.Traversal

/-! # Ways — the places a path passes through

Without links, what the dots of a path mean can be read off its text: a single dot stays, two dots go up
(`resolve`). A path that leads somewhere leads to its **resolved** location (`eq_resolve_of_locate`), and
whatever is made for it is **on its way**, where a beginning of it leads (`OnWay`). The way to the parent
of a path is a beginning of the way to the path, and a path that goes on from a directory is first on the
way to the directory and then, unless it climbs out again, below it (`Descends.staysBelow`). -/

namespace ErrorTaxonomy.FileSystem

/-! ## Names -/

/-- Where a name leads from a location. -/
def step (l : Location) (name : String) : Location :=
  if name = "." then l else if name = ".." then l.dropLast else l ++ [name]

/-- Where names lead from a location, one after the other. -/
def walk (l : Location) (names : List String) : Location := names.foldl step l

@[simp] theorem walk_nil (l : Location) : walk l [] = l := rfl

@[simp] theorem walk_cons (l : Location) (name : String) (names : List String) :
    walk l (name :: names) = walk (step l name) names := rfl

theorem walk_append (l : Location) (ms ns : List String) :
    walk l (ms ++ ns) = walk (walk l ms) ns := List.foldl_append

/-- A name that is entered leads where it says. -/
theorem eq_step_of_enter {fs : FileSystem} {l m : Location} {name : String}
    (h : fs.enter l name = .ok m) : m = step l name := by
  rw [enter] at h
  split at h
  · cases h
  · cases h
  · obtain ⟨_, -, hname⟩ := bind_eq_ok_iff.1 h
    rw [step]
    split_ifs at hname ⊢ <;> cases hname <;> rfl

/-- Names that are entered one after the other lead where they say. -/
theorem eq_walk_of_foldlM_enter {fs : FileSystem} {names : List String} {l m : Location}
    (h : names.foldlM fs.enter l = .ok m) : m = walk l names := by
  induction names generalizing l with
  | nil => exact (Except.ok.inj h).symm
  | cons name names ih =>
    rw [List.foldlM_cons] at h
    obtain ⟨k, hk, hrest⟩ := bind_eq_ok_iff.1 h
    rw [ih hrest, eq_step_of_enter hk, walk_cons]

/-! ## Paths -/

/-- Where a path starts that is followed from a working directory. -/
def startOf (home : Location) (p : String) : Location :=
  if (Route.ofPath p).absolute then [] else home

/-- The location that a path denotes once its dots are **resolved**. -/
def resolve (home : Location) (p : String) : Location :=
  walk (startOf home p) (Route.ofPath p).names

/-- A location is **on the way** of a path when a beginning of the path leads there. -/
def OnWay (home : Location) (p : String) (l : Location) : Prop :=
  ∃ names, names <+: (Route.ofPath p).names ∧ l = walk (startOf home p) names

instance (home : Location) (p : String) (l : Location) : Decidable (OnWay home p l) :=
  decidable_of_iff (∃ names ∈ (Route.ofPath p).names.inits, l = walk (startOf home p) names) (by
    simp only [List.mem_inits]
    rfl)

/-- The end of a way is on it. -/
theorem onWay_resolve (home : Location) (p : String) : OnWay home p (resolve home p) :=
  ⟨_, List.prefix_refl _, rfl⟩

/-- **A path that leads somewhere** leads to its resolved location. -/
theorem eq_resolve_of_locate {fs : FileSystem} {p : String} {l : Location}
    (h : fs.locate p = .ok l) : l = resolve fs.workingDir p := by
  rw [locate] at h
  split_ifs at h
  exact eq_walk_of_foldlM_enter h

/-! ## Parts of a path -/

/-- The names in the text of a path. -/
def namesOf (s : List Char) : List String := ((s.splitOn '/').filter (· ≠ [])).map String.ofList

/-- The names of a path are those of its text. -/
theorem names_ofPath (p : String) : (Route.ofPath p).names = namesOf p.toList := rfl

/-- Texts with a slash between them have the names of both. -/
theorem namesOf_append (s t : List Char) : namesOf (s ++ '/' :: t) = namesOf s ++ namesOf t := by
  rw [namesOf, List.splitOn_append_cons_self, List.filter_append, List.map_append]
  rfl

/-- A text that ends with a slash has the names before it. -/
theorem namesOf_concat (s : List Char) : namesOf (s ++ ['/']) = namesOf s := by
  rw [namesOf_append]
  exact List.append_nil _

/-- Nothing is put in front of a text by taking the slashes and dots off its end. -/
theorem settle_suffix (s : List Char) : settle s <:+ s := by
  fun_induction settle s with
  | case1 => exact List.suffix_rfl
  | case2 r hr ih => exact ih.trans (List.suffix_cons '/' r)
  | case3 r ih => exact ih.trans (List.suffix_cons '.' ('/' :: r))
  | case4 => exact List.suffix_rfl

/-- A slash at the end stays only where it is all. -/
theorem eq_nil_of_settle_slash {r : List Char} (h : settle ('/' :: r) = '/' :: r) : r = [] := by
  cases r with
  | nil => rfl
  | cons c r =>
    have hsettle : settle ('/' :: c :: r) = settle (c :: r) := by
      rw [settle.eq_def]
      rfl
    have hlength := length_settle_le (c :: r)
    rw [← hsettle, h, List.length_cons] at hlength
    omega

/-- What is left of a text without the slashes and dots at its end, read from there, is the whole text,
the root, or stands before a slash. -/
theorem settle_cases (s : List Char) :
    settle s = s ∨ settle s = ['/'] ∨ ∃ u, s = u ++ '/' :: settle s := by
  fun_induction settle s with
  | case1 => exact .inl rfl
  | case2 r hr ih =>
    obtain heq | heq | ⟨u, hu⟩ := ih
    · exact .inr (.inr ⟨[], by rw [heq]; rfl⟩)
    · exact .inr (.inl heq)
    · exact .inr (.inr ⟨'/' :: u, by rw [List.cons_append, ← hu]⟩)
  | case3 r ih =>
    obtain heq | heq | ⟨u, hu⟩ := ih
    · obtain rfl := eq_nil_of_settle_slash heq
      exact .inr (.inl rfl)
    · exact .inr (.inl heq)
    · exact .inr (.inr ⟨'.' :: u, by rw [List.cons_append, ← hu]⟩)
  | case4 => exact .inl rfl

/-- What is left of a text without its last name, read from its end, is empty, the root, or stands before
a slash. -/
theorem parentChars?_cases {s t : List Char} (h : parentChars? s = some t) :
    t = [] ∨ t = ['/'] ∨ ∃ u, s = u ++ '/' :: t := by
  rw [parentChars?] at h
  split at h
  · cases h
  · cases h
  · next c r hroot hsettle =>
    obtain rfl := Option.some.inj h
    obtain ⟨w, hw⟩ : ∃ w, s = w ++ c :: r := by
      obtain heq | heq | ⟨u, hu⟩ := settle_cases s
      · exact ⟨[], by rw [← heq, hsettle]; rfl⟩
      · rw [heq] at hsettle
        obtain ⟨rfl, rfl⟩ := List.cons.inj hsettle
        exact (hroot rfl rfl).elim
      · exact ⟨u ++ ['/'], by rw [← hsettle, List.append_assoc, List.singleton_append, ← hu]⟩
    have hr := List.takeWhile_append_dropWhile (p := fun c => decide (c ≠ '/')) (l := r)
    cases hdrop : r.dropWhile fun c => decide (c ≠ '/') with
    | nil => exact .inl rfl
    | cons x d =>
      obtain rfl : x = '/' := by
        have hx := List.head?_dropWhile_not (fun c => decide (c ≠ '/')) r
        rw [hdrop] at hx
        simpa using hx
      refine .inr ?_
      obtain heq | heq | ⟨u, hu⟩ := settle_cases ('/' :: d)
      · obtain rfl := eq_nil_of_settle_slash heq
        exact .inl rfl
      · exact .inl heq
      · refine .inr ⟨w ++ c :: r.takeWhile (fun c => decide (c ≠ '/')) ++ u, ?_⟩
        rw [hw, List.append_assoc, ← hu, List.append_assoc, List.cons_append, ← hdrop, hr]

/-- **The parent of a path** is empty, the root, or stands before a slash. -/
theorem parent?_cases {p q : String} (h : parent? p = some q) :
    q = "" ∨ q = "/" ∨ ∃ t, p.toList = q.toList ++ '/' :: t := by
  obtain ⟨t, ht, rfl⟩ := Option.map_eq_some_iff.1 h
  obtain rfl | rfl | ⟨u, hu⟩ := parentChars?_cases ht
  · exact .inl rfl
  · exact .inr (.inl rfl)
  · refine .inr (.inr ⟨u.reverse, ?_⟩)
    rw [← List.reverse_reverse p.toList, hu]
    simp

/-- The parent of a path is a beginning of its text. -/
theorem prefix_of_parent? {p q : String} (h : parent? p = some q) : q.toList <+: p.toList := by
  obtain ⟨t, ht, rfl⟩ := Option.map_eq_some_iff.1 h
  have hsuffix : t <:+ p.toList.reverse := by
    have hsettle := settle_suffix p.toList.reverse
    rw [parentChars?] at ht
    split at ht
    · cases ht
    · cases ht
    · next c r _ heq =>
      obtain rfl := Option.some.inj ht
      rw [heq] at hsettle
      exact (settle_suffix _).trans ((List.dropWhile_suffix _).trans
        ((List.suffix_cons c r).trans hsettle))
  rw [String.toList_ofList, ← List.reverse_suffix, List.reverse_reverse]
  exact hsuffix

/-- Paths that begin alike start at the same place. -/
theorem startOf_congr (home : Location) {p q : String} (h : q.toList <+: p.toList) (hq : q ≠ "") :
    startOf home q = startOf home p := by
  obtain ⟨t, ht⟩ := h
  have hne : q.toList ≠ [] := by simpa using hq
  have hhead : q.toList.head? = p.toList.head? := by
    rw [← ht, List.head?_append_of_ne_nil _ hne]
  rw [startOf, startOf, Route.ofPath, Route.ofPath]
  simp only [hhead]

/-- The names of the parent of a path come first in the path. -/
theorem names_prefix_of_parent? {p q : String} (h : parent? p = some q) :
    (Route.ofPath q).names <+: (Route.ofPath p).names := by
  obtain rfl | rfl | ⟨t, ht⟩ := parent?_cases h
  · exact List.nil_prefix
  · exact List.nil_prefix
  · rw [names_ofPath, names_ofPath, ht, namesOf_append]
    exact List.prefix_append _ _

/-- **The way to the parent** of a path is a beginning of the way to the path. -/
theorem onWay_of_parent? {home : Location} {p q : String} (h : parent? p = some q) (hq : q ≠ "")
    {l : Location} (hl : OnWay home q l) : OnWay home p l := by
  obtain ⟨names, hnames, rfl⟩ := hl
  refine ⟨names, hnames.trans (names_prefix_of_parent? h), ?_⟩
  rw [startOf_congr home (prefix_of_parent? h) hq]

/-! ## Going on from a directory -/

/-- A relative path goes on where the path before it ends. -/
theorem ofPath_join {p q : String} (hq : (Route.ofPath q).absolute = false) :
    (Route.ofPath (join p q)).absolute = (Route.ofPath p).absolute ∧
      (Route.ofPath (join p q)).names = (Route.ofPath p).names ++ (Route.ofPath q).names := by
  have hhead : ∀ t : String, p ≠ "" → (Route.ofPath (p ++ t)).absolute = (Route.ofPath p).absolute := by
    intro t hp
    have hne : p.toList ≠ [] := by simpa using hp
    rw [Route.ofPath, Route.ofPath, String.toList_append]
    simp only [List.head?_append_of_ne_nil _ hne]
  rw [join, if_neg (by simp [hq])]
  by_cases hempty : p = ""
  · subst hempty
    rw [if_pos (.inl rfl), String.empty_append]
    exact ⟨hq, rfl⟩
  · simp only [names_ofPath, hempty, false_or]
    split_ifs with hslash
    · -- the slash at the end of the first path stands between the two
      obtain ⟨s, hs⟩ : ∃ s, p.toList = s ++ ['/'] := by
        rw [Route.ofPath, decide_eq_true_iff] at hslash
        exact List.getLast?_eq_some_iff.1 hslash
      refine ⟨hhead q hempty, ?_⟩
      rw [String.toList_append, hs, namesOf_concat, List.append_assoc, List.singleton_append,
        namesOf_append]
    · refine ⟨?_, ?_⟩
      · rw [String.append_assoc, hhead _ hempty]
      · have hsingle : "/".toList = ['/'] := rfl
        rw [String.toList_append, String.toList_append, hsingle, List.append_assoc,
          List.singleton_append, namesOf_append]

section Joined

variable {home l : Location} {d name : String}

/-- A relative path from a directory starts where the directory's path does. -/
theorem startOf_join (hname : (Route.ofPath name).absolute = false) :
    startOf home (join d name) = startOf home d := by
  rw [startOf, startOf, (ofPath_join hname).1]

/-- A relative path denotes what its names lead to from the directory. -/
theorem resolve_join (hname : (Route.ofPath name).absolute = false) :
    resolve home (join d name) = walk (resolve home d) (Route.ofPath name).names := by
  rw [resolve, startOf_join hname, (ofPath_join hname).2, walk_append, resolve]

/-- **The way of a relative path** from a directory is first that to the directory and then goes on from
there. -/
theorem onWay_join (hname : (Route.ofPath name).absolute = false)
    (hl : OnWay home (join d name) l) :
    OnWay home d l ∨ ∃ names, names <+: (Route.ofPath name).names ∧ l = walk (resolve home d) names := by
  obtain ⟨names, hnames, rfl⟩ := hl
  rw [(ofPath_join hname).2] at hnames
  rw [startOf_join hname]
  obtain hfirst | ⟨rest, rfl⟩ :=
    List.prefix_or_prefix_of_prefix hnames (List.prefix_append _ (Route.ofPath name).names)
  · exact .inl ⟨names, hfirst, rfl⟩
  · exact .inr ⟨rest, (List.prefix_append_right_inj _).1 hnames, by rw [walk_append, resolve]⟩

/-! ## Staying below a directory -/

/-- A location lies **below** a directory, or is the directory. -/
def Below (home : Location) (d : String) (l : Location) : Prop := resolve home d <+: l

/-- A path from a directory **stays below** it: it leads there, and all that it passes through lies there
or on the way to the directory. -/
structure StaysBelow (home : Location) (d name : String) : Prop where
  ends : Below home d (resolve home (join d name))
  passes : ∀ l, OnWay home (join d name) l → Below home d l ∨ OnWay home d l

/-- Names **never climb** when at no point more of them have gone up than down. -/
def NeverClimbs (names : List String) : Prop :=
  ∀ ns, ns <+: names → ns.count ".." ≤ ns.countP fun n => n ≠ "." ∧ n ≠ ".."

instance (names : List String) : Decidable (NeverClimbs names) :=
  decidable_of_iff (∀ ns ∈ names.inits, ns.count ".." ≤ ns.countP fun n => n ≠ "." ∧ n ≠ "..") (by
    simp only [List.mem_inits]
    rfl)

/-- Names that never climb lead below where they start, as deep as they have gone down more often than
up. -/
theorem exists_walk_eq_append {names : List String} (h : NeverClimbs names) (l : Location) :
    ∃ below : Location, walk l names = l ++ below ∧
      below.length + names.count ".." = names.countP fun n => n ≠ "." ∧ n ≠ ".." := by
  induction names using List.reverseRecOn with
  | nil => exact ⟨[], by simp, rfl⟩
  | append_singleton names name ih =>
    obtain ⟨below, hbelow, hcount⟩ := ih fun ns hns => h ns (hns.trans (List.prefix_append _ _))
    have hall := h (names ++ [name]) (List.prefix_refl _)
    rw [walk_append, hbelow, walk_cons, walk_nil, step]
    rw [List.count_append, List.countP_append] at hall ⊢
    split_ifs with hdot hup
    · subst hdot
      exact ⟨below, rfl, by simpa using hcount⟩
    · subst hup
      -- there is something to go up from, since not all that went down has gone up again
      have hup : below ≠ [] := by
        rintro rfl
        simp at hcount hall
        omega
      refine ⟨below.dropLast, List.dropLast_append_of_ne_nil hup, ?_⟩
      have hpos := List.length_pos_iff.2 hup
      rw [List.length_dropLast]
      simp at hcount ⊢
      omega
    · refine ⟨below ++ [name], List.append_assoc _ _ _, ?_⟩
      simp [hdot, hup] at hcount ⊢
      omega

/-- A path **descends** when it is relative and its names never climb. -/
structure Descends (name : String) : Prop where
  relative : (Route.ofPath name).absolute = false
  neverClimbs : NeverClimbs (Route.ofPath name).names

instance (name : String) : Decidable (Descends name) :=
  decidable_of_iff
    ((Route.ofPath name).absolute = false ∧ NeverClimbs (Route.ofPath name).names)
    ⟨fun h => ⟨h.1, h.2⟩, fun h => ⟨h.1, h.2⟩⟩

/-- **A path that descends** stays below any directory. -/
theorem Descends.staysBelow (h : Descends name) (home : Location) (d : String) :
    StaysBelow home d name where
  ends := by
    obtain ⟨below, hbelow, -⟩ := exists_walk_eq_append h.neverClimbs (resolve home d)
    rw [Below, resolve_join h.relative, hbelow]
    exact List.prefix_append _ _
  passes l hl := by
    obtain hfirst | ⟨names, hnames, rfl⟩ := onWay_join h.relative hl
    · exact .inr hfirst
    · obtain ⟨below, hbelow, -⟩ :=
        exists_walk_eq_append (fun ns hns => h.neverClimbs ns (hns.trans hnames)) (resolve home d)
      rw [Below, hbelow]
      exact .inl (List.prefix_append _ _)

end Joined

end ErrorTaxonomy.FileSystem
