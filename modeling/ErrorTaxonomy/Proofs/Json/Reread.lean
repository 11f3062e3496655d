import ErrorTaxonomy.Proofs.Json.Members
import ErrorTaxonomy.Proofs.Json.Tree
import ErrorTaxonomy.Proofs.Text.Literal
import ErrorTaxonomy.Proofs.Traversal

/-! # Rereading — JSON text that is written and read again

A value that was read nests within the limit, has each key of an object once, and holds only numbers that
a numeral can give (`readable_of_value`). Its compact text is read back as the same value, except that each
number becomes the one its text spells (`value_chars`): strings one character after the other, lists and
objects by induction over what they hold. -/

namespace ErrorTaxonomy.Json

/-! ## Starts of values -/

section Starts

variable {d : Nat} {s : List Char}

theorem value_quote : value d ('"' :: s) = (string s).map fun p => (.str p.1, p.2) := by
  rw [value]
  rfl

theorem value_bracket : value (d + 1) ('[' :: s) = list (value d) s := by
  rw [value]
  rfl

theorem value_brace : value (d + 1) ('\x7b' :: s) = object (value d) s := by
  rw [value]
  rfl

theorem value_minus : value d ('-' :: s) = (numeral true s).map fun p => (.num p.1, p.2) := by
  rw [value]
  rfl

/-- A digit is none of the other characters. -/
theorem ne_of_isDigit {c x : Char} (hc : c.isDigit = true) (hx : x.isDigit = false) : c ≠ x := by
  rintro rfl
  rw [hc] at hx
  cases hx

theorem not_isBlank_of_isDigit {c : Char} (hc : c.isDigit = true) : isBlank c = false := by
  have hspace : c ≠ ' ' := ne_of_isDigit hc rfl
  have hfeed : c ≠ '\n' := ne_of_isDigit hc rfl
  have htab : c ≠ '\t' := ne_of_isDigit hc rfl
  have hreturn : c ≠ '\r' := ne_of_isDigit hc rfl
  simp [isBlank, hspace, hfeed, htab, hreturn]

theorem skipBlank_of_not_isBlank {c : Char} (hc : isBlank c = false) : skipBlank (c :: s) = c :: s := by
  rw [skipBlank, List.dropWhile_cons_of_neg (by simp [hc])]

theorem value_digit {c : Char} (hc : c.isDigit = true) :
    value d (c :: s) = (numeral false (c :: s)).map fun p => (.num p.1, p.2) := by
  have hquote : c ≠ '"' := ne_of_isDigit hc rfl
  have hbracket : c ≠ '[' := ne_of_isDigit hc rfl
  have hbrace : c ≠ '\x7b' := ne_of_isDigit hc rfl
  have hminus : c ≠ '-' := ne_of_isDigit hc rfl
  have hn : c ≠ 'n' := ne_of_isDigit hc rfl
  have ht : c ≠ 't' := ne_of_isDigit hc rfl
  have hf : c ≠ 'f' := ne_of_isDigit hc rfl
  rw [value, skipBlank_of_not_isBlank (not_isBlank_of_isDigit hc)]
  split
  · next heq => cases heq
  · next heq => exact absurd (List.cons.inj heq).1 hquote
  · next heq => exact absurd (List.cons.inj heq).1 hbracket
  · next heq => exact absurd (List.cons.inj heq).1 hbrace
  · next heq => exact absurd (List.cons.inj heq).1 hminus
  · next heq => exact absurd (List.cons.inj heq).1 hn
  · next heq => exact absurd (List.cons.inj heq).1 ht
  · next heq => exact absurd (List.cons.inj heq).1 hf
  · next heq =>
    obtain ⟨rfl, rfl⟩ := List.cons.inj heq
    rw [if_pos hc]

end Starts

/-! ## Numerals -/

/-- A text **ends a numeral** when it does not start with a character that could go on with it. -/
def EndsNumeral : List Char → Prop
  | [] => True
  | c :: _ => c.isDigit = false ∧ c ≠ '.' ∧ c ≠ 'e' ∧ c ≠ 'E'

theorem endsNumeral_comma (s : List Char) : EndsNumeral (',' :: s) :=
  ⟨rfl, by decide, by decide, by decide⟩

theorem endsNumeral_bracket (s : List Char) : EndsNumeral (']' :: s) :=
  ⟨rfl, by decide, by decide, by decide⟩

theorem endsNumeral_brace (s : List Char) : EndsNumeral ('\x7d' :: s) :=
  ⟨rfl, by decide, by decide, by decide⟩

/-- A text **spells** a number: it is read as the number wherever its numeral ends. -/
inductive Spells : List Char → Number → Prop
  | negative {s : List Char} {n : Number}
      (reads : ∀ rest, EndsNumeral rest → numeral true (s ++ rest) = .ok (n, rest)) :
      Spells ('-' :: s) n
  | positive {c : Char} {s : List Char} {n : Number} (digit : c.isDigit = true)
      (reads : ∀ rest, EndsNumeral rest → numeral false (c :: s ++ rest) = .ok (n, rest)) :
      Spells (c :: s) n

/-- A text that spells a number is read as a value that is the number. -/
theorem Spells.value_append {s : List Char} {n : Number} (h : Spells s n) (depth : Nat)
    {rest : List Char} (hrest : EndsNumeral rest) :
    value depth (s ++ rest) = .ok (.num n, rest) := by
  cases h with
  | negative reads =>
    rw [List.cons_append, value_minus, reads rest hrest]
    rfl
  | positive digit reads =>
    rw [List.cons_append, value_digit digit, ← List.cons_append, reads rest hrest]
    rfl

/-! ## Strings -/

section Strings

variable {s : List Char}

/-- A character that stands for itself. -/
theorem stringBody_plain {c : Char} (hquote : c ≠ '"') (hslash : c ≠ '\\')
    (hcontrol : ¬ c.toNat < 0x20) :
    stringBody (c :: s) = consChar c (stringBody s) := by
  rw [stringBody]
  · rw [if_neg hcontrol]
  all_goals grind

/-- An escape of one letter. -/
theorem stringBody_shortEscape {c e : Char} (hc : c ≠ 'u') (he : shortEscape? c = some e) :
    stringBody ('\\' :: c :: s) = consChar e (stringBody s) := by
  rw [stringBody]
  · rw [he]
  all_goals grind

/-- The escape of a control character is read as the character. -/
theorem stringBody_controlEscape {c : Char} (h : c.toNat < 0x20) :
    stringBody (controlEscape c ++ s) = consChar c (stringBody s) := by
  have hzero : hexDigit? '0' = some 0 := rfl
  have hhigh : hexDigit? (Nat.digitChar (c.toNat / 16)) = some (c.toNat / 16) :=
    Text.hexDigit?_digitChar (by omega)
  have hlow : hexDigit? (Nat.digitChar (c.toNat % 16)) = some (c.toNat % 16) :=
    Text.hexDigit?_digitChar (by omega)
  have hvalue : hex4? '0' '0' (Nat.digitChar (c.toNat / 16)) (Nat.digitChar (c.toNat % 16)) =
      some c.toNat := by
    rw [hex4?, hzero, hhigh, hlow]
    simp only [Option.some.injEq]
    omega
  have hnotLow : isLowSurrogate c.toNat = false := by
    simp [isLowSurrogate]
    omega
  have hnotHigh : isHighSurrogate c.toNat = false := by
    simp [isHighSurrogate]
    omega
  simp only [controlEscape, List.cons_append, List.nil_append]
  rw [stringBody, hvalue]
  simp only [hnotLow, hnotHigh, Bool.false_eq_true, if_false, Char.ofNat_toNat]

/-- **The written form of a character** is read as the character. -/
theorem stringBody_stringChar (c : Char) :
    stringBody (stringChar c ++ s) = consChar c (stringBody s) := by
  rw [stringChar]
  split_ifs with hself hfeed hreturn htab hback hform hcontrol
  · have hletter : c ≠ 'u' := by
      rintro rfl
      revert hself
      decide
    refine stringBody_shortEscape hletter ?_
    rw [shortEscape?, if_pos (hself.elim .inl fun h => .inr (.inl h))]
  · subst hfeed
    exact stringBody_shortEscape (by decide) rfl
  · subst hreturn
    exact stringBody_shortEscape (by decide) rfl
  · subst htab
    exact stringBody_shortEscape (by decide) rfl
  · subst hback
    exact stringBody_shortEscape (by decide) rfl
  · subst hform
    exact stringBody_shortEscape (by decide) rfl
  · exact stringBody_controlEscape hcontrol
  · rw [not_or] at hself
    exact stringBody_plain hself.1 hself.2 hcontrol

end Strings

/-! ## Styles that are read back -/

/-- A style is **read back** when each character of a string is, and each number of some kind is as the
number that `reread` gives for it. -/
structure Style.ReadBack (style : Style Number) (kind : Number → Prop) (reread : Number → Number) :
    Prop where
  character : ∀ c s, stringBody (style.character c ++ s) = consChar c (stringBody s)
  number : ∀ n, kind n → Spells (style.number n).toList (reread n)

section ReadBack

variable {style : Style Number} {kind : Number → Prop} {reread : Number → Number}

/-- A quoted text is read as the text. -/
theorem Style.ReadBack.string_append (h : style.ReadBack kind reread) (t : String) (rest : List Char) :
    string (t.toList.flatMap style.character ++ '"' :: rest) = .ok (t, rest) := by
  have hbody : ∀ cs : List Char, stringBody (cs.flatMap style.character ++ '"' :: rest) =
      .ok (cs, rest) := by
    intro cs
    induction cs with
    | nil =>
      rw [List.flatMap_nil, List.nil_append, stringBody]
    | cons c cs ih =>
      rw [List.flatMap_cons, List.append_assoc, h.character, ih]
      rfl
  rw [string, hbody]
  simp only [Except.map, String.ofList_toList]

/-! ## Values -/

/-- A value is **readable** within a depth when it nests at most that deep, has each key of an object once,
and holds numbers of some kind only. -/
inductive Readable (kind : Number → Prop) : Nat → Json → Prop
  | null {d : Nat} : Readable kind d .null
  | bool {d : Nat} (b : Bool) : Readable kind d (.bool b)
  | num {d : Nat} {n : Number} (number : kind n) : Readable kind d (.num n)
  | str {d : Nat} (t : String) : Readable kind d (.str t)
  | arr {d : Nat} {vs : List Json} (items : ∀ v ∈ vs, Readable kind d v) :
      Readable kind (d + 1) (.arr vs)
  | obj {d : Nat} {ms : List (String × Json)} (keys : (ms.map Prod.fst).Nodup)
      (members : ∀ m ∈ ms, Readable kind d m.2) : Readable kind (d + 1) (.obj ms)

/-- What an item or a key may start with, so that no bracket is closed before it. -/
def Opens (c : Char) : Prop := isBlank c = false ∧ c ≠ ']' ∧ c ≠ '\x7d'

instance (c : Char) : Decidable (Opens c) := inferInstanceAs (Decidable (_ ∧ _))

theorem opens_of_isDigit {c : Char} (hc : c.isDigit = true) : Opens c :=
  ⟨not_isBlank_of_isDigit hc, ne_of_isDigit hc rfl, ne_of_isDigit hc rfl⟩

/-- The text of a readable value opens with no blank and no closing bracket. -/
theorem Readable.exists_chars_eq (h : style.ReadBack kind reread) {d : Nat} {v : Json}
    (hv : Readable kind d v) : ∃ c s, v.chars style = c :: s ∧ Opens c := by
  cases hv with
  | null => exact ⟨_, _, rfl, by decide⟩
  | bool b => cases b <;> exact ⟨_, _, rfl, by decide⟩
  | @num _ n number =>
    have hspells := h.number n number
    rw [Tree.chars]
    generalize (style.number n).toList = text at hspells
    cases hspells with
    | negative reads => exact ⟨_, _, rfl, by decide⟩
    | positive digit reads => exact ⟨_, _, rfl, opens_of_isDigit digit⟩
  | str t => exact ⟨_, _, rfl, by decide⟩
  | @arr _ vs items => cases vs <;> exact ⟨_, _, rfl, by decide⟩
  | @obj _ ms keys members => cases ms <;> exact ⟨_, _, rfl, by decide⟩

/-- A reader **returns** a value from its text, whatever ends it, with its numbers read again. -/
def Returns (read : Reader) (style : Style Number) (reread : Number → Number) (v : Json) : Prop :=
  ∀ rest, EndsNumeral rest → read (v.chars style ++ rest) = .ok (v.map reread, rest)

section Steps

variable {read : Reader} {fuel i : Nat} {k : String} {s t rest : List Char} {v : Json} {vs : List Json}
  {ms : List (String × Json)} {c : Char}

/-- A bracket after an item ends the list. -/
theorem items_last (hread : read s = .ok (v, ']' :: rest)) :
    items read (fuel + 1) i s = .ok ([v], rest) := by
  rw [items, hread]
  rfl

/-- A comma after an item goes on with the next one. -/
theorem items_next (hread : read s = .ok (v, ',' :: c :: t)) (hc : Opens c)
    (hnext : items read fuel (i + 1) (c :: t) = .ok (vs, rest)) :
    items read (fuel + 1) i s = .ok (v :: vs, rest) := by
  have hcomma : skipBlank (',' :: c :: t) = ',' :: c :: t := rfl
  have hskip : skipBlank (c :: t) = c :: t := skipBlank_of_not_isBlank hc.1
  rw [items, hread]
  simp only [Except.mapError, bind, Except.bind, hcomma, hskip]
  split
  · next heq => cases heq
  · next heq => exact absurd (List.cons.inj heq).1 hc.2.1
  · rw [hnext]
    rfl

/-- A brace after a member ends the object. -/
theorem members_last (hkey : string s = .ok (k, ':' :: t)) (hread : read t = .ok (v, '\x7d' :: rest)) :
    members read (fuel + 1) ('"' :: s) = .ok ([(k, v)], rest) := by
  have hcolon : skipBlank (':' :: t) = ':' :: t := rfl
  have hbrace : skipBlank ('\x7d' :: rest) = '\x7d' :: rest := rfl
  rw [members]
  simp only [key, hkey, Except.mapError, bind, Except.bind, pure, Except.pure, hcolon, hread, hbrace]

/-- A comma after a member goes on with the next one. -/
theorem members_next (hkey : string s = .ok (k, ':' :: t)) (hread : read t = .ok (v, ',' :: '"' :: rest))
    {rest' : List Char} (hnext : members read fuel ('"' :: rest) = .ok (ms, rest')) :
    members read (fuel + 1) ('"' :: s) = .ok ((k, v) :: ms, rest') := by
  have hcolon : skipBlank (':' :: t) = ':' :: t := rfl
  have hcomma : skipBlank (',' :: '"' :: rest) = ',' :: '"' :: rest := rfl
  have hquote : skipBlank ('"' :: rest) = '"' :: rest := rfl
  rw [members]
  simp only [key, hkey, Except.mapError, bind, Except.bind, pure, Except.pure, hcolon, hread, hcomma,
    hquote]
  split
  · next heq => cases heq
  · next heq => exact absurd (List.cons.inj heq).1 (by decide)
  · rw [hnext]

end Steps

/-- Items are read back when each of them is. -/
theorem items_append {read : Reader} {t : Json} {ts : List Json}
    (hread : ∀ v ∈ t :: ts, Returns read style reread v)
    (hopens : ∀ v ∈ ts, ∃ c s, v.chars style = c :: s ∧ Opens c) {fuel : Nat} (hfuel : ts.length < fuel)
    (i : Nat) (rest : List Char) :
    items read fuel i (t.chars style ++ (Tree.itemChars style ts ++ ']' :: rest)) =
      .ok ((t :: ts).map (Tree.map reread), rest) := by
  induction ts generalizing t fuel i with
  | nil =>
    cases fuel with
    | zero => exact absurd hfuel (Nat.not_lt_zero _)
    | succ fuel => exact items_last (hread t List.mem_cons_self _ (endsNumeral_bracket rest))
  | cons u ts ih =>
    cases fuel with
    | zero => exact absurd hfuel (Nat.not_lt_zero _)
    | succ fuel =>
      have hfirst := hread t List.mem_cons_self _
        (endsNumeral_comma (u.chars style ++ (Tree.itemChars style ts ++ ']' :: rest)))
      have hrest := ih (fun v hv => hread v (List.mem_cons_of_mem t hv))
        (fun v hv => hopens v (List.mem_cons_of_mem u hv)) (Nat.lt_of_succ_lt_succ hfuel) (i + 1)
      obtain ⟨c, s, hchars, hc⟩ := hopens u List.mem_cons_self
      rw [hchars, List.cons_append] at hfirst hrest
      rw [Tree.itemChars, List.cons_append, List.append_assoc, hchars, List.cons_append]
      exact items_next hfirst hc hrest

/-- The text of a member, from its key on, followed by other members. -/
def memberText (style : Style Number) (m : String × Json) (rest : List Char) : List Char :=
  m.1.toList.flatMap style.character ++ '"' :: ':' :: (m.2.chars style ++ rest)

/-- The text of the members after the first. -/
theorem memberChars_append (k : String) (t : Json) (ms : List (String × Json)) (rest : List Char) :
    Tree.memberChars style ((k, t) :: ms) ++ rest =
      ',' :: '"' :: memberText style (k, t) (Tree.memberChars style ms ++ rest) := by
  simp [Tree.memberChars, Style.quoted, memberText]

/-- Members are read back when the value of each of them is. -/
theorem members_append (h : style.ReadBack kind reread) {read : Reader} {m : String × Json}
    {ms : List (String × Json)} (hread : ∀ n ∈ m :: ms, Returns read style reread n.2) {fuel : Nat}
    (hfuel : ms.length < fuel) (rest : List Char) :
    members read fuel ('"' :: memberText style m (Tree.memberChars style ms ++ '\x7d' :: rest)) =
      .ok ((m :: ms).map fun n => (n.1, n.2.map reread), rest) := by
  induction ms generalizing m fuel with
  | nil =>
    cases fuel with
    | zero => exact absurd hfuel (Nat.not_lt_zero _)
    | succ fuel =>
      exact members_last (h.string_append m.1 _)
        (hread m List.mem_cons_self _ (endsNumeral_brace rest))
  | cons n ms ih =>
    cases fuel with
    | zero => exact absurd hfuel (Nat.not_lt_zero _)
    | succ fuel =>
      have hfirst := hread m List.mem_cons_self _
        (endsNumeral_comma ('"' :: memberText style n (Tree.memberChars style ms ++ '\x7d' :: rest)))
      have hrest := ih (fun n' hn' => hread n' (List.mem_cons_of_mem m hn'))
        (Nat.lt_of_succ_lt_succ hfuel)
      rw [memberChars_append]
      exact members_next (h.string_append m.1 _) hfirst hrest

/-- A list that is not closed at once has items. -/
theorem list_open {read : Reader} {c : Char} {s : List Char} (hc : Opens c) :
    list read (c :: s) = (items read (s.length + 2) 0 (c :: s)).map fun p => (.arr p.1, p.2) := by
  rw [list, skipBlank_of_not_isBlank hc.1]
  split
  · next heq => cases heq
  · next heq => exact absurd (List.cons.inj heq).1 hc.2.1
  · rfl

/-- Each item after the first has a comma at least. -/
theorem length_le_length_itemChars (style : Style Number) (ts : List Json) :
    ts.length ≤ (Tree.itemChars style ts).length := by
  induction ts with
  | nil => exact Nat.le_refl 0
  | cons t ts ih =>
    rw [Tree.itemChars, List.length_cons, List.length_cons, List.length_append]
    omega

/-- Each member after the first has a comma at least. -/
theorem length_le_length_memberChars (style : Style Number) (ms : List (String × Json)) :
    ms.length ≤ (Tree.memberChars style ms).length := by
  induction ms with
  | nil => exact Nat.le_refl 0
  | cons m ms ih =>
    rw [Tree.memberChars, List.length_cons, List.length_cons, List.length_append]
    omega

/-- A list is read back when each item is. -/
theorem returns_arr (h : style.ReadBack kind reread) {d : Nat} {vs : List Json}
    (hvs : ∀ v ∈ vs, Readable kind d v) (hread : ∀ v ∈ vs, Returns (value d) style reread v) :
    Returns (value (d + 1)) style reread (.arr vs) := by
  intro rest hrest
  cases vs with
  | nil =>
    rw [Tree.chars, List.cons_append, value_bracket]
    rfl
  | cons t ts =>
    obtain ⟨c, s, hchars, hc⟩ := (hvs t List.mem_cons_self).exists_chars_eq h
    have hopens : ∀ v ∈ ts, ∃ c s, v.chars style = c :: s ∧ Opens c :=
      fun v hv => (hvs v (List.mem_cons_of_mem t hv)).exists_chars_eq h
    have hfuel : ts.length < (s ++ (Tree.itemChars style ts ++ ']' :: rest)).length + 2 := by
      have hcommas := length_le_length_itemChars style ts
      rw [List.length_append, List.length_append]
      omega
    have hitems := items_append hread hopens hfuel 0 rest
    rw [Tree.chars, List.cons_append, value_bracket, List.append_assoc, List.append_assoc,
      List.singleton_append]
    rw [hchars, List.cons_append] at hitems ⊢
    rw [list_open hc, hitems, Tree.map, mapItems_eq]
    rfl

/-- An object is read back when each value in it is. -/
theorem returns_obj (h : style.ReadBack kind reread) {d : Nat} {ms : List (String × Json)}
    (hkeys : (ms.map Prod.fst).Nodup) (hread : ∀ m ∈ ms, Returns (value d) style reread m.2) :
    Returns (value (d + 1)) style reread (.obj ms) := by
  intro rest hrest
  cases ms with
  | nil =>
    rw [Tree.chars, List.cons_append, value_brace]
    rfl
  | cons m ms =>
    have hfuel : ms.length <
        ('"' :: memberText style m (Tree.memberChars style ms ++ '\x7d' :: rest)).length + 1 := by
      have hcommas := length_le_length_memberChars style ms
      simp only [memberText, List.length_cons, List.length_append]
      omega
    have hmembers := members_append h hread hfuel rest
    have htext : Tree.chars style (.obj (m :: ms)) ++ rest =
        '\x7b' :: '"' :: memberText style m (Tree.memberChars style ms ++ '\x7d' :: rest) := by
      simp [Tree.chars, Style.quoted, memberText]
    have hnodup : ((((m :: ms).map fun n => (n.1, n.2.map reread))).map Prod.fst).Nodup := by
      rw [List.map_map]
      exact hkeys
    have hobject : ∀ s : List Char, object (value d) ('"' :: s) =
        (members (value d) (('"' :: s).length + 1) ('"' :: s)).map
          fun p => (.obj (ofPairs p.1), p.2) := fun s => rfl
    rw [htext, value_brace, hobject, hmembers]
    simp only [Except.map, ofPairs_of_nodup hnodup]
    rw [Tree.map, mapMembers_eq]

/-- **Values are read back** from their texts. -/
theorem value_chars (h : style.ReadBack kind reread) {d : Nat} {v : Json} (hv : Readable kind d v) :
    Returns (value d) style reread v := by
  induction hv with
  | null =>
    intro rest hrest
    rw [value]
    rfl
  | bool b =>
    intro rest hrest
    cases b <;> rw [value] <;> rfl
  | num number =>
    intro rest hrest
    exact (h.number _ number).value_append _ hrest
  | str t =>
    intro rest hrest
    rw [Tree.chars, Style.quoted, List.cons_append, List.cons_append, value_quote, List.append_assoc,
      List.singleton_append, h.string_append]
    rfl
  | arr items ih => exact returns_arr h items ih
  | obj keys members ih => exact returns_obj h keys ih

end ReadBack

/-! ## What is read -/

section Read

variable {read : Reader} {P : Json → Prop}

/-- What holds of all that is read holds of the items of a list. -/
theorem forall_of_items (hread : ∀ s v rest, read s = .ok (v, rest) → P v) {fuel i : Nat}
    {s rest : List Char} {vs : List Json} (h : items read fuel i s = .ok (vs, rest)) :
    ∀ v ∈ vs, P v := by
  induction fuel generalizing i s vs with
  | zero => cases h
  | succ fuel ih =>
    rw [items] at h
    obtain ⟨⟨v, t⟩, hv, hrest⟩ := bind_eq_ok_iff.1 h
    have hfirst : P v := hread _ _ _ (mapError_eq_ok_iff.1 hv)
    simp only at hrest
    split at hrest
    · cases hrest
    · cases hrest
      exact List.forall_mem_singleton.2 hfirst
    · split at hrest
      · cases hrest
      · cases hrest
      · obtain ⟨⟨us, u⟩, hus, hpure⟩ := bind_eq_ok_iff.1 hrest
        cases hpure
        exact List.forall_mem_cons.2 ⟨hfirst, ih hus⟩
    · cases hrest

/-- What holds of all that is read holds of the values of the members of an object. -/
theorem forall_of_members (hread : ∀ s v rest, read s = .ok (v, rest) → P v) {fuel : Nat}
    {s rest : List Char} {ms : List (String × Json)} (h : members read fuel s = .ok (ms, rest)) :
    ∀ m ∈ ms, P m.2 := by
  induction fuel generalizing s ms with
  | zero => cases h
  | succ fuel ih =>
    rw [members.eq_def] at h
    simp only at h
    split at h
    · obtain ⟨t, -, h⟩ := bind_eq_ok_iff.1 h
      obtain ⟨⟨k, t⟩, -, h⟩ := bind_eq_ok_iff.1 h
      split at h
      · cases h
      · obtain ⟨t, -, h⟩ := bind_eq_ok_iff.1 h
        obtain ⟨⟨v, t⟩, hv, h⟩ := bind_eq_ok_iff.1 h
        have hfirst : P v := hread _ _ _ (mapError_eq_ok_iff.1 hv)
        simp only at h
        split at h
        · cases h
        · cases h
          exact List.forall_mem_singleton.2 hfirst
        · split at h
          · cases h
          · cases h
          · obtain ⟨⟨ns, u⟩, hns, hpure⟩ := bind_eq_ok_iff.1 h
            cases hpure
            exact List.forall_mem_cons.2 ⟨hfirst, ih hns⟩
        · cases h
      · cases h
    · cases h

/-- A word that is read gives its value. -/
theorem eq_of_word {a b : Json} {ws s rest : List Char} (h : word a ws s = .ok (b, rest)) : b = a := by
  induction ws generalizing s with
  | nil =>
    cases h
    rfl
  | cons w ws ih =>
    cases s with
    | nil => cases h
    | cons c s =>
      rw [word] at h
      split_ifs at h
      exact ih h

/-- A list that is read is readable when its items are. -/
theorem readable_of_list {kind : Number → Prop} {d : Nat}
    (hread : ∀ s v rest, read s = .ok (v, rest) → Readable kind d v) {s rest : List Char} {v : Json}
    (h : list read s = .ok (v, rest)) : Readable kind (d + 1) v := by
  rw [list] at h
  split at h
  · cases h
  · cases h
    exact .arr nofun
  · obtain ⟨p, hitems, heq⟩ := map_eq_ok_iff.1 h
    cases heq
    exact .arr (forall_of_items hread hitems)

/-- An object that is read is readable when its values are: of the members of one key it keeps one. -/
theorem readable_of_object {kind : Number → Prop} {d : Nat}
    (hread : ∀ s v rest, read s = .ok (v, rest) → Readable kind d v) {s rest : List Char} {v : Json}
    (h : object read s = .ok (v, rest)) : Readable kind (d + 1) v := by
  rw [object] at h
  split at h
  · cases h
  · cases h
    exact .obj List.nodup_nil nofun
  · obtain ⟨p, hmembers, heq⟩ := map_eq_ok_iff.1 h
    cases heq
    have hall := forall_of_members hread hmembers
    exact .obj (nodup_map_fst_ofPairs p.1) fun m hm => hall m (mem_of_mem_ofPairs hm)

/-- **What is read is readable**, when all numbers that numerals give are of the kind. -/
theorem readable_of_value {kind : Number → Prop}
    (hkind : ∀ negative s n rest, numeral negative s = .ok (n, rest) → kind n) {d : Nat}
    {s rest : List Char} {v : Json} (h : value d s = .ok (v, rest)) : Readable kind d v := by
  induction d using Nat.strongRecOn generalizing s rest v with
  | ind d ih =>
    rw [value] at h
    -- the cases are those of the first character
    split at h
    · cases h
    · obtain ⟨p, -, heq⟩ := map_eq_ok_iff.1 h
      cases heq
      exact .str p.1
    · split at h
      · cases h
      · next d => exact readable_of_list (fun _ _ _ => ih d (Nat.lt_succ_self d)) h
    · split at h
      · cases h
      · next d => exact readable_of_object (fun _ _ _ => ih d (Nat.lt_succ_self d)) h
    · obtain ⟨p, hnumeral, heq⟩ := map_eq_ok_iff.1 h
      cases heq
      exact .num (hkind _ _ _ _ hnumeral)
    · rw [eq_of_word h]
      exact .null
    · rw [eq_of_word h]
      exact .bool true
    · rw [eq_of_word h]
      exact .bool false
    · split_ifs at h
      obtain ⟨p, hnumeral, heq⟩ := map_eq_ok_iff.1 h
      cases heq
      exact .num (hkind _ _ _ _ hnumeral)

end Read

end ErrorTaxonomy.Json
