import ErrorTaxonomy.Emit.SourceText
import ErrorTaxonomy.Proofs.Emit.Layout
import ErrorTaxonomy.Proofs.Ident.Spelling
import ErrorTaxonomy.Proofs.Text.Literal
import ErrorTaxonomy.Proofs.Traversal

/-! # Impl blocks — reading what a sum error generates

A reader of the impl blocks of sum errors, from the text on: the layout gives lines and blocks, and each
block is taken apart by what its lines say. It knows arms, their patterns and the bodies behind them,
but not where they come from: patterns and fallbacks may stand in any number and any order. The main
statement is `readImpls?_itemsCode`, that the items of a sum error are read as the impl blocks they mean.
-/

namespace ErrorTaxonomy

/-- The path of a variant. -/
def VariantPattern.path (v : VariantPattern) : String :=
  String.intercalate "::" v.unionType ++ "::" ++ v.variant

namespace Emitted

open Text (between? cut? afterPrefix?)
open Ident (Spelled PathSpelled)

/-! ## Impl blocks -/

/-- The pattern of an arm. -/
inductive Pattern where
  /-- A field that holds that variant. -/
  | variant (path : String)
  /-- Whatever the field holds. -/
  | rest
  deriving Repr, DecidableEq

/-- An arm: a pattern and the expression behind it. -/
structure Arm where
  pattern : Pattern
  body : String
  deriving Repr, DecidableEq

/-- A match over what a field of the error holds. -/
structure Match where
  field : String
  arms : List Arm
  deriving Repr, DecidableEq

/-- A **union match**: an arm with one body for each variant, and one arm for everything else. -/
def unionMatch (field body last : String) (variants : List String) : Match :=
  ⟨field, variants.map (fun v => ⟨.variant v, body⟩) ++ [⟨.rest, last⟩]⟩

/-- A function that makes an error of a payload: it puts the payload into a variant, and this into a
field. -/
structure Maker where
  name : String
  argument : String
  field : String
  variant : String
  /-- Whether the remaining fields take their defaults. -/
  rest : Bool
  deriving Repr, DecidableEq

/-- An **impl block** of a sum error. -/
inductive Impl where
  | display (type : String) (body : Match)
  | source (type : String) (body : Match)
  | makers (type : String) (functions : List Maker)
  /-- A conversion that calls a function of the type it converts to. -/
  | conversion (source target function : String)
  deriving Repr, DecidableEq

/-! ## The reader -/

/-- Reads a pattern. -/
def readPattern? (s : String) : Option Pattern :=
  if s = "_" then some .rest
  else (between? "::std::option::Option::Some(" "(v))" s).map .variant

/-- Reads an arm. -/
def readArm? : Code → Option Arm
  | .line s => do
    -- a pattern has no blanks
    let (pattern, rest) ← cut? ' ' s
    return ⟨← readPattern? pattern, ← between? "=> " "," rest⟩
  | _ => none

/-- Reads the match that is the body of a function with that signature. -/
def readMatch? (signature : String) : List Code → Option Match
  | [.block fn [.block head arms]] =>
    if fn = signature then do
      return ⟨← afterPrefix? "match &self." head, ← arms.mapM readArm?⟩
    else none
  | _ => none

/-- Reads what stands behind the union field of an error that is made. -/
def readRest? : List Code → Option Bool
  | [] => some false
  | [.line s] => if s = "..::std::default::Default::default()" then some true else none
  | _ => none

/-- Reads the name of a function that makes an error, and the type of its argument. -/
def readSignature? (head : String) : Option (String × String) := do
  let signature ← afterPrefix? "pub fn " head
  let (name, rest) ← cut? '(' signature
  return (name, ← between? "leaf: " ") -> Self" rest)

/-- Reads a field of an error that is made, and the variant in it. -/
def readField? (line : String) : Option (String × String) := do
  let (field, value) ← cut? ':' line
  return (field, ← between? " ::std::option::Option::Some(" "(leaf))," value)

/-- Reads a function that makes an error. -/
def readMaker? : Code → Option Maker
  | .block head [.block "Self" (.line init :: more)] => do
    let (name, argument) ← readSignature? head
    let (field, variant) ← readField? init
    return ⟨name, argument, field, variant, ← readRest? more⟩
  | _ => none

/-- Reads the function that a conversion from a type calls. -/
def readCall? (source : String) : List Code → Option String
  | [.block head [.line s]] =>
    if head = "fn from(leaf: " ++ source ++ ") -> Self" then between? "Self::" "(leaf)" s else none
  | _ => none

/-- The pieces of code that are not blank. -/
def pieces (cs : List Code) : List Code := cs.filter fun | .blank => false | _ => true

/-- The signature of a display function. -/
def displaySignature : String := "fn fmt(&self, f: &mut ::std::fmt::Formatter<'_>) -> ::std::fmt::Result"

/-- The signature of a source function. -/
def sourceSignature : String :=
  "fn source(&self) -> ::std::option::Option<&(dyn ::std::error::Error + 'static)>"

/-- Reads an impl block of a trait. -/
def readTraitImpl? (trait type : String) (body : List Code) : Option Impl :=
  match between? "::std::convert::From<" ">" trait with
  | some source => (readCall? source body).map (.conversion source type)
  | none =>
    if trait = "::std::fmt::Display" then (readMatch? displaySignature body).map (.display type)
    else if trait = "::std::error::Error" then (readMatch? sourceSignature body).map (.source type)
    else none

/-- Reads an impl block. -/
def readImpl? : Code → Option Impl
  | .block head body => do
    let title ← afterPrefix? "impl " head
    match cut? ' ' title with
    | none => return .makers title (← (pieces body).mapM readMaker?)
    | some (trait, rest) => readTraitImpl? trait (← afterPrefix? "for " rest) body
  | _ => none

/-- Reads the **impl blocks** of a text. -/
def readImpls? (text : String) : Option (List Impl) :=
  (Code.readCode? text).bind fun cs => (pieces cs).mapM readImpl?

/-! ## Reading arms and matches -/

/-- Items that are read one by one are read together, in order. -/
theorem mapM_eq_some_of_forall₂ {α β : Type} {read : α → Option β} {as : List α} {bs : List β}
    (h : List.Forall₂ (fun a b => read a = some b) as bs) : as.mapM read = some bs := by
  induction h with
  | nil => rfl
  | cons hab _ ih =>
    rw [List.mapM_cons, hab, ih]
    rfl

/-- What is written item by item is read item by item. -/
theorem mapM_map_eq_some {α β γ : Type} {read : β → Option γ} {write : α → β} {mean : α → γ}
    {as : List α} (h : ∀ a ∈ as, read (write a) = some (mean a)) :
    (as.map write).mapM read = some (as.map mean) := by
  apply mapM_eq_some_of_forall₂
  rw [List.forall₂_map_left_iff, List.forall₂_map_right_iff, List.forall₂_same]
  exact h

/-- The pattern for a variant is read. -/
theorem readPattern?_some (path : String) :
    readPattern? ("::std::option::Option::Some(" ++ (path ++ "(v))")) = some (.variant path) := by
  have hne : "::std::option::Option::Some(" ++ (path ++ "(v))") ≠ "_" := by
    intro h
    simpa using congrArg (·.toList.head?) h
  unfold readPattern?
  rw [if_neg hne, Text.between?_eq_some_iff.2 rfl]
  rfl

/-- A line of a pattern and an expression is read as an arm. -/
theorem readArm?_line {s pattern : String} {p : Pattern} {body : String}
    (hs : s = pattern ++ (" => " ++ (body ++ ","))) (hblank : ' ' ∉ pattern.toList)
    (hp : readPattern? pattern = some p) : readArm? (.line s) = some ⟨p, body⟩ := by
  have hcut : cut? ' ' s = some (pattern, "=> " ++ (body ++ ",")) := by
    rw [hs]
    exact Text.cut?_append hblank (by simp)
  have hbody : between? "=> " "," ("=> " ++ (body ++ ",")) = some body :=
    Text.between?_eq_some_iff.2 rfl
  simp only [readArm?, hcut, Option.bind_eq_bind, Option.bind_some, hp, hbody]
  rfl

/-- A variant is written between what fills an option and its payload. -/
theorem some_variant (v : VariantPattern) (payload : String) :
    Emit.some (Emit.variant v payload) =
      "::std::option::Option::Some(" ++ (v.path ++ ("(" ++ (payload ++ "))"))) := by
  have hclose : "))" = ")" ++ ")" := rfl
  unfold Emit.some Emit.variant VariantPattern.path
  rw [hclose]
  simp only [String.append_assoc]

/-- The arm of a variant is read. -/
theorem readArm?_arm (body : String) {v : VariantPattern} (hv : PathSpelled v.path) :
    readArm? (Emit.arm body v) = some ⟨.variant v.path, body⟩ := by
  have hblank : ' ' ∉ ("::std::option::Option::Some(" ++ (v.path ++ "(v))")).toList := by
    simp only [String.toList_append, List.mem_append, not_or]
    exact ⟨by decide, hv.blank_notMem, by decide⟩
  unfold Emit.arm
  refine readArm?_line ?_ hblank (readPattern?_some v.path)
  rw [some_variant]
  simp only [String.append_assoc]
  rfl

/-- The arm for everything else is read. -/
theorem readArm?_lastArm (body : String) : readArm? (Emit.lastArm body) = some ⟨.rest, body⟩ := by
  have hline : "_ => " ++ body ++ "," = "_" ++ (" => " ++ (body ++ ",")) := by
    have harrow : "_ => " = "_" ++ " => " := rfl
    rw [harrow]
    simp only [String.append_assoc]
  unfold Emit.lastArm
  exact readArm?_line hline (by decide) rfl

/-- **A match over a union** is read, with an arm for each variant and a last one. -/
theorem readMatch?_dispatch (signature field body last : String) {arms : List VariantPattern}
    (h : ∀ v ∈ arms, PathSpelled v.path) :
    readMatch? signature [.block signature [Emit.dispatch field body last arms]] =
      some (unionMatch field body last (arms.map VariantPattern.path)) := by
  have harms : (arms.map (Emit.arm body)).mapM readArm? =
      some (arms.map fun v => ⟨.variant v.path, body⟩) :=
    mapM_map_eq_some fun v hv => readArm?_arm body (h v hv)
  have hfield : afterPrefix? "match &self." ("match &self." ++ field) = some field :=
    Text.afterPrefix?_eq_some_iff.2 rfl
  unfold Emit.dispatch readMatch? unionMatch
  simp only [if_true, hfield, List.mapM_append, harms, List.mapM_cons, readArm?_lastArm, List.map_map]
  rfl

/-! ## Reading functions -/

/-- The signature of a constructor is read. -/
theorem readSignature?_eq {name : String} (hname : Spelled name) (argument : String) :
    readSignature? ("pub fn " ++ name ++ "(leaf: " ++ argument ++ ") -> Self") =
      some (name, argument) := by
  have hkeyword : afterPrefix? "pub fn " ("pub fn " ++ name ++ "(leaf: " ++ argument ++ ") -> Self") =
      some (name ++ ("(" ++ ("leaf: " ++ (argument ++ ") -> Self")))) := by
    have hopen : "(leaf: " = "(" ++ "leaf: " := rfl
    rw [Text.afterPrefix?_eq_some_iff, hopen]
    simp only [String.append_assoc]
  have hcut : cut? '(' (name ++ ("(" ++ ("leaf: " ++ (argument ++ ") -> Self")))) =
      some (name, "leaf: " ++ (argument ++ ") -> Self")) :=
    Text.cut?_append (hname.notMem (by decide)) (String.toList_append ..)
  have hargument : between? "leaf: " ") -> Self" ("leaf: " ++ (argument ++ ") -> Self")) =
      some argument := Text.between?_eq_some_iff.2 rfl
  simp only [readSignature?, hkeyword, hcut, hargument, Option.bind_eq_bind, Option.bind_some]
  rfl

/-- The field that a constructor fills is read. -/
theorem readField?_eq {field : String} (hfield : Spelled field) (v : VariantPattern) :
    readField? (field ++ ": " ++ Emit.some (Emit.variant v "leaf") ++ ",") = some (field, v.path) := by
  have hline : field ++ ": " ++ Emit.some (Emit.variant v "leaf") ++ "," =
      field ++ (":" ++ (" ::std::option::Option::Some(" ++ (v.path ++ "(leaf)),"))) := by
    have hcolon : ": " = ":" ++ " " := rfl
    have hsome : " ::std::option::Option::Some(" = " " ++ "::std::option::Option::Some(" := rfl
    have hleaf : "(leaf))," = "(" ++ ("leaf" ++ ("))" ++ ",")) := rfl
    rw [some_variant, hcolon, hsome, hleaf]
    simp only [String.append_assoc]
  have hcut : cut? ':' (field ++ (":" ++ (" ::std::option::Option::Some(" ++ (v.path ++ "(leaf)),")))) =
      some (field, " ::std::option::Option::Some(" ++ (v.path ++ "(leaf)),")) :=
    Text.cut?_append (hfield.notMem (by decide)) (String.toList_append ..)
  have hvariant : between? " ::std::option::Option::Some(" "(leaf)),"
      (" ::std::option::Option::Some(" ++ (v.path ++ "(leaf)),")) = some v.path :=
    Text.between?_eq_some_iff.2 rfl
  simp only [readField?, hline, hcut, hvariant, Option.bind_eq_bind, Option.bind_some]
  rfl

/-- **A constructor** is read. -/
theorem readMaker?_constructorCode {f : Constructor} (hname : Spelled f.name)
    (hfield : Spelled f.field) : readMaker? (Emit.constructorCode f) =
      some ⟨f.name, f.argument, f.field, f.variant.path, f.rest⟩ := by
  have hrest : readRest? (if f.rest then [.line "..::std::default::Default::default()"] else []) =
      some f.rest := by
    cases f.rest <;> rfl
  unfold Emit.constructorCode readMaker?
  simp only [readSignature?_eq hname, readField?_eq hfield, hrest, Option.bind_eq_bind,
    Option.bind_some]
  rfl

/-- Constructors are the pieces of their code. -/
theorem pieces_constructorsCode (fs : List Constructor) :
    pieces (Emit.constructorsCode fs) = fs.map Emit.constructorCode := by
  fun_induction Emit.constructorsCode fs with
  | case1 => rfl
  | case2 f => rfl
  | case3 f fs h ih =>
    rw [List.map_cons, ← ih]
    rfl

/-! ## Lines and blocks -/

/-- A match over a union is readable. -/
theorem readable_dispatch {field body last : String} {arms : List VariantPattern}
    (hfield : Spelled field) (hbody : '\n' ∉ body.toList) (hlast : '\n' ∉ last.toList)
    (h : ∀ v ∈ arms, PathSpelled v.path) : (Emit.dispatch field body last arms).Readable := by
  unfold Emit.dispatch
  refine .block (.append ⟨by decide, by decide⟩ hfield.path.newline_notMem) ?_
  intro c hc
  rw [List.mem_append, List.mem_map, List.mem_singleton] at hc
  rcases hc with ⟨v, hv, rfl⟩ | rfl
  · have hsome : Code.OneLine (Emit.some (Emit.variant v "v")) := by
      rw [some_variant]
      refine .append ⟨by decide, by decide⟩ ?_
      simp only [String.toList_append, List.mem_append, not_or]
      exact ⟨(h v hv).newline_notMem, by decide⟩
    exact .of_last (((hsome.append (by decide)).append hbody).append (by decide)) (c := ',') rfl
      (by decide) (by decide)
  · exact .of_last (.append (.append ⟨by decide, by decide⟩ hlast) (by decide)) (c := ',') rfl
      (by decide) (by decide)

/-- A constructor is readable. -/
theorem readable_constructorCode {f : Constructor} (hname : Spelled f.name)
    (hargument : PathSpelled f.argument) (hfield : Spelled f.field)
    (hvariant : PathSpelled f.variant.path) : (Emit.constructorCode f).Readable := by
  have hinit : Code.OneLine (f.field ++ ": " ++ Emit.some (Emit.variant f.variant "leaf") ++ ",") := by
    rw [some_variant, String.append_assoc, String.append_assoc]
    refine .prepend hfield.path.blank_notMem hfield.path.newline_notMem ?_
    refine .append ⟨by decide, by decide⟩ ?_
    simp only [String.toList_append, List.mem_append, not_or]
    exact ⟨⟨by decide, hvariant.newline_notMem, by decide, by decide, by decide⟩, by decide⟩
  have hhead : Code.OneLine ("pub fn " ++ f.name ++ "(leaf: " ++ f.argument ++ ") -> Self") :=
    .append (.append (.append (.append ⟨by decide, by decide⟩ hname.path.newline_notMem)
      (by decide)) hargument.newline_notMem) (by decide)
  unfold Emit.constructorCode
  refine .single hhead (.block ⟨by decide, by decide⟩ fun d hd => ?_)
  rcases List.mem_cons.1 hd with rfl | hd
  · exact .of_last hinit (c := ',') rfl (by decide) (by decide)
  · split at hd
    · rw [List.mem_singleton.1 hd]
      exact .line ⟨by decide, by decide⟩ (by decide) (by decide)
    · cases hd

/-- Constructors are readable, with the blank lines between them. -/
theorem readable_constructorsCode {fs : List Constructor}
    (h : ∀ f ∈ fs, (Emit.constructorCode f).Readable) :
    ∀ c ∈ Emit.constructorsCode fs, c.Readable := by
  fun_induction Emit.constructorsCode fs with
  | case1 => simp
  | case2 f => simpa using h
  | case3 f fs hfs ih =>
    intro c hc
    rcases List.mem_cons.1 hc with rfl | hc
    · exact h f List.mem_cons_self
    rcases List.mem_cons.1 hc with rfl | hc
    · exact .blank
    · exact ih (fun g hg => h g (List.mem_cons_of_mem f hg)) c hc

/-! ## Reading impl blocks -/

/-- An item **reads as** an impl block: its code is readable, and it is what is read. -/
structure ReadsAs (i : Item) (b : Impl) : Prop where
  readable : (Emit.itemCode i).Readable
  read : readImpl? (Emit.itemCode i) = some b

/-- A head is taken apart into the trait and the type. -/
theorem readImpl?_trait {head trait type : String} (body : List Code)
    (h : head = "impl " ++ (trait ++ " for ")) (htrait : ' ' ∉ trait.toList) :
    readImpl? (.block (head ++ type) body) = readTraitImpl? trait type body := by
  have hfor : " for " = " " ++ "for " := rfl
  have htitle : afterPrefix? "impl " (head ++ type) =
      some (trait ++ (" " ++ ("for " ++ type))) := by
    rw [Text.afterPrefix?_eq_some_iff, h, hfor]
    simp only [String.append_assoc]
  have hcut : cut? ' ' (trait ++ (" " ++ ("for " ++ type))) = some (trait, "for " ++ type) :=
    Text.cut?_append htrait (String.toList_append ..)
  have htype : afterPrefix? "for " ("for " ++ type) = some type :=
    Text.afterPrefix?_eq_some_iff.2 rfl
  simp only [readImpl?, htitle, hcut, htype, Option.bind_eq_bind, Option.bind_some]

/-- **The display of a union** reads as a match. -/
theorem readsAs_display {type field : String} {arms : List VariantPattern} (fallback : String)
    (htype : PathSpelled type) (hfield : Spelled field) (harms : ∀ v ∈ arms, PathSpelled v.path) :
    ReadsAs (.display type (.dispatch field arms fallback)) (.display type
      (unionMatch field "::std::fmt::Display::fmt(v, f)" (Emit.writeText fallback)
        (arms.map VariantPattern.path))) where
  readable := by
    have hlast : '\n' ∉ (Emit.writeText fallback).toList := by
      unfold Emit.writeText Text.quote Text.quoteBy
      rw [String.toList_append, String.toList_append, String.toList_ofList]
      simpa using Text.not_mem_escape_of_isBreak Text.isSpelledOut fallback.toList (.inl rfl)
    exact .single (.append ⟨by decide, by decide⟩ htype.newline_notMem)
      (.single ⟨by decide, by decide⟩ (readable_dispatch hfield (by decide) hlast harms))
  read := by
    have hhead : "impl ::std::fmt::Display for " = "impl " ++ ("::std::fmt::Display" ++ " for ") := rfl
    have hnone : between? "::std::convert::From<" ">" "::std::fmt::Display" = none := by decide
    unfold Emit.itemCode
    rw [readImpl?_trait _ hhead (by decide), readTraitImpl?, hnone]
    show (readMatch? displaySignature [.block displaySignature [Emit.dispatch _ _ _ _]]).map _ = _
    rw [readMatch?_dispatch _ _ _ _ harms]
    rfl

/-- **The source of a union** reads as a match. -/
theorem readsAs_source {type field : String} {arms : List VariantPattern} (htype : PathSpelled type)
    (hfield : Spelled field) (harms : ∀ v ∈ arms, PathSpelled v.path) :
    ReadsAs (.source type (.dispatch field arms)) (.source type
      (unionMatch field "::std::option::Option::Some(v as &(dyn ::std::error::Error + 'static))"
        "::std::option::Option::None" (arms.map VariantPattern.path))) where
  readable :=
    .single (.append ⟨by decide, by decide⟩ htype.newline_notMem)
      (.single ⟨by decide, by decide⟩ (readable_dispatch hfield (by decide) (by decide) harms))
  read := by
    have hhead : "impl ::std::error::Error for " = "impl " ++ ("::std::error::Error" ++ " for ") := rfl
    have hnone : between? "::std::convert::From<" ">" "::std::error::Error" = none := by decide
    unfold Emit.itemCode
    rw [readImpl?_trait _ hhead (by decide), readTraitImpl?, hnone]
    show (readMatch? sourceSignature [.block sourceSignature [Emit.dispatch _ _ _ _]]).map _ = _
    rw [readMatch?_dispatch _ _ _ _ harms]
    rfl

/-- **Constructors** read as functions. -/
theorem readsAs_makers {type : String} {fs : List Constructor} (htype : PathSpelled type)
    (h : ∀ f ∈ fs, Spelled f.name ∧ PathSpelled f.argument ∧ Spelled f.field ∧
      PathSpelled f.variant.path) :
    ReadsAs (.constructors type fs) (.makers type
      (fs.map fun f => ⟨f.name, f.argument, f.field, f.variant.path, f.rest⟩)) where
  readable := by
    refine .block (.append ⟨by decide, by decide⟩ htype.newline_notMem) ?_
    refine readable_constructorsCode fun f hf => ?_
    obtain ⟨hname, hargument, hfield, hvariant⟩ := h f hf
    exact readable_constructorCode hname hargument hfield hvariant
  read := by
    have htitle : afterPrefix? "impl " ("impl " ++ type) = some type :=
      Text.afterPrefix?_eq_some_iff.2 rfl
    have hcut : cut? ' ' type = none := Text.cut?_eq_none htype.blank_notMem
    have hread : (fs.map Emit.constructorCode).mapM readMaker? =
        some (fs.map fun f => ⟨f.name, f.argument, f.field, f.variant.path, f.rest⟩) :=
      mapM_map_eq_some fun f hf => readMaker?_constructorCode (h f hf).1 (h f hf).2.2.1
    simp only [Emit.itemCode, readImpl?, htitle, hcut, pieces_constructorsCode, hread,
      Option.bind_eq_bind, Option.bind_some]
    rfl

/-- **A conversion** reads as the function that it calls. -/
theorem readsAs_conversion {source target function : String} (hsource : PathSpelled source)
    (htarget : PathSpelled target) (hfunction : Spelled function) :
    ReadsAs (.conversion source target function) (.conversion source target function) where
  readable := by
    have hhead : Code.OneLine ("impl ::std::convert::From<" ++ source ++ "> for " ++ target) :=
      .append (.append (.append ⟨by decide, by decide⟩ hsource.newline_notMem) (by decide))
        htarget.newline_notMem
    have hsignature : Code.OneLine ("fn from(leaf: " ++ source ++ ") -> Self") :=
      .append (.append ⟨by decide, by decide⟩ hsource.newline_notMem) (by decide)
    have hcall : Code.OneLine ("Self::" ++ function ++ "(leaf)") :=
      .append (.append ⟨by decide, by decide⟩ hfunction.path.newline_notMem) (by decide)
    exact .single hhead (.single hsignature (.of_last hcall (c := ')') rfl (by decide) (by decide)))
  read := by
    have hhead : "impl ::std::convert::From<" ++ source ++ "> for " =
        "impl " ++ (("::std::convert::From<" ++ (source ++ ">")) ++ " for ") := by
      have himpl : "impl ::std::convert::From<" = "impl " ++ "::std::convert::From<" := rfl
      have hfor : "> for " = ">" ++ " for " := rfl
      rw [himpl, hfor]
      simp only [String.append_assoc]
    have htrait : ' ' ∉ ("::std::convert::From<" ++ (source ++ ">")).toList := by
      simp only [String.toList_append, List.mem_append, not_or]
      exact ⟨by decide, hsource.blank_notMem, by decide⟩
    have hbetween : between? "::std::convert::From<" ">" ("::std::convert::From<" ++ (source ++ ">")) =
        some source := Text.between?_eq_some_iff.2 rfl
    have hcall : between? "Self::" "(leaf)" ("Self::" ++ function ++ "(leaf)") = some function := by
      rw [String.append_assoc]
      exact Text.between?_eq_some_iff.2 rfl
    unfold Emit.itemCode
    rw [readImpl?_trait _ hhead htrait, readTraitImpl?, hbetween]
    show (readCall? source _).map _ = _
    rw [readCall?, if_pos rfl, hcall]
    rfl

/-- Items are the pieces of their code. -/
theorem pieces_itemsCode (is : List Item) : pieces (Emit.itemsCode is) = is.map Emit.itemCode := by
  induction is with
  | nil => rfl
  | cons i is ih =>
    rw [List.map_cons, ← ih]
    cases i <;> rfl

/-- **Items are read** from their text as the impl blocks that they read as. -/
theorem readImpls?_itemsCode {is : List Item} {bs : List Impl} (h : List.Forall₂ ReadsAs is bs) :
    readImpls? (Code.renderAll 0 (Emit.itemsCode is)) = some bs := by
  have hreadable : ∀ c ∈ Emit.itemsCode is, c.Readable := by
    intro c hc
    obtain ⟨i, hi, hc⟩ := List.mem_flatMap.1 hc
    obtain ⟨b, -, hread⟩ := exists_mem_of_forall₂ h hi
    rcases List.mem_cons.1 hc with rfl | hc
    · exact .blank
    · rw [List.mem_singleton.1 hc]
      exact hread.readable
  unfold readImpls?
  rw [Code.readCode?_renderAll hreadable, Option.bind_some, pieces_itemsCode]
  apply mapM_eq_some_of_forall₂
  rw [List.forall₂_map_left_iff]
  exact h.imp fun _ _ hread => hread.read

end Emitted
end ErrorTaxonomy
