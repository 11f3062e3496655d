/-! # Words of shell scripts

A script is a sequence of commands, one on a line or between semicolons. A command is a list of words
and of redirections of its output. A word is put together from literal text and parameters, which
quotes keep in one piece. -/

namespace ErrorTaxonomy.Shell

/-- A piece of a word. -/
inductive Fragment where
  | text (s : List Char)
  | parameter (name : Char) (quoted : Bool)
  deriving Repr, DecidableEq

/-- A word before its parameters are put in. -/
abbrev Word := List Fragment

/-- A part of a script. -/
inductive Lexeme where
  | word (w : Word)
  /-- A redirection of the output with that number; the next word says where to. -/
  | redirect (output : Nat)
  | stop
  deriving Repr, DecidableEq

/-- What surrounds a character. -/
inductive Quoting where
  | none
  | single
  | double
  | comment
  deriving Repr, DecidableEq

/-- A character that names a parameter. -/
def isParameter (c : Char) : Bool := c.isDigit || "#*@$?".toList.contains c

/-- A word with one more piece. -/
def extend (w : Option Word) (f : Fragment) : Option Word := some (w.getD [] ++ [f])

/-- The lexeme of a word that ends, if there is one. -/
def finish : Option Word → List Lexeme
  | none => []
  | some w => [.word w]

/-- The output that a redirection behind a word changes: the one with the number that the word is, or
the first one. -/
def redirection : Option Word → List Lexeme
  | some [.text ['1']] => [.redirect 1]
  | some [.text ['2']] => [.redirect 2]
  | w => finish w ++ [.redirect 1]

/-- Splits a script into lexemes; `w` is the word that has been started. -/
def lexemes (q : Quoting) (w : Option Word) : List Char → List Lexeme
  | [] => finish w ++ [.stop]
  | c :: s =>
    match q with
    | .comment => if c = '\n' then .stop :: lexemes .none none s else lexemes .comment none s
    | .single =>
      if c = '\'' then lexemes .none w s else lexemes .single (extend w (.text [c])) s
    | .double =>
      if c = '"' then lexemes .none w s
      else
        match c, s with
        | '\\', d :: t =>
          if d = '"' ∨ d = '\\' ∨ d = '$' then lexemes .double (extend w (.text [d])) t
          else lexemes .double (extend (extend w (.text ['\\'])) (.text [d])) t
        | '$', d :: t =>
          if isParameter d then lexemes .double (extend w (.parameter d true)) t
          else lexemes .double (extend w (.text ['$'])) (d :: t)
        | c, s => lexemes .double (extend w (.text [c])) s
    | .none =>
      if c = '\n' ∨ c = ';' then finish w ++ .stop :: lexemes .none none s
      else if c = ' ' ∨ c = '\t' then finish w ++ lexemes .none none s
      else if c = '>' then redirection w ++ lexemes .none none s
      -- inside a word the sign starts no comment
      else if c = '#' ∧ w = none then lexemes .comment none s
      else if c = '\'' then lexemes .single (extend w (.text [])) s
      else if c = '"' then lexemes .double (extend w (.text [])) s
      else
        match c, s with
        | '\\', d :: t => lexemes .none (extend w (.text [d])) t
        | '$', d :: t =>
          if isParameter d then lexemes .none (extend w (.parameter d false)) t
          else lexemes .none (extend w (.text ['$'])) (d :: t)
        | c, s => lexemes .none (extend w (.text [c])) s
termination_by s => s.length

/-- A command: its words and the redirections of its outputs. -/
structure Command where
  words : List Word
  redirections : List (Nat × Word)
  deriving Repr, DecidableEq

/-- Collects lexemes into commands; `c` is the command that has been started. -/
def collect (c : Command) : List Lexeme → List Command
  | [] => []
  | .stop :: ls =>
    if c.words = [] ∧ c.redirections = [] then collect ⟨[], []⟩ ls else c :: collect ⟨[], []⟩ ls
  | .redirect n :: .word w :: ls =>
    collect { c with redirections := c.redirections ++ [(n, w)] } ls
  | .redirect _ :: ls => collect c ls
  | .word w :: ls => collect { c with words := c.words ++ [w] } ls

/-- The **commands** of a script. -/
def commands (script : String) : List Command :=
  collect ⟨[], []⟩ (lexemes .none none script.toList)

/-! ## Parameters -/

/-- What a word gives: the fields before the last one, and the last one if it has been started. -/
structure Fields where
  done : List (List Char)
  current : Option (List Char)

/-- Adds text to the last field. -/
def Fields.add (fs : Fields) (s : List Char) : Fields :=
  { fs with current := some (fs.current.getD [] ++ s) }

/-- Adds text whose blanks separate fields. -/
def Fields.addSplit (fs : Fields) : List Char → Fields
  | [] => fs
  | c :: s =>
    if c.isWhitespace then
      Fields.addSplit ⟨fs.done ++ fs.current.toList, none⟩ s
    else Fields.addSplit (fs.add [c]) s

/-- The fields of a word, with parameters looked up by `value`. -/
def fieldsOf (value : Char → List Char) (w : Word) : List (List Char) :=
  let fs := w.foldl
    (fun (fs : Fields) f => match f with
      | .text s => fs.add s
      | .parameter p true => fs.add (value p)
      | .parameter p false => fs.addSplit (value p))
    ⟨[], none⟩
  fs.done ++ fs.current.toList

end ErrorTaxonomy.Shell
