/-! # Code — lines and blocks of generated source text

Generated code is a list of lines and **blocks**; a block is a head line that opens a brace, its body
four blanks deeper, and a closing brace. A blank line has no indentation. -/

namespace ErrorTaxonomy

/-- A piece of generated code. -/
inductive Code where
  | line (text : String)
  | blank
  | block (head : String) (body : List Code)

namespace Code

/-- The blanks in front of a line at depth `n`. -/
def indent (n : Nat) : String := String.ofList (List.replicate (4 * n) ' ')

mutual

/-- The text of a piece of code at depth `n`. -/
def render (n : Nat) : Code → String
  | .line text => indent n ++ text ++ "\n"
  | .blank => "\n"
  | .block head body =>
    indent n ++ head ++ " \x7b\n" ++ renderAll (n + 1) body ++ indent n ++ "\x7d\n"

/-- The text of several pieces of code at depth `n`. -/
def renderAll (n : Nat) : List Code → String
  | [] => ""
  | c :: cs => render n c ++ renderAll n cs

end

@[simp] theorem renderAll_nil (n : Nat) : renderAll n [] = "" := by simp [renderAll]

@[simp] theorem renderAll_cons (n : Nat) (c : Code) (cs : List Code) :
    renderAll n (c :: cs) = render n c ++ renderAll n cs := by simp [renderAll]

/-- Pieces of code are written one after the other. -/
theorem renderAll_append (n : Nat) (cs ds : List Code) :
    renderAll n (cs ++ ds) = renderAll n cs ++ renderAll n ds := by
  induction cs with
  | nil => simp
  | cons c cs ih => simp [ih, String.append_assoc]

end Code
end ErrorTaxonomy
