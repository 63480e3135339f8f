/-
# DeltaTape.Text.Newline — one way to end a line

Lines end with a line feed, with a carriage return, or with the two in this
order; read as text, each of the three is one line feed.
-/

namespace DeltaTape.Text

set_option autoImplicit false

/-- Text in which only line feeds end lines. -/
def unifyNewlines : List Char → List Char
  | [] => []
  | '\r' :: '\n' :: text => '\n' :: unifyNewlines text
  | '\r' :: text => '\n' :: unifyNewlines text
  | c :: text => c :: unifyNewlines text

/-- Text without carriage returns is left alone. -/
theorem unifyNewlines_eq_self {text : List Char} (free : '\r' ∉ text) :
    unifyNewlines text = text := by
  fun_induction unifyNewlines text with
  | case1 => rfl
  | case2 => simp at free
  | case3 => simp at free
  | case4 c text _ _ ih => rw [ih fun h => free (List.mem_cons_of_mem c h)]

end DeltaTape.Text
