/-!
# Line ends

Files may end their lines with LF, with CR LF or with CR alone. `unifyNewlines` writes all three as
LF; its result holds no CR (`cr_not_mem_unifyNewlines`).
-/

namespace ExportTrail.Text

/-- The text with every CR LF and every lone CR written as LF. -/
def unifyNewlines : List Char → List Char
  | [] => []
  | '\r' :: '\n' :: s => '\n' :: unifyNewlines s
  | c :: s => (if c = '\r' then '\n' else c) :: unifyNewlines s

theorem cr_not_mem_unifyNewlines (s : List Char) : '\r' ∉ unifyNewlines s := by
  fun_induction unifyNewlines s with
  | case1 => simp
  | case2 s ih => simp [ih]
  | case3 c s _ ih =>
    by_cases h : c = '\r'
    · simp [h, ih]
    · simp [h, ih, Ne.symm h]

end ExportTrail.Text
