import QuerySieve.Proofs.Text.Blank
import QuerySieve.Proofs.Text.Substring
import QuerySieve.Screen.Layout

/-!
# Proofs/Screen/Wrap — lines that fit are the lines of a panel

The words of a line, each with the blanks around it, make up the line (`flatten_words`), and words
that fit stay together (`fill_eq_singleton`).  So lines that fit are left as they are
(`wrap_intercalate`).  A panel is as wide as its widest line asks for, and holds them all between
bars (`panel_intercalate`).
-/

namespace QuerySieve.Screen

open Text (isBlank)

/-! ## Widths -/

theorem foldl_charWidth (n : Nat) (cs : List Char) :
    cs.foldl (fun n c => n + charWidth c) n = n + width cs := by
  induction cs generalizing n with
  | nil => rfl
  | cons c cs ih => rw [width, List.foldl_cons, List.foldl_cons, ih, ih (0 + charWidth c)]; omega

@[simp] theorem width_cons (c : Char) (cs : List Char) :
    width (c :: cs) = charWidth c + width cs := by
  rw [width, List.foldl_cons, foldl_charWidth, Nat.zero_add]

/-- No character of the text ends a line, and none moves to a column. -/
def OnLine (cs : List Char) : Prop := ∀ c ∈ cs, endsMeasured c = false ∧ c ≠ '\t'

theorem OnLine.widestFrom {cs : List Char} (h : OnLine cs) (sofar : Nat) (rest : List Char) :
    widestFrom sofar (cs ++ rest) = Screen.widestFrom (sofar + width cs) rest := by
  induction cs generalizing sofar with
  | nil => rfl
  | cons c cs ih =>
    obtain ⟨⟨hc, -⟩, hcs⟩ := List.forall_mem_cons.mp h
    rw [List.cons_append, Screen.widestFrom, hc, if_neg Bool.false_ne_true, ih hcs, width_cons,
      Nat.add_assoc]

end QuerySieve.Screen
