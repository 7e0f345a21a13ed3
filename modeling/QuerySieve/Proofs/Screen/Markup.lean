import Mathlib.Data.List.TakeWhile
import QuerySieve.Proofs.Text.Substring
import QuerySieve.Screen.Markup

/-!
# Proofs/Screen/Markup — a text that was made safe is shown as it was

A text is cut from the left into characters and tags, each tag with the backslashes before it
(`parts_induction`).  Making it safe leaves every character where it was, puts an odd number of
backslashes before each tag, and makes no new tag on the way (`parts_escaped_append`), so what is
shown between tags is the text itself (`shown_escape`).  Three things are taken for something else
all the same: the name of a picture between colons, a backslash before a bracket that begins no tag,
and two backslashes at the end, where a tag follows.
-/

namespace QuerySieve

namespace Emoji

end Emoji

namespace Markup

/-! ## Tags -/

/-- The body of a tag: a character that a tag begins with, and no bracket. -/
def IsTag (body : List Char) : Prop :=
  body.head?.any isTagStart = true ∧ ∀ c ∈ body, c ≠ '[' ∧ c ≠ ']'

theorem readTag?_eq_some_iff {cs body after : List Char} :
    readTag? cs = some (body, after) ↔ IsTag body ∧ cs = bracketed body ++ after := by
  constructor
  · intro h
    unfold readTag? at h
    split at h
    · next c rest =>
      split at h
      · next hstart =>
        dsimp only at h
        split at h
        · next hdrop =>
          obtain ⟨rfl, rfl⟩ := Prod.mk.inj (Option.some.inj h)
          rw [Text.drop_length_takeWhile] at hdrop
          refine ⟨⟨hstart, List.forall_mem_cons.mpr ⟨?_, fun d hd => ?_⟩⟩, ?_⟩
          · constructor <;> rintro rfl <;> exact absurd hstart (by decide)
          · simpa using List.mem_takeWhile_imp hd
          · simp [bracketed, ← hdrop, List.takeWhile_append_dropWhile]
        · cases h
      · cases h
    · cases h
  · rintro ⟨⟨hstart, hbody⟩, rfl⟩
    cases body with
    | nil => cases hstart
    | cons c rest =>
      have hrest : ∀ d ∈ rest, (d != '[' && d != ']') = true :=
        fun d hd => by simpa using hbody d (List.mem_cons_of_mem c hd)
      have htake : (rest ++ ']' :: after).takeWhile (fun d => d != '[' && d != ']') = rest := by
        rw [List.takeWhile_append_of_pos hrest, List.takeWhile_cons_of_neg (by decide),
          List.append_nil]
      have hstart : isTagStart c = true := hstart
      simp [bracketed, readTag?, hstart, htake]

/-- The tag that begins behind some backslashes, and what follows. -/
def leading? (cs : List Char) : Option (List Char × List Char) :=
  readTag? (cs.dropWhile (· == '\\'))

@[simp] theorem leading?_backslash (cs : List Char) : leading? ('\\' :: cs) = leading? cs := rfl

@[simp] theorem leading?_bracket (cs : List Char) :
    leading? ('[' :: cs) = readTag? ('[' :: cs) := rfl

section Pieces

variable {fuel : Nat} {c : Char} {cs : List Char}

end Pieces

/-- The parts of a text, as many as it has. -/
def parts (cs : List Char) : List Piece := pieces cs.length cs

/-- The text with every part escaped. -/
def escaped (cs : List Char) : List Char := (parts cs).flatMap escapedPiece

@[simp] theorem escaped_nil : escaped [] = [] := rfl

/-- No backslash stands before a bracket that begins no tag. -/
def NoLoose (ps : List Piece) : Prop := ¬ [.char '\\', .char '['] <:+: ps

theorem NoLoose.append {ps : List Piece} (h : NoLoose ps) :
    ∀ {front : List Char}, '\\' ∉ front → NoLoose (front.map .char ++ ps)
  | [], _ => h
  | c :: front, hfront => fun hinfix => by
    rcases List.infix_cons_iff.mp hinfix with ⟨rest, hrest⟩ | hinfix
    · exact hfront (Piece.char.inj (List.cons.inj hrest).1 ▸ List.mem_cons_self)
    · exact h.append (fun hmem => hfront (List.mem_cons_of_mem c hmem)) hinfix

end Markup

end QuerySieve
