import Phrasebook.Proofs.Label.Scanning
import Phrasebook.Proofs.Label.Stretches

/-!
# Labels put together from pieces

A label in which every brace belongs to a token is a sequence of plain stretches
and of tokens in simple braces. As no brace stands inside a token, replacing a
token replaces just the pieces that are equal to it, and the scanner of a kind
claims just the tokens of that kind as long as no token of an earlier kind is
left.
-/

namespace Phrasebook

open Written (Braced Unbraced Before ofKind)

/-- A token in simple braces, as it is written. -/
@[ext] structure WrittenToken where
  kind : TokenKind
  chars : List Char
  written : chars ∈ ofKind kind
  braced : Braced chars

/-- A stretch of a label in which no token begins or ends. -/
structure PlainText where
  chars : List Char
  plain : ∀ c ∈ chars, c ≠ '{' ∧ c ≠ '}' ∧ c ≠ '%'

inductive Piece where
  | plain (x : PlainText)
  | token (t : WrittenToken)

namespace Piece

def chars : Piece → List Char
  | .plain x => x.chars
  | .token t => t.chars

def isOf (k : TokenKind) : Piece → Bool
  | .plain _ => false
  | .token t => decide (t.kind = k)

end Piece

namespace Label

def charsOf (ps : List Piece) : List Char :=
  (ps.map Piece.chars).flatten

def ofPieces (ps : List Piece) : String :=
  String.ofList (charsOf ps)

/-- The tokens of a kind in the order in which they appear. -/
def writtenOf (k : TokenKind) (ps : List Piece) : List (List Char) :=
  (ps.filter (Piece.isOf k)).map Piece.chars

/-! ## Braces -/

variable {s t : List Char} {ps : List Piece} {k : TokenKind}

theorem unbraced_plain (x : PlainText) : Unbraced x.chars :=
  ⟨fun h => (x.plain _ h).1 rfl, fun h => (x.plain _ h).2.1 rfl⟩

theorem ne_of_unbraced_of_braced (hs : Unbraced s) (ht : Braced t) : s ≠ t := by
  rintro rfl
  obtain ⟨inner, rfl, -⟩ := ht
  exact hs.1 (by simp)

theorem kind_eq_of_chars_eq {t u : WrittenToken} (h : t.chars = u.chars) :
    t.kind = u.kind :=
  Written.kind_unique t.braced t.written (h ▸ u.written)

theorem token_eq_of_chars_eq {t u : WrittenToken} (h : t.chars = u.chars) :
    t = u :=
  WrittenToken.ext (kind_eq_of_chars_eq h) h

/-! ## Replacing -/

/-- Among texts in simple braces and without braces, replacing one in simple
braces replaces just the texts that are equal to it. -/
theorem replaceChars_flatten (ht : Braced t) {segments : List (List Char)}
    (hsegments : ∀ s ∈ segments, Unbraced s ∨ Braced s) (new : List Char) :
    Text.replaceChars segments.flatten t new =
      (segments.map fun s => if s = t then new else s).flatten :=
  replaceChars_of_cutFor ht.opened (cutFor_of_braced ht hsegments) new

theorem unbraced_or_braced_chars (p : Piece) :
    Unbraced p.chars ∨ Braced p.chars := by
  cases p with
  | plain x => exact .inl (unbraced_plain x)
  | token t => exact .inr t.braced

theorem replaceChars_charsOf (ht : Braced t) (ps : List Piece) :
    Text.replaceChars (charsOf ps) t [] =
      charsOf (ps.filter fun p => p.chars ≠ t) := by
  have hsegments : ∀ s ∈ ps.map Piece.chars, Unbraced s ∨ Braced s := by
    intro s hs
    obtain ⟨p, -, rfl⟩ := List.mem_map.mp hs
    exact unbraced_or_braced_chars p
  rw [charsOf, replaceChars_flatten ht hsegments]
  induction ps with
  | nil => rfl
  | cons p ps ih =>
      have ih := ih fun s hs => hsegments s (by simp at hs ⊢; tauto)
      by_cases hp : p.chars = t
      · simpa [charsOf, hp] using ih
      · simpa [charsOf, hp] using ih

theorem without_charsOf {ts : List (List Char)} (hts : ∀ t ∈ ts, Braced t)
    (ps : List Piece) :
    without (charsOf ps) ts = charsOf (ps.filter fun p => p.chars ∉ ts) := by
  induction ts generalizing ps with
  | nil => simp [without]
  | cons t ts ih =>
      obtain ⟨ht, hts⟩ := List.forall_mem_cons.mp hts
      have ih := ih hts (ps.filter fun p => p.chars ≠ t)
      rw [without] at ih ⊢
      rw [List.foldl_cons, replaceChars_charsOf ht, ih, List.filter_filter]
      congr 2
      funext p
      simp [Bool.and_comm]

end Label
end Phrasebook
