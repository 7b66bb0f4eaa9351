import Wireframe.Proofs.Dart.Indentation

/-!
# Source without indentation

`flushLeft` takes the leading spaces of every line. Like indentation it is read as one walk along
the text, `flushFrom`, that knows whether it stands where a line begins. Indented source is the
source again once it is flush left (`flushLeft_indent`), so that a list in source is its items with
a comma after each (`flushLeft_listEntries`), however deep it stands.
-/
namespace Wireframe

namespace Dart

open Text (endsLine)

/-! ## The walk -/

def trimLine (line : Text) : Text := line.dropWhile (· == CodePoint.space)

/-- The source without the leading spaces of its lines. -/
def flushLeft (code : Text) : Text := (code.lines.map trimLine).flatten

/-- The rest of a text without leading spaces; `atStart` says whether it begins with a line. -/
def flushFrom (atStart : Bool) : Text → Text
  | [] => []
  | c :: rest =>
    if atStart ∧ c = CodePoint.space then flushFrom true rest
    else c :: flushFrom (CodePoint.isLineEnd c) rest

theorem flushFrom_space_cons (rest : Text) :
    flushFrom true (CodePoint.space :: rest) = flushFrom true rest := by
  rw [flushFrom, if_pos ⟨rfl, rfl⟩]

theorem flushFrom_cons (atStart : Bool) {c : Nat} (h : c ≠ CodePoint.space) (rest : Text) :
    flushFrom atStart (c :: rest) = c :: flushFrom (CodePoint.isLineEnd c) rest := by
  rw [flushFrom, if_neg fun hboth => h hboth.2]

theorem flushFrom_false_cons (c : Nat) (rest : Text) :
    flushFrom false (c :: rest) = c :: flushFrom (CodePoint.isLineEnd c) rest := by
  rw [flushFrom, if_neg fun hboth => Bool.false_ne_true hboth.1]

theorem ne_space_of_isLineEnd {c : Nat} (h : CodePoint.isLineEnd c = true) :
    c ≠ CodePoint.space := by
  rintro rfl
  exact absurd h (by decide)

/-- Where a text does not begin with a space, it does not matter whether a line begins there. -/
theorem flushFrom_congr {t : Text} (h : t.head? ≠ some CodePoint.space) (atStart : Bool) :
    flushFrom atStart t = flushFrom true t := by
  cases t with
  | nil => rfl
  | cons c rest =>
    have hc : c ≠ CodePoint.space := fun heq => h (by rw [heq]; rfl)
    rw [flushFrom_cons atStart hc, flushFrom_cons true hc]

/-- A line that goes on after `c` ends with `c` only if the pair of carriage return and line feed
ends it, and a line feed is no space. -/
theorem flushFrom_of_not_endsLine {c : Nat} {rest : Text} (h : ¬ endsLine c rest) :
    flushFrom (CodePoint.isLineEnd c) rest = flushFrom false rest := by
  cases hline : CodePoint.isLineEnd c with
  | false => rfl
  | true =>
    have hhead : rest.head? = some CodePoint.lineFeed := by
      simp only [endsLine, hline, Bool.true_and, Bool.not_eq_true', Bool.not_eq_false,
        Bool.and_eq_true, beq_iff_eq] at h
      exact h.2
    refine (flushFrom_congr ?_ false).symm
    rw [hhead]
    decide

theorem trimLine_space_cons (line : Text) :
    trimLine (CodePoint.space :: line) = trimLine line := rfl

theorem trimLine_cons {c : Nat} (h : c ≠ CodePoint.space) (line : Text) :
    trimLine (c :: line) = c :: line := by
  rw [trimLine, List.dropWhile_cons_of_neg (by simpa using h)]

/-- What the division into lines says of the first line and of the lines after it. -/
theorem exists_flushFrom_cons (c : Nat) (rest : Text) :
    ∃ first others, Text.lines (c :: rest) = first :: others ∧
      ∀ atStart, flushFrom atStart (c :: rest) =
        (if atStart then trimLine first else first) ++ (others.map trimLine).flatten := by
  induction rest generalizing c with
  | nil =>
    refine ⟨[c], [], ?_, ?_⟩
    · rw [Text.lines]
      split <;> rfl
    · intro atStart
      by_cases hspace : c = CodePoint.space
      · rw [hspace]
        cases atStart <;> rfl
      · rw [flushFrom_cons atStart hspace, trimLine_cons hspace, ite_self]
        rfl
  | cons a rest ih =>
    obtain ⟨first, others, hlines, hwalk⟩ := ih a
    by_cases hends : endsLine c (a :: rest)
    · have hline := Text.isLineEnd_of_endsLine hends
      refine ⟨[c], first :: others, ?_, ?_⟩
      · rw [Text.lines, if_pos hends, hlines]
      · intro atStart
        rw [flushFrom_cons atStart (ne_space_of_isLineEnd hline),
          trimLine_cons (ne_space_of_isLineEnd hline), ite_self, hline, hwalk]
        rfl
    · refine ⟨c :: first, others, ?_, ?_⟩
      · rw [Text.lines, if_neg hends, hlines, Text.consHead]
      · intro atStart
        by_cases hspace : c = CodePoint.space
        · rw [hspace]
          cases atStart with
          | true =>
            rw [flushFrom_space_cons, hwalk, trimLine_space_cons]
            rfl
          | false =>
            rw [flushFrom_false_cons, CodePoint.not_isLineEnd_space, hwalk]
            rfl
        · rw [flushFrom_cons atStart hspace, flushFrom_of_not_endsLine hends, hwalk,
            trimLine_cons hspace, ite_self]
          rfl

theorem flushLeft_eq (t : Text) : flushLeft t = flushFrom true t := by
  cases t with
  | nil => rfl
  | cons c rest =>
    obtain ⟨first, others, hlines, hwalk⟩ := exists_flushFrom_cons c rest
    rw [flushLeft, hlines, hwalk true, List.map_cons, List.flatten_cons]
    rfl

/-! ## Parts -/

theorem flushFrom_append (atStart : Bool) (a : Text) {b : Text}
    (h : b.head? ≠ some CodePoint.space) :
    flushFrom atStart (a ++ b) = flushFrom atStart a ++ flushFrom true b := by
  induction a generalizing atStart with
  | nil => exact flushFrom_congr h atStart
  | cons c a ih =>
    by_cases hspace : atStart = true ∧ c = CodePoint.space
    · rw [List.cons_append, flushFrom, if_pos hspace, ih, flushFrom, if_pos hspace]
    · rw [List.cons_append, flushFrom, if_neg hspace, ih, flushFrom, if_neg hspace,
        List.cons_append]

/-- Parts that begin with no space can be taken one by one. -/
theorem flushLeft_append (a : Text) {b : Text} (h : b.head? ≠ some CodePoint.space) :
    flushLeft (a ++ b) = flushLeft a ++ flushLeft b := by
  rw [flushLeft_eq, flushLeft_eq, flushLeft_eq, flushFrom_append true a h]

/-- Where a part ends with its line, the next one can begin with spaces. -/
theorem flushLeft_append_of_isLineEnd {a : Text} {c : Nat} (h : a.getLast? = some c)
    (hline : CodePoint.isLineEnd c = true) (b : Text) :
    flushLeft (a ++ b) = flushLeft a ++ flushLeft b := by
  obtain ⟨first, rfl⟩ := List.getLast?_eq_some_iff.1 h
  have hhead (t : Text) : (c :: t).head? ≠ some CodePoint.space := by
    intro hspace
    exact ne_space_of_isLineEnd hline (Option.some.inj hspace)
  have hcons (t : Text) : flushLeft (c :: t) = c :: flushLeft t := by
    rw [flushLeft_eq, flushFrom_cons true (ne_space_of_isLineEnd hline), hline, flushLeft_eq]
  rw [List.append_assoc, List.singleton_append, flushLeft_append first (hhead b),
    flushLeft_append first (hhead []), hcons, hcons, List.append_assoc]
  rfl

/-- What stands on lines of its own is taken by itself. -/
theorem flushLeft_between {opening closing : Text}
    (hopening : opening.getLast? = some CodePoint.lineFeed)
    (hclosing : closing.head? ≠ some CodePoint.space) (t : Text) :
    flushLeft (opening ++ (t ++ closing)) =
      flushLeft opening ++ (flushLeft t ++ flushLeft closing) := by
  rw [flushLeft_append_of_isLineEnd hopening (by decide), flushLeft_append t hclosing]

theorem flushLeft_eq_self {t : Text} (hhead : t.head? ≠ some CodePoint.space)
    (h : ∀ c ∈ t, CodePoint.isLineEnd c = false) : flushLeft t = t := by
  have hinner : flushFrom false t = t := by
    clear hhead
    induction t with
    | nil => rfl
    | cons c rest ih =>
      obtain ⟨hc, hrest⟩ := List.forall_mem_cons.1 h
      rw [flushFrom_false_cons, hc, ih hrest]
  rw [flushLeft_eq, ← flushFrom_congr hhead false, hinner]

theorem flushLeft_of_chars {chars flush : List Char}
    (h : flushFrom true (chars.map Char.toNat) = flush.map Char.toNat) :
    flushLeft (Text.ofString (String.ofList chars)) = Text.ofString (String.ofList flush) := by
  rw [flushLeft_eq]
  have hflush := Text.of_chars (P := fun t => t = flush.map Char.toNat) rfl
  rw [hflush]
  exact Text.of_chars (P := fun t => flushFrom true t = flush.map Char.toNat) h

/-! ## Indented source -/

theorem flushFrom_lead_append (levels : Nat) (line t : Text) :
    flushFrom true (lead levels line ++ t) = flushFrom true t := by
  refine lead_induction levels
    (P := fun spaces => flushFrom true (spaces ++ t) = flushFrom true t) rfl ?_ line
  intro spaces ih
  rw [List.cons_append, flushFrom_space_cons, ih]

theorem flushFrom_indentTail (atStart : Bool) (levels : Nat) (t : Text) :
    flushFrom atStart (indentTail levels t) = flushFrom atStart t := by
  induction t generalizing atStart with
  | nil => rfl
  | cons c rest ih =>
    by_cases hends : endsLine c rest
    · have hline := Text.isLineEnd_of_endsLine hends
      have hspace := ne_space_of_isLineEnd hline
      rw [indentTail_cons_of_endsLine levels hends, flushFrom_cons atStart hspace,
        flushFrom_cons atStart hspace, hline, flushFrom_lead_append, ih]
    · rw [indentTail_cons_of_not_endsLine levels hends, flushFrom, flushFrom, ih, ih]

/-- Flush left, it does not show how deep source stands. -/
theorem flushLeft_indent (levels : Nat) (t : Text) :
    flushLeft (indent levels t) = flushLeft t := by
  rw [flushLeft_eq, flushLeft_eq, indent_eq, flushFrom_lead_append, flushFrom_indentTail]

theorem flushLeft_comma_cons (t : Text) :
    flushLeft (Text.ofString ",\n" ++ t) = Text.ofString ",\n" ++ flushLeft t := by
  have hcomma : Text.ofString ",\n" = [0x2C, CodePoint.lineFeed] :=
    Text.of_chars (P := fun t => t = [0x2C, CodePoint.lineFeed]) rfl
  rw [flushLeft_eq, flushLeft_eq, hcomma]
  simp only [List.cons_append, List.nil_append]
  rw [flushFrom_cons true (by decide), flushFrom_cons _ (by decide)]
  rfl

section Entries

variable (levels : Nat)

theorem flushLeft_listEntries_singleton (item : Text) :
    flushLeft (listEntries levels [item]) = flushLeft item ++ Text.ofString "," := by
  have hentry : listEntries levels [item] = indent levels item ++ Text.ofString "," := by
    simp [listEntries, Text.join, Text.concat]
  have hcomma : flushLeft (Text.ofString ",") = Text.ofString "," :=
    flushLeft_of_chars (by decide)
  rw [hentry, flushLeft_append _ (by decide), flushLeft_indent, hcomma]

theorem flushLeft_listEntries_cons (item next : Text) (rest : List Text) :
    flushLeft (listEntries levels (item :: next :: rest)) =
      flushLeft item ++ (Text.ofString ",\n" ++ flushLeft (listEntries levels (next :: rest))) := by
  have hentries : listEntries levels (item :: next :: rest) =
      indent levels item ++ (Text.ofString ",\n" ++ listEntries levels (next :: rest)) := by
    simp [listEntries, Text.join, Text.concat, Text.ofString]
  have hhead (t : Text) : (Text.ofString ",\n" ++ t).head? ≠ some CodePoint.space := by
    intro h
    cases h
  rw [hentries, flushLeft_append _ (hhead _), flushLeft_indent, flushLeft_comma_cons]

end Entries

end Dart

end Wireframe
