import Wireframe.Proofs.Dart.Contents

/-!
# What indented literals stand for

Escaping leaves eight line ends as they are, so the literal of a text that has one of them goes on
in another line, and indentation puts spaces there which nobody can tell from the text. `displayed`
is the text with these spaces. It is the text itself only where the text is on one line
(`displayed_eq_self_iff`).
-/
namespace Wireframe

open DartLiteral (quote backslash dollar escape escapeOne decode decode_escape)

/-! ## Line ends that are not escaped -/

/-- The line ends that stand for themselves in a literal. -/
def CodePoint.isBareLineEnd (c : Nat) : Bool :=
  isLineEnd c && !(c == lineFeed || c == carriageReturn)

/-- Whether the literal of a text is on one line. -/
def Text.isOneLine (t : Text) : Bool := t.all fun c => !CodePoint.isBareLineEnd c

namespace Dart

theorem isLineEnd_of_isBareLineEnd {c : Nat} (h : CodePoint.isBareLineEnd c = true) :
    CodePoint.isLineEnd c = true := by
  rw [CodePoint.isBareLineEnd, Bool.and_eq_true] at h
  exact h.1

theorem escapeOne_of_isBareLineEnd {c : Nat} (h : CodePoint.isBareLineEnd c = true) :
    escapeOne c = [c] := by
  have hspecial : ∀ a ∈ [backslash, quote, dollar, CodePoint.lineFeed, CodePoint.carriageReturn,
      CodePoint.tab], CodePoint.isBareLineEnd a = false := by decide
  have hline := isLineEnd_of_isBareLineEnd h
  refine escapeOne_eq_singleton
    (fun hmem => Bool.false_ne_true ((hspecial c hmem).symm.trans h)) ?_
  simp [CodePoint.isLineEnd, CodePoint.within, CodePoint.isSurrogate] at hline ⊢
  omega

/-- No other code point ends a line once it is escaped. -/
theorem not_isLineEnd_of_mem_escapeOne {c x : Nat} (h : CodePoint.isBareLineEnd c = false)
    (hx : x ∈ escapeOne c) : CodePoint.isLineEnd x = false := by
  rcases mem_escapeOne hx with ⟨hge, hlt⟩ | ⟨rfl, hlineFeed, hcarriageReturn, -⟩
  · simp [CodePoint.isLineEnd, CodePoint.within]
    omega
  · simpa [CodePoint.isBareLineEnd, hlineFeed, hcarriageReturn] using h

theorem not_isLineEnd_of_mem_escape {t : Text} {x : Nat} (h : t.isOneLine = true)
    (hx : x ∈ escape t) : CodePoint.isLineEnd x = false := by
  obtain ⟨c, hc, hx⟩ := List.mem_flatMap.1 hx
  have hbare := List.all_eq_true.1 h c hc
  rw [Bool.not_eq_true'] at hbare
  exact not_isLineEnd_of_mem_escapeOne hbare hx

/-! ## Indented literals of texts -/

section Indented

variable (levels : Nat)

/-- What the literal of a text stands for after indentation. -/
def displayed : Text → Text
  | [] => []
  | c :: rest =>
    if CodePoint.isBareLineEnd c then c :: (lead levels (escape rest ++ [quote]) ++ displayed rest)
    else c :: displayed rest

theorem indentBody_append {a : Text} (h : ∀ x ∈ a, CodePoint.isLineEnd x = false) (b : Text) :
    indentBody levels (a ++ b) = a ++ indentBody levels b := by
  induction a with
  | nil => rfl
  | cons c rest ih =>
    have hends : Text.endsLine c (rest ++ b) = false := by
      rw [Text.endsLine, h c List.mem_cons_self, Bool.false_and]
    rw [List.cons_append, indentBody, hends, if_neg Bool.false_ne_true,
      ih fun x hx => h x (List.mem_cons_of_mem c hx), List.cons_append]

theorem escape_append (a b : Text) : escape (a ++ b) = escape a ++ escape b :=
  List.flatMap_append

theorem escape_lead (line : Text) : escape (lead levels line) = lead levels line := by
  refine lead_induction levels (P := fun spaces => escape spaces = spaces)
    rfl (fun spaces ih => ?_) line
  exact congrArg (CodePoint.space :: ·) ih

/-- The inserted spaces are content like any other. -/
theorem indentBody_escape (t : Text) :
    indentBody levels (escape t) = escape (displayed levels t) := by
  induction t with
  | nil => rfl
  | cons c rest ih =>
    have hcons (s : Text) : escape (c :: s) = escapeOne c ++ escape s := rfl
    by_cases hbare : CodePoint.isBareLineEnd c
    · have hends : Text.endsLine c (escape rest) = true := by
        have hne : (c == CodePoint.carriageReturn) = false := by
          rw [beq_eq_false_iff_ne]
          rintro rfl
          cases hbare
        rw [Text.endsLine, isLineEnd_of_isBareLineEnd hbare, hne, Bool.false_and]
        rfl
      rw [displayed, if_pos hbare, hcons, hcons, escapeOne_of_isBareLineEnd hbare,
        List.singleton_append, indentBody, if_pos hends, ih, escape_append, escape_lead]
      rfl
    · rw [displayed, if_neg hbare, hcons, hcons,
        indentBody_append levels fun x hx =>
          not_isLineEnd_of_mem_escapeOne (Bool.eq_false_iff.2 hbare) hx, ih]

theorem decode_indentBody_escape (t : Text) :
    decode (indentBody levels (escape t)) = some (displayed levels t) := by
  rw [indentBody_escape, decode_escape]

theorem startsBlank_of_not_isLineEnd {body : Text} (h : ∀ x ∈ body, CodePoint.isLineEnd x = false) :
    startsBlank (body ++ [quote]) = false := by
  induction body with
  | nil => rw [List.nil_append, startsBlank, not_isBlank_quote, Bool.false_and]
  | cons c rest ih =>
    rw [List.cons_append, startsBlank, ih fun x hx => h x (List.mem_cons_of_mem c hx),
      Text.endsLine, h c List.mem_cons_self, Bool.false_and, Bool.or_false, Bool.and_false]

theorem displayed_of_isOneLine {t : Text} (h : t.isOneLine = true) : displayed levels t = t := by
  induction t with
  | nil => rfl
  | cons c rest ih =>
    rw [Text.isOneLine, List.all_cons, Bool.and_eq_true, Bool.not_eq_true'] at h
    rw [displayed, h.1, if_neg Bool.false_ne_true, ih h.2]

theorem length_le_displayed (t : Text) : t.length ≤ (displayed levels t).length := by
  induction t with
  | nil => exact Nat.le_refl _
  | cons c rest ih =>
    rw [displayed]
    split <;> simp <;> omega

/-- After the last bare line end, the line with the closing quote is indented. -/
theorem length_lt_displayed (hlevels : 0 < levels) {t : Text} (h : t.isOneLine = false) :
    t.length < (displayed levels t).length := by
  induction t with
  | nil => cases h
  | cons c rest ih =>
    have hle := length_le_displayed levels rest
    by_cases hrest : Text.isOneLine rest = true
    · have hbare : CodePoint.isBareLineEnd c = true := by
        rwa [Text.isOneLine, List.all_cons, ← Text.isOneLine, hrest, Bool.and_true,
          Bool.not_eq_false'] at h
      have hblank := startsBlank_of_not_isLineEnd fun x hx => not_isLineEnd_of_mem_escape hrest hx
      rw [displayed, if_pos hbare, lead, hblank, if_neg Bool.false_ne_true, indentation]
      simp
      omega
    · have hlt := ih (Bool.eq_false_iff.2 hrest)
      rw [displayed]
      split <;> simp <;> omega

theorem displayed_eq_self_iff (hlevels : 0 < levels) (t : Text) :
    displayed levels t = t ↔ t.isOneLine = true := by
  refine ⟨fun h => ?_, displayed_of_isOneLine levels⟩
  by_cases hline : t.isOneLine = true
  · exact hline
  · have hlt := length_lt_displayed levels hlevels (Bool.eq_false_iff.2 hline)
    rw [h] at hlt
    exact absurd hlt (Nat.lt_irrefl _)

end Indented

end Dart

end Wireframe
