import Wireframe.Proofs.Dart.Reading

/-!
# Contents of literals

`literals` are the contents of the literals of a text, from first to last. `IsContent` holds of
what can stand between two quotes, and every escaped text does (`isContent_escape`). Main statement:
`encode_faithful`, what a literal is and that it stands for its text alone.

Indentation does not look at literals: where a content goes on in a new line, that line is indented
as well. `indentBody` is what becomes of a content (`literalsFrom_indentTail`).
-/
namespace Wireframe

namespace Dart

open DartLiteral (quote backslash dollar escape escapeOne encode decode decode_escape)

/-! ## Literals of a text -/

/-- The contents of literals, the first one as far as it is still to be read. -/
def literalsFrom : Mode → Text → List Text
  | m, [] => if m = .code then [] else [[]]
  | m, c :: rest =>
    if m = .code then literalsFrom (m.next c) rest
    else if m.next c = .code then [] :: literalsFrom .code rest
    else Text.consHead c (literalsFrom (m.next c) rest)

def literals (t : Text) : List Text := literalsFrom .code t

theorem literals_cons (c : Nat) (rest : Text) :
    literals (c :: rest) = literalsFrom (Mode.code.next c) rest := by
  rw [literals, literalsFrom, if_pos rfl]

theorem literalsFrom_cons_of_closes {m : Mode} {c : Nat} (hm : m ≠ .code) (h : m.next c = .code)
    (rest : Text) : literalsFrom m (c :: rest) = [] :: literals rest := by
  rw [literalsFrom, if_neg hm, if_pos h, literals]

theorem literalsFrom_cons_of_inside {m : Mode} {c : Nat} (hm : m ≠ .code) (h : m.next c ≠ .code)
    (rest : Text) :
    literalsFrom m (c :: rest) = Text.consHead c (literalsFrom (m.next c) rest) := by
  rw [literalsFrom, if_neg hm, if_neg h]

/-- Inside of a literal, the contents begin with the rest of this one. -/
theorem exists_literalsFrom_cons {m : Mode} {t : Text} (hm : m ≠ .code)
    (h : m.read t = some .code) :
    ∃ body bodies after, literalsFrom m t = body :: bodies ∧ t = body ++ quote :: after := by
  induction t generalizing m with
  | nil =>
    exact absurd (Mode.eq_of_read_nil h) hm
  | cons c rest ih =>
    by_cases hclosed : m.next c = .code
    · refine ⟨[], literals rest, rest, literalsFrom_cons_of_closes hm hclosed rest, ?_⟩
      rw [(Mode.eq_quote_of_next_eq_code hm hclosed).2, List.nil_append]
    · obtain ⟨body, bodies, after, hbodies, hrest⟩ := ih hclosed (Mode.read_cons_eq_some.1 h).2
      refine ⟨c :: body, bodies, after, ?_, ?_⟩
      · rw [literalsFrom_cons_of_inside hm hclosed, hbodies, Text.consHead]
      · rw [hrest, List.cons_append]

theorem literalsFrom_append {m : Mode} {a : Text} (h : m.read a = some .code) (b : Text) :
    literalsFrom m (a ++ b) = literalsFrom m a ++ literals b := by
  induction a generalizing m with
  | nil =>
    rw [Mode.eq_of_read_nil h]
    rfl
  | cons c rest ih =>
    have hrest := (Mode.read_cons_eq_some.1 h).2
    have happend := ih hrest
    by_cases hm : m = .code
    · subst hm
      rw [List.cons_append, ← literals, ← literals, literals_cons, literals_cons, happend]
    · by_cases hclosed : m.next c = .code
      · rw [hclosed, ← literals, ← literals] at happend
        rw [List.cons_append, literalsFrom_cons_of_closes hm hclosed,
          literalsFrom_cons_of_closes hm hclosed, happend, List.cons_append]
      · obtain ⟨body, bodies, -, hbodies, -⟩ := exists_literalsFrom_cons hclosed hrest
        rw [List.cons_append, literalsFrom_cons_of_inside hm hclosed,
          literalsFrom_cons_of_inside hm hclosed, happend, hbodies]
        rfl

/-! ## What may stand in a literal -/

/-- A text that a reader can go through inside of a literal, without leaving it. -/
inductive IsContent : Text → Prop where
  | nil : IsContent []
  | plain {c : Nat} {body : Text} (hquote : c ≠ quote) (hbackslash : c ≠ backslash)
      (hrefuses : Mode.literal.refuses c = false) (h : IsContent body) : IsContent (c :: body)
  | escaped {c : Nat} {body : Text} (hrefuses : Mode.escaped.refuses c = false)
      (h : IsContent body) : IsContent (backslash :: c :: body)

namespace IsContent

theorem append {a b : Text} (ha : IsContent a) (hb : IsContent b) : IsContent (a ++ b) := by
  induction ha with
  | nil => exact hb
  | plain hquote hbackslash hrefuses _ ih => exact .plain hquote hbackslash hrefuses ih
  | escaped hrefuses _ ih => exact .escaped hrefuses ih

variable {body : Text} (h : IsContent body)

include h

theorem read_append (rest : Text) : Mode.literal.read (body ++ rest) = Mode.literal.read rest := by
  induction h with
  | nil => rfl
  | plain hquote hbackslash hrefuses _ ih =>
    rw [List.cons_append, Mode.read_cons, hrefuses, if_neg Bool.false_ne_true, Mode.next,
      if_neg hquote, if_neg hbackslash, ih]
  | escaped hrefuses _ ih =>
    have hopen : Mode.literal.next backslash = .escaped := rfl
    have hclose : ∀ c, Mode.escaped.next c = .literal := fun _ => rfl
    have hbackslash : Mode.literal.refuses backslash = false := rfl
    rw [List.cons_append, List.cons_append, Mode.read_cons, hbackslash, if_neg Bool.false_ne_true,
      hopen, Mode.read_cons, hrefuses, if_neg Bool.false_ne_true, hclose, ih]

theorem skeletonFrom_append (rest : Text) :
    skeletonFrom .literal (body ++ rest) = skeletonFrom .literal rest := by
  induction h with
  | nil => rfl
  | @plain c _ hquote hbackslash _ _ ih =>
    have hnext : Mode.literal.next c = .literal := by
      rw [Mode.next, if_neg hquote, if_neg hbackslash]
    rw [List.cons_append, skeletonFrom_cons_of_inside (by decide) (by rw [hnext]; decide), hnext,
      ih]
  | @escaped c _ _ _ ih =>
    have hclose : Mode.escaped.next c = .literal := rfl
    rw [List.cons_append, List.cons_append,
      skeletonFrom_cons_of_inside (m := .literal) (by decide) (by decide)]
    exact (skeletonFrom_cons_of_inside (m := .escaped) (by decide) (by rw [hclose]; decide) _).trans
      ih

theorem literalsFrom_append {rest next : Text} {others : List Text}
    (hrest : literalsFrom .literal rest = next :: others) :
    literalsFrom .literal (body ++ rest) = (body ++ next) :: others := by
  induction h with
  | nil => exact hrest
  | @plain c body hquote hbackslash _ _ ih =>
    have hnext : Mode.literal.next c = .literal := by
      rw [Mode.next, if_neg hquote, if_neg hbackslash]
    rw [List.cons_append, literalsFrom_cons_of_inside (by decide) (by rw [hnext]; decide), hnext,
      ih, Text.consHead, List.cons_append]
  | @escaped c body _ _ ih =>
    have hopen : Mode.literal.next backslash = .escaped := rfl
    have hclose : Mode.escaped.next c = .literal := rfl
    rw [List.cons_append, List.cons_append, literalsFrom_cons_of_inside (by decide) (by decide),
      hopen, literalsFrom_cons_of_inside (by decide) (by rw [hclose]; decide), hclose, ih,
      Text.consHead, Text.consHead, List.cons_append, List.cons_append]

/-- Up to the closing quote, the content is what stands between the quotes. -/
theorem literalsFrom_append_quote (rest : Text) :
    literalsFrom .literal (body ++ quote :: rest) = body :: literals rest := by
  have hquote := literalsFrom_cons_of_closes (m := .literal) (c := quote) (by decide) rfl rest
  rw [h.literalsFrom_append hquote, List.append_nil]

end IsContent

theorem upperHexDigit_isAlphanumeric {d : Nat} (h : d < 16) :
    CodePoint.isAlphanumeric (Text.upperHexDigit d) = true := by
  revert d; decide

/-- Letters and digits need no escape. -/
theorem IsContent.plain_of_isAlphanumeric {c : Nat} {body : Text}
    (hc : CodePoint.isAlphanumeric c = true) (h : IsContent body) : IsContent (c :: body) := by
  refine .plain ?_ ?_ ?_ h
  · rintro rfl; exact absurd hc (by decide)
  · rintro rfl; exact absurd hc (by decide)
  · rw [Mode.refuses, Bool.eq_false_iff]
    intro hrefuses
    simp only [Bool.or_eq_true, decide_eq_true_eq] at hrefuses
    rcases hrefuses with (rfl | rfl) | rfl <;> exact absurd hc (by decide)

theorem isContent_upperHex4 (n : Nat) : IsContent (Text.upperHex4 n) := by
  have hdigit (k : Nat) := upperHexDigit_isAlphanumeric (Nat.mod_lt k (by decide : 0 < 16))
  exact .plain_of_isAlphanumeric (hdigit _) <| .plain_of_isAlphanumeric (hdigit _) <|
    .plain_of_isAlphanumeric (hdigit _) <| .plain_of_isAlphanumeric (hdigit _) .nil

theorem isContent_escapeOne (c : Nat) : IsContent (escapeOne c) := by
  unfold escapeOne
  split
  · rename_i h
    simp only [Bool.or_eq_true, decide_eq_true_eq] at h
    refine .escaped ?_ .nil
    rcases h with (rfl | rfl) | rfl <;> decide
  rename_i hspecial
  simp only [Bool.or_eq_true, decide_eq_true_eq, not_or] at hspecial
  split
  · exact .escaped (by decide) .nil
  split
  · exact .escaped (by decide) .nil
  split
  · exact .escaped (by decide) .nil
  split
  · have hopen : IsContent (Text.ofString "\\u\x7b") :=
      .escaped (by decide) (.plain (by decide) (by decide) (by decide) .nil)
    have hclose : IsContent (Text.ofString "\x7d") :=
      .plain (by decide) (by decide) (by decide) .nil
    exact hopen.append ((isContent_upperHex4 c).append (hclose.append .nil))
  · rename_i hlineFeed hcarriageReturn _ _
    refine .plain hspecial.1.2 hspecial.1.1 ?_ .nil
    rw [Mode.refuses]
    simp [hlineFeed, hcarriageReturn, hspecial.2]

theorem isContent_escape (t : Text) : IsContent (escape t) := by
  induction t with
  | nil => exact .nil
  | cons c rest ih => exact (isContent_escapeOne c).append ih

theorem upperHexDigit_bounds {d : Nat} (h : d < 16) :
    0x20 ≤ Text.upperHexDigit d ∧ Text.upperHexDigit d < 0x7F := by
  revert d; decide

/-- Escapes are printable ASCII; what stands for itself is neither a surrogate nor a line break. -/
theorem mem_escapeOne {c x : Nat} (h : x ∈ escapeOne c) :
    (0x20 ≤ x ∧ x < 0x7F) ∨ (x = c ∧ c ≠ CodePoint.lineFeed ∧ c ≠ CodePoint.carriageReturn ∧
      c ≠ CodePoint.tab ∧ CodePoint.isSurrogate c = false) := by
  unfold escapeOne at h
  split at h
  · rename_i hspecial
    simp only [Bool.or_eq_true, decide_eq_true_eq] at hspecial
    simp only [List.mem_cons, List.not_mem_nil, or_false] at h
    left
    rcases h with rfl | rfl
    · decide
    · rcases hspecial with (rfl | rfl) | rfl <;> decide
  split at h
  · left; revert x; decide
  split at h
  · left; revert x; decide
  split at h
  · left; revert x; decide
  split at h
  · left
    simp only [Text.concat, List.flatten_cons, List.flatten_nil, List.append_nil,
      List.mem_append] at h
    rcases h with h | h | h
    · revert x; decide
    · obtain ⟨d, hd, rfl⟩ := List.mem_map.1 h
      have hlt : d < 16 := by simp at hd; omega
      exact upperHexDigit_bounds hlt
    · revert x; decide
  · rename_i hlineFeed hcarriageReturn htab hsurrogate
    exact .inr ⟨List.mem_singleton.1 h, hlineFeed, hcarriageReturn, htab,
      Bool.eq_false_iff.2 hsurrogate⟩

theorem mem_escape {t : Text} {x : Nat} (h : x ∈ escape t) :
    x ∉ [CodePoint.lineFeed, CodePoint.carriageReturn, CodePoint.tab] ∧
      CodePoint.isSurrogate x = false := by
  obtain ⟨c, -, hx⟩ := List.mem_flatMap.1 h
  rcases mem_escapeOne hx with ⟨hge, hlt⟩ | ⟨rfl, hlineFeed, hcarriageReturn, htab, hsurrogate⟩
  · have hbelow :
        ∀ a ∈ [CodePoint.lineFeed, CodePoint.carriageReturn, CodePoint.tab], a < 0x20 := by
      decide
    refine ⟨fun hmem => ?_, ?_⟩
    · exact absurd (hbelow x hmem) (Nat.not_lt.2 hge)
    · rw [CodePoint.isSurrogate, Bool.and_eq_false_iff]
      exact .inl (decide_eq_false (by omega))
  · exact ⟨by simp [hlineFeed, hcarriageReturn, htab], hsurrogate⟩

theorem escapeOne_eq_singleton {c : Nat}
    (hspecial : c ∉ [backslash, quote, dollar, CodePoint.lineFeed, CodePoint.carriageReturn,
      CodePoint.tab]) (hsurrogate : CodePoint.isSurrogate c = false) : escapeOne c = [c] := by
  simp only [List.mem_cons, List.not_mem_nil, or_false, not_or] at hspecial
  obtain ⟨hbackslash, hquote, hdollar, hlineFeed, hcarriageReturn, htab⟩ := hspecial
  simp [escapeOne, hbackslash, hquote, hdollar, hlineFeed, hcarriageReturn, htab, hsurrogate]

/-- A name is its own literal. -/
theorem escape_of_isAlphanumeric {t : Text} (h : ∀ c ∈ t, CodePoint.isAlphanumeric c = true) :
    escape t = t := by
  have hspecial : ∀ c ∈ [backslash, quote, dollar, CodePoint.lineFeed, CodePoint.carriageReturn,
      CodePoint.tab], CodePoint.isAlphanumeric c = false := by decide
  induction t with
  | nil => rfl
  | cons c rest ih =>
    obtain ⟨hc, hrest⟩ := List.forall_mem_cons.1 h
    have hsurrogate : CodePoint.isSurrogate c = false := by
      simp [CodePoint.isAlphanumeric, CodePoint.isLetter, CodePoint.isUpper, CodePoint.isLower,
        CodePoint.isDigit] at hc
      simp [CodePoint.isSurrogate]
      omega
    have hone : escapeOne c = [c] := escapeOne_eq_singleton
      (fun hmem => Bool.false_ne_true ((hspecial c hmem).symm.trans hc)) hsurrogate
    rw [escape, List.flatMap_cons, hone, ← escape, ih hrest, List.singleton_append]

/-! ## Literals of texts -/

theorem encode_eq (t : Text) : encode t = quote :: (escape t ++ quote :: []) := by
  simp [encode, Text.concat]

theorem encode_injective : Function.Injective encode := by
  intro s t h
  rw [encode_eq, encode_eq, List.cons.injEq] at h
  have hbody : escape s = escape t := List.append_cancel_right h.2
  have hdecode := decode_escape s
  rw [hbody, decode_escape, Option.some.injEq] at hdecode
  exact hdecode.symm

/-- **Literals are faithful.** The literal of a text is a body between two quotes. The body holds no
line break, tab or surrogate, no quote or dollar sign that is not escaped, and no backslash without
what it escapes. Whatever follows the literal, a reader finds this body in it, and decoding it
yields the text. No two texts have the same literal. -/
theorem encode_faithful :
    (∀ t : Text, ∃ body, encode t = quote :: (body ++ [quote]) ∧ IsContent body ∧
      (∀ c ∈ body, c ∉ [CodePoint.lineFeed, CodePoint.carriageReturn, CodePoint.tab] ∧
        CodePoint.isSurrogate c = false) ∧
      (∀ rest, literals (encode t ++ rest) = body :: literals rest) ∧
      decode body = some t) ∧
    Function.Injective encode := by
  refine ⟨fun t => ?_, encode_injective⟩
  refine ⟨escape t, encode_eq t, isContent_escape t, fun c hc => mem_escape hc, ?_, decode_escape t⟩
  intro rest
  have hnext : Mode.code.next quote = .literal := rfl
  rw [encode_eq, List.cons_append, List.append_assoc, List.cons_append, List.nil_append,
    literals_cons, hnext, (isContent_escape t).literalsFrom_append_quote]

/-- An escape that the text itself spells out stands next to one that is generated. -/
example : decode (escape (Text.ofString "\\n\\u\x7b" ++ [0xD800, 0x0A])) =
    some (Text.ofString "\\n\\u\x7b" ++ [0xD800, 0x0A]) := by decide

/-! ## Indented contents -/

theorem isContent_lead (levels : Nat) (t : Text) : IsContent (lead levels t) :=
  lead_induction levels .nil (fun _ ih => .plain (by decide) (by decide) (by decide) ih) t

section Indented

variable (levels : Nat)

/-- What indentation makes of the content of a literal. The closing quote follows, so the last line
of a content is never blank. -/
def indentBody : Text → Text
  | [] => []
  | c :: rest =>
    if Text.endsLine c rest then c :: (lead levels (rest ++ [quote]) ++ indentBody rest)
    else c :: indentBody rest

theorem endsLine_append_quote (c : Nat) (body after : Text) :
    Text.endsLine c (body ++ quote :: after) = Text.endsLine c body := by
  cases body with
  | nil => simp [Text.endsLine, quote, CodePoint.lineFeed]
  | cons a rest => exact Text.endsLine_congr c rfl

theorem startsBlank_append_quote (body after : Text) :
    startsBlank (body ++ quote :: after) = startsBlank (body ++ [quote]) := by
  induction body with
  | nil => rw [List.nil_append, List.nil_append, startsBlank, startsBlank, not_isBlank_quote,
      Bool.false_and, Bool.false_and]
  | cons c rest ih => rw [List.cons_append, List.cons_append, startsBlank, startsBlank, ih,
      endsLine_append_quote, endsLine_append_quote]

theorem indentTail_append_quote (body after : Text) :
    indentTail levels (body ++ quote :: after) =
      indentBody levels body ++ quote :: indentTail levels after := by
  induction body with
  | nil => exact indentTail_cons_of_not_isLineEnd levels not_isLineEnd_quote after
  | cons c rest ih =>
    rw [List.cons_append, indentTail, indentBody, endsLine_append_quote, ih]
    split
    · rw [lead, startsBlank_append_quote, lead, List.cons_append, List.append_assoc]
    · rw [List.cons_append]

theorem indentBody_zero (body : Text) : indentBody 0 body = body := by
  have hlead (line : Text) : lead 0 line = [] := by
    unfold lead
    split <;> rfl
  induction body with
  | nil => rfl
  | cons c rest ih =>
    rw [indentBody, hlead, ih]
    split <;> rfl

theorem indentBody_indentBody (levels' : Nat) (body : Text) :
    indentBody levels (indentBody levels' body) = indentBody (levels + levels') body := by
  have h := indentTail_indentTail levels levels' (body ++ [quote])
  rw [indentTail_append_quote, indentTail_append_quote, indentTail_append_quote] at h
  exact List.append_cancel_right h

theorem literals_lead_append (line t : Text) : literals (lead levels line ++ t) = literals t := by
  refine lead_induction levels (P := fun spaces => literals (spaces ++ t) = literals t)
    rfl (fun spaces ih => ?_) line
  rw [List.cons_append, literals_cons, Mode.next_space (by decide), ← literals, ih]

/-- In indented source, literals have their contents indented. -/
theorem literalsFrom_indentTail {m : Mode} {t : Text} (h : m.read t = some .code) :
    literalsFrom m (indentTail levels t) = (literalsFrom m t).map (indentBody levels) := by
  induction t generalizing m with
  | nil =>
    rw [Mode.eq_of_read_nil h]
    rfl
  | cons c rest ih =>
    have hrest := (Mode.read_cons_eq_some.1 h).2
    have hindented := ih hrest
    by_cases hm : m = .code
    · subst hm
      rw [← literals, ← literals, literals_cons, ← hindented]
      by_cases hends : Text.endsLine c rest
      · have hnext := Mode.next_of_isLineEnd (m := .code) (Text.isLineEnd_of_endsLine hends)
        rw [indentTail_cons_of_endsLine levels hends, literals_cons, hnext, if_pos rfl]
        exact literals_lead_append levels rest _
      · rw [indentTail_cons_of_not_endsLine levels hends, literals_cons]
    · by_cases hclosed : m.next c = .code
      · obtain ⟨-, rfl⟩ := Mode.eq_quote_of_next_eq_code hm hclosed
        rw [hclosed] at hindented
        rw [indentTail_cons_of_not_isLineEnd levels not_isLineEnd_quote,
          literalsFrom_cons_of_closes hm hclosed, literalsFrom_cons_of_closes hm hclosed, literals,
          hindented]
        rfl
      · obtain ⟨body, bodies, after, hbodies, hafter⟩ := exists_literalsFrom_cons hclosed hrest
        have hendsBody : Text.endsLine c rest = Text.endsLine c body := by
          rw [hafter, endsLine_append_quote]
        rw [hbodies, List.map_cons] at hindented
        rw [literalsFrom_cons_of_inside hm hclosed, hbodies, Text.consHead, List.map_cons,
          indentBody, ← hendsBody]
        by_cases hends : Text.endsLine c rest
        · have hlead : lead levels (body ++ [quote]) = lead levels rest := by
            rw [hafter, lead, lead, startsBlank_append_quote body after]
          have hnext := Mode.next_of_isLineEnd (m := m) (Text.isLineEnd_of_endsLine hends)
          rw [if_neg hm] at hnext
          rw [hnext] at hindented
          rw [indentTail_cons_of_endsLine levels hends, literalsFrom_cons_of_inside hm hclosed,
            hnext, (isContent_lead levels rest).literalsFrom_append hindented, if_pos hends, hlead,
            Text.consHead]
        · rw [indentTail_cons_of_not_endsLine levels hends,
            literalsFrom_cons_of_inside hm hclosed, hindented, if_neg hends, Text.consHead]

end Indented

end Dart

end Wireframe
