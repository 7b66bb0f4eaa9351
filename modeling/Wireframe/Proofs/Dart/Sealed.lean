import Mathlib.Data.List.Basic
import Wireframe.Proofs.Dart.Contents

/-!
# Sealed source

A text is sealed if reading it starts and ends outside of literals, no line break and no bare
dollar sign stands inside of one, and it can be encoded. Sealed texts can be put one after another
and indented: the skeleton and the literals of what results are made of those of the parts.
-/
namespace Wireframe

namespace Dart

open DartLiteral (quote escape encode)

/-! ## Sealed texts -/

structure Sealed (t : Text) : Prop where
  read : Mode.code.read t = some .code
  encodable : ∀ c ∈ t, CodePoint.isSurrogate c = false

/-- A text without quotes that can be encoded. -/
def isPlain (t : Text) : Bool := t.all fun c => c != quote && !CodePoint.isSurrogate c

theorem isPlain_of_chars {chars : List Char} (h : isPlain (chars.map Char.toNat) = true) :
    isPlain (Text.ofString (String.ofList chars)) = true :=
  Text.of_chars (P := fun t => isPlain t = true) h

theorem isPlain_append (a b : Text) : isPlain (a ++ b) = (isPlain a && isPlain b) :=
  List.all_append

/-- The first of several lines without quotes. -/
theorem exists_isPlain_line {t : Text} (h : isPlain t = true) (hmem : CodePoint.lineFeed ∈ t) :
    ∃ first rest, isPlain first = true ∧ CodePoint.lineFeed ∉ first ∧
      t = first ++ CodePoint.lineFeed :: rest := by
  rcases Text.cut_eq CodePoint.lineFeed t with ⟨hnot, -⟩ | ⟨first, rest, hfirst, rfl, -⟩
  · exact absurd hmem hnot
  · rw [isPlain_append, Bool.and_eq_true] at h
    exact ⟨first, rest, h.1, hfirst, rfl⟩

section Plain

variable {t : Text} (h : isPlain t = true)

include h

theorem ne_quote_of_isPlain {c : Nat} (hc : c ∈ t) : c ≠ quote := by
  have hboth := List.all_eq_true.1 h c hc
  rw [Bool.and_eq_true, bne_iff_ne] at hboth
  exact hboth.1

theorem isPlain_tail {c : Nat} {rest : Text} (ht : t = c :: rest) : isPlain rest = true := by
  rw [ht, isPlain, List.all_cons, Bool.and_eq_true] at h
  exact h.2

theorem sealed_of_isPlain : Sealed t := by
  refine ⟨?_, fun c hc => ?_⟩
  · induction t with
    | nil => rfl
    | cons c rest ih =>
      have hnext := Mode.next_code (ne_quote_of_isPlain h List.mem_cons_self)
      rw [Mode.read_cons, hnext, ih (isPlain_tail h rfl)]
      rfl
  · have hboth := List.all_eq_true.1 h c hc
    rw [Bool.and_eq_true, Bool.not_eq_true'] at hboth
    exact hboth.2

theorem skeleton_of_isPlain : skeleton t = t := by
  induction t with
  | nil => rfl
  | cons c rest ih =>
    have hnext := Mode.next_code (ne_quote_of_isPlain h List.mem_cons_self)
    rw [skeleton, skeletonFrom_cons_of_code, hnext, ← skeleton, ih (isPlain_tail h rfl)]

theorem literals_of_isPlain : literals t = [] := by
  induction t with
  | nil => rfl
  | cons c rest ih =>
    have hnext := Mode.next_code (ne_quote_of_isPlain h List.mem_cons_self)
    rw [literals_cons, hnext, ← literals, ih (isPlain_tail h rfl)]

end Plain

theorem isPlain_lineFeed : isPlain (Text.ofString "\n") = true := by decide

theorem isPlain_comma : isPlain (Text.ofString ",") = true := by decide

theorem isPlain_of_isAlphanumeric {t : Text} (h : ∀ c ∈ t, CodePoint.isAlphanumeric c = true) :
    isPlain t = true := by
  refine List.all_eq_true.2 fun c hc => ?_
  have hletter := h c hc
  simp [CodePoint.isAlphanumeric, CodePoint.isLetter, CodePoint.isUpper, CodePoint.isLower,
    CodePoint.isDigit] at hletter
  simp [CodePoint.isSurrogate, quote]
  omega

/-! ## Closure -/

theorem Sealed.nil : Sealed [] := sealed_of_isPlain rfl

theorem Sealed.append {a b : Text} (ha : Sealed a) (hb : Sealed b) : Sealed (a ++ b) := by
  refine ⟨?_, fun c hc => ?_⟩
  · rw [Mode.read_append, ha.read]
    exact hb.read
  · rcases List.mem_append.1 hc with hc | hc
    · exact ha.encodable c hc
    · exact hb.encodable c hc

theorem Sealed.skeleton_append {a : Text} (h : Sealed a) (b : Text) :
    skeleton (a ++ b) = skeleton a ++ skeleton b := skeletonFrom_append h.read b

theorem Sealed.literals_append {a : Text} (h : Sealed a) (b : Text) :
    literals (a ++ b) = literals a ++ literals b := literalsFrom_append h.read b

/-- A line break stands between literals, never inside of one. -/
theorem Sealed.of_append_lineFeed {a b : Text} (h : Sealed (a ++ CodePoint.lineFeed :: b)) :
    Sealed a ∧ Sealed b := by
  have hread := h.read
  rw [Mode.read_append, Option.bind_eq_some_iff] at hread
  obtain ⟨m, ha, hb⟩ := hread
  obtain ⟨hrefuses, hb⟩ := Mode.read_cons_eq_some.1 hb
  have hm : m = .code := by
    cases m with
    | code => rfl
    | literal => cases hrefuses
    | escaped => cases hrefuses
  rw [hm] at ha hb
  refine ⟨⟨ha, fun c hc => ?_⟩, ⟨hb, fun c hc => ?_⟩⟩
  · exact h.encodable c (List.mem_append_left _ hc)
  · exact h.encodable c (List.mem_append_right a (List.mem_cons_of_mem _ hc))

theorem Sealed.indent {t : Text} (h : Sealed t) (levels : Nat) : Sealed (indent levels t) := by
  refine ⟨?_, fun c hc => ?_⟩
  · rw [indent_eq, Mode.read_lead_append (by decide), Mode.read_indentTail, h.read]
  · rcases mem_indent levels hc with hc | rfl
    · exact h.encodable c hc
    · decide

theorem skeleton_indent (levels : Nat) (t : Text) :
    skeleton (indent levels t) = indent levels (skeleton t) := by
  rw [indent_eq, indent_eq, skeleton_lead_append, skeleton, skeletonFrom_indentTail, ← skeleton,
    lead_skeleton]

theorem Sealed.literals_indent {t : Text} (h : Sealed t) (levels : Nat) :
    literals (Dart.indent levels t) = (literals t).map (indentBody levels) := by
  rw [indent_eq, literals_lead_append]
  exact literalsFrom_indentTail levels h.read

theorem sealed_encode (t : Text) : Sealed (encode t) := by
  refine ⟨?_, fun c hc => ?_⟩
  · have hnext : Mode.code.next quote = .literal := rfl
    rw [encode_eq, Mode.read_cons, hnext, (isContent_escape t).read_append]
    rfl
  · rw [encode_eq, List.mem_cons, List.mem_append, List.mem_singleton] at hc
    rcases hc with rfl | hc | rfl
    · decide
    · exact (mem_escape hc).2
    · decide

theorem skeleton_encode (t : Text) : skeleton (encode t) = [quote, quote] := by
  have hnext : Mode.code.next quote = .literal := rfl
  rw [encode_eq, skeleton, skeletonFrom_cons_of_code, hnext,
    (isContent_escape t).skeletonFrom_append]
  rfl

theorem literals_encode (t : Text) : literals (encode t) = [escape t] := by
  have hnext : Mode.code.next quote = .literal := rfl
  rw [encode_eq, literals_cons, hnext, (isContent_escape t).literalsFrom_append_quote]
  rfl

section Between

variable {opening t closing : Text} (hopening : isPlain opening = true)
  (hclosing : isPlain closing = true) (h : Sealed t)

include hopening hclosing h

theorem literals_between :
    literals (opening ++ (t ++ closing)) = literals t := by
  rw [(sealed_of_isPlain hopening).literals_append, literals_of_isPlain hopening,
    h.literals_append, literals_of_isPlain hclosing, List.nil_append, List.append_nil]

theorem sealed_between : Sealed (opening ++ (t ++ closing)) :=
  (sealed_of_isPlain hopening).append (h.append (sealed_of_isPlain hclosing))

theorem skeleton_between :
    skeleton (opening ++ (t ++ closing)) = opening ++ (skeleton t ++ closing) := by
  rw [(sealed_of_isPlain hopening).skeleton_append, skeleton_of_isPlain hopening,
    h.skeleton_append, skeleton_of_isPlain hclosing]

end Between

/-! ## Many texts -/

section Many

variable {ts : List Text} (h : ∀ t ∈ ts, Sealed t)

include h

theorem sealed_concat : Sealed (Text.concat ts) := by
  induction ts with
  | nil => exact .nil
  | cons t ts ih =>
    obtain ⟨ht, hts⟩ := List.forall_mem_cons.1 h
    exact ht.append (ih hts)

theorem skeleton_concat : skeleton (Text.concat ts) = Text.concat (ts.map skeleton) := by
  induction ts with
  | nil => rfl
  | cons t ts ih =>
    obtain ⟨ht, hts⟩ := List.forall_mem_cons.1 h
    rw [Text.concat_cons, ht.skeleton_append, ih hts, List.map_cons, Text.concat_cons]

theorem literals_concat : literals (Text.concat ts) = ts.flatMap literals := by
  induction ts with
  | nil => rfl
  | cons t ts ih =>
    obtain ⟨ht, hts⟩ := List.forall_mem_cons.1 h
    rw [Text.concat_cons, ht.literals_append, ih hts, List.flatMap_cons]

variable {separator : Text} (hseparator : isPlain separator = true)

include hseparator

theorem sealed_join : Sealed (Text.join separator ts) := by
  induction ts with
  | nil => exact .nil
  | cons t ts ih =>
    obtain ⟨ht, hts⟩ := List.forall_mem_cons.1 h
    cases ts with
    | nil => exact ht
    | cons t' ts =>
      rw [Text.join_cons_cons]
      exact ht.append ((sealed_of_isPlain hseparator).append (ih hts))

theorem skeleton_join :
    skeleton (Text.join separator ts) = Text.join separator (ts.map skeleton) := by
  induction ts with
  | nil => rfl
  | cons t ts ih =>
    obtain ⟨ht, hts⟩ := List.forall_mem_cons.1 h
    cases ts with
    | nil => rfl
    | cons t' ts =>
      have hrest := ih hts
      rw [List.map_cons] at hrest
      rw [Text.join_cons_cons, ht.skeleton_append, (sealed_of_isPlain hseparator).skeleton_append,
        skeleton_of_isPlain hseparator, hrest, List.map_cons, List.map_cons, Text.join_cons_cons]

theorem literals_join : literals (Text.join separator ts) = ts.flatMap literals := by
  induction ts with
  | nil => rfl
  | cons t ts ih =>
    obtain ⟨ht, hts⟩ := List.forall_mem_cons.1 h
    cases ts with
    | nil => exact (List.append_nil _).symm
    | cons t' ts =>
      rw [Text.join_cons_cons, ht.literals_append, (sealed_of_isPlain hseparator).literals_append,
        literals_of_isPlain hseparator, List.nil_append, ih hts]
      rfl

end Many

section Entries

variable (levels : Nat) {items : List Text} (h : ∀ item ∈ items, Sealed item)

include h

theorem sealed_entry {item : Text} (hitem : item ∈ items) :
    Sealed (Text.concat [indent levels item, Text.ofString ","]) :=
  ((h item hitem).indent levels).append
    ((sealed_of_isPlain isPlain_comma).append .nil)

theorem sealed_listEntries : Sealed (listEntries levels items) := by
  refine sealed_join (fun t ht => ?_) isPlain_lineFeed
  obtain ⟨item, hitem, rfl⟩ := List.mem_map.1 ht
  exact sealed_entry levels h hitem

theorem skeleton_listEntries :
    skeleton (listEntries levels items) = listEntries levels (items.map skeleton) := by
  rw [listEntries, skeleton_join ?_ isPlain_lineFeed, listEntries, List.map_map, List.map_map]
  · congr 1
    refine List.map_congr_left fun item hitem => ?_
    have hindent := (h item hitem).indent levels
    simp only [Function.comp_apply, Text.concat, List.flatten_cons, List.flatten_nil,
      List.append_nil]
    rw [hindent.skeleton_append, skeleton_indent, skeleton_of_isPlain isPlain_comma]
  · intro t ht
    obtain ⟨item, hitem, rfl⟩ := List.mem_map.1 ht
    exact sealed_entry levels h hitem

theorem literals_listEntries :
    literals (listEntries levels items) = (items.flatMap literals).map (indentBody levels) := by
  rw [listEntries, literals_join ?_ isPlain_lineFeed, List.map_flatMap, List.flatMap_map]
  · refine List.flatMap_congr fun item hitem => ?_
    have hindent := (h item hitem).indent levels
    simp only [Text.concat, List.flatten_cons, List.flatten_nil, List.append_nil]
    rw [hindent.literals_append, (h item hitem).literals_indent,
      literals_of_isPlain isPlain_comma, List.append_nil]
  · intro t ht
    obtain ⟨item, hitem, rfl⟩ := List.mem_map.1 ht
    exact sealed_entry levels h hitem

end Entries

theorem not_mem_skeleton {t : Text} {c : Nat} (h : c ∉ t) : c ∉ skeleton t := fun hmem =>
  h (mem_of_mem_skeletonFrom hmem)

theorem sealed_lineFeed_cons {t : Text} (h : Sealed t) : Sealed (CodePoint.lineFeed :: t) :=
  (sealed_of_isPlain (t := [CodePoint.lineFeed]) (by decide)).append h

theorem skeleton_lineFeed_cons (t : Text) :
    skeleton (CodePoint.lineFeed :: t) = CodePoint.lineFeed :: skeleton t := by
  have hnext : Mode.code.next CodePoint.lineFeed = .code := rfl
  rw [skeleton, skeletonFrom_cons_of_code, hnext, ← skeleton]

section Hanging

variable (levels : Nat) {t : Text} (h : Sealed t)

include h

theorem sealed_hangingIndent : Sealed (hangingIndent levels t) := by
  rcases Text.cut_eq CodePoint.lineFeed t with ⟨hmem, -⟩ | ⟨first, rest, hmem, rfl, -⟩
  · rwa [hangingIndent_of_not_mem levels hmem]
  · obtain ⟨hfirst, hrest⟩ := h.of_append_lineFeed
    by_cases hnil : rest = []
    · rwa [hnil, hangingIndent_append_lineFeed levels hmem]
    · rw [hangingIndent_append levels hmem hnil]
      exact hfirst.append (sealed_lineFeed_cons (hrest.indent levels))

theorem skeleton_hangingIndent :
    skeleton (hangingIndent levels t) = hangingIndent levels (skeleton t) := by
  rcases Text.cut_eq CodePoint.lineFeed t with ⟨hmem, -⟩ | ⟨first, rest, hmem, rfl, -⟩
  · rw [hangingIndent_of_not_mem levels hmem,
      hangingIndent_of_not_mem levels (not_mem_skeleton hmem)]
  · obtain ⟨hfirst, -⟩ := h.of_append_lineFeed
    rw [hfirst.skeleton_append, skeleton_lineFeed_cons]
    by_cases hnil : rest = []
    · rw [hnil, hangingIndent_append_lineFeed levels hmem]
      exact (hangingIndent_append_lineFeed levels (not_mem_skeleton hmem)).symm
    · rw [hangingIndent_append levels hmem hnil, hfirst.skeleton_append, skeleton_lineFeed_cons,
        skeleton_indent,
        hangingIndent_append levels (not_mem_skeleton hmem) (mt skeleton_eq_nil_iff.1 hnil)]

end Hanging

/-- Where the first line has no literal, hanging indentation is indentation to the literals. -/
theorem literals_hangingIndent (levels : Nat) {first rest : Text} (hfirst : isPlain first = true)
    (hmem : CodePoint.lineFeed ∉ first) (h : Sealed (first ++ CodePoint.lineFeed :: rest)) :
    literals (hangingIndent levels (first ++ CodePoint.lineFeed :: rest)) =
      (literals (first ++ CodePoint.lineFeed :: rest)).map (indentBody levels) := by
  have hrest := h.of_append_lineFeed.2
  have hskip (t : Text) : literals (first ++ CodePoint.lineFeed :: t) = literals t := by
    have hnext : Mode.code.next CodePoint.lineFeed = .code := rfl
    rw [(sealed_of_isPlain hfirst).literals_append, literals_of_isPlain hfirst, List.nil_append,
      literals_cons, hnext, ← literals]
  rw [hskip]
  by_cases hnil : rest = []
  · rw [hnil, hangingIndent_append_lineFeed levels hmem, literals_of_isPlain hfirst]
    rfl
  · rw [hangingIndent_append levels hmem hnil, hskip, hrest.literals_indent]

end Dart

end Wireframe
