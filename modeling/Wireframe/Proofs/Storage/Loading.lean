import Wireframe.Proofs.Json.Nesting
import Wireframe.Storage

/-!
# When a document cannot be loaded

Most of what keeps a file from being loaded is logged, and there is no value then. The one fault is
that its brackets are too deep (`load_eq_error_iff`). A file that starts with more of them than may
be open at once has it (`load_of_replicate`).
-/
namespace Wireframe

namespace Storage

variable {nesting : Nat} {t : FileTree} {path : Text}

theorem contains_of_read {content : Octets} (h : t.read path = .ok content) :
    t.contains path = true := by
  unfold FileTree.read at h
  obtain ⟨l, hl, h⟩ := bind_eq_ok h
  unfold FileTree.contains
  rw [hl]
  dsimp only
  cases hnode : t.node? l with
  | none =>
    rw [hnode] at h
    cases h
  | some node => rfl

theorem load_eq_error_iff {fault : Fault} :
    (load nesting t path).1 = .error fault ↔
      pathFault? path = none ∧ ∃ content text holder, t.read path = .ok content ∧
        Utf8.decode content = some text ∧ Json.read nesting text = .error (.tooDeep holder) ∧
        fault = .tooDeep holder := by
  constructor
  · intro h
    unfold load at h
    split at h
    · cases h
    · next hpath =>
      rw [Bool.or_eq_true, not_or, Bool.not_eq_true, Option.isSome_eq_false_iff,
        Option.isNone_iff_eq_none] at hpath
      cases hread : t.read path with
      | error _ =>
        rw [hread] at h
        cases h
      | ok content =>
        rw [hread] at h
        dsimp only at h
        split at h
        · cases h
        · cases h
        · next holder hdeep =>
          cases h
          rcases bind_eq_error hdeep with htext | ⟨text, htext, hdeep⟩
          · exact absurd htext (Json.needed_ne_tooDeep _ holder)
          · exact ⟨hpath.1, content, text, holder, rfl, Json.needed_eq_ok_iff.1 htext, hdeep, rfl⟩
  · rintro ⟨hpath, content, text, holder, hread, htext, hdeep, rfl⟩
    have hoctets : Json.readOctets nesting content = .error (.tooDeep holder) := by
      unfold Json.readOctets
      rw [htext]
      exact hdeep
    unfold load
    rw [hpath, contains_of_read hread, hread]
    dsimp only
    rw [hoctets]
    rfl

theorem decode_replicate (n : Nat) :
    Utf8.decode (List.replicate n 0x5B) = some (List.replicate n 0x5B) := by
  unfold Utf8.decode
  induction n with
  | zero => rfl
  | succ n ih =>
    have hfirst : Utf8.first? (0x5B :: List.replicate n 0x5B) = some (0x5B, 1) := rfl
    rw [List.replicate_succ, Utf8.decodeBy, hfirst]
    dsimp only
    rw [ih]
    rfl

/-- A file that starts with one bracket more is too deep. -/
theorem load_of_replicate (hpath : pathFault? path = none)
    (h : t.read path = .ok (List.replicate (nesting + 1) 0x5B)) :
    (load nesting t path).1 = .error (.tooDeep .array) := by
  refine load_eq_error_iff.2 ⟨hpath, _, _, .array, h, decode_replicate _, ?_, rfl⟩
  have hdeep := Json.read_replicate_append nesting []
  rwa [List.append_nil] at hdeep

end Storage

end Wireframe
