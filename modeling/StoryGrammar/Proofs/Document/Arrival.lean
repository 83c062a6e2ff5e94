import StoryGrammar.Proofs.Document.Checking
import StoryGrammar.Proofs.Json.Arrival
import StoryGrammar.Proofs.Json.TextOnly

set_option autoImplicit false

/-!
# Documents from streams

A stream of bytes is read as a document exactly where it spells a text that is read as one. Errors
are the same as well, up to the place of a number out of range.
-/

namespace StoryGrammar.Document

theorem ofBytes_of_error {arrival : Json.Arrival} {bytes : List UInt8} {error : Json.SyntaxError}
    (failed : Json.parse arrival bytes = .error error) :
    ofBytes arrival bytes = .error (.invalidGrammar (.malformed error)) := by
  rw [ofBytes, failed]

theorem ofBytes_congr {arrival arrival' : Json.Arrival} {bytes : List UInt8}
    (same : Json.parse arrival bytes = Json.parse arrival' bytes) :
    ofBytes arrival bytes = ofBytes arrival' bytes := by
  unfold ofBytes
  rw [same]

theorem read_eq_ok_iff {bytes : List UInt8} {document : Document} :
    read bytes = .ok document ↔
      ∃ text : String, text.toUTF8.toList = bytes ∧ parse text = .ok document := by
  constructor
  · intro accepted
    obtain ⟨value, parsed, -⟩ := ofBytes_eq_ok_iff.mp accepted
    obtain ⟨text, spelled⟩ := Json.exists_text_of_parse parsed
    refine ⟨text, spelled, ?_⟩
    obtain same | ⟨_, _, failed, -⟩ := Json.parse_alike .streamed .whole bytes
    · rwa [parse, spelled, ← ofBytes_congr same]
    · rw [parsed] at failed
      cases failed
  · intro spelling
    obtain ⟨text, rfl, accepted⟩ := spelling
    obtain ⟨value, parsed, -⟩ := ofBytes_eq_ok_iff.mp accepted
    obtain same | ⟨_, _, -, failed⟩ := Json.parse_alike .streamed .whole text.toUTF8.toList
    · rwa [read, ofBytes_congr same]
    · rw [parsed] at failed
      cases failed

/-- Bytes are read as a document exactly where they are those of a text that is read as that
document. Where they are those of a text and neither is read, the errors are of the same kind. They
are the same error wherever the text is well-formed, so that it is read as a value. Where it is not,
they still are the same, except that a number out of range may be reported at another place. -/
theorem streams_are_read_as_texts :
    (∀ bytes document, read bytes = .ok document ↔
      ∃ text : String, text.toUTF8.toList = bytes ∧ parse text = .ok document) ∧
    ∀ (text : String) (error error' : GrammarError),
      read text.toUTF8.toList = .error error → parse text = .error error' →
      error.ctorIdx = error'.ctorIdx ∧
        ((∃ value, Json.parseText text = .ok value) → error = error') ∧
        (error = error' ∨ ∃ position position',
          error = .invalidGrammar (.malformed ⟨.numberOutOfRange, position⟩) ∧
            error' = .invalidGrammar (.malformed ⟨.numberOutOfRange, position'⟩)) := by
  refine ⟨fun bytes document => read_eq_ok_iff, ?_⟩
  intro text error error' streamed whole
  obtain same | ⟨position, position', first, second⟩ :=
    Json.parse_alike .streamed .whole text.toUTF8.toList
  · rw [read, ofBytes_congr same, ← parse, whole] at streamed
    cases streamed
    exact ⟨rfl, fun _ => rfl, .inl rfl⟩
  · rw [read, ofBytes_of_error first] at streamed
    rw [parse, ofBytes_of_error second] at whole
    cases streamed
    cases whole
    refine ⟨rfl, ?_, .inr ⟨position, position', rfl, rfl⟩⟩
    intro wellFormed
    obtain ⟨value, parsed⟩ := wellFormed
    rw [Json.parseText, second] at parsed
    cases parsed

/-- A symbol without productions is the same fault in both, in a well-formed text. A number out of
range is one of the same kind, a byte later in a stream. -/
theorem no_productions_and_number_out_of_range :
    (∃ value, Json.parseText "\x7b\"ä\":[]\x7d" = .ok value) ∧
    (∃ error, read "\x7b\"ä\":[]\x7d".toUTF8.toList = .error error ∧
      parse "\x7b\"ä\":[]\x7d" = .error error) ∧
    ∃ error error', read "\x7b\"ä\":1e999\x7d".toUTF8.toList = .error error ∧
      parse "\x7b\"ä\":1e999\x7d" = .error error' ∧
      error ≠ error' ∧ error.ctorIdx = error'.ctorIdx := by
  obtain ⟨-, agree⟩ := streams_are_read_as_texts
  have wellFormed : ∃ value, Json.parseText "\x7b\"ä\":[]\x7d" = .ok value :=
    ⟨.object [("ä", .array [])], by rw [Json.parseText, Json.toUTF8_toList]; rfl⟩
  have streamed : read "\x7b\"ä\":[]\x7d".toUTF8.toList =
      .error (.invalidRule "ä" .noProductions) := by
    rw [read, Json.toUTF8_toList]
    rfl
  have whole : parse "\x7b\"ä\":[]\x7d" = .error (.invalidRule "ä" .noProductions) := by
    rw [parse, Json.toUTF8_toList]
    rfl
  have streamed' : read "\x7b\"ä\":1e999\x7d".toUTF8.toList =
      .error (.invalidGrammar (.malformed ⟨.numberOutOfRange, ⟨1, 12⟩⟩)) := by
    rw [read, Json.toUTF8_toList]
    rfl
  have whole' : parse "\x7b\"ä\":1e999\x7d" =
      .error (.invalidGrammar (.malformed ⟨.numberOutOfRange, ⟨1, 11⟩⟩)) := by
    rw [parse, Json.toUTF8_toList]
    rfl
  have same := (agree _ _ _ streamed whole).2.1 wellFormed
  exact ⟨wellFormed, ⟨_, streamed, same ▸ whole⟩, _, _, streamed', whole', by decide,
    (agree _ _ _ streamed' whole').1⟩

end StoryGrammar.Document
