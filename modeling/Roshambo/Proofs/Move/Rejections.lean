import Roshambo.Log
import Roshambo.Proofs.Text.Unquoting

/-! # What a rejection says

The message of a rejection quotes the text that was typed, so the text can be read off the message
again (`ofMessage?_message`), and what was typed has no way out of the quotes: a message keeps to
its line, and apart from the two around the text no quote in it is bare. In the log no other entry
reads like that of a rejection (`eq_rejected_of_text`).
-/

namespace Roshambo

namespace Rejection

def finding : String := " is not a valid move code"

/-- The rejection that a message tells of. -/
def ofMessage? (message : String) : Option Rejection :=
  match Text.unquote? message.toList with
  | some (typed, tail) => if tail = finding.toList then some ⟨String.ofList typed⟩ else none
  | none => none

variable (rejection : Rejection)

theorem toList_message :
    rejection.message.toList = Text.quoteChars rejection.typed.toList ++ finding.toList := by
  rw [message, String.toList_append, Text.toList_quote]
  rfl

/-- A message tells which text was rejected. -/
theorem ofMessage?_message : ofMessage? rejection.message = some rejection := by
  rw [ofMessage?, toList_message, Text.unquote?_quoteChars]
  simp only [if_pos, String.ofList_toList]

theorem message_injective : Function.Injective message := by
  intro first second same
  have told := congrArg ofMessage? same
  rw [ofMessage?_message, ofMessage?_message] at told
  exact Option.some.inj told

theorem keepsLine_of_mem_message {c : Char} (within : c ∈ rejection.message.toList) :
    Text.KeepsLine c := by
  have every : ∀ d ∈ finding.toList, Text.KeepsLine d := List.all_iff_forall_prop.mp (by decide)
  rw [toList_message] at within
  rcases List.mem_append.mp within with quoted | behind
  · exact Text.keepsLine_of_mem_quoteChars quoted
  · exact every c behind

theorem bareQuotes_message :
    Text.bareQuotes false 0 rejection.message.toList =
      [0, (Text.quote rejection.typed).toList.length - 1] := by
  have plain : ∀ c ∈ finding.toList, c ≠ '"' ∧ c ≠ '\\' :=
    List.all_iff_forall_prop.mp (by decide)
  have behind := Text.bareQuotes_append_of_plain plain
    (0 + (Text.quoteChars rejection.typed.toList).length) []
  rw [List.append_nil] at behind
  rw [toList_message, Text.bareQuotes_quoteChars, behind, Text.toList_quote]
  simp only [Text.quoteChars, Text.bareQuotes, List.length_cons, List.length_append,
    List.length_nil]
  congr 2
  omega

end Rejection

namespace LogEntry

theorem take_toList_append {front back : String} {count : Nat}
    (short : count ≤ front.toList.length) :
    (front ++ back).toList.take count = front.toList.take count := by
  rw [String.toList_append, List.take_append_of_le_length short]

/-- No other entry reads like a rejection. -/
theorem eq_rejected_of_text {entry : LogEntry} {rejection : Rejection}
    (same : entry.text = (rejected rejection).text) : entry = rejected rejection := by
  have begins : (rejected rejection).text.toList.take 2 = ['R', 'e'] :=
    take_toList_append (by decide)
  have other {front back : String} (whole : entry.text = front ++ back)
      (short : 2 ≤ front.toList.length) (differs : front.toList.take 2 ≠ ['R', 'e']) :
      entry = rejected rejection := by
    rw [← same, whole, take_toList_append short] at begins
    exact absurd begins differs
  cases entry with
  | drawn => exact other rfl (by decide) (by decide)
  | played => exact other rfl (by decide) (by decide)
  | chosen => exact other rfl (by decide) (by decide)
  | finished => exact other rfl (by decide) (by decide)
  | endedEarly => exact other rfl (by decide) (by decide)
  | closedAtExit =>
    have whole : closedAtExit.text = "Input closed at exit prompt" ++ "" := rfl
    exact other whole (by decide) (by decide)
  | rejected first =>
    have messages := (String.append_right_inj "Rejected input: ").mp same
    rw [Rejection.message_injective messages]

private theorem text_rejected (rejection : Rejection) :
    (rejected rejection).text = "Rejected input: " ++ rejection.message := rfl

private theorem keepsLine_of_mem_text_rejected {rejection : Rejection} {c : Char}
    (within : c ∈ (rejected rejection).text.toList) : Text.KeepsLine c := by
  have every : ∀ d ∈ "Rejected input: ".toList, Text.KeepsLine d :=
    List.all_iff_forall_prop.mp (by decide)
  rw [text_rejected, String.toList_append] at within
  rcases List.mem_append.mp within with front | told
  · exact every c front
  · exact rejection.keepsLine_of_mem_message told

end LogEntry

namespace Move

/-- The message of a rejected text can be read as that text only, and what was typed has no way out
of its quotes or onto another line. -/
theorem ofTyped_error_message {typed : String} {rejection : Rejection}
    (rejected : ofTyped typed = .error rejection) :
    Rejection.ofMessage? rejection.message = some ⟨typed⟩ ∧
      (∀ other reason, ofTyped other = .error reason → reason.message = rejection.message →
        other = typed) ∧
      (∀ c ∈ rejection.message.toList, Text.KeepsLine c) ∧
      Text.bareQuotes false 0 rejection.message.toList =
        [0, (Text.quote typed).toList.length - 1] ∧
      (∀ c ∈ (LogEntry.rejected rejection).text.toList, Text.KeepsLine c) ∧
      ∀ entry : LogEntry, entry.text = (LogEntry.rejected rejection).text →
        entry = .rejected ⟨typed⟩ := by
  have same : rejection = ⟨typed⟩ := congrArg Rejection.mk (typed_of_ofTyped_error rejected)
  subst same
  refine ⟨Rejection.ofMessage?_message _, ?_, fun c => Rejection.keepsLine_of_mem_message _,
    Rejection.bareQuotes_message _, fun c => LogEntry.keepsLine_of_mem_text_rejected,
    fun entry => LogEntry.eq_rejected_of_text⟩
  intro other reason alsoRejected sameMessage
  have sameReason := Rejection.message_injective sameMessage
  rw [← typed_of_ofTyped_error alsoRejected, sameReason]

/-- A quote, the escape of the delete character typed out, and that character itself. -/
theorem ofTyped_error_message_hostile :
    let typed := "\"\\u\x7b7f\x7d\x7f"
    ofTyped typed = .error ⟨typed⟩ ∧
      Rejection.message ⟨typed⟩ =
        "\"\\\"\\\\u\x7b7f\x7d\\u\x7b7f\x7d\" is not a valid move code" ∧
      Rejection.ofMessage? (Rejection.message ⟨typed⟩) = some ⟨typed⟩ := by
  intro typed
  have unpicked : ofCode? (Text.trim typed.toList) = none := by decide +kernel
  have rejected : ofTyped typed = .error ⟨typed⟩ := by rw [ofTyped, unpicked]
  obtain ⟨read, _⟩ := ofTyped_error_message rejected
  exact ⟨rejected, by decide +kernel, read⟩

end Move

end Roshambo
