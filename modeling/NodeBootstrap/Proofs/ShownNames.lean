import NodeBootstrap.Proofs.Decoding
import NodeBootstrap.Proofs.Directories

/-!
# Names that are shown

The text that is shown for a name has a sign for each part of it that is no text.

* **`OsText.shown_ofText`**: the name of a text is shown as that text;
* `OsText.noSlash_shown`, `OsText.slash_mem_ofText_iff`: slashes are shown as they are, and nothing
  else is.
-/

namespace NodeBootstrap.OsText

/-- **The name of a text is shown as that text.** -/
@[simp] theorem shown_ofText (s : String) : (ofText s).shown = s := by
  rw [shown, bytes_ofText, Utf8.decode_encode, String.ofList_toList]

theorem ofText_injective : Function.Injective ofText := fun s s' h => by
  rw [← shown_ofText s, h, shown_ofText]

/-- A name without slashes is shown without any. -/
theorem noSlash_shown {name : OsText} (h : Path.slash ∉ name.bytes) : '/' ∉ name.shown.toList := by
  have hdecode := Utf8.not_mem_decode (b := Path.slash) (by decide) h
  rwa [shown, String.toList_ofList]

theorem slash_mem_ofText_iff {s : String} : Path.slash ∈ (ofText s).bytes ↔ '/' ∈ s.toList := by
  rw [bytes_ofText, Utf8.encode, List.mem_flatMap]
  constructor
  · rintro ⟨c, hc, hmem⟩
    have hslash : String.utf8EncodeChar c = String.utf8EncodeChar '/' :=
      Utf8.eq_of_ascii_mem (by decide) hmem
    exact Utf8.encodeChar_injective hslash ▸ hc
  · exact fun hmem => ⟨'/', hmem, by decide⟩

end NodeBootstrap.OsText
