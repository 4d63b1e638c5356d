import LogTriage.Rule.Kernel

/-! # Literals as lists of characters

A text written as a string literal is that of the characters of the literal. Put in this form a rule can
be evaluated without decoding the literal at every use.
-/

namespace LogTriage

set_option autoImplicit false

def Text.ofChars (cs : List Char) : Text := cs.flatMap fun c => ofCodePoint c.toNat

theorem Text.ofString_ofList (cs : List Char) : ofString (String.ofList cs) = ofChars cs := by
  rw [ofString, String.toList_ofList, ofChars]

/-- What `Pattern.literal` makes of the characters of a source. -/
def Pattern.ofChars (source : List Char) (flags : Flags) : Pattern :=
  match ofSource (Text.ofChars source) flags with
  | .ok pattern => pattern
  | .error _ => ⟨Text.ofChars source, flags, .empty, 0⟩

theorem Pattern.literal_ofList (source : List Char) (flags : Flags) :
    literal (String.ofList source) flags = ofChars source flags := by
  rw [literal, Text.ofString_ofList]
  rfl

theorem Rule.ofKernel_ofList (source message : List Char) (category : Category)
    (severity : Priority) :
    ofKernel (String.ofList source) (String.ofList message) category severity =
      ⟨.ofChars source {}, .ofChars message, category, severity⟩ := by
  rw [ofKernel, Pattern.literal_ofList, Text.ofString_ofList]

end LogTriage
