import LogTriage.Text
import LogTriage.Unicode.UpperCase

/-! # Upper case

Each code point of a text is replaced by its upper-case form, so the text may grow. A half surrogate has
no case and stays.
-/

namespace LogTriage.Text

set_option autoImplicit false

/-- The upper-case form of one code point. -/
def upperPoint (c : Nat) : Text := (Unicode.UpperCase.form c).flatMap ofCodePoint

def upper (t : Text) : Text := (codePoints t).flatMap upperPoint

end LogTriage.Text
