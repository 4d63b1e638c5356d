import LogTriage.Event
import LogTriage.Json.Reader
import Mathlib.Data.List.Basic

/-! # Quoted texts read back

The reader of quoted texts takes back what quoting has written, unit by unit, and stops at the closing
quote. So no quoted text is the beginning of another one, and the key of a match content determines it.
-/

namespace LogTriage

set_option autoImplicit false

namespace Text.Quoted

open Json.Reader (quoted hexUnit)

theorem hexValue?_hexDigit {n : Nat} (h : n < 16) : Text.hexValue? (hexDigit n) = some n := by
  have hAll : ∀ n : Fin 16, Text.hexValue? (hexDigit n) = some n.val := by decide
  exact hAll ⟨n, h⟩

theorem hexUnit_hexDigits (u : CodeUnit) :
    hexUnit (hexDigit (u.toNat / 0x1000)) (hexDigit (u.toNat / 0x100 % 0x10))
      (hexDigit (u.toNat / 0x10 % 0x10)) (hexDigit (u.toNat % 0x10)) = some u := by
  have hLt : u.toNat < 65536 := u.toNat_lt
  have hNat : ((u.toNat / 0x1000 * 16 + u.toNat / 0x100 % 0x10) * 16 + u.toNat / 0x10 % 0x10) * 16 +
      u.toNat % 0x10 = u.toNat := by omega
  rw [hexUnit, hexValue?_hexDigit (by omega), hexValue?_hexDigit (by omega),
    hexValue?_hexDigit (by omega), hexValue?_hexDigit (by omega)]
  simp only [hNat]
  exact congrArg some u.ofNat_toNat

theorem quoted_hexEscape (u : CodeUnit) (rest : Text) :
    quoted (hexEscape u ++ rest) = (quoted rest).map fun r => (u :: r.1, r.2) := by
  have hMark : (Text.charOf 0x75 == 'u') = true := by decide
  have hNotQuote : (backslash == quote) = false := by decide
  rw [hexEscape, List.cons_append, List.cons_append, Json.Reader.quoted.eq_def]
  simp [hNotQuote, hMark, hexUnit_hexDigits]

theorem quoted_escape {e w : CodeUnit} (hLetter : (Text.charOf e == 'u') = false)
    (hEscaped : Json.Reader.escaped (Text.charOf e) = some w) (rest : Text) :
    quoted ([backslash, e] ++ rest) = (quoted rest).map fun r => (w :: r.1, r.2) := by
  have hNotQuote : (backslash == quote) = false := by decide
  rw [List.cons_append, List.cons_append, Json.Reader.quoted.eq_def]
  simp [hNotQuote, hLetter, hEscaped]

theorem quoted_plain {u : CodeUnit} (hQuote : u ≠ quote) (hBackslash : u ≠ backslash)
    (hControl : ¬ u < 0x20) (rest : Text) :
    quoted (u :: rest) = (quoted rest).map fun r => (u :: r.1, r.2) := by
  rw [Json.Reader.quoted.eq_def]
  simp [hQuote, hBackslash, hControl]

theorem quoted_encodeUnit (u : CodeUnit) (rest : Text) :
    quoted (encodeUnit u ++ rest) = (quoted rest).map fun r => (u :: r.1, r.2) := by
  rw [encodeUnit]
  split_ifs with hMark h8 h9 hA hC hD hHex
  · simp only [Bool.or_eq_true, beq_iff_eq] at hMark
    rcases hMark with rfl | rfl <;> exact quoted_escape (by decide) (by decide) rest
  · exact beq_iff_eq.mp h8 ▸ quoted_escape (by decide) (by decide) rest
  · exact beq_iff_eq.mp h9 ▸ quoted_escape (by decide) (by decide) rest
  · exact beq_iff_eq.mp hA ▸ quoted_escape (by decide) (by decide) rest
  · exact beq_iff_eq.mp hC ▸ quoted_escape (by decide) (by decide) rest
  · exact beq_iff_eq.mp hD ▸ quoted_escape (by decide) (by decide) rest
  · exact quoted_hexEscape u rest
  · simp only [Bool.or_eq_true, beq_iff_eq, not_or, decide_eq_true_eq] at hMark hHex
    exact quoted_plain hMark.1 hMark.2 hHex.1.1 rest

theorem not_special_of_isHigh {u : CodeUnit} (h : isHigh u = true) :
    u ≠ quote ∧ u ≠ backslash ∧ ¬ u < 0x20 := by
  simp only [isHigh, Bool.and_eq_true, decide_eq_true_eq, UInt16.le_iff_toNat_le] at h
  refine ⟨?_, ?_, ?_⟩
  · rintro rfl
    exact absurd h.1 (by decide)
  · rintro rfl
    exact absurd h.1 (by decide)
  · intro hLt
    have hLt' := UInt16.lt_iff_toNat_lt.mp hLt
    have hLe : 0xD800 ≤ u.toNat := h.1
    have hSmall : u.toNat < 0x20 := hLt'
    omega

theorem not_special_of_isLow {u : CodeUnit} (h : isLow u = true) :
    u ≠ quote ∧ u ≠ backslash ∧ ¬ u < 0x20 := by
  simp only [isLow, Bool.and_eq_true, decide_eq_true_eq, UInt16.le_iff_toNat_le] at h
  refine ⟨?_, ?_, ?_⟩
  · rintro rfl
    exact absurd h.1 (by decide)
  · rintro rfl
    exact absurd h.1 (by decide)
  · intro hLt
    have hLe : 0xDC00 ≤ u.toNat := h.1
    have hSmall : u.toNat < 0x20 := UInt16.lt_iff_toNat_lt.mp hLt
    omega

/-- A quoted text reads back up to its closing quote. -/
theorem quoted_encodeUnits (t rest : Text) :
    quoted (encodeUnits t ++ quote :: rest) = some (t, rest) := by
  have hEnd : quoted (quote :: rest) = some ([], rest) := by
    rw [Json.Reader.quoted.eq_def]
    simp
  fun_induction encodeUnits t with
  | case1 => exact hEnd
  | case2 u =>
    rw [quoted_encodeUnit, hEnd]
    rfl
  | case3 u v more hPair ih =>
    simp only [Bool.and_eq_true] at hPair
    obtain ⟨hQuote, hBackslash, hControl⟩ := not_special_of_isHigh hPair.1
    obtain ⟨hQuote', hBackslash', hControl'⟩ := not_special_of_isLow hPair.2
    rw [List.cons_append, List.cons_append, quoted_plain hQuote hBackslash hControl,
      quoted_plain hQuote' hBackslash' hControl', ih]
    rfl
  | case4 u v more _ ih =>
    rw [List.append_assoc, quoted_encodeUnit, ih]
    rfl

theorem encode_append_inj {t t' rest rest' : Text} (h : encode t ++ rest = encode t' ++ rest') :
    t = t' ∧ rest = rest' := by
  simp only [encode, List.cons_append, List.append_assoc, List.nil_append, List.cons.injEq,
    true_and] at h
  have hRead := congrArg quoted h
  rw [quoted_encodeUnits, quoted_encodeUnits, Option.some.injEq, Prod.mk.injEq] at hRead
  exact hRead

end Text.Quoted

namespace MatchContent

open Text.Quoted (encode encode_append_inj)

/-- The texts of a list, quoted, with commas between them and a bracket after them. -/
def listTail (ts : List Text) : Text :=
  (Text.ofString ",").intercalate (ts.map encode) ++ Text.ofString "]"

theorem listTail_cons_cons (t u : Text) (ts : List Text) :
    listTail (t :: u :: ts) = encode t ++ (0x2C :: listTail (u :: ts)) := by
  simp [listTail, List.intercalate, show Text.ofString "," = [0x2C] by decide]

theorem listTail_singleton (t : Text) : listTail [t] = encode t ++ [0x5D] := by
  simp [listTail, List.intercalate, show Text.ofString "]" = [0x5D] by decide]

theorem listTail_cons_ne_nil (t : Text) (ts : List Text) : listTail (t :: ts) ≠ listTail [] := by
  have hNil : listTail [] = [0x5D] := by decide
  have hHead (t more : Text) : (encode t ++ more).head? = some 0x22 := rfl
  intro h
  have hHeads := congrArg List.head? (h.trans hNil)
  cases ts with
  | nil =>
    rw [listTail_singleton, hHead] at hHeads
    exact absurd hHeads (by decide)
  | cons u ts =>
    rw [listTail_cons_cons, hHead] at hHeads
    exact absurd hHeads (by decide)

theorem listTail_injective {ts ts' : List Text} (h : listTail ts = listTail ts') : ts = ts' := by
  induction ts generalizing ts' with
  | nil =>
    cases ts' with
    | nil => rfl
    | cons t' ts' => exact absurd h.symm (listTail_cons_ne_nil t' ts')
  | cons t ts ih =>
    cases ts' with
    | nil => exact absurd h (listTail_cons_ne_nil t ts)
    | cons t' ts' =>
      cases ts with
      | nil =>
        cases ts' with
        | nil =>
          rw [listTail_singleton, listTail_singleton] at h
          rw [(encode_append_inj h).1]
        | cons u' ts' =>
          rw [listTail_singleton, listTail_cons_cons] at h
          exact absurd (List.head_eq_of_cons_eq (encode_append_inj h).2) (by decide)
      | cons u ts =>
        cases ts' with
        | nil =>
          rw [listTail_singleton, listTail_cons_cons] at h
          exact absurd (List.head_eq_of_cons_eq (encode_append_inj h).2) (by decide)
        | cons u' ts' =>
          rw [listTail_cons_cons, listTail_cons_cons] at h
          obtain ⟨hHead, hRest⟩ := encode_append_inj h
          rw [hHead, ih (List.tail_eq_of_cons_eq hRest)]

/-- Contents with one key are one content. -/
theorem key_injective : Function.Injective key := by
  have hSeveral (ts : List Text) : key (.several ts) = 0x5B :: listTail ts := rfl
  have hSingle (t : Text) : key (.single t) = encode t ++ [] := (List.append_nil _).symm
  intro c d h
  cases c with
  | single t =>
    cases d with
    | single t' =>
      rw [hSingle, hSingle] at h
      rw [(encode_append_inj h).1]
    | several ts' => exact absurd (List.head_eq_of_cons_eq h) (by decide)
  | several ts =>
    cases d with
    | single t' => exact absurd (List.head_eq_of_cons_eq h) (by decide)
    | several ts' =>
      rw [hSeveral, hSeveral] at h
      rw [listTail_injective (List.tail_eq_of_cons_eq h)]

end MatchContent
end LogTriage
