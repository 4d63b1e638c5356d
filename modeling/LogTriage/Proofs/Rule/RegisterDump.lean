import LogTriage.Proofs.Pattern.Greedy
import LogTriage.Proofs.Rule.ErrorLine
import LogTriage.Proofs.Text.Lines

/-! # Register dumps

A burst is reported as a header and the register lines below it. The parts of such a line, the pieces of the
pattern that read them, and why one round of the pattern reads one line to its end: of several registers on
a line the last one is tried first, and its value ends with the line.
-/

namespace LogTriage.RegisterDump

set_option autoImplicit false

open Pattern
open ErrorLine (only accepts_oneOf_iff has_only_iff)
open Text (newline unit)

/-! ## Parts of a register line -/

def header : Text := Text.ofString "Accelerator Check Architecture events logged"

def registerNames : List Text := ["aca entry", "ACA"].map Text.ofString

def IsIndex (t : Text) : Prop := ∀ u ∈ t, u ≠ unit ']' ∧ u ≠ newline

instance (t : Text) : Decidable (IsIndex t) := inferInstanceAs (Decidable (∀ u ∈ t, _ ∧ _))

def IsField (t : Text) : Prop := t ≠ [] ∧ ∀ u ∈ t, isAsciiWord u.toNat = true

instance (t : Text) : Decidable (IsField t) := inferInstanceAs (Decidable (_ ∧ _))

def IsHexDigit (u : CodeUnit) : Prop :=
  Text.isDigit u = true ∨ (0x61 ≤ u.toNat ∧ u.toNat ≤ 0x66) ∨ (0x41 ≤ u.toNat ∧ u.toNat ≤ 0x46)

instance (u : CodeUnit) : Decidable (IsHexDigit u) := inferInstanceAs (Decidable (_ ∨ _))

def IsValue (t : Text) : Prop := t ≠ [] ∧ ∀ u ∈ t, IsHexDigit u

instance (t : Text) : Decidable (IsValue t) := inferInstanceAs (Decidable (_ ∧ _))

/-- A register up to its value. -/
structure Register where
  name : Text
  index : Text
  field : Text

/-- What stands before the closing bracket. -/
def Register.front (r : Register) : Text := r.name ++ (Text.ofString "[" ++ r.index)

def Register.back (r : Register) : Text := Text.ofString "." ++ (r.field ++ Text.ofString "=0x")

def Register.text (r : Register) : Text := r.front ++ unit ']' :: r.back

structure Register.WellFormed (r : Register) : Prop where
  name : r.name ∈ registerNames
  index : IsIndex r.index
  field : IsField r.field

/-- A line that ends with the value of a register. -/
def IsDump (t : Text) : Prop :=
  newline ∉ t ∧ ∃ (lead : Text) (r : Register) (value : Text),
    t = lead ++ (r.text ++ value) ∧ r.WellFormed ∧ IsValue value

def HoldsRegister (t : Text) : Prop :=
  ∃ (lead : Text) (r : Register) (value rest : Text),
    t = lead ++ (r.text ++ (value ++ rest)) ∧ r.WellFormed ∧ IsValue value

theorem HoldsRegister.equals_mem {t : Text} (h : HoldsRegister t) : unit '=' ∈ t := by
  obtain ⟨lead, r, value, rest, rfl, -, -⟩ := h
  have hEquals : unit '=' ∈ Text.ofString "=0x" := by decide
  simp [Register.text, Register.back, hEquals]

/-! ## Pieces of the pattern -/

def lead : Tree := .repeated (.char (.oneOf true [only '\n'])) 0 none true ⟨0, 0⟩

def index : Tree := .repeated (.char (.oneOf true [only ']', only '\n'])) 0 none true ⟨0, 0⟩

def field : Tree := .repeated (.char (.oneOf false [.shorthand .word false])) 1 none true ⟨0, 0⟩

def hexDigits : CharTest := .oneOf false [.span 0x30 0x39, .span 0x61 0x66, .span 0x41 0x46]

def value : Tree := .repeated (.char hexDigits) 1 none true ⟨0, 0⟩

def leadPieces : List Tree := Tree.word (Text.ofString "\n") ++ [lead]

def registerPieces : List Tree :=
  .ofAlternatives (registerNames.map fun name => .ofPieces (Tree.word name)) ::
    (Tree.word (Text.ofString "[") ++ (index :: (Tree.word (Text.ofString "].") ++
      (field :: Tree.word (Text.ofString "=0x")))))

/-- One round: a newline and the line behind it. -/
def dumpLine : Tree := .ofPieces (leadPieces ++ (registerPieces ++ [value]))

def dump : Tree := .repeated dumpLine 0 none true ⟨0, 0⟩

theorem acaBurst_eq : Rule.acaBurst.pattern =
    ⟨Rule.acaBurst.pattern.source, {}, .ofPieces (Tree.word header ++ [dump]), 0⟩ := by
  rw [Rule.acaBurst, Rule.ofKernel, literal_ofList]
  decide +kernel

/-! ## What the pieces read -/

variable {before w after : Text} {u : CodeUnit}

theorem accepts_lead_iff : (CharTest.oneOf true [only '\n']).accepts {} u.toNat = true ↔ u ≠ newline := by
  have hOnly : (only '\n').has {} u.toNat = true ↔ u = newline := has_only_iff (by decide)
  rw [CharTest.accepts_oneOf_iff rfl]
  simp [← hOnly]

theorem accepts_index_iff : (CharTest.oneOf true [only ']', only '\n']).accepts {} u.toNat = true ↔
    u ≠ unit ']' ∧ u ≠ newline := by
  have hOnly : (only '\n').has {} u.toNat = true ↔ u = newline := has_only_iff (by decide)
  have hBracket : (only ']').has {} u.toNat = true ↔ u = unit ']' := has_only_iff (by decide)
  rw [CharTest.accepts_oneOf_iff rfl]
  simp [← hOnly, ← hBracket]

theorem accepts_field_iff : (CharTest.oneOf false [.shorthand .word false]).accepts {} u.toNat = true ↔
    isAsciiWord u.toNat = true := by
  simp [accepts_oneOf_iff, ClassItem.has, Shorthand.has, Flags.isWord]

theorem accepts_hexDigits_iff : hexDigits.accepts {} u.toNat = true ↔ IsHexDigit u := by
  simp [hexDigits, accepts_oneOf_iff, ClassItem.has, IsHexDigit, Text.isDigit_iff]

theorem reads_lead : lead.Reads {} before w after ↔ newline ∉ w := by
  simp only [lead, Tree.reads_run, accepts_lead_iff]
  simp [List.forall_mem_ne']

theorem reads_index : index.Reads {} before w after ↔ IsIndex w := by
  simp [index, Tree.reads_run, accepts_index_iff, IsIndex]

theorem reads_field : field.Reads {} before w after ↔ IsField w := by
  simp [field, Tree.reads_run, accepts_field_iff, IsField, Nat.succ_le_iff, List.length_pos_iff, and_comm]

theorem reads_value : value.Reads {} before w after ↔ IsValue w := by
  simp [value, Tree.reads_run, accepts_hexDigits_iff, IsValue, Nat.succ_le_iff, List.length_pos_iff, and_comm]

theorem reads_leadPieces : (Tree.ofPieces leadPieces).Reads {} before w after ↔
    ∃ v, w = newline :: v ∧ newline ∉ v := by
  have hNewline : Text.ofString "\n" = [newline] := by decide
  simp only [leadPieces, Tree.reads_ofPieces_append, Tree.ofPieces_singleton, Reading.andThen, reads_lead,
    Tree.reads_word (show ({} : Flags).ignoreCase = false from rfl), hNewline]
  constructor
  · rintro ⟨_, v, rfl, rfl, hFree⟩
    exact ⟨v, rfl, hFree⟩
  · rintro ⟨v, rfl, hFree⟩
    exact ⟨[newline], v, rfl, rfl, hFree⟩

theorem reads_registerNames :
    (Tree.ofAlternatives (registerNames.map fun name => .ofPieces (Tree.word name))).Reads {} before w after ↔
      w ∈ registerNames :=
  Tree.reads_choice rfl (by simp [registerNames])

theorem reads_registerPieces : (Tree.ofPieces registerPieces).Reads {} before w after ↔
    ∃ r : Register, r.WellFormed ∧ w = r.text := by
  have hBracket : Text.ofString "]." = unit ']' :: Text.ofString "." := by decide
  simp only [registerPieces, Tree.reads_ofPieces_cons, Tree.reads_ofPieces_append, Reading.andThen,
    reads_registerNames, reads_index, reads_field,
    Tree.reads_word (show ({} : Flags).ignoreCase = false from rfl), hBracket]
  constructor
  · rintro ⟨name, _, rfl, hName, _, _, rfl, rfl, index, _, rfl, hIndex, _, _, rfl, rfl, field, _, rfl, hField,
      rfl⟩
    refine ⟨⟨name, index, field⟩, ⟨hName, hIndex, hField⟩, ?_⟩
    simp only [Register.text, Register.front, Register.back, List.append_assoc, List.cons_append]
  · rintro ⟨⟨name, index, field⟩, ⟨hName, hIndex, hField⟩, rfl⟩
    simp only [Register.text, Register.front, Register.back, List.append_assoc]
    exact ⟨name, _, rfl, hName, _, _, rfl, rfl, index, _, rfl, hIndex, _, _, rfl, rfl, field, _, rfl, hField,
      rfl⟩

theorem reads_dumpLine : dumpLine.Reads {} before w after ↔
    ∃ (v : Text) (r : Register) (x : Text), w = newline :: (v ++ (r.text ++ x)) ∧ newline ∉ v ∧
      r.WellFormed ∧ IsValue x := by
  simp only [dumpLine, Tree.reads_ofPieces_append, Tree.ofPieces_singleton, Reading.andThen,
    reads_leadPieces, reads_registerPieces, reads_value]
  constructor
  · rintro ⟨_, _, rfl, ⟨v, rfl, hFree⟩, _, x, rfl, ⟨r, hRegister, rfl⟩, hValue⟩
    exact ⟨v, r, x, rfl, hFree, hRegister, hValue⟩
  · rintro ⟨v, r, x, rfl, hFree, hRegister, hValue⟩
    exact ⟨newline :: v, _, rfl, ⟨v, rfl, hFree⟩, r.text, x, rfl, ⟨r, hRegister, rfl⟩, hValue⟩

/-! ## The last register of a line -/

variable {r r' : Register} {v v' x x' y t rest : Text}

theorem Register.WellFormed.bracket_not_mem (h : r.WellFormed) :
    unit ']' ∉ r.front ∧ unit ']' ∉ r.back := by
  have hNames : ∀ name ∈ registerNames, unit ']' ∉ name := by decide
  have hWord : isAsciiWord (unit ']').toNat = false := by decide
  simp only [front, back, List.mem_append, not_or]
  refine ⟨⟨hNames _ h.name, by decide, fun hMem => (h.index _ hMem).1 rfl⟩, by decide, ?_, by decide⟩
  intro hMem
  simp [h.field.2 _ hMem] at hWord

theorem Register.WellFormed.newline_not_mem (h : r.WellFormed) : newline ∉ r.text := by
  have hNames : ∀ name ∈ registerNames, newline ∉ name := by decide
  have hWord : isAsciiWord newline.toNat = false := by decide
  simp only [text, front, back, List.mem_append, List.mem_cons, not_or]
  refine ⟨⟨hNames _ h.name, by decide, fun hMem => (h.index _ hMem).2 rfl⟩, by decide, by decide, ?_,
    by decide⟩
  intro hMem
  simp [h.field.2 _ hMem] at hWord

theorem IsValue.not_mem (h : IsValue x) {u : CodeUnit} (hu : ¬ IsHexDigit u) : u ∉ x :=
  fun hMem => hu (h.2 u hMem)

/-- Whatever register is read at or behind the last one, its value ends with the line. -/
theorem eq_nil_of_later (hRegister : r.WellFormed) (hValue : IsValue x) (hRegister' : r'.WellFormed)
    (h : v ++ (r.text ++ x) = v' ++ (r'.text ++ (x' ++ y))) (hLater : v.length ≤ v'.length)
    (hEnd : ∀ u ∈ y.head?, ¬ IsHexDigit u) : y = [] := by
  obtain ⟨between, rfl⟩ : ∃ between, v' = v ++ between := by
    have hPrefix : v <+: v' :=
      List.prefix_of_prefix_length_le (List.prefix_append v _) (h ▸ List.prefix_append v' _) hLater
    obtain ⟨between, rfl⟩ := hPrefix
    exact ⟨between, rfl⟩
  rw [List.append_assoc, List.append_cancel_left_eq] at h
  -- There is one bracket to close an index from here on.
  obtain ⟨hFront, hBack⟩ := hRegister.bracket_not_mem
  have hOne : r.front ++ unit ']' :: (r.back ++ x) =
      (between ++ r'.front) ++ unit ']' :: (r'.back ++ (x' ++ y)) := by
    simpa only [Register.text, List.append_assoc, List.cons_append] using h
  have hBehind : unit ']' ∉ r.back ++ x := by
    rw [List.mem_append, not_or]
    exact ⟨hBack, hValue.not_mem (by decide)⟩
  obtain ⟨-, -, hBacks⟩ := (List.append_cons_inj_of_notMem hFront hBehind).mp hOne
  simp only [Register.back, List.append_assoc, List.append_cancel_left_eq] at hBacks
  -- The field ends with the equals sign, which is no word character.
  have hEquals (z : Text) : ∀ u ∈ (Text.ofString "=0x" ++ z).head?, ¬ isAsciiWord u.toNat = true := by
    rintro _ ⟨⟩
    decide
  obtain ⟨-, hValues⟩ := run_unique hBacks hRegister.field.2 (hEquals x) hRegister'.field.2 (hEquals _)
  rw [List.append_cancel_left_eq] at hValues
  cases y with
  | nil => rfl
  | cons u y => exact absurd (hValue.2 u (by simp [hValues])) (hEnd u rfl)

/-! ## One round -/

/-- Text without a newline is read within its line. -/
theorem exists_rest_of_line (h : x ++ y = t ++ rest) (hFree : newline ∉ x)
    (hRest : ∀ u ∈ rest.head?, u = newline) : ∃ z, t = x ++ z ∧ y = z ++ rest := by
  rcases List.append_eq_append_iff.mp h with ⟨z, rfl, rfl⟩ | ⟨z, rfl, rfl⟩
  · exact ⟨z, rfl, rfl⟩
  · cases z with
    | nil => exact ⟨[], by simp⟩
    | cons u z => exact absurd (hRest u rfl ▸ by simp) hFree

theorem farthestFirst_leadPieces (s : State) :
    FarthestFirst (Matcher.outcomes {} (.ofPieces leadPieces) .forward s) := by
  rw [leadPieces, Matcher.outcomes_ofPieces_append]
  exact .flatMap (Matcher.length_char_le s .forward) fun t _ => Matcher.farthestFirst_run 0 none t

theorem mem_outcomes_iff {tree : Tree} (hLeaves : tree.leavesGroups = true) {s s' : State} :
    s' ∈ Matcher.outcomes {} tree .forward s ↔ s.Leads (tree.Reads {}) s' :=
  Matcher.mem_outcomes_iff rfl hLeaves s s'

/-- The value of a register is read to its end. -/
theorem not_isHexDigit_of_head? {s s' : State}
    (h : (Matcher.outcomes {} value .forward s).head? = some s') :
    ∀ u ∈ s'.cursor.after.head?, ¬ IsHexDigit u := by
  intro u hu hHex
  obtain ⟨x, rest, hAfter, hReads, rfl⟩ := (mem_outcomes_iff rfl).mp (List.mem_of_head? h)
  obtain ⟨more, hRest⟩ := List.head?_eq_some_iff.mp hu
  obtain rfl : rest = u :: more := hRest
  obtain ⟨hSome, hAll⟩ := reads_value.mp hReads
  have hLonger : s.past (x ++ [u]) more ∈ Matcher.outcomes {} value .forward s := by
    refine (mem_outcomes_iff rfl).mpr ⟨x ++ [u], more, by rw [hAfter]; simp, ?_, rfl⟩
    refine reads_value.mpr ⟨by simp, ?_⟩
    simp only [List.forall_mem_append, List.forall_mem_singleton]
    exact ⟨hAll, hHex⟩
  have hLe := (Matcher.farthestFirst_run 1 none s).le_of_head? h hLonger
  simp only [State.past, List.length_append, List.length_singleton] at hLe
  omega

/-- What a round reads from the farthest place where a register begins. -/
theorem exists_of_head?_dumpLine {s s' : State}
    (h : (Matcher.outcomes {} dumpLine .forward s).head? = some s') :
    ∃ (v : Text) (r : Register) (x rest : Text), s.cursor.after = newline :: (v ++ (r.text ++ (x ++ rest))) ∧
      newline ∉ v ∧ r.WellFormed ∧ IsValue x ∧ (∀ u ∈ rest.head?, ¬ IsHexDigit u) ∧
      s' = s.past (newline :: (v ++ (r.text ++ x))) rest ∧
      ∀ a ∈ Matcher.outcomes {} (.ofPieces leadPieces) .forward s,
        Matcher.outcomes {} (.ofPieces (registerPieces ++ [value])) .forward a ≠ [] →
          a.cursor.index ≤ s.cursor.index + (v.length + 1) := by
  rw [dumpLine, Matcher.outcomes_ofPieces_append] at h
  obtain ⟨a, hLead, hFirst, hFarthest⟩ := (farthestFirst_leadPieces s).exists_of_head? h
  rw [Matcher.outcomes_ofPieces_append, List.head?_flatMap] at hFirst
  obtain ⟨c, hRegister, hValue⟩ := List.exists_of_findSome?_eq_some hFirst
  have hEnd := not_isHexDigit_of_head? hValue
  obtain ⟨_, far, hAfter, hReads, rfl⟩ := (mem_outcomes_iff rfl).mp hLead
  obtain ⟨v, rfl, hFree⟩ := reads_leadPieces.mp hReads
  obtain ⟨_, behind, hFar, hReads, rfl⟩ := (mem_outcomes_iff rfl).mp hRegister
  obtain ⟨r, hWellFormed, rfl⟩ := reads_registerPieces.mp hReads
  obtain ⟨x, rest, hBehind, hReads, rfl⟩ := (mem_outcomes_iff rfl).mp (List.mem_of_head? hValue)
  obtain rfl : far = r.text ++ behind := hFar
  obtain rfl : behind = x ++ rest := hBehind
  refine ⟨v, r, x, rest, hAfter, hFree, hWellFormed, reads_value.mp hReads, hEnd, ?_, hFarthest⟩
  rw [State.past_past, State.past_past]
  simp

/-- A round reads a register line to its end. -/
theorem head?_dumpLine {s : State} (hDump : IsDump t) (hAfter : s.cursor.after = newline :: (t ++ rest))
    (hRest : ∀ u ∈ rest.head?, u = newline) :
    (Matcher.outcomes {} dumpLine .forward s).head? = some (s.past (newline :: t) rest) := by
  obtain ⟨hFree, v, r, x, rfl, hRegister, hValue⟩ := hDump
  have hFreeLead : newline ∉ v := fun hMem => hFree (List.mem_append_left _ hMem)
  -- Where the last register begins, a round can go on.
  have hLast : s.past (newline :: v) (r.text ++ (x ++ rest)) ∈
      Matcher.outcomes {} (.ofPieces leadPieces) .forward s := by
    refine (mem_outcomes_iff rfl).mpr ⟨newline :: v, _, ?_, reads_leadPieces.mpr ⟨v, rfl, hFreeLead⟩, rfl⟩
    simpa using hAfter
  have hGoesOn : Matcher.outcomes {} (.ofPieces (registerPieces ++ [value])) .forward
      (s.past (newline :: v) (r.text ++ (x ++ rest))) ≠ [] := by
    apply List.ne_nil_of_mem
    refine (mem_outcomes_iff rfl).mpr ⟨r.text ++ x, rest, (List.append_assoc _ _ _).symm, ?_, rfl⟩
    refine Tree.reads_ofPieces_append.mpr ⟨r.text, x, rfl, ?_, reads_value.mpr hValue⟩
    exact reads_registerPieces.mpr ⟨r, hRegister, rfl⟩
  obtain ⟨s', hHead⟩ : ∃ s', (Matcher.outcomes {} dumpLine .forward s).head? = some s' := by
    rw [dumpLine, Matcher.outcomes_ofPieces_append, ← Option.isSome_iff_exists, List.isSome_head?]
    intro hNone
    exact hGoesOn (List.flatMap_eq_nil_iff.mp hNone _ hLast)
  obtain ⟨v', r', x', far, hAfter', hFree', hRegister', hValue', hEnd, rfl, hFarthest⟩ :=
    exists_of_head?_dumpLine hHead
  have hLater : v.length ≤ v'.length := by
    have hLe := hFarthest _ hLast hGoesOn
    simp only [State.past, List.length_cons] at hLe
    omega
  have hText : (v' ++ (r'.text ++ x')) ++ far = (v ++ (r.text ++ x)) ++ rest := by
    have hSame := hAfter'.symm.trans hAfter
    simpa using hSame
  have hFreeRead : newline ∉ v' ++ (r'.text ++ x') := by
    simp only [List.mem_append, not_or]
    exact ⟨hFree', hRegister'.newline_not_mem, hValue'.not_mem (by decide)⟩
  obtain ⟨y, hLine, rfl⟩ := exists_rest_of_line hText hFreeRead hRest
  have hNil : y = [] := by
    apply eq_nil_of_later hRegister hValue hRegister' (by simpa using hLine) hLater
    intro u hu
    exact hEnd u (by simp [Option.mem_def.mp hu])
  subst hNil
  rw [hHead, hLine, List.append_nil, List.nil_append]

/-- No round reads on where the next line holds no register. -/
theorem outcomes_dumpLine_eq_nil {s : State}
    (hNone : ∀ line ∈ s.cursor.after.lines.tail.head?, ¬ HoldsRegister line) :
    Matcher.outcomes {} dumpLine .forward s = [] := by
  apply List.eq_nil_iff_forall_not_mem.mpr
  intro s' hs'
  obtain ⟨w, rest, hAfter, hReads, -⟩ := (mem_outcomes_iff rfl).mp hs'
  obtain ⟨v, r, x, rfl, hFree, hRegister, hValue⟩ := reads_dumpLine.mp hReads
  obtain ⟨first, more, hLines⟩ := List.exists_cons_of_ne_nil (Text.lines_ne_nil rest)
  have hFreeRead : newline ∉ v ++ (r.text ++ x) := by
    simp only [List.mem_append, not_or]
    exact ⟨hFree, hRegister.newline_not_mem, hValue.not_mem (by decide)⟩
  rw [hAfter, List.cons_append, Text.lines_newline_cons, Text.lines_append_of_free hFreeRead hLines] at hNone
  exact hNone _ rfl ⟨v, r, x, first, by simp, hRegister, hValue⟩

/-- The rounds read the register lines and stop behind the last of them. -/
theorem head?_dump {lines : List Text} (hDumps : ∀ t ∈ lines, IsDump t)
    (hRest : ∀ u ∈ rest.head?, u = newline)
    (hNone : ∀ line ∈ rest.lines.tail.head?, ¬ HoldsRegister line) {s : State}
    (hAfter : s.cursor.after = lines.flatMap (newline :: ·) ++ rest) :
    (Matcher.outcomes {} dump .forward s).head? = some (s.past (lines.flatMap (newline :: ·)) rest) := by
  induction lines generalizing s with
  | nil =>
    obtain rfl : s.cursor.after = rest := hAfter
    rw [dump, Matcher.outcomes_repeated_done rfl (outcomes_dumpLine_eq_nil hNone)]
    rfl
  | cons t lines ih =>
    obtain ⟨hDump, hDumps⟩ := List.forall_mem_cons.mp hDumps
    have hNext : ∀ u ∈ (lines.flatMap (newline :: ·) ++ rest).head?, u = newline := by
      cases lines with
      | nil => simpa using hRest
      | cons => simp
    have hFirst := head?_dumpLine hDump (by simpa using hAfter) hNext
    have hMoved : s.cursor.index <
        (s.past (newline :: t) (lines.flatMap (newline :: ·) ++ rest)).cursor.index := by
      simp [State.past]
    rw [dump, Matcher.head?_repeated rfl hFirst hMoved, ← dump, ih hDumps rfl, State.past_past]
    simp

end LogTriage.RegisterDump
