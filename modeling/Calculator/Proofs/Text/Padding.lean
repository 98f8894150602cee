import Mathlib.Data.List.TakeWhile
import Calculator.Text.Blank

/-!
# Padding and trimming

A text is the padded form of its trimmed form, and trimming takes off exactly the
padding: texts that are padded forms of one core have the same trimmed form
(`Padded.trim_eq`). A text that neither starts nor ends with a blank is its own
trimmed form (`trim_eq_self`).
-/

set_option autoImplicit false

namespace Calculator.Text

/-! ## Trimming on one side -/

/-- Blanks at the start do not matter to `trimStart`. -/
theorem trimStart_append_of_blank {before : List Char} (blank : ∀ c ∈ before, isBlank c)
    (text : List Char) : trimStart (before ++ text) = trimStart text :=
  List.dropWhile_append_of_pos blank

/-- A text that does not start with a blank has nothing to trim there. -/
theorem trimStart_cons_of_not_blank {c : Char} (visible : isBlank c = false) (rest : List Char) :
    trimStart (c :: rest) = c :: rest :=
  List.dropWhile_cons_of_neg (by simp [visible])

/-- Only the part in front of a visible character is trimmed at the start. -/
theorem trimStart_append_cons {c : Char} (visible : isBlank c = false) (text rest : List Char) :
    trimStart (text ++ c :: rest) = trimStart text ++ c :: rest := by
  induction text with
  | nil => exact trimStart_cons_of_not_blank visible rest
  | cons first others ih =>
      by_cases blank : isBlank first = true
      · simp only [trimStart, List.cons_append, List.dropWhile_cons_of_pos blank]
        exact ih
      · simp only [trimStart, List.cons_append, List.dropWhile_cons_of_neg blank]

theorem trimStart_eq_nil_iff {text : List Char} :
    trimStart text = [] ↔ ∀ c ∈ text, isBlank c = true :=
  List.dropWhile_eq_nil_iff

/-- A text is its trimmed form with blanks in front. -/
theorem exists_blanks_append_trimStart (text : List Char) :
    ∃ before, (∀ c ∈ before, isBlank c = true) ∧ text = before ++ trimStart text :=
  ⟨text.takeWhile isBlank, fun _ member => List.mem_takeWhile_imp member,
    List.takeWhile_append_dropWhile.symm⟩

/-- Blanks at the end do not matter to `trimEnd`. -/
theorem trimEnd_append_of_blank {after : List Char} (blank : ∀ c ∈ after, isBlank c)
    (text : List Char) : trimEnd (text ++ after) = trimEnd text := by
  rw [trimEnd, List.reverse_append,
    trimStart_append_of_blank (fun c member => blank c (List.mem_reverse.mp member)), trimEnd]

/-- A text that does not end with a blank has nothing to trim there. -/
theorem trimEnd_concat_of_not_blank {c : Char} (visible : isBlank c = false) (text : List Char) :
    trimEnd (text ++ [c]) = text ++ [c] := by
  rw [trimEnd, List.reverse_append, List.reverse_singleton, List.singleton_append,
    trimStart_cons_of_not_blank visible]
  simp

theorem exists_trimEnd_append_blanks (text : List Char) :
    ∃ after, (∀ c ∈ after, isBlank c = true) ∧ text = trimEnd text ++ after := by
  obtain ⟨before, blank, split⟩ := exists_blanks_append_trimStart text.reverse
  refine ⟨before.reverse, fun c member => blank c (List.mem_reverse.mp member), ?_⟩
  rw [trimEnd, ← List.reverse_append, ← split, List.reverse_reverse]

/-! ## Trimming on both sides -/

/-- A text is its trimmed form with blanks around it. -/
theorem padded_trim (text : List Char) : Padded (trim text) text := by
  obtain ⟨before, blankBefore, front⟩ := exists_blanks_append_trimStart text
  obtain ⟨after, blankAfter, back⟩ := exists_trimEnd_append_blanks (trimStart text)
  refine ⟨before, after, ?_, blankBefore, blankAfter⟩
  rw [trim, List.append_assoc, ← back, ← front]

theorem trim_append_of_blank {after : List Char} (blank : ∀ c ∈ after, isBlank c)
    (text : List Char) : trim (text ++ after) = trim text := by
  by_cases empty : ∀ c ∈ text, isBlank c = true
  · have all : ∀ c ∈ text ++ after, isBlank c = true := by
      intro c member
      rcases List.mem_append.mp member with inside | inside
      · exact empty c inside
      · exact blank c inside
    rw [trim, trim, trimStart_eq_nil_iff.mpr empty, trimStart_eq_nil_iff.mpr all]
  · rw [trim, trim, trimStart, List.dropWhile_append, ← trimStart]
    have nonempty : (trimStart text).isEmpty = false := by
      rw [List.isEmpty_eq_false_iff]
      exact fun none => empty (trimStart_eq_nil_iff.mp none)
    rw [nonempty, if_neg Bool.false_ne_true, trimEnd_append_of_blank blank]

/-- **Trimming undoes padding.** -/
theorem Padded.trim_eq {core text : List Char} (padded : Padded core text) :
    trim text = trim core := by
  obtain ⟨before, after, rfl, blankBefore, blankAfter⟩ := padded
  rw [trim_append_of_blank blankAfter, trim, trimStart_append_of_blank blankBefore, ← trim]

theorem trim_trim (text : List Char) : trim (trim text) = trim text :=
  (padded_trim text).trim_eq.symm

theorem Padded.refl (text : List Char) : Padded text text :=
  ⟨[], [], by simp, by simp, by simp⟩

theorem Padded.trans {core middle text : List Char} (inner : Padded core middle)
    (outer : Padded middle text) : Padded core text := by
  obtain ⟨before, after, rfl, blankBefore, blankAfter⟩ := inner
  obtain ⟨before', after', rfl, blankBefore', blankAfter'⟩ := outer
  refine ⟨before' ++ before, after ++ after', by simp, ?_, ?_⟩
  · intro c member
    rcases List.mem_append.mp member with inside | inside
    · exact blankBefore' c inside
    · exact blankBefore c inside
  · intro c member
    rcases List.mem_append.mp member with inside | inside
    · exact blankAfter c inside
    · exact blankAfter' c inside

theorem trimStart_eq_self_of_trim_eq_self {text : List Char} (trimmed : trim text = text) :
    trimStart text = text := by
  have shorter := length_trimEnd_le (trimStart text)
  rw [← trim, trimmed] at shorter
  exact (List.dropWhile_suffix isBlank).eq_of_length
    (Nat.le_antisymm (length_trimStart_le text) shorter)

/-- Trimming a padded text at the start leaves the core and the padding after it. -/
theorem Padded.exists_trimStart_eq {core text : List Char} (padded : Padded core text)
    (trimmed : trim core = core) :
    ∃ after, (∀ c ∈ after, isBlank c = true) ∧ trimStart text = core ++ after := by
  obtain ⟨before, after, rfl, blankBefore, blankAfter⟩ := padded
  rw [List.append_assoc, trimStart_append_of_blank blankBefore]
  cases core with
  | nil => exact ⟨[], by simp, trimStart_eq_nil_iff.mpr blankAfter⟩
  | cons c core =>
      refine ⟨after, blankAfter, ?_⟩
      rw [trimStart, List.dropWhile_append, ← trimStart,
        trimStart_eq_self_of_trim_eq_self trimmed]
      rfl

theorem trim_eq_nil_iff {text : List Char} : trim text = [] ↔ ∀ c ∈ text, isBlank c = true := by
  constructor
  · intro empty
    obtain ⟨before, after, whole, blankBefore, blankAfter⟩ := padded_trim text
    rw [empty, List.append_nil] at whole
    rw [whole]
    intro c member
    rcases List.mem_append.mp member with inside | inside
    · exact blankBefore c inside
    · exact blankAfter c inside
  · intro blank
    rw [trim, trimStart_eq_nil_iff.mpr blank]
    rfl

/-- A text that starts and ends with visible characters is its own trimmed form. -/
theorem trim_eq_self {first last : Char} {text front back : List Char}
    (starts : text = first :: back) (ends : text = front ++ [last])
    (visibleFirst : isBlank first = false) (visibleLast : isBlank last = false) :
    trim text = text := by
  rw [trim, starts, trimStart_cons_of_not_blank visibleFirst, ← starts, ends,
    trimEnd_concat_of_not_blank visibleLast]

/-- A text without blanks is its own trimmed form. -/
theorem trim_eq_self_of_visible {text : List Char} (visible : ∀ c ∈ text, isBlank c = false) :
    trim text = text := by
  rcases List.eq_nil_or_concat text with rfl | ⟨front, last, rfl⟩
  · rfl
  · cases whole : front ++ [last] with
    | nil => simp at whole
    | cons first back =>
        rw [List.concat_eq_append] at visible ⊢
        exact trim_eq_self whole rfl (visible first (by simp [whole])) (visible last (by simp))

/-! ## Taking blanks out -/

/-- A text without its blanks, wherever they stand. -/
def withoutBlanks (text : List Char) : List Char :=
  text.filter (!isBlank ·)

theorem withoutBlanks_append (first second : List Char) :
    withoutBlanks (first ++ second) = withoutBlanks first ++ withoutBlanks second :=
  List.filter_append ..

theorem withoutBlanks_eq_self {text : List Char} (visible : ∀ c ∈ text, isBlank c = false) :
    withoutBlanks text = text :=
  List.filter_eq_self.mpr fun c member => by simp [visible c member]

theorem withoutBlanks_eq_nil {text : List Char} (blank : ∀ c ∈ text, isBlank c = true) :
    withoutBlanks text = [] :=
  List.filter_eq_nil_iff.mpr fun c member => by simp [blank c member]

/-- Padding disappears when blanks are taken out. -/
theorem Padded.withoutBlanks_eq {core text : List Char} (padded : Padded core text) :
    withoutBlanks text = withoutBlanks core := by
  obtain ⟨before, after, rfl, blankBefore, blankAfter⟩ := padded
  rw [withoutBlanks_append, withoutBlanks_append, withoutBlanks_eq_nil blankBefore,
    withoutBlanks_eq_nil blankAfter, List.nil_append, List.append_nil]

theorem withoutBlanks_intercalate (separator : Char) (visible : isBlank separator = false)
    (texts : List (List Char)) :
    withoutBlanks ([separator].intercalate texts) =
      [separator].intercalate (texts.map withoutBlanks) := by
  induction texts with
  | nil => rfl
  | cons first others ih =>
      cases others with
      | nil => simp [List.intercalate_singleton]
      | cons second others =>
          have kept := @withoutBlanks_eq_self [separator] (by simpa using visible)
          simp only [List.map_cons] at ih ⊢
          rw [List.intercalate_cons_cons, List.intercalate_cons_cons, withoutBlanks_append,
            withoutBlanks_append, kept, ih]

end Calculator.Text
