import Calculator.Proofs.Token.Spelling

/-!
# Texts with separators between them

Two texts with at least one separator between them are read one after the other
(`tokenize_separated`). If the first can be read, what follows is what the second gives on its own,
as many bytes further on as stand before it, whether that is its tokens or its failure. If the first
cannot be read, the failure is its own.

**Nothing looks past a separator.** A lexeme that is the longest in front of the end of a text is
the longest in front of a separator (`Token.Munches.append`), and where no lexeme starts none does
when a separator follows (`Token.read_append_of_error`). There is one exception. A number that lacks
the digits after its point is cut off if nothing but blanks follows it up to the end, and malformed
if something does (`ScanError.followedBy`). A blank need not be a separator.

**Nothing depends on the position.** A scan that starts further on finds the same, further on
(`Scan.ofText_add`).
-/

set_option autoImplicit false

namespace Calculator

open Text (isBlank)

/-! ## Positions further on -/

/-- The token, so many bytes further on. -/
def Located.shift (bytes : Nat) (located : Located) : Located :=
  ⟨located.token, bytes + located.position⟩

/-- The failure, so many bytes further on. -/
def ScanError.shift (bytes : Nat) : ScanError → ScanError
  | unrecognized character position => .unrecognized character (bytes + position)
  | malformedNumber literal position => .malformedNumber literal (bytes + position)
  | incompleteOperator character position => .incompleteOperator character (bytes + position)
  | unfinishedNumber literal position => .unfinishedNumber literal (bytes + position)

/-- What a scan finds, so many bytes further on. -/
def Scan.shift (bytes : Nat) (scan : Scan) : Scan :=
  ⟨scan.tokens.map (Located.shift bytes), scan.failure.map (ScanError.shift bytes)⟩

variable {position : Nat} {first : Char} {rest after : List Char} {token : Token}
  {error : ScanError}

/-- A token is read further on as it is here. -/
theorem Token.read_add_of_ok (bytes : Nat)
    (found : Token.read position first rest = .ok (token, after)) :
    Token.read (bytes + position) first rest = .ok (token, after) :=
  Token.read_eq_ok_iff.mpr (Token.read_eq_ok_iff.mp found)

/-- Reading a token fails further on as it does here. -/
theorem Token.read_add_of_error (bytes : Nat)
    (failed : Token.read position first rest = .error error) :
    Token.read (bytes + position) first rest = .error (error.shift bytes) := by
  obtain ⟨none, offends⟩ := Token.read_eq_error_iff.mp failed
  refine Token.read_eq_error_iff.mpr ⟨none, ?_⟩
  cases offends with
  | incomplete mark => exact .incomplete mark
  | unfinished digit cutOff ends => exact .unfinished digit cutOff ends
  | malformed digit other => exact .malformed digit other
  | unrecognized noDigit noMark => exact .unrecognized noDigit noMark

/-- **A scan that starts further on finds the same, further on.** -/
theorem Scan.ofText_add (bytes position : Nat) (text : List Char) :
    Scan.ofText (bytes + position) text = (Scan.ofText position text).shift bytes := by
  induction position, text using Scan.ofText.induct with
  | case1 position => simp [Scan.ofText, Scan.shift]
  | case2 position first rest separator ih =>
      rw [Scan.ofText_of_separator separator, Scan.ofText_of_separator separator, Nat.add_assoc, ih]
  | case3 position first rest visible error failed =>
      rw [Scan.ofText_of_read_error visible failed,
        Scan.ofText_of_read_error visible (Token.read_add_of_error bytes failed)]
      rfl
  | case4 position first rest visible token after found ih =>
      rw [Scan.ofText_of_read_ok visible found,
        Scan.ofText_of_read_ok visible (Token.read_add_of_ok bytes found), Nat.add_assoc, ih]
      rfl

/-! ## Separators after a text -/

theorem isBlank_of_isSeparator {c : Char} (separator : isSeparator c = true) :
    isBlank c = true := by
  rcases isSeparator_iff.mp separator with rfl | rfl | rfl | rfl <;> decide

/-- No separator continues a number. -/
theorem not_continuesNumber_of_separator {c : Char} (separator : isSeparator c = true) :
    continuesNumber c = false := by
  rcases isSeparator_iff.mp separator with rfl | rfl | rfl | rfl <;> rfl

/-- The text begins with a separator. -/
def BeginsApart (text : List Char) : Prop :=
  ∃ c rest, text = c :: rest ∧ isSeparator c = true

namespace Token

/-- A token is the longest lexeme exactly where no character extends it. -/
theorem munches_iff : token.Munches after ↔
    LiteralsFormed [token] ∧ ∀ c ∈ after.head?, token.extendedBy c = false := by
  refine ⟨fun munches => ?_, fun ⟨form, apart⟩ => munches_of_not_extendedBy form apart⟩
  cases munches with
  | number form run =>
      refine ⟨?_, (takeWhile_literal_iff form).mp run⟩
      intro digits member
      cases List.mem_singleton.mp member
      exact form
  | symbol known longest =>
      constructor
      · intro digits member
        rw [← List.mem_singleton.mp member] at known
        simp [symbols] at known
      · -- A symbol that extends it would be a longer one that starts there.
        intro c starts
        rw [Bool.eq_false_iff]
        intro extended
        obtain ⟨other, member, spelled⟩ := (extendedBy_eq_true_iff known).mp extended
        obtain ⟨later, rfl⟩ := List.head?_eq_some_iff.mp starts
        have shorter := longest other member (by simp [spelled])
        rw [spelled, List.length_append, List.length_singleton] at shorter
        omega

/-- A lexeme in front of the end of a text is the longest in front of a separator. -/
theorem Munches.append {text : List Char} (munches : token.Munches after)
    (apart : BeginsApart text) : token.Munches (after ++ text) := by
  obtain ⟨form, unextended⟩ := munches_iff.mp munches
  refine munches_iff.mpr ⟨form, fun c starts => ?_⟩
  obtain ⟨separator, rest, rfl, separates⟩ := apart
  cases after with
  | nil =>
      cases starts
      exact token.not_extendedBy_of_separator separates
  | cons d others => exact unextended c starts

/-- A lexeme holds no separator. -/
theorem Munches.not_isSeparator (munches : token.Munches after) :
    ∀ c ∈ token.text, isSeparator c = false := by
  cases munches with
  | number form _ =>
      intro c member
      rw [Bool.eq_false_iff]
      intro separator
      have other := not_continuesNumber_of_separator separator
      rcases form.isDigit_or_point c member with digit | rfl
      · simp [continuesNumber, digit] at other
      · cases other
  | symbol known _ =>
      have each : ∀ token ∈ symbols, token.text.all (!isSeparator ·) = true := by decide +kernel
      simpa using each token known

/-- A lexeme that starts a text with a separator in it ends before the separator. -/
theorem Munches.exists_before {text later : List Char} (munches : token.Munches after)
    (apart : BeginsApart later) (split : text ++ later = token.text ++ after) :
    ∃ before, text = token.text ++ before ∧ after = before ++ later := by
  rcases List.append_eq_append_iff.mp split with ⟨inside, spelled, remains⟩ | found
  · obtain ⟨c, rest, rfl, separates⟩ := apart
    cases inside with
    | nil => exact ⟨[], by simpa using spelled.symm, by simpa using remains.symm⟩
    | cons d others =>
        obtain ⟨rfl, _⟩ := List.cons.inj remains
        have visible := munches.not_isSeparator c (by simp [spelled])
        simp [separates] at visible
  · exact found

end Token

/-- What is split in front of the end of a text is split in front of a separator. -/
theorem Lexes.append {text later : List Char} {tokens : List Located}
    (lexes : Lexes rest position text tokens) (apart : BeginsApart later) :
    Lexes (rest ++ later) position text tokens := by
  induction lexes with
  | gap skipped => exact .gap skipped
  | token skipped munches _ ih =>
      refine .token skipped ?_ ih
      rw [← List.append_assoc]
      exact munches.append apart

/-! ## Failures before a separator -/

/-- The failure of a text that separators and another text follow. A number that the end of the text
cut off is malformed if the other text holds something to be read. -/
def ScanError.followedBy (text : List Char) : ScanError → ScanError
  | unfinishedNumber literal position =>
      if text.all isBlank then .unfinishedNumber literal position
      else .malformedNumber literal position
  | error => error

section Gap

variable {gap second : List Char}

theorem beginsApart_of_gap (separated : gap ≠ []) (skipped : ∀ c ∈ gap, isSeparator c = true)
    (second : List Char) : BeginsApart (gap ++ second) := by
  obtain ⟨c, others, rfl⟩ := List.exists_cons_of_ne_nil separated
  exact ⟨c, others ++ second, rfl, skipped c (by simp)⟩

/-- A run of digits and points ends before a separator. -/
theorem takeWhile_append_of_beginsApart (text : List Char) {later : List Char}
    (apart : BeginsApart later) :
    (text ++ later).takeWhile continuesNumber = text.takeWhile continuesNumber ∧
      (text ++ later).dropWhile continuesNumber = text.dropWhile continuesNumber ++ later := by
  obtain ⟨c, rest, rfl, separates⟩ := apart
  have other := not_continuesNumber_of_separator separates
  induction text with
  | nil => simp [other]
  | cons d text ih =>
      by_cases continued : continuesNumber d = true
      · simp [continued, ih]
      · simp [continued]

/-- The offence stays the same, up to what follows. -/
theorem Token.Offends.append (offends : Token.Offends position first rest error)
    (separated : gap ≠ []) (skipped : ∀ c ∈ gap, isSeparator c = true) :
    Token.Offends position first (rest ++ (gap ++ second)) (error.followedBy second) := by
  obtain ⟨run, remains⟩ := takeWhile_append_of_beginsApart (first :: rest)
    (beginsApart_of_gap separated skipped second)
  rw [List.cons_append] at run remains
  have blank : (∀ c ∈ (first :: (rest ++ (gap ++ second))).dropWhile continuesNumber,
      isBlank c = true) ↔ (∀ c ∈ (first :: rest).dropWhile continuesNumber, isBlank c = true) ∧
        ∀ c ∈ second, isBlank c = true := by
    have blankGap : ∀ c ∈ gap, isBlank c = true := fun c member =>
      isBlank_of_isSeparator (skipped c member)
    simp only [remains, List.forall_mem_append]
    tauto
  cases offends with
  | incomplete mark => exact .incomplete mark
  | unfinished digit cutOff ends =>
      simp only [ScanError.followedBy, List.all_eq_true]
      rw [← run] at cutOff ⊢
      split
      · rename_i nothing
        exact .unfinished digit cutOff (blank.mpr ⟨ends, nothing⟩)
      · rename_i something
        exact .malformed digit fun ⟨_, all⟩ => something (blank.mp all).2
  | malformed digit other =>
      rw [← run] at other
      simp only [ScanError.followedBy]
      rw [← run]
      exact .malformed digit fun ⟨cutOff, all⟩ => other ⟨cutOff, (blank.mp all).1⟩
  | unrecognized noDigit noMark => exact .unrecognized noDigit noMark

/-- **Where no lexeme starts, none does when a separator follows.** -/
theorem Token.read_append_of_error (failed : Token.read position first rest = .error error)
    (separated : gap ≠ []) (skipped : ∀ c ∈ gap, isSeparator c = true) (second : List Char) :
    Token.read position first (rest ++ (gap ++ second)) = .error (error.followedBy second) := by
  obtain ⟨none, offends⟩ := Token.read_eq_error_iff.mp failed
  refine Token.read_eq_error_iff.mpr ⟨?_, offends.append separated skipped⟩
  intro token after split munches
  rw [← List.cons_append] at split
  obtain ⟨before, starts, rfl⟩ :=
    munches.exists_before (beginsApart_of_gap separated skipped second) split
  exact none token before starts munches.of_append

/-- **A scan of two texts with separators between them.** -/
theorem Scan.ofText_separated (separated : gap ≠ []) (skipped : ∀ c ∈ gap, isSeparator c = true)
    (text second : List Char) :
    Scan.ofText 0 (text ++ gap ++ second) =
      match (Scan.ofText 0 text).failure with
      | none =>
          let later := (Scan.ofText 0 second).shift (byteLength (text ++ gap))
          ⟨(Scan.ofText 0 text).tokens ++ later.tokens, later.failure⟩
      | some error => ⟨(Scan.ofText 0 text).tokens, some (error.followedBy second)⟩ := by
  obtain ⟨before, rest, rfl, lexes, stops⟩ := Scan.exists_lexes 0 text
  have apart := beginsApart_of_gap separated skipped second
  have scanned := Scan.ofText_append (lexes.append apart)
  rw [← List.append_assoc, ← List.append_assoc] at scanned
  rw [scanned]
  generalize (Scan.ofText 0 (before ++ rest)).tokens = tokens at *
  generalize (Scan.ofText 0 (before ++ rest)).failure = failure at *
  cases stops with
  | ending =>
      rw [List.nil_append, Scan.ofText_skip skipped, List.append_nil, ← Scan.ofText_add]
      simp only [byteLength_append, Nat.zero_add, Nat.add_zero]
  | failure visible failed =>
      rw [Nat.zero_add] at failed ⊢
      rw [List.cons_append, Scan.ofText_of_read_error (by simp [visible])
        (Token.read_append_of_error failed separated skipped second), List.append_nil]

end Gap

/-- **Texts with separators between them are read one after the other.** If the first is read as
tokens, the whole is read as these and those of the second, as many bytes further on as stand before
it; if the second cannot be read, the whole fails as it does, as many bytes further on. If the first
cannot be read, the whole fails as the first does, except that a number which the end of the first
cuts off is malformed where the second is not blank. -/
theorem tokenize_separated (text gap second : List Char) (separated : gap ≠ [])
    (skipped : ∀ c ∈ gap, isSeparator c = true) :
    (∀ tokens, (tokenize text).outcome = .ok tokens →
      (∀ later, (tokenize second).outcome = .ok later →
        (tokenize (text ++ gap ++ second)).outcome =
          .ok (tokens ++ later.map (Located.shift (byteLength (text ++ gap))))) ∧
      ∀ error, (tokenize second).outcome = .error error →
        (tokenize (text ++ gap ++ second)).outcome =
          .error (error.shift (byteLength (text ++ gap)))) ∧
    ∀ error, (tokenize text).outcome = .error error →
      (tokenize (text ++ gap ++ second)).outcome = .error (error.followedBy second) := by
  have scanned := Scan.ofText_separated separated skipped text second
  constructor
  · intro tokens first
    obtain ⟨rfl, ends⟩ := outcome_tokenize_eq_ok_iff.mp first
    rw [ends] at scanned
    constructor
    · intro later next
      obtain ⟨rfl, ends'⟩ := outcome_tokenize_eq_ok_iff.mp next
      refine outcome_tokenize_eq_ok_iff.mpr ?_
      rw [scanned]
      exact ⟨rfl, by simp [Scan.shift, ends']⟩
    · intro error next
      rw [outcome_tokenize_eq_error_iff, scanned]
      simp [Scan.shift, outcome_tokenize_eq_error_iff.mp next]
  · intro error first
    rw [outcome_tokenize_eq_error_iff.mp first] at scanned
    rw [outcome_tokenize_eq_error_iff, scanned]

/-- A comparison whose two characters are separated fails at the second, where the scan stands by
then. A number that lacks the digits after its point is cut off in front of an ideographic space,
which is blank and no separator, and malformed in front of anything else. -/
theorem tokenize_separated_of_split_comparison :
    let gap := [' ', '\n']
    let cutOff := "7.".toList
    gap ≠ [] ∧ (∀ c ∈ gap, isSeparator c = true) ∧
      (tokenize "2 <".toList).outcome = .ok [⟨.number ['2'], 0⟩, ⟨.operator .less, 2⟩] ∧
      (tokenize "= 3".toList).outcome = .error (.incompleteOperator '=' 0) ∧
      (tokenize ("2 <".toList ++ gap ++ "= 3".toList)).outcome =
        .error (.incompleteOperator '=' 5) ∧
      (tokenize cutOff).outcome = .error (.unfinishedNumber cutOff 0) ∧
      (tokenize (cutOff ++ gap ++ "\u3000".toList)).outcome =
        .error (.unfinishedNumber cutOff 0) ∧
      (tokenize (cutOff ++ gap ++ "é".toList)).outcome = .error (.malformedNumber cutOff 0) := by
  intro gap cutOff
  have separated : gap ≠ [] := List.cons_ne_nil _ _
  have skipped : ∀ c ∈ gap, isSeparator c = true := by simp [gap, isSeparator]
  have first : (tokenize "2 <".toList).outcome =
      .ok [⟨.number ['2'], 0⟩, ⟨.operator .less, 2⟩] := by decide +kernel
  have next : (tokenize "= 3".toList).outcome = .error (.incompleteOperator '=' 0) := by
    decide +kernel
  have fails : (tokenize cutOff).outcome = .error (.unfinishedNumber cutOff 0) := by decide +kernel
  exact ⟨separated, skipped, first, next,
    ((tokenize_separated _ gap _ separated skipped).1 _ first).2 _ next, fails,
    (tokenize_separated cutOff gap _ separated skipped).2 _ fails,
    (tokenize_separated cutOff gap _ separated skipped).2 _ fails⟩

end Calculator
