import Mathlib.Data.List.Basic
import Calculator.Proofs.Encoding.Operands
import Calculator.Proofs.Text.Bytes

/-!
# Splitting any text

What stands between the parentheses of an operator may be any text. It splits if and only if its
parentheses balance, and whether they do can be told by counting them in all texts that it starts
with (`pieces?_eq_none_iff`). Then the pieces are what stands between the commas outside all
parentheses, and these commas too can be told by counting (`pieces?_eq_piecesAt`).

The same operands are found by a scan that looks at bytes, not at characters, and that keeps the
place where the operand at hand starts (`ByteScan`). It cuts operands out of the text at places
counted in bytes, which fails inside a character. It never does: the scan follows the depth of
parentheses from character to character (`ByteScan.run_append_of_depthPast?`), and when a comma ends
an operand, the operand is what stands since the last one (`ByteScan.run_eq`).
-/

set_option autoImplicit false

namespace Calculator.Encoding

/-! ## Parentheses that balance -/

/-- A text closes `depth` parentheses besides those that it opens: at no place has it closed more,
and at the end it has closed them all. -/
structure Closes (depth : Nat) (text : List Char) : Prop where
  neverBelow : ∀ before, before <+: text → before.count ')' ≤ depth + before.count '('
  balances : depth + text.count '(' = text.count ')'

theorem closes_nil_iff {depth : Nat} : Closes depth [] ↔ depth = 0 := by
  constructor
  · intro closes
    simpa using closes.balances
  · intro none
    refine ⟨?_, by simpa using none⟩
    intro before start
    rw [List.prefix_nil.mp start]
    simp

/-- What a text closes is what the rest of it closes after the first character. -/
theorem closes_cons_iff {depth after : Nat} {c : Char} {rest : List Char}
    (counted : depth + [c].count '(' = after + [c].count ')') :
    Closes depth (c :: rest) ↔ Closes after rest := by
  have count (d : Char) (text : List Char) :
      (c :: text).count d = [c].count d + text.count d := by
    rw [← List.count_append, List.singleton_append]
  constructor
  · intro closes
    refine ⟨?_, ?_⟩
    · intro before start
      have := closes.neverBelow (c :: before) (List.cons_prefix_cons.mpr ⟨rfl, start⟩)
      rw [count '(' before, count ')' before] at this
      omega
    · have := closes.balances
      rw [count '(' rest, count ')' rest] at this
      omega
  · intro closes
    refine ⟨?_, ?_⟩
    · intro before start
      cases before with
      | nil => simp
      | cons first front =>
          obtain ⟨rfl, later⟩ := List.cons_prefix_cons.mp start
          have := closes.neverBelow front later
          rw [count '(' front, count ')' front]
          omega
    · have := closes.balances
      rw [count '(' rest, count ')' rest]
      omega

theorem not_closes_of_close (rest : List Char) : ¬ Closes 0 (')' :: rest) := by
  intro closes
  have := closes.neverBelow [')'] (List.cons_prefix_cons.mpr ⟨rfl, List.nil_prefix⟩)
  revert this
  decide

/-- **A text splits if and only if it closes the parentheses that it stands in.** -/
theorem exists_pieces?_iff {depth : Nat} {text : List Char} :
    (∃ pieces, pieces? depth text = some pieces) ↔ Closes depth text := by
  simp only [← Option.isSome_iff_exists]
  induction text generalizing depth with
  | nil =>
      rw [closes_nil_iff, pieces?]
      split <;> simp [*]
  | cons c rest ih =>
      cases stepped : depthPast? depth c with
      | some after =>
          have counted : depth + [c].count '(' = after + [c].count ')' :=
            depthAfter?_count (by rw [depthAfter?_cons, stepped]; rfl)
          rw [pieces?_cons stepped, Option.isSome_map, ih, closes_cons_iff counted]
      | none =>
          obtain ⟨rfl, rfl | rfl⟩ := depthPast?_eq_none_iff.mp stepped
          · rw [pieces?_close]
            simpa using not_closes_of_close rest
          · rw [pieces?_comma, Option.isSome_map, ih, closes_cons_iff rfl]

/-- The parentheses of a text do not balance: a text that it starts with closes more of them than it
opens, or it has not as many of one kind as of the other. -/
def Unbalanced (text : List Char) : Prop :=
  (∃ before, before <+: text ∧ before.count '(' < before.count ')') ∨
    text.count '(' ≠ text.count ')'

theorem closes_zero_iff {text : List Char} : Closes 0 text ↔ ¬ Unbalanced text := by
  rw [Unbalanced, not_or, not_exists, not_ne_iff]
  constructor
  · intro closes
    refine ⟨?_, by simpa using closes.balances⟩
    intro before below
    have := closes.neverBelow before below.1
    omega
  · intro balanced
    refine ⟨?_, by simpa using balanced.2⟩
    intro before start
    have := mt (And.intro start) (balanced.1 before)
    omega

/-- **A text does not split if and only if its parentheses do not balance.** -/
theorem pieces?_eq_none_iff {text : List Char} : pieces? 0 text = none ↔ Unbalanced text := by
  rw [← Option.not_isSome_iff_eq_none, Option.isSome_iff_exists, exists_pieces?_iff,
    closes_zero_iff, not_not]

/-! ## Outer commas -/

/-- The comma at a place, counted in characters, stands outside all parentheses: those that are
opened before it are closed before it. -/
def IsOuterComma (text : List Char) (place : Nat) : Prop :=
  text[place]? = some ',' ∧ (text.take place).count '(' = (text.take place).count ')'

instance (text : List Char) : DecidablePred (IsOuterComma text) := fun _ =>
  inferInstanceAs (Decidable (_ ∧ _))

/-- The places of the commas that stand outside all parentheses, in order. -/
def outerCommas (text : List Char) : List Nat :=
  (List.range text.length).filter (IsOuterComma text)

/-- What stands in a text between consecutive ones of some places, in front of the first and after
the last of them. -/
def piecesAt (text : List Char) (places : List Nat) : List (List Char) :=
  List.zipWith (fun start stop => text.extract start stop) (0 :: places.map (· + 1))
    (places ++ [text.length])

/-- The pieces are one more than the places. -/
theorem length_piecesAt (text : List Char) (places : List Nat) :
    (piecesAt text places).length = places.length + 1 := by
  simp [piecesAt]

/-- What stands in front of a place decides whether an outer comma is there. -/
theorem isOuterComma_append_left {front rest : List Char} {place : Nat}
    (inside : place < front.length) :
    IsOuterComma (front ++ rest) place ↔ IsOuterComma front place := by
  rw [IsOuterComma, IsOuterComma, List.getElem?_append_left inside,
    List.take_append_of_le_length (Nat.le_of_lt inside)]

/-- A text that closes as many parentheses as it opens makes no difference to the commas after
it. -/
theorem isOuterComma_append_right {front rest : List Char}
    (balances : front.count '(' = front.count ')') (place : Nat) :
    IsOuterComma (front ++ rest) (front.length + place) ↔ IsOuterComma rest place := by
  rw [IsOuterComma, IsOuterComma, List.getElem?_append_right (Nat.le_add_right ..),
    Nat.add_sub_cancel_left, List.take_length_add_append, List.count_append, List.count_append,
    balances, Nat.add_left_cancel_iff]

theorem outerCommas_append {front : List Char} (balances : front.count '(' = front.count ')')
    (rest : List Char) :
    outerCommas (front ++ rest) =
      outerCommas front ++ (outerCommas rest).map (front.length + ·) := by
  rw [outerCommas, List.length_append, List.range_add, List.filter_append, List.filter_map]
  congr 1
  · refine List.filter_congr fun place member => ?_
    rw [decide_eq_decide]
    exact isOuterComma_append_left (List.mem_range.mp member)
  · refine congrArg _ (List.filter_congr fun place _ => ?_)
    rw [Function.comp_apply, decide_eq_decide]
    exact isOuterComma_append_right balances place

theorem outerCommas_of_undivided {text : List Char} (undivided : Undivided text) :
    outerCommas text = [] := by
  obtain ⟨_, _, commasInside⟩ := undivided_iff_count.mp undivided
  rw [outerCommas, List.filter_eq_nil_iff]
  intro place _ outer
  obtain ⟨comma, balances⟩ := of_decide_eq_true outer
  have start : text.take place ++ [','] <+: text := by
    have next : text.take (place + 1) = text.take place ++ text[place]?.toList :=
      List.take_add_one
    rw [comma, Option.toList_some] at next
    rw [← next]
    exact List.take_prefix ..
  exact Nat.ne_of_gt (commasInside _ start) balances

theorem outerCommas_comma : outerCommas [','] = [0] := by
  decide

/-! ## Pieces -/

theorem piecesAt_nil (text : List Char) : piecesAt text [] = [text] := by
  simp [piecesAt]

/-- The part of a text between two places is the same when places and text are moved back. -/
theorem extract_append_right (front rest : List Char) (start stop : Nat) :
    (front ++ rest).extract (front.length + start) (front.length + stop) =
      rest.extract start stop := by
  rw [List.extract_eq_take_drop, List.extract_eq_take_drop, List.drop_append,
    List.drop_eq_nil_of_le (Nat.le_add_right ..), List.nil_append, Nat.add_sub_cancel_left,
    Nat.add_sub_add_left]

/-- The pieces after the first comma are those of the text after it. -/
theorem piecesAt_cons (first rest : List Char) (places : List Nat) :
    piecesAt (first ++ [','] ++ rest)
        (first.length :: places.map ((first ++ [',']).length + ·)) =
      first :: piecesAt rest places := by
  have starts : (first.length :: places.map ((first ++ [',']).length + ·)).map (· + 1) =
      (0 :: places.map (· + 1)).map ((first ++ [',']).length + ·) := by
    simp [Nat.add_assoc]
  have stops : places.map ((first ++ [',']).length + ·) ++ [(first ++ [','] ++ rest).length] =
      (places ++ [rest.length]).map ((first ++ [',']).length + ·) := by
    rw [List.map_append, List.map_singleton, ← List.length_append]
  have front : (first ++ [','] ++ rest).extract 0 first.length = first := by
    simp
  rw [piecesAt, starts, List.cons_append, stops, List.zipWith_cons_cons, front, List.zipWith_map]
  simp only [extract_append_right]
  rfl

/-- **The pieces of undivided texts that commas separate are these texts.** -/
theorem piecesAt_intercalate {first : List Char} {others : List (List Char)}
    (undivided : ∀ text ∈ first :: others, Undivided text) :
    piecesAt ([','].intercalate (first :: others))
      (outerCommas ([','].intercalate (first :: others))) = first :: others := by
  induction others generalizing first with
  | nil =>
      rw [List.intercalate_singleton, outerCommas_of_undivided (undivided first (by simp)),
        piecesAt_nil]
  | cons second others ih =>
      have whole := undivided first (by simp)
      have balances : (first ++ [',']).count '(' = (first ++ [',']).count ')' := by
        simpa using whole.balances
      have later := ih fun text member => undivided text (List.mem_cons_of_mem _ member)
      have comma : outerCommas (first ++ [',']) = [first.length] := by
        rw [outerCommas_append whole.balances, outerCommas_of_undivided whole, outerCommas_comma]
        rfl
      rw [List.intercalate_cons_cons, outerCommas_append balances, comma, List.singleton_append,
        piecesAt_cons, later]

/-- **A text splits into the pieces between its outer commas.** -/
theorem pieces?_eq_piecesAt {text : List Char} {pieces : List Char × List (List Char)}
    (found : pieces? 0 text = some pieces) :
    pieces.1 :: pieces.2 = piecesAt text (outerCommas text) := by
  obtain ⟨first, others⟩ := undivided_of_pieces? found
  have recovered := piecesAt_intercalate (List.forall_mem_cons.mpr ⟨first, others⟩)
  rw [intercalate_of_pieces? found] at recovered
  exact recovered.symm

/-! ## Operands -/

theorem operands_of_unbalanced {body : List Char} (unbalanced : Unbalanced body) :
    operands body = .error (.malformed body .unbalanced) := by
  have none := pieces?_eq_none_iff.mpr unbalanced
  have visible : ¬ body.all Text.isBlank = true := by
    intro blank
    have ordinary : ∀ c ∈ body, Ordinary c := fun c member =>
      ordinary_of_blank (List.all_eq_true.mp blank c member)
    rw [pieces?_of_undivided (undivided_of_ordinary ordinary)] at none
    cases none
  rw [operands, if_neg visible, none]

theorem operands_of_balanced {body : List Char} (balanced : ¬ Unbalanced body) :
    operands body = .ok
      (if body.all Text.isBlank then []
        else (piecesAt body (outerCommas body)).map Text.trim) := by
  rw [operands]
  split
  · rfl
  · cases found : pieces? 0 body with
    | none => exact absurd (pieces?_eq_none_iff.mp found) balanced
    | some pieces => rw [← pieces?_eq_piecesAt found]

/-- **Operands are not found if and only if the parentheses do not balance.** -/
theorem operands_eq_error_iff {body : List Char} {error : EvalError} :
    operands body = .error error ↔ Unbalanced body ∧ error = .malformed body .unbalanced := by
  by_cases unbalanced : Unbalanced body
  · rw [operands_of_unbalanced unbalanced, Except.error.injEq, eq_comm]
    exact (and_iff_right unbalanced).symm
  · rw [operands_of_balanced unbalanced]
    constructor
    · intro failed
      cases failed
    · intro fails
      exact absurd fails.1 unbalanced

/-- **Otherwise they are what stands between the outer commas.** -/
theorem operands_eq_ok_iff {body : List Char} {found : List (List Char)} :
    operands body = .ok found ↔
      ¬ Unbalanced body ∧ found =
        if body.all Text.isBlank then []
        else (piecesAt body (outerCommas body)).map Text.trim := by
  by_cases unbalanced : Unbalanced body
  · rw [operands_of_unbalanced unbalanced]
    constructor
    · intro same
      cases same
    · intro fits
      exact absurd unbalanced fits.1
  · rw [operands_of_balanced unbalanced, Except.ok.injEq, eq_comm]
    exact (and_iff_right unbalanced).symm

/-! ## Splitting bytes -/

/-- What a scan through the bytes of a text knows: the operands that are complete, how many
parentheses are open, where the operand at hand starts, and the place of the next byte. -/
structure ByteScan where
  operands : List (List Char)
  depth : Nat
  start : Nat
  place : Nat

namespace ByteScan

/-- A scan that has seen nothing. -/
def initial : ByteScan :=
  ⟨[], 0, 0, 0⟩

/-- The operands when the one at hand stops at a place. There is no outcome if it cannot be cut
out. -/
def operandsUpTo (body : String) (scan : ByteScan) (stop : Nat) :
    ExceptT EvalError Option (List (List Char)) := do
  let operand ← Text.part? body scan.start stop
  return scan.operands ++ [Text.trim operand.toList]

/-- A scan goes past one byte. -/
def step (body : String) (scan : ByteScan) (byte : UInt8) : ExceptT EvalError Option ByteScan :=
  if byte = '('.toUInt8 then
    return { scan with depth := scan.depth + 1, place := scan.place + 1 }
  else if byte = ')'.toUInt8 then
    if scan.depth = 0 then throw (.malformed body.toList .unbalanced)
    else return { scan with depth := scan.depth - 1, place := scan.place + 1 }
  else if byte = ','.toUInt8 ∧ scan.depth = 0 then do
    let operands ← scan.operandsUpTo body scan.place
    return ⟨operands, scan.depth, scan.place + 1, scan.place + 1⟩
  else return { scan with place := scan.place + 1 }

/-- A scan goes through the bytes that are left, and ends. -/
def run (body : String) (scan : ByteScan) :
    List UInt8 → ExceptT EvalError Option (List (List Char))
  | [] =>
      if scan.depth = 0 then scan.operandsUpTo body body.utf8ByteSize
      else throw (.malformed body.toList .unbalanced)
  | byte :: rest => do
      let next ← scan.step body byte
      next.run body rest

end ByteScan

/-- The operands in the text between the parentheses of an operator, found by a scan of its bytes
that cuts them out at the places of the commas. There is no outcome if a part of the text is to be
cut out at places that do not lie between characters. -/
def operandsOfBytes (body : String) : ExceptT EvalError Option (List (List Char)) :=
  if body.toList.all Text.isBlank then return []
  else ByteScan.initial.run body (Text.bytes body)

namespace ByteScan

/-- The outcome of a scan when the text that is left splits, or not, into pieces, the first of which
continues the operand at hand. -/
def outcome (body : List Char) (operands : List (List Char)) (front : List Char) :
    Option (List Char × List (List Char)) → Except EvalError (List (List Char))
  | some pieces => .ok (operands ++ ((front ++ pieces.1) :: pieces.2).map Text.trim)
  | none => .error (.malformed body .unbalanced)

theorem outcome_prepend (body : List Char) (operands : List (List Char)) (front : List Char)
    (c : Char) (found : Option (List Char × List (List Char))) :
    outcome body operands front (found.map (prepend c)) =
      outcome body operands (front ++ [c]) found := by
  cases found with
  | none => rfl
  | some pieces => simp [outcome, prepend]

theorem outcome_comma (body : List Char) (operands : List (List Char)) (front : List Char)
    (found : Option (List Char × List (List Char))) :
    outcome body operands front (found.map fun pieces => ([], pieces.1 :: pieces.2)) =
      outcome body (operands ++ [Text.trim front]) [] found := by
  cases found with
  | none => rfl
  | some pieces => simp [outcome]

/-- The operand at hand can be cut out. -/
theorem operandsUpTo_eq (done front rest : List Char) (operands : List (List Char))
    (depth place : Nat) :
    operandsUpTo (String.ofList (done ++ front ++ rest))
        ⟨operands, depth, byteLength done, place⟩ (byteLength (done ++ front)) =
      pure (operands ++ [Text.trim front]) := by
  have trimmed : Text.trim front = Text.trim (String.ofList front).toList := by
    rw [String.toList_ofList]
  rw [operandsUpTo, Text.part?_append, trimmed]
  rfl

/-- Bytes that are no delimiters are passed. -/
theorem run_append_of_passed {depth : Nat} {front : List UInt8}
    (passed : ∀ byte ∈ front, byte ≠ '('.toUInt8 ∧ byte ≠ ')'.toUInt8 ∧
      ¬ (byte = ','.toUInt8 ∧ depth = 0))
    (body : String) (operands : List (List Char)) (start place : Nat) (rest : List UInt8) :
    run body ⟨operands, depth, start, place⟩ (front ++ rest) =
      run body ⟨operands, depth, start, place + front.length⟩ rest := by
  induction front generalizing place with
  | nil => rfl
  | cons byte front ih =>
      obtain ⟨⟨notOpen, notClose, notOuter⟩, later⟩ := List.forall_mem_cons.mp passed
      rw [List.cons_append, run, step, if_neg notOpen, if_neg notClose, if_neg notOuter, pure_bind,
        ih later, List.length_cons, Nat.add_assoc, Nat.add_comm 1]

/-- **A scan follows the depth over a whole character.** -/
theorem run_append_of_depthPast? {depth after : Nat} {c : Char}
    (stepped : depthPast? depth c = some after) (body : String) (operands : List (List Char))
    (start place : Nat) (rest : List UInt8) :
    run body ⟨operands, depth, start, place⟩ (String.utf8EncodeChar c ++ rest) =
      run body ⟨operands, after, start, place + c.utf8Size⟩ rest := by
  obtain ⟨rfl, rfl⟩ | ⟨rfl, rfl⟩ | ⟨notOpen, notClose, notOuter, rfl⟩ :=
    depthPast?_eq_some_iff.mp stepped
  · rfl
  · rfl
  · rw [← String.length_utf8EncodeChar]
    refine run_append_of_passed ?_ body operands start place rest
    intro byte member
    refine ⟨?_, ?_, ?_⟩
    · rintro rfl
      exact notOpen (Text.eq_of_toUInt8_mem (by decide) member)
    · rintro rfl
      exact notClose (Text.eq_of_toUInt8_mem (by decide) member)
    · rintro ⟨rfl, outside⟩
      exact notOuter ⟨Text.eq_of_toUInt8_mem (by decide) member, outside⟩

/-- A scan fails where there is no parenthesis to close. -/
theorem run_append_of_close (body : String) (operands : List (List Char)) (start place : Nat)
    (rest : List UInt8) :
    run body ⟨operands, 0, start, place⟩ (String.utf8EncodeChar ')' ++ rest) =
      throw (.malformed body.toList .unbalanced) :=
  rfl

/-- At a comma outside all parentheses the operand at hand is complete. -/
theorem run_append_of_comma (done front after : List Char) (operands : List (List Char))
    (rest : List UInt8) :
    run (String.ofList (done ++ front ++ after))
        ⟨operands, 0, byteLength done, byteLength (done ++ front)⟩
        (String.utf8EncodeChar ',' ++ rest) =
      run (String.ofList (done ++ front ++ after))
        ⟨operands ++ [Text.trim front], 0, byteLength (done ++ front) + 1,
          byteLength (done ++ front) + 1⟩ rest := by
  rw [Text.utf8EncodeChar_of_ascii (by decide), List.singleton_append, run, step,
    if_neg (by decide), if_neg (by decide), if_pos ⟨rfl, rfl⟩, operandsUpTo_eq, pure_bind,
    pure_bind]

/-- **A scan splits what is left of a text as `pieces?` does.** -/
theorem run_eq {body done front rest : List Char} (whole : body = done ++ front ++ rest)
    (operands : List (List Char)) (depth : Nat) :
    (run (String.ofList body) ⟨operands, depth, byteLength done, byteLength (done ++ front)⟩
        (rest.flatMap String.utf8EncodeChar)).run =
      some (outcome body operands front (pieces? depth rest)) := by
  induction rest generalizing done front operands depth with
  | nil =>
      have stop : (String.ofList body).utf8ByteSize = byteLength (done ++ front) := by
        rw [Text.utf8ByteSize_ofList, whole, List.append_nil]
      rw [List.flatMap_nil, run, pieces?, stop]
      by_cases outside : depth = 0
      · rw [if_pos outside, if_pos outside, whole, operandsUpTo_eq, outcome, List.append_nil]
        rfl
      · rw [if_neg outside, if_neg outside, String.toList_ofList]
        rfl
  | cons c rest ih =>
      rw [List.flatMap_cons]
      cases stepped : depthPast? depth c with
      | some after =>
          have longer : body = done ++ (front ++ [c]) ++ rest := by simpa using whole
          have place : byteLength (done ++ front) + c.utf8Size =
              byteLength (done ++ (front ++ [c])) := by
            rw [← List.append_assoc, byteLength_append (done ++ front)]
            rfl
          rw [run_append_of_depthPast? stepped, pieces?_cons stepped, outcome_prepend, place,
            ih longer]
      | none =>
          obtain ⟨rfl, rfl | rfl⟩ := depthPast?_eq_none_iff.mp stepped
          · rw [run_append_of_close, String.toList_ofList]
            rfl
          · have later : body = (done ++ front ++ [',']) ++ [] ++ rest := by simpa using whole
            have place : byteLength (done ++ front) + 1 = byteLength (done ++ front ++ [',']) := by
              rw [byteLength_append (done ++ front)]
              rfl
            have passed := run_append_of_comma done front (',' :: rest) operands
              (rest.flatMap String.utf8EncodeChar)
            rw [← whole, place] at passed
            have split := ih later (operands ++ [Text.trim front]) 0
            rw [List.append_nil] at split
            rw [passed, split, pieces?_comma, outcome_comma]

end ByteScan

/-- **A scan of the bytes of a text finds the operands of the text.** -/
theorem operandsOfBytes_ofList (body : List Char) :
    (operandsOfBytes (String.ofList body)).run = some (operands body) := by
  rw [operandsOfBytes, operands, String.toList_ofList]
  split
  · rfl
  · rw [Text.bytes_ofList]
    have scanned := @ByteScan.run_eq body [] [] body rfl [] 0
    refine scanned.trans (congrArg some ?_)
    cases pieces? 0 body <;> rfl

/-- There is one operand more than there are outer commas, unless the text is blank. -/
theorem length_of_operands {body : List Char} {found : List (List Char)}
    (split : operands body = .ok found) :
    found.length = if body.all Text.isBlank then 0 else (outerCommas body).length + 1 := by
  obtain ⟨_, rfl⟩ := operands_eq_ok_iff.mp split
  split
  · rfl
  · rw [List.length_map, length_piecesAt]

/-- **Splitting is exact.** It fails if and only if the parentheses of the text do not balance, and
the failure shows the whole text. Otherwise a blank text has no operands, and any other has what
stands between its outer commas, trimmed and in order: one operand more than there are outer commas,
blank ones included. A scan of the bytes finds the same and never cuts a character in two, for the
places before and after the byte of a delimiter lie between characters. -/
theorem splitting_is_exact (body : List Char) :
    (∀ error, operands body = .error error ↔
      Unbalanced body ∧ error = .malformed body .unbalanced) ∧
    (∀ found, operands body = .ok found ↔
      ¬ Unbalanced body ∧ found =
        if body.all Text.isBlank then []
        else (piecesAt body (outerCommas body)).map Text.trim) ∧
    (∀ found, operands body = .ok found →
      found.length = if body.all Text.isBlank then 0 else (outerCommas body).length + 1) ∧
    (operandsOfBytes (String.ofList body)).run = some (operands body) ∧
    ∀ delimiter ∈ ['(', ')', ','], ∀ place,
      (Text.bytes (String.ofList body))[place]? = some delimiter.toUInt8 →
        String.Pos.Raw.IsValid (String.ofList body) ⟨place⟩ ∧
          String.Pos.Raw.IsValid (String.ofList body) ⟨place + 1⟩ := by
  refine ⟨fun error => operands_eq_error_iff, fun found => operands_eq_ok_iff,
    fun found => length_of_operands, operandsOfBytes_ofList body, ?_⟩
  intro delimiter member place
  have ascii : ∀ delimiter ∈ ['(', ')', ','], delimiter.toNat ≤ 127 := by
    simp
  exact Text.isValid_of_byte (ascii delimiter member)

/-- A text with wide characters inside and outside of parentheses, and a blank at its end that takes
three bytes. The first comma is its seventh byte. -/
theorem splitting_is_exact_of_wide_characters :
    let body := "日本, +(é,n:1) ,\u2003".toList
    let found := ["日本".toList, "+(é,n:1)".toList, []]
    outerCommas body = [2, 13] ∧ ¬ Unbalanced body ∧ operands body = .ok found ∧
      found.length = (outerCommas body).length + 1 ∧
      (operandsOfBytes (String.ofList body)).run = some (.ok found) ∧
      (Text.bytes (String.ofList body))[6]? = some ','.toUInt8 ∧
      String.Pos.Raw.IsValid (String.ofList body) ⟨6⟩ ∧
      String.Pos.Raw.IsValid (String.ofList body) ⟨7⟩ := by
  intro body found
  obtain ⟨_, exact, counted, scanned, valid⟩ := splitting_is_exact body
  have commas : outerCommas body = [2, 13] := by
    decide
  have split : operands body = .ok found := by
    decide
  have comma : (Text.bytes (String.ofList body))[6]? = some ','.toUInt8 := by
    rw [Text.bytes_ofList]
    decide
  refine ⟨commas, ((exact found).mp split).1, split, counted found split, ?_, comma,
    valid ',' (by decide) 6 comma⟩
  rw [scanned, split]

end Calculator.Encoding
