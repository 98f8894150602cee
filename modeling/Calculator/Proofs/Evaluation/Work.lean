import Mathlib.Logic.Function.Iterate
import Calculator.Proofs.Encoding.Decoding
import Calculator.Proofs.Encoding.Extents
import Calculator.Proofs.Evaluation.Views

/-!
# The work that a text takes

Decoding and evaluation of a text read it level by level, and what they read at one level lies in
disjoint parts of what they read above it (`Encoding.extents_of_read`). So the nodes that they enter
are no more than the bytes of the text, and so are the levels that they descend. This does not
depend on the limits, and a text that is no encoded expression is no exception.

The nodes that an evaluation or a decoding enters are in the records of that computation itself
(`Traced.entered`). That the recursion ends is stated without records too: it can be unrolled into
as many levels as the text has bytes, and what is called below these levels does not matter.
-/

set_option autoImplicit false

namespace Calculator

variable {ε α β : Type}

/-! ## Nodes that are entered -/

namespace Traced

/-- The nodes that a computation enters, in order: the depth and the text of each. -/
def entered (computation : Traced ε α) : List (Nat × List Char) :=
  computation.records.filterMap fun
    | .entered depth text => some (depth, text)
    | _ => none

/-- The computation enters at most so many nodes, and none that is more levels down. -/
structure EntersWithin (bound : Nat) (computation : Traced ε α) : Prop where
  nodes : computation.entered.length ≤ bound
  levels : ∀ visited ∈ computation.entered, visited.1 ≤ bound

/-- A record of a node comes before what follows it. -/
theorem entered_log_bind (depth : Nat) (text : List Char) (next : Unit → Traced ε α) :
    (log (.entered depth text) >>= next).entered = (depth, text) :: (next ()).entered := rfl

/-- A sequence enters what its parts enter, or less if the first part fails. -/
theorem entered_bind_sublist {first : Traced ε α} {next : α → Traced ε β}
    {visited later : List (Nat × List Char)} (firstEnters : first.entered.Sublist visited)
    (nextEnters : ∀ a, (next a).entered.Sublist later) :
    (first >>= next).entered.Sublist (visited ++ later) := by
  rw [entered, records_bind, List.filterMap_append]
  refine List.Sublist.append firstEnters ?_
  split
  · exact nextEnters _
  · exact List.nil_sublist _

/-- What has an outcome already enters nothing. -/
theorem entered_ofExcept_bind_sublist {outcome : Except ε α} {next : α → Traced ε β}
    {later : List (Nat × List Char)} (nextEnters : ∀ a, (next a).entered.Sublist later) :
    (ofExcept outcome >>= next).entered.Sublist later := by
  cases outcome with
  | ok a => exact nextEnters a
  | error error => exact List.nil_sublist _

end Traced

open Traced (entered_bind_sublist entered_ofExcept_bind_sublist)

/-- Evaluation of a node enters what its operands enter, at most. -/
theorem entered_evaluateNode_sublist (next : α → Traced EvalError Value) (node : Node α) :
    (evaluateNode next node).entered.Sublist
      (node.operands.flatMap fun operand => (next operand).entered) := by
  cases node with
  | literal digits => exact List.Sublist.refl _
  | unary op operand =>
      refine entered_bind_sublist (List.Sublist.refl _) fun value => ?_
      exact List.nil_sublist _
  | binary op left right =>
      refine entered_bind_sublist (List.Sublist.refl _) fun value => ?_
      split
      · exact List.nil_sublist _
      · refine entered_bind_sublist (List.Sublist.refl _) fun value' => ?_
        refine entered_ofExcept_bind_sublist fun result => ?_
        split <;> exact List.nil_sublist _
  | conditional condition whenTrue whenFalse =>
      refine entered_bind_sublist (List.Sublist.refl _) fun value => ?_
      split
      · simp
      · simp

namespace Encoding

/-- The operands that are read in a text, or none if it cannot be read. -/
def operandsIn (text : List Char) : List (List Char) :=
  match read text with
  | .ok node => node.operands
  | .error _ => []

/-- Decoding enters the node of the text and what the operands enter, at most. -/
theorem entered_decodeTraced_sublist (limits : Limits) (depth : Nat) (text : List Char) :
    (decodeTraced limits depth text).entered.Sublist
      ((depth, text) :: (operandsIn text).flatMap fun operand =>
        (decodeTraced limits (depth + 1) operand).entered) := by
  rw [decodeTraced]
  split
  · exact List.nil_sublist _
  · rw [Traced.entered_log_bind]
    refine List.Sublist.cons_cons _ ?_
    unfold operandsIn
    split
    · exact List.nil_sublist _
    · exact entered_ofExcept_bind_sublist fun _ => List.nil_sublist _
    · rename_i found
      rw [found]
      refine entered_bind_sublist (List.Sublist.refl _) fun _ => ?_
      exact List.nil_sublist _
    · rename_i found
      rw [found]
      refine entered_bind_sublist (List.Sublist.refl _) fun _ => ?_
      refine entered_bind_sublist (List.Sublist.refl _) fun _ => ?_
      exact List.nil_sublist _
    · rename_i found
      rw [found]
      refine entered_bind_sublist (List.Sublist.refl _) fun _ => ?_
      refine entered_bind_sublist (List.Sublist.refl _) fun _ => ?_
      refine entered_bind_sublist (List.Sublist.refl _) fun _ => ?_
      exact List.nil_sublist _

end Encoding

/-- Evaluation of a text enters its node and what the operands enter, at most. -/
theorem entered_evaluateAt_sublist (limits : Limits) (depth : Nat) (text : List Char) :
    (evaluateAt .encoded limits depth text).entered.Sublist
      ((depth, text) :: (Encoding.operandsIn text).flatMap fun operand =>
        (evaluateAt .encoded limits (depth + 1) operand).entered) := by
  have same : View.encoded.node text = Encoding.read text := rfl
  rw [evaluateAt_eq, same]
  split
  · exact List.nil_sublist _
  · rw [Traced.entered_log_bind]
    refine List.Sublist.cons_cons _ ?_
    unfold Encoding.operandsIn
    cases Encoding.read text with
    | error error => exact List.nil_sublist _
    | ok node => exact entered_evaluateNode_sublist _ node

/-! ## Bounds -/

namespace Encoding

/-- Where operands are read, they are smaller than the text, all together. -/
theorem byteLengths_operandsIn (text : List Char) (nonempty : operandsIn text ≠ []) :
    byteLengths (operandsIn text) + (operandsIn text).length + 2 ≤ byteLength text := by
  unfold operandsIn at nonempty ⊢
  split at nonempty
  · rename_i node found
    exact (extents_of_read found).2 nonempty
  · exact absurd rfl nonempty

theorem byteLength_le_byteLengths {texts : List (List Char)} {text : List Char}
    (member : text ∈ texts) : byteLength text ≤ byteLengths texts := by
  induction member with
  | head others => exact Nat.le_add_right ..
  | tail first _ ih => exact Nat.le_trans ih (Nat.le_add_left ..)

/-- An operand leaves room for three bytes of the text. -/
theorem byteLength_add_three_le {text operand : List Char} (member : operand ∈ operandsIn text) :
    byteLength operand + 3 ≤ byteLength text := by
  have nonempty := List.ne_nil_of_mem member
  have room := byteLengths_operandsIn text nonempty
  have part := byteLength_le_byteLengths member
  have count := List.length_pos_of_ne_nil nonempty
  omega

/-- What is entered in each of several texts adds up, with one node for an empty text. -/
theorem length_flatMap_le {visits : List Char → List (Nat × List Char)} {texts : List (List Char)}
    (each : ∀ text ∈ texts, (visits text).length ≤ max 1 (byteLength text)) :
    (texts.flatMap visits).length ≤ byteLengths texts + texts.length := by
  induction texts with
  | nil => exact Nat.zero_le _
  | cons first others ih =>
      have one := each first (List.mem_cons_self ..)
      have rest := ih fun text member => each text (List.mem_cons_of_mem _ member)
      rw [List.flatMap_cons, List.length_append]
      simp only [byteLengths, List.foldr_cons, List.length_cons] at rest ⊢
      omega

/-- A walk enters a text and then, one level deeper, parts of what it enters in each operand. -/
def Walks (walk : Nat → List Char → List (Nat × List Char)) : Prop :=
  ∀ depth text, (walk depth text).Sublist
    ((depth, text) :: (operandsIn text).flatMap (walk (depth + 1)))

variable {walk : Nat → List Char → List (Nat × List Char)}

/-- **A walk enters no more nodes than there are bytes**, apart from an empty text. -/
theorem Walks.length_le (walks : Walks walk) (depth : Nat) (text : List Char) :
    (walk depth text).length ≤ max 1 (byteLength text) := by
  induction size : byteLength text using Nat.strongRecOn generalizing depth text with
  | ind size ih =>
      have entered := (walks depth text).length_le
      rw [List.length_cons] at entered
      by_cases none : operandsIn text = []
      · rw [none, List.flatMap_nil, List.length_nil] at entered
        omega
      · have room := byteLengths_operandsIn text none
        have inside : ((operandsIn text).flatMap (walk (depth + 1))).length ≤
            byteLengths (operandsIn text) + (operandsIn text).length := by
          refine length_flatMap_le fun operand member => ?_
          have smaller := byteLength_add_three_le member
          exact ih _ (by omega) (depth + 1) operand rfl
        omega

/-- **A walk descends no more levels than there are bytes**, apart from an empty text. -/
theorem Walks.level_lt (walks : Walks walk) {depth level : Nat} {text part : List Char}
    (entered : (level, part) ∈ walk depth text) : level < depth + max 1 (byteLength text) := by
  induction size : byteLength text using Nat.strongRecOn generalizing depth text with
  | ind size ih =>
      rcases List.mem_cons.mp ((walks depth text).subset entered) with same | inside
      · cases same
        omega
      · obtain ⟨operand, member, inside⟩ := List.mem_flatMap.mp inside
        have smaller := byteLength_add_three_le member
        have deeper := ih _ (by omega) inside rfl
        omega

/-! ## Unrolling -/

/-- The recursion of a level that looks at nothing but the operands unrolls into as many levels as
there are bytes. What stands below these levels does not matter. -/
theorem iterate_eq {level : (Nat → List Char → β) → Nat → List Char → β}
    {whole : Nat → List Char → β} (recurs : level whole = whole)
    (looksAt : ∀ next next' depth text,
      (∀ operand ∈ operandsIn text, next (depth + 1) operand = next' (depth + 1) operand) →
        level next depth text = level next' depth text)
    (next : Nat → List Char → β) (count depth : Nat) (text : List Char)
    (enough : max 1 (byteLength text) ≤ count) :
    level^[count] next depth text = whole depth text := by
  induction count generalizing depth text with
  | zero => omega
  | succ count ih =>
      rw [Function.iterate_succ_apply', ← congrFun (congrFun recurs depth) text]
      refine looksAt _ _ depth text fun operand member => ?_
      have smaller := byteLength_add_three_le member
      exact ih (depth + 1) operand (by omega)

/-- One level of decoding, given how operands are decoded. -/
def decodeLevel (limits : Limits) (next : Nat → List Char → Except EvalError Expr) (depth : Nat)
    (text : List Char) : Except EvalError Expr :=
  if limits.maxDepth < depth then .error (.tooDeep limits.maxDepth)
  else read text >>= decodeNode (next (depth + 1))

/-- One level of evaluation, given how operands are evaluated. -/
def evaluateLevel (limits : Limits) (next : Nat → List Char → Traced EvalError Value) (depth : Nat)
    (text : List Char) : Traced EvalError Value :=
  if limits.maxDepth < depth then .fail (.tooDeep limits.maxDepth)
  else do
    .log (.entered depth text)
    match read text with
    | .error error => .fail error
    | .ok node => evaluateNode (next (depth + 1)) node

theorem decodeLevel_congr {limits : Limits} {next next' : Nat → List Char → Except EvalError Expr}
    {depth : Nat} {text : List Char}
    (same : ∀ operand ∈ operandsIn text, next (depth + 1) operand = next' (depth + 1) operand) :
    decodeLevel limits next depth text = decodeLevel limits next' depth text := by
  unfold decodeLevel operandsIn at *
  cases found : read text with
  | error error => rfl
  | ok node =>
      simp only [found] at same
      have alike : decodeNode (next (depth + 1)) node = decodeNode (next' (depth + 1)) node := by
        cases node <;> simp_all [decodeNode, Node.operands]
      simp only [bind, Except.bind, alike]

theorem evaluateLevel_congr {limits : Limits}
    {next next' : Nat → List Char → Traced EvalError Value} {depth : Nat} {text : List Char}
    (same : ∀ operand ∈ operandsIn text, next (depth + 1) operand = next' (depth + 1) operand) :
    evaluateLevel limits next depth text = evaluateLevel limits next' depth text := by
  unfold evaluateLevel operandsIn at *
  cases found : read text with
  | error error => rfl
  | ok node =>
      simp only [found] at same
      simp only [evaluateNode_eq_of_related (Node.related_self same)]

theorem iterate_decodeLevel (limits : Limits) (text : List Char)
    (next : Nat → List Char → Except EvalError Expr) :
    (decodeLevel limits)^[max 1 (byteLength text)] next 1 text = decode limits text := by
  have recurs : decodeLevel limits (decodeAt limits) = decodeAt limits := by
    funext depth text
    exact (decodeAt_eq limits depth text).symm
  exact iterate_eq recurs (fun _ _ _ _ => decodeLevel_congr) next _ 1 text (Nat.le_refl _)

theorem iterate_evaluateLevel (limits : Limits) (text : List Char)
    (next : Nat → List Char → Traced EvalError Value) :
    (evaluateLevel limits)^[max 1 (byteLength text)] next 1 text = evaluateEncoded limits text := by
  have recurs : evaluateLevel limits (evaluateAt .encoded limits) = evaluateAt .encoded limits := by
    funext depth text
    have same : View.encoded.node text = read text := rfl
    rw [evaluateAt_eq, same]
    unfold evaluateLevel
    cases read text <;> rfl
  exact iterate_eq recurs (fun _ _ _ _ => evaluateLevel_congr) next _ 1 text (Nat.le_refl _)

end Encoding

/-- A walk from the outermost node stays within the size of the text. -/
theorem Traced.entersWithin_of_walks {walk : Nat → List Char → Traced ε α}
    (walks : Encoding.Walks fun depth text => (walk depth text).entered) (text : List Char) :
    (walk 1 text).EntersWithin (max 1 (byteLength text)) where
  nodes := walks.length_le 1 text
  levels visited entered := by
    have := walks.level_lt entered
    omega

/-- **Decoding makes progress and reads disjoint text.** The operands that are read in a text are
parts of it that stand in order and do not overlap, and they leave at least three of its bytes to
the node. So decoding and evaluation of any text, under any limits, enter no more nodes than the
text has bytes, and one node of an empty text, and they descend no more levels. Their recursion
ends: unrolled into that many levels it is the same, whatever stands below them. -/
theorem decoding_makes_progress (limits : Limits) (text : List Char) :
    (∀ node, Encoding.read text = .ok node → Text.InOrder node.operands text ∧
      (node.operands ≠ [] → Encoding.byteLengths node.operands + 3 ≤ byteLength text)) ∧
    (Encoding.decodeTraced limits 1 text).outcome = Encoding.decode limits text ∧
    (Encoding.decodeTraced limits 1 text).EntersWithin (max 1 (byteLength text)) ∧
    (evaluateEncoded limits text).EntersWithin (max 1 (byteLength text)) ∧
    (∀ next, (Encoding.decodeLevel limits)^[max 1 (byteLength text)] next 1 text =
      Encoding.decode limits text) ∧
    ∀ next, (Encoding.evaluateLevel limits)^[max 1 (byteLength text)] next 1 text =
      evaluateEncoded limits text := by
  refine ⟨fun node found => ?_, rfl,
    Traced.entersWithin_of_walks (Encoding.entered_decodeTraced_sublist limits) text,
    Traced.entersWithin_of_walks (entered_evaluateAt_sublist limits) text,
    Encoding.iterate_decodeLevel limits text, Encoding.iterate_evaluateLevel limits text⟩
  obtain ⟨inOrder, room⟩ := Encoding.extents_of_read found
  refine ⟨inOrder, fun nonempty => ?_⟩
  have count := List.length_pos_of_ne_nil nonempty
  have := room nonempty
  omega

end Calculator
