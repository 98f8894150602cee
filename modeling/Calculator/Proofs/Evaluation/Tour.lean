import Mathlib.Data.List.Nodup
import Calculator.Proofs.Evaluation.Skipped
import Calculator.Proofs.Evaluation.Visits
import Calculator.Proofs.Expr.Folds

/-!
# The tour of a tree

A tour of a tree enters every node before its operands, goes through the operands from left to right
and leaves the node. It does not depend on any value: it visits every place of the tree
(`mem_tour_iff`), once on entering and once on leaving (`nodup_tour`).

The parser builds a node when the tour leaves it: the nodes in postorder are those that the tour
leaves, in its order (`postorder_eq_tour`). Evaluation makes the same tour and leaves out places
that are not reached. A place is reached if each of the frames around it needs what fills it, and a
frame finds this out from the operand that is evaluated before the missing one (`Frame.needs`). So
the visits of an evaluation are the tour, in its order, without the places that are not reached
(`visits_eq_tour`). If the tree has a value, what is reached has one too
(`Place.exists_outcome_of_reached`).
-/

set_option autoImplicit false

namespace Calculator

variable {α β : Type}

/-! ## Frames and places -/

/-- The operands of an expression from left to right, each with the frame around it. -/
def Expr.framed : Expr → List (Frame × Expr)
  | literal _ => []
  | unary op operand => [(.unary op, operand)]
  | binary op left right => [(.binaryLeft op right, left), (.binaryRight op left, right)]
  | conditional condition whenTrue whenFalse =>
      [(.conditionalHead whenTrue whenFalse, condition),
        (.conditionalTrue condition whenFalse, whenTrue),
        (.conditionalFalse condition whenTrue, whenFalse)]

/-- The frame needs what fills it: the operand that is evaluated before it, if any, has a value that
does not make it superfluous. -/
def Frame.needs (outcome : Expr → Except EvalError Value) : Frame → Bool
  | unary _ | binaryLeft _ _ | conditionalHead _ _ => true
  | binaryRight op left =>
      match outcome left with
      | .ok value => if op = .and then value.truthy else if op = .or then !value.truthy else true
      | .error _ => false
  | conditionalTrue condition _ =>
      match outcome condition with
      | .ok value => value.truthy
      | .error _ => false
  | conditionalFalse condition _ =>
      match outcome condition with
      | .ok value => !value.truthy
      | .error _ => false

/-- A place in a tree: the frames around it, from the outermost inwards, and the tree in it. -/
structure Place where
  around : Surroundings
  tree : Expr
deriving Repr, DecidableEq

namespace Place

/-- The level of the place. The root is at level 1. -/
def depth (place : Place) : Nat :=
  place.around.length + 1

/-- The tree that the place is in. -/
def whole (place : Place) : Expr :=
  place.around.fill place.tree

/-- Evaluation under no limit reaches the place. -/
def reached (place : Place) : Bool :=
  place.around.all (Frame.needs View.tree.outcome)

end Place

namespace Visit

/-- What is visited. -/
def of : Visit α → α
  | enter _ a => a
  | leave _ a => a

/-- The level of the visit. -/
def depth : Visit α → Nat
  | enter depth _ => depth
  | leave depth _ => depth

/-- What is left, unless the visit enters. -/
def left? : Visit α → Option α
  | enter _ _ => none
  | leave _ a => some a

/-- A visit of the image. -/
def map (f : α → β) : Visit α → Visit β
  | enter depth a => .enter depth (f a)
  | leave depth a => .leave depth (f a)

variable {f : α → β} {depth : Nat} {a : α}

@[simp] theorem of_enter : (enter depth a).of = a := rfl

@[simp] theorem of_leave : (leave depth a).of = a := rfl

@[simp] theorem left?_enter : (enter depth a).left? = none := rfl

@[simp] theorem left?_leave : (leave depth a).left? = some a := rfl

@[simp] theorem map_enter : (enter depth a).map f = .enter depth (f a) := rfl

@[simp] theorem map_leave : (leave depth a).map f = .leave depth (f a) := rfl

end Visit

/-! ## The tour -/

/-- The tour of a tree with these frames around it. -/
def Expr.tourIn (around : Surroundings) (expr : Expr) : List (Visit Place) :=
  let place := Place.mk around expr
  .enter place.depth place ::
    (match expr with
      | literal _ => []
      | unary op operand => operand.tourIn (around ++ [.unary op])
      | binary op left right =>
          left.tourIn (around ++ [.binaryLeft op right]) ++
            right.tourIn (around ++ [.binaryRight op left])
      | conditional condition whenTrue whenFalse =>
          condition.tourIn (around ++ [.conditionalHead whenTrue whenFalse]) ++
            whenTrue.tourIn (around ++ [.conditionalTrue condition whenFalse]) ++
            whenFalse.tourIn (around ++ [.conditionalFalse condition whenTrue])) ++
    [.leave place.depth place]

/-- The tour of a tree. -/
def Expr.tour (expr : Expr) : List (Visit Place) :=
  expr.tourIn []

namespace Expr

variable {around : Surroundings} {frame : Frame} {expr operand : Expr}

/-- A frame with its filling makes up the expression when the filling is its operand there. -/
theorem mem_framed_iff : (frame, operand) ∈ expr.framed ↔ frame.fill operand = expr := by
  constructor
  · intro member
    cases expr <;> simp only [framed, List.mem_cons, List.not_mem_nil, or_false, Prod.mk.injEq]
      at member
    case unary => obtain ⟨rfl, rfl⟩ := member; rfl
    case binary => rcases member with ⟨rfl, rfl⟩ | ⟨rfl, rfl⟩ <;> rfl
    case conditional => rcases member with ⟨rfl, rfl⟩ | ⟨rfl, rfl⟩ | ⟨rfl, rfl⟩ <;> rfl
  · rintro rfl
    cases frame <;> simp [framed, Frame.fill, Frame.node, Node.toExpr]

theorem map_snd_framed (expr : Expr) : expr.framed.map Prod.snd = expr.node.operands := by
  cases expr <;> rfl

/-- Each operand has a frame of its own. -/
theorem nodup_frames (expr : Expr) : (expr.framed.map Prod.fst).Nodup := by
  cases expr <;> simp [framed]

/-- What holds of an expression whenever it holds of its operands in their frames holds of every
expression. -/
theorem induct_framed {motive : Expr → Prop}
    (step : ∀ expr, (∀ frame operand, (frame, operand) ∈ expr.framed → motive operand) →
      motive expr) (expr : Expr) : motive expr := by
  induction expr using induct_operands with
  | step expr ih =>
      refine step expr fun frame operand member => ih operand ?_
      rw [← map_snd_framed]
      exact List.mem_map.mpr ⟨_, member, rfl⟩

/-- A tour goes through the operands in their frames. -/
theorem tourIn_eq (around : Surroundings) (expr : Expr) :
    expr.tourIn around = .enter (around.length + 1) ⟨around, expr⟩ ::
      expr.framed.flatMap (fun part => part.2.tourIn (around ++ [part.1])) ++
        [.leave (around.length + 1) ⟨around, expr⟩] := by
  cases expr <;> rw [tourIn] <;> simp [framed, Place.depth]

theorem mem_tourIn_iff {visit : Visit Place} :
    visit ∈ expr.tourIn around ↔
      visit = .enter (around.length + 1) ⟨around, expr⟩ ∨
        visit = .leave (around.length + 1) ⟨around, expr⟩ ∨
        ∃ frame operand, (frame, operand) ∈ expr.framed ∧
          visit ∈ operand.tourIn (around ++ [frame]) := by
  rw [tourIn_eq]
  simp only [List.cons_append, List.mem_cons, List.mem_append, List.mem_flatMap, Prod.exists,
    List.not_mem_nil, or_false]
  exact or_congr_right or_comm

/-- **A tour visits the places of the tree**, at their depths. -/
theorem mem_tourIn_iff_place {visit : Visit Place} :
    visit ∈ expr.tourIn around ↔
      visit.depth = visit.of.depth ∧
        ∃ inner, visit.of.around = around ++ inner ∧
          Surroundings.fill inner visit.of.tree = expr := by
  constructor
  · intro member
    induction expr using induct_framed generalizing around with
    | step expr ih =>
        rcases mem_tourIn_iff.mp member with rfl | rfl | ⟨frame, operand, part, inside⟩
        · exact ⟨rfl, [], (List.append_nil around).symm, rfl⟩
        · exact ⟨rfl, [], (List.append_nil around).symm, rfl⟩
        · obtain ⟨level, inner, same, filled⟩ := ih frame operand part inside
          refine ⟨level, frame :: inner, same.trans (List.append_assoc around [frame] inner), ?_⟩
          change frame.fill (Surroundings.fill inner visit.of.tree) = expr
          rw [filled]
          exact mem_framed_iff.mp part
  · rintro ⟨level, inner, same, filled⟩
    induction inner generalizing around expr with
    | nil =>
        rw [List.append_nil] at same
        change visit.of.tree = expr at filled
        subst same filled
        refine mem_tourIn_iff.mpr ?_
        cases visit with
        | enter depth place =>
            change depth = place.depth at level
            subst level
            exact .inl rfl
        | leave depth place =>
            change depth = place.depth at level
            subst level
            exact .inr (.inl rfl)
    | cons frame inner ih =>
        refine mem_tourIn_iff.mpr (.inr (.inr ⟨frame, _, mem_framed_iff.mpr filled, ih ?_ rfl⟩))
        rw [same, List.append_assoc, List.singleton_append]

/-- A tour stays within the frames around the tree. -/
theorem exists_of_mem_tourIn {visit : Visit Place} (member : visit ∈ expr.tourIn around) :
    ∃ inner, visit.of.around = around ++ inner := by
  obtain ⟨_, inner, same, _⟩ := mem_tourIn_iff_place.mp member
  exact ⟨inner, same⟩

theorem nodup_tourIn (around : Surroundings) (expr : Expr) : (expr.tourIn around).Nodup := by
  induction expr using induct_framed generalizing around with
  | step expr ih =>
      have deeper {visit : Visit Place} (inside : visit ∈ expr.framed.flatMap fun part =>
          part.2.tourIn (around ++ [part.1])) : visit.of.around ≠ around := by
        obtain ⟨⟨frame, operand⟩, _, inside⟩ := List.mem_flatMap.mp inside
        obtain ⟨inner, same⟩ := exists_of_mem_tourIn inside
        simp [same]
      -- Two operands have different frames, so that the frames around what they visit differ.
      have apart : expr.framed.Pairwise fun part other =>
          (part.2.tourIn (around ++ [part.1])).Disjoint
            (other.2.tourIn (around ++ [other.1])) := by
        refine (List.pairwise_map.mp expr.nodup_frames).imp fun different visit member member' => ?_
        obtain ⟨inner, same⟩ := exists_of_mem_tourIn member
        obtain ⟨inner', same'⟩ := exists_of_mem_tourIn member'
        simp only [same, List.append_assoc, List.append_cancel_left_eq, List.singleton_append,
          List.cons.injEq] at same'
        exact different same'.1
      have inside : (expr.framed.flatMap fun part =>
          part.2.tourIn (around ++ [part.1])).Nodup :=
        List.nodup_flatMap.mpr ⟨fun part member => ih part.1 part.2 member _, apart⟩
      rw [tourIn_eq, List.cons_append, List.nodup_cons, List.nodup_append]
      refine ⟨?_, inside, List.nodup_singleton _, ?_⟩
      · intro again
        rcases List.mem_append.mp again with again | again
        · exact deeper again rfl
        · cases List.mem_singleton.mp again
      · intro visit member last isLast same
        subst same
        exact deeper member (List.mem_singleton.mp isLast ▸ rfl)

theorem postorder_eq (expr : Expr) :
    expr.postorder = expr.framed.flatMap (fun part => part.2.postorder) ++ [expr] := by
  cases expr <;> simp [postorder, framed]

/-- **The nodes in postorder are those that the tour leaves**, in its order. -/
theorem postorder_eq_tourIn (around : Surroundings) (expr : Expr) :
    expr.postorder = ((expr.tourIn around).filterMap Visit.left?).map Place.tree := by
  induction expr using induct_framed generalizing around with
  | step expr ih =>
      have inside : expr.framed.flatMap (fun part => part.2.postorder) =
          expr.framed.flatMap fun part =>
            ((part.2.tourIn (around ++ [part.1])).filterMap Visit.left?).map Place.tree :=
        List.flatMap_congr fun part member => ih part.1 part.2 member _
      rw [postorder_eq, tourIn_eq, inside]
      rw [List.cons_append, List.filterMap_cons_none Visit.left?_enter]
      simp [List.filterMap_flatMap, List.map_flatMap]

/-- The operands that a node needs are those whose frames need them. -/
theorem needed_eq (outcome : Expr → Except EvalError Value) (expr : Expr) :
    expr.node.needed outcome =
      (expr.framed.filter fun part => part.1.needs outcome).map Prod.snd := by
  cases expr with
  | literal digits => rfl
  | unary op operand => rfl
  | binary op left right =>
      cases evaluated : outcome left with
      | error error => simp [node, Node.needed, framed, Frame.needs, evaluated]
      | ok value =>
          cases truth : value.truthy <;> cases op <;>
            simp [node, Node.needed, framed, Frame.needs, BinaryOperator.settled?, evaluated, truth]
  | conditional condition whenTrue whenFalse =>
      cases evaluated : outcome condition with
      | error error => simp [node, Node.needed, framed, Frame.needs, evaluated]
      | ok value =>
          cases truth : value.truthy <;>
            simp [node, Node.needed, framed, Frame.needs, evaluated, truth]

theorem flatMap_filter_eq {l : List α} {keeps : α → Bool} {f g : α → List β}
    (kept : ∀ a ∈ l, keeps a = true → g a = f a) (dropped : ∀ a ∈ l, keeps a = false → g a = []) :
    l.flatMap g = (l.filter keeps).flatMap f := by
  induction l with
  | nil => rfl
  | cons a rest ih =>
      have later := ih (fun b member => kept b (List.mem_cons_of_mem a member))
        (fun b member => dropped b (List.mem_cons_of_mem a member))
      cases keep : keeps a with
      | true =>
          rw [List.filter_cons_of_pos keep, List.flatMap_cons, List.flatMap_cons, later,
            kept a List.mem_cons_self keep]
      | false =>
          rw [List.filter_cons_of_neg (by simp [keep]), List.flatMap_cons, later,
            dropped a List.mem_cons_self keep, List.nil_append]

/-- No place is reached within a frame that does not need what fills it. -/
theorem filter_reached_tourIn_of_not_needs (needless : frame.needs View.tree.outcome = false) :
    (operand.tourIn (around ++ [frame])).filter (fun visit => visit.of.reached) = [] := by
  refine List.filter_eq_nil_iff.mpr fun visit member reached => ?_
  obtain ⟨inner, same⟩ := exists_of_mem_tourIn member
  simp [Place.reached, same, needless] at reached

/-- **Evaluation makes the tour and leaves out what is not reached.** -/
theorem visits_eq_tourIn (around : Surroundings) (expr : Expr)
    (reached : around.all (Frame.needs View.tree.outcome) = true) :
    View.tree.visits (around.length + 1) expr =
      ((expr.tourIn around).filter fun visit => visit.of.reached).map (Visit.map Place.tree) := by
  induction expr using induct_framed generalizing around with
  | step expr ih =>
      have inside : (expr.framed.flatMap fun part =>
            ((part.2.tourIn (around ++ [part.1])).filter fun visit => visit.of.reached).map
              (Visit.map Place.tree)) =
          (expr.node.needed View.tree.outcome).flatMap (View.tree.visits (around.length + 2)) := by
        rw [needed_eq, List.flatMap_map]
        refine flatMap_filter_eq (fun part member needs => ?_) fun part _ needless => ?_
        · have same := ih part.1 part.2 member (around ++ [part.1])
            (by simpa [needs] using reached)
          rw [List.length_append] at same
          exact same.symm
        · rw [filter_reached_tourIn_of_not_needs needless, List.map_nil]
      have found : View.tree.node expr = .ok expr.node := rfl
      have own : (Place.mk around expr).reached = true := reached
      rw [View.visits_of_ok found, ← inside, tourIn_eq]
      simp [own, List.filter_flatMap, List.map_flatMap]

/-! ### The whole tour -/

/-- **The tour visits each place of the tree**, at its depth, and nothing else. -/
theorem mem_tour_iff {visit : Visit Place} :
    visit ∈ expr.tour ↔ visit.depth = visit.of.depth ∧ visit.of.whole = expr := by
  rw [tour, mem_tourIn_iff_place]
  simp [Place.whole]

theorem nodup_tour (expr : Expr) : expr.tour.Nodup :=
  nodup_tourIn [] expr

theorem postorder_eq_tour (expr : Expr) :
    expr.postorder = (expr.tour.filterMap Visit.left?).map Place.tree :=
  postorder_eq_tourIn [] expr

theorem visits_eq_tour (expr : Expr) :
    View.tree.visits 1 expr =
      (expr.tour.filter fun visit => visit.of.reached).map (Visit.map Place.tree) :=
  visits_eq_tourIn [] expr rfl

end Expr

/-! ## Places of a tree that has a value -/

/-- A node has a value only if each operand that it needs has one. -/
theorem exists_outcome_of_needed {outcome : α → Except EvalError Value} {node : Node α}
    {value : Value}
    (evaluated : (evaluateNode (fun operand => .ofExcept (outcome operand)) node).outcome =
      .ok value) {operand : α} (needed : operand ∈ node.needed outcome) :
    ∃ value', outcome operand = .ok value' := by
  cases result : outcome operand with
  | ok value' => exact ⟨value', rfl⟩
  | error error =>
      have fails : (evaluateNode (fun operand => .ofExcept (outcome operand)) node).outcome =
          .error error :=
        outcome_evaluateNode_eq_error (fun _ _ => .inl rfl) ⟨operand, needed, result⟩
      cases evaluated.symm.trans fails

theorem Frame.exists_outcome_of_needs {frame : Frame} {operand : Expr} {value : Value}
    (evaluated : View.tree.outcome (frame.fill operand) = .ok value)
    (needs : frame.needs View.tree.outcome = true) :
    ∃ value', View.tree.outcome operand = .ok value' := by
  rw [View.outcome_eq] at evaluated
  refine exists_outcome_of_needed evaluated ?_
  rw [Expr.needed_eq]
  have part : (frame, operand) ∈ (frame.fill operand).framed := Expr.mem_framed_iff.mpr rfl
  exact List.mem_map.mpr ⟨_, List.mem_filter.mpr ⟨part, needs⟩, rfl⟩

/-- **What is reached in a tree that has a value has a value.** -/
theorem Place.exists_outcome_of_reached {place : Place} {value : Value}
    (evaluated : View.tree.outcome place.whole = .ok value) (reached : place.reached = true) :
    ∃ value', View.tree.outcome place.tree = .ok value' := by
  obtain ⟨around, tree⟩ := place
  induction around generalizing value with
  | nil => exact ⟨value, evaluated⟩
  | cons frame inner ih =>
      obtain ⟨needs, reached⟩ := Bool.and_eq_true_iff.mp reached
      obtain ⟨value', evaluated'⟩ := Frame.exists_outcome_of_needs evaluated needs
      exact ih evaluated' reached

/-- A bitwise operation that has a value leaves one record, with its operands and its value. -/
theorem combined_of_outcome {op : BinaryOperator} {left right : Expr} {result : Value}
    (bitwise : op.isBitwise = true)
    (evaluated : View.tree.outcome (.binary op left right) = .ok result) :
    ∃ value value', View.tree.outcome left = .ok value ∧ View.tree.outcome right = .ok value' ∧
      (Node.binary op left right).combined View.tree.outcome =
        [.combined op value value' result] := by
  rw [View.outcome_eq] at evaluated
  obtain ⟨value, first, evaluated⟩ := Traced.outcome_bind_eq_ok_iff.mp evaluated
  rw [BinaryOperator.settled?_of_not_isLogical (BinaryOperator.isLogical_of_isBitwise bitwise)]
    at evaluated
  obtain ⟨value', second, evaluated⟩ := Traced.outcome_bind_eq_ok_iff.mp evaluated
  obtain ⟨result', applied, evaluated⟩ := Traced.outcome_bind_eq_ok_iff.mp evaluated
  rw [Traced.outcome_ofExcept] at first second applied
  rw [if_pos bitwise] at evaluated
  cases evaluated
  refine ⟨value, value', first, second, ?_⟩
  simp only [Node.combined, bitwise, first, second, applied, if_true]

end Calculator
