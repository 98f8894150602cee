import Calculator.CommandLine
import Calculator.Proofs.RoundTrip

/-!
# The modes of the program

The program has three modes: it evaluates source text, shows the encoded form of source text, and
evaluates an encoded expression. The first one is the other two in a row
(`command_line_modes_compose`). If source text cannot be read, showing its encoded form fails as
evaluating it does. Otherwise the line that is shown may be given back to be evaluated, and the
answer is the one to the source text, with the same exit code and the same messages.

**Arguments.** An invocation names its mode and any limits, and then gives its text after `--`.
It is read as what it says (`request?_invocation`), so that invocations with the same limits are
calculations under the same limits.

**Answers.** A calculation prints one line and nothing to the error stream, or the message of its
failure and nothing else (`Answer.ofLine`). Whether it failed before evaluation can be seen from the
message, which begins with the name of the stage (`failsBeforeEvaluation_run_iff`).

**The hand-over.** The program takes the blanks off its text and ends its line with a newline. The
encoded form has no blanks (`visible_of_parseSource`), so that the line without its newline is read
as it was printed, and it is evaluated as the expression is (`line_evaluateEncoded_of_parseSource`).
-/

set_option autoImplicit false

namespace Calculator

namespace CommandLine

/-! ## Invocations -/

/-- The argument that gives a flag by its name. -/
def Flag.argument (flag : Flag) : List Char :=
  '-' :: '-' :: flag.name

/-- The flags that ask for a mode. -/
def Mode.flags : Mode → List Flag
  | run => []
  | encode => [.encode]
  | evaluateEncoded => [.evaluateEncoded]

/-- A limit as it is given to the program: an option and its value, in one argument or in two. -/
structure LimitArgument where
  option : LimitOption
  value : List Char
  joined : Bool
deriving Repr, DecidableEq

/-- The arguments that give a limit. -/
def LimitArgument.arguments (limit : LimitArgument) : List (List Char) :=
  if limit.joined then ['-' :: '-' :: (limit.option.name ++ '=' :: limit.value)]
  else ['-' :: '-' :: limit.option.name, limit.value]

/-- Each option is given at most once, and its value is a limit. -/
structure WellFormed (limits : List LimitArgument) : Prop where
  once : (limits.map LimitArgument.option).Nodup
  valid : ∀ limit ∈ limits, (limit? limit.value).isSome = true

/-- The arguments of an invocation: the flags, the limits, and the text or the name of the file that
holds it. -/
def invocation (mode : Mode) (fromFile : Bool) (limits : List LimitArgument)
    (contents : List Char) : List (List Char) :=
  ((if fromFile then [Flag.file] else []) ++ mode.flags).map Flag.argument ++
    (limits.flatMap LimitArgument.arguments ++ [['-', '-'], contents])

/-- The limit that is given for an option, if there is one. -/
def limitFor? (option : LimitOption) (limits : List LimitArgument) : Option Nat :=
  limits.findSome? fun limit => if limit.option = option then limit? limit.value else none

/-- The limits of an invocation. An option that is not given has its default. -/
def limitsOf (limits : List LimitArgument) : Limits where
  maxNesting := (limitFor? .maxNesting limits).getD ({} : Limits).maxNesting
  maxDepth := (limitFor? .maxDepth limits).getD ({} : Limits).maxDepth

/-! ### Reading an invocation -/

theorem readArguments?_flag (given : Given) (flag : Flag) (rest : List (List Char)) :
    readArguments? given (flag.argument :: rest) =
      match given.withFlag? flag with
      | some (.more given) => readArguments? given rest
      | some (.done request) => some request
      | none => none := by
  cases flag <;> rw [Flag.argument, readArguments?] <;> first | rfl | exact List.cons_ne_nil _ _

theorem readArguments?_limit (given : Given) (limit : LimitArgument) (rest : List (List Char)) :
    readArguments? given (limit.arguments ++ rest) =
      match given.withLimit? limit.option limit.value with
      | some given => readArguments? given rest
      | none => none := by
  obtain ⟨option, value, joined⟩ := limit
  cases joined with
  | true =>
      rw [LimitArgument.arguments, if_pos rfl, List.singleton_append]
      cases option <;> rw [LimitOption.name, readArguments?] <;>
        first | rfl | exact List.cons_ne_nil _ _
  | false =>
      rw [LimitArgument.arguments, if_neg Bool.false_ne_true, List.cons_append,
        List.singleton_append]
      cases option <;> rw [LimitOption.name, readArguments?] <;>
        first | rfl | exact List.cons_ne_nil _ _

namespace Given

/-- What has been given for an option that sets a limit. -/
def limitFor? (given : Given) : LimitOption → Option Nat
  | .maxNesting => given.maxNesting
  | .maxDepth => given.maxDepth

/-- The options with more limits. What was given before stays. -/
def withLimits (given : Given) (limits : List LimitArgument) : Given :=
  { given with
    maxNesting := given.maxNesting.or (CommandLine.limitFor? .maxNesting limits)
    maxDepth := given.maxDepth.or (CommandLine.limitFor? .maxDepth limits) }

theorem withLimits_nil (given : Given) : given.withLimits [] = given := by
  simp [withLimits, CommandLine.limitFor?]

theorem withLimits_append (given : Given) (first second : List LimitArgument) :
    given.withLimits (first ++ second) = (given.withLimits first).withLimits second := by
  simp [withLimits, CommandLine.limitFor?, List.findSome?_append, Option.or_assoc]

/-- A limit for an option that has not been given yet is taken. -/
theorem withLimit?_of_fresh {given : Given} {limit : LimitArgument}
    (valid : (limit? limit.value).isSome = true) (fresh : given.limitFor? limit.option = none) :
    given.withLimit? limit.option limit.value = some (given.withLimits [limit]) := by
  obtain ⟨n, reads⟩ := Option.isSome_iff_exists.mp valid
  obtain ⟨option, value, joined⟩ := limit
  cases option <;> simp_all [withLimit?, withLimits, limitFor?, CommandLine.limitFor?]

/-- A limit leaves the other option as it was. -/
theorem limitFor?_withLimits_of_ne {given : Given} {limit : LimitArgument} {option : LimitOption}
    (other : limit.option ≠ option) :
    (given.withLimits [limit]).limitFor? option = given.limitFor? option := by
  cases option <;> simp [withLimits, limitFor?, CommandLine.limitFor?, other]

end Given

/-- Limits that have not been given yet are read one after another. -/
theorem readArguments?_limits {limits : List LimitArgument} (formed : WellFormed limits)
    {given : Given} (fresh : ∀ limit ∈ limits, given.limitFor? limit.option = none)
    (rest : List (List Char)) :
    readArguments? given (limits.flatMap LimitArgument.arguments ++ rest) =
      readArguments? (given.withLimits limits) rest := by
  induction limits generalizing given with
  | nil => rw [Given.withLimits_nil, List.flatMap_nil, List.nil_append]
  | cons limit later ih =>
      obtain ⟨once, valid⟩ := formed
      rw [List.map_cons, List.nodup_cons] at once
      obtain ⟨valid, validLater⟩ := List.forall_mem_cons.mp valid
      obtain ⟨fresh, freshLater⟩ := List.forall_mem_cons.mp fresh
      have still (further : LimitArgument) (member : further ∈ later) :
          (given.withLimits [limit]).limitFor? further.option = none := by
        rw [Given.limitFor?_withLimits_of_ne
          (ne_of_mem_of_not_mem (List.mem_map_of_mem member) once.1).symm]
        exact freshLater further member
      rw [List.flatMap_cons, List.append_assoc, readArguments?_limit,
        Given.withLimit?_of_fresh valid fresh]
      refine (ih ⟨once.2, validLater⟩ still).trans ?_
      rw [← Given.withLimits_append, List.singleton_append]

/-- The text after `--` is read as it is, whatever it begins with. -/
theorem readArguments?_contents (given : Given) (contents : List Char) :
    readArguments? given [['-', '-'], contents] =
      (given.withContents? contents).bind Given.request? := by
  rw [readArguments?, readOperands?]
  rfl

/-- **An invocation asks for what it says**, whatever its text looks like. -/
theorem request?_invocation {limits : List LimitArgument} (formed : WellFormed limits) (mode : Mode)
    (fromFile : Bool) (contents : List Char) :
    request? (invocation mode fromFile limits contents) =
      some (.calculate ⟨mode, fromFile, limitsOf limits, contents⟩) := by
  have fresh (given : Given) (unset : given.maxNesting = none ∧ given.maxDepth = none) :
      ∀ limit ∈ limits, given.limitFor? limit.option = none := by
    rintro ⟨option, value, joined⟩ _
    cases option
    · exact unset.1
    · exact unset.2
  rw [request?, invocation]
  cases mode <;> cases fromFile <;>
    simp only [Mode.flags, List.append_nil, List.nil_append, List.map_nil, List.map_cons,
      List.cons_append, if_true, if_false, Bool.false_eq_true, readArguments?_flag,
      Given.withFlag?] <;>
    rw [readArguments?_limits formed (fresh _ ⟨rfl, rfl⟩), readArguments?_contents] <;>
    rfl

/-! ## Answers -/

namespace Answer

/-- The answer to a calculation whose line has the outcome. -/
def ofLine : Except Failure (List Char) → Answer
  | .ok line => ⟨0, String.ofList line ++ "\n", ""⟩
  | .error failure => ⟨1, "", failure.message ++ "\n"⟩

/-- The answer reports that the source text could not be read as an expression. -/
def FailsBeforeEvaluation (answer : Answer) : Prop :=
  answer.exitCode = 1 ∧ ∃ message,
    answer.errors = "lex error: " ++ message ∨ answer.errors = "parse error: " ++ message

/-- The answer is a result without messages, or a failure without results. -/
def Settled (answer : Answer) : Prop :=
  answer.exitCode = 0 ∧ answer.errors = "" ∨ answer.exitCode = 1 ∧ answer.output = ""

theorem settled_ofLine (outcome : Except Failure (List Char)) : (ofLine outcome).Settled := by
  cases outcome with
  | ok line => exact .inl ⟨rfl, rfl⟩
  | error failure => exact .inr ⟨rfl, rfl⟩

/-- The message of a failure tells whether it came before evaluation. -/
theorem failsBeforeEvaluation_ofLine_iff {outcome : Except Failure (List Char)} :
    (ofLine outcome).FailsBeforeEvaluation ↔
      ∃ failure, outcome = .error failure ∧ ∀ error, failure ≠ .eval error := by
  cases outcome with
  | ok line => simp [ofLine, FailsBeforeEvaluation]
  | error failure =>
      cases failure with
      | scan error =>
          refine ⟨fun _ => ⟨_, rfl, nofun⟩, fun _ => ⟨rfl, error.message ++ "\n", .inl ?_⟩⟩
          exact String.append_assoc
      | parse error =>
          refine ⟨fun _ => ⟨_, rfl, nofun⟩, fun _ => ⟨rfl, error.message ++ "\n", .inr ?_⟩⟩
          exact String.append_assoc
      | eval error =>
          refine ⟨?_, fun ⟨_, same, other⟩ => ?_⟩
          · rintro ⟨-, message, same | same⟩
            all_goals
              have letters := congrArg String.toList same
              simp [ofLine, Failure.message] at letters
          · exact absurd (Except.error.inj same).symm (other error)

end Answer

/-- The text that a file holds is taken as it is. -/
theorem input?_of_file {calculation : Calculation} {file : String → Option ByteArray}
    {text : String} (fromFile : calculation.fromFile = true)
    (readable : file (String.ofList calculation.contents) = some text.toUTF8) :
    calculation.input? file = some text.toList := by
  have decodes : String.fromUTF8? text.toUTF8 = some text := by
    rw [String.fromUTF8?]
    exact dif_pos text.isValidUTF8
  rw [Calculation.input?, if_pos fromFile, readable]
  change (String.fromUTF8? text.toUTF8).bind (some ·.toList) = some text.toList
  rw [decodes, Option.bind_some]

theorem answer_of_input? {calculation : Calculation} {file : String → Option ByteArray}
    {input : List Char} (given : calculation.input? file = some input) :
    calculation.answer file = .ofLine (calculation.line (Text.trim input)) := by
  simp only [Calculation.answer, given]
  cases calculation.line (Text.trim input) <;> rfl

theorem settled_answer (calculation : Calculation) (file : String → Option ByteArray) :
    (calculation.answer file).Settled := by
  cases given : calculation.input? file with
  | none =>
      rw [Calculation.answer, given]
      exact .inr ⟨rfl, rfl⟩
  | some input =>
      rw [answer_of_input? given]
      exact Answer.settled_ofLine _

/-- An answer to arguments that are well formed is settled. -/
theorem settled_answer_of_request {arguments : List (List Char)}
    (accepted : request? arguments ≠ none) (file : String → Option ByteArray) :
    (answer arguments file).Settled := by
  rw [answer]
  cases asked : request? arguments with
  | none => exact absurd asked accepted
  | some request =>
      cases request with
      | help => exact .inl ⟨rfl, rfl⟩
      | version => exact .inl ⟨rfl, rfl⟩
      | calculate calculation => exact settled_answer calculation file

section Invocation

variable {limits : List LimitArgument} (formed : WellFormed limits)

include formed

theorem answer_invocation (mode : Mode) (source : List Char) (file : String → Option ByteArray) :
    answer (invocation mode false limits source) file =
      .ofLine (Calculation.line ⟨mode, false, limitsOf limits, source⟩ (Text.trim source)) := by
  rw [answer, request?_invocation formed]
  exact answer_of_input? rfl

/-- A file is answered as the text that it holds. -/
theorem answer_invocation_file (mode : Mode) {name : List Char} {text : String}
    {file : String → Option ByteArray}
    (readable : file (String.ofList name) = some text.toUTF8) :
    answer (invocation mode true limits name) file =
      answer (invocation mode false limits text.toList) file := by
  rw [answer_invocation formed, answer, request?_invocation formed]
  exact answer_of_input? (input?_of_file rfl readable)

end Invocation

/-! ## One mode by way of the other two -/

variable {limits : Limits} {source : List Char} {expr : Expr}

/-- Source text that is not an expression is answered by the failure, as a value and in encoded
form. -/
theorem line_of_parseSource_error {failure : Failure}
    (fails : parseSource limits source = .error failure) (contents : List Char) :
    Calculation.line ⟨.run, false, limits, contents⟩ source = .error failure ∧
      Calculation.line ⟨.encode, false, limits, contents⟩ source = .error failure := by
  constructor
  · simp only [Calculation.line, outcome_run, fails]
    rfl
  · simp only [Calculation.line, fails]
    rfl

theorem line_encode_of_parseSource (parsed : parseSource limits source = .ok expr)
    (contents : List Char) :
    Calculation.line ⟨.encode, false, limits, contents⟩ source = .ok expr.encode := by
  simp only [Calculation.line, parsed]
  rfl

/-- Evaluating the encoded form answers as evaluating the source text does. -/
theorem line_evaluateEncoded_of_parseSource (parsed : parseSource limits source = .ok expr)
    (contents contents' : List Char) :
    Calculation.line ⟨.evaluateEncoded, false, limits, contents⟩ (Text.trim expr.encode) =
      Calculation.line ⟨.run, false, limits, contents'⟩ source := by
  have legible (digits : List Char) (member : digits ∈ expr.literals) : Legible digits :=
    legible_of_literalForm (literalForm_of_parseSource parsed digits member)
  have same : evaluateEncoded limits expr.encode = evaluate limits expr :=
    evaluateAt_encoded_encode legible limits 1
  simp only [Calculation.line, Expr.trim_encode legible, same, outcome_run, parsed]
  rfl

/-- Evaluating source text fails before evaluation exactly when the text is not an expression. -/
theorem failsBeforeEvaluation_run_iff (contents : List Char) :
    (Answer.ofLine (Calculation.line ⟨.run, false, limits, contents⟩
      source)).FailsBeforeEvaluation ↔ ∃ failure, parseSource limits source = .error failure := by
  rw [Answer.failsBeforeEvaluation_ofLine_iff]
  constructor
  · rintro ⟨failure, fails, early⟩
    cases parsed : parseSource limits source with
    | error failure => exact ⟨failure, rfl⟩
    | ok expr =>
        simp only [Calculation.line, outcome_run, parsed] at fails
        rcases bind_eq_error_iff.mp fails with evaluation | ⟨_, _, impossible⟩
        · obtain ⟨error, _, same⟩ := mapError_eq_error_iff.mp evaluation
          exact absurd same.symm (early error)
        · cases impossible
  · rintro ⟨failure, fails⟩
    refine ⟨failure, (line_of_parseSource_error fails contents).1, ?_⟩
    rcases parseSource_eq_error_iff.mp fails with ⟨_, _, rfl⟩ | ⟨_, _, _, _, rfl⟩ <;> nofun

/-- **The modes compose.** Under the same limits, source text that is not an expression fails alike
whether its value or its encoded form is asked for. Other source text has an encoded form, which is
printed as one line, and evaluating that line answers as evaluating the source text does, also with
its failure. In every mode, a text that a file holds is answered as the same text given as it is.
Arguments that are well formed, such as all of these, have a result and no message, or a message and
no result. -/
theorem command_line_modes_compose (limits : List LimitArgument) (formed : WellFormed limits)
    (file : String → Option ByteArray) :
    (∀ source : List Char,
      let plain := answer (invocation .run false limits source) file
      let encoded := answer (invocation .encode false limits source) file
      (plain.FailsBeforeEvaluation →
        encoded.exitCode = 1 ∧ encoded.output = "" ∧ encoded.errors = plain.errors) ∧
      (¬plain.FailsBeforeEvaluation →
        ∃ line : List Char, '\n' ∉ line ∧ encoded = ⟨0, String.ofList line ++ "\n", ""⟩ ∧
          answer (invocation .evaluateEncoded false limits line) file = plain)) ∧
    (∀ (mode : Mode) (name : List Char) (text : String),
      file (String.ofList name) = some text.toUTF8 →
      answer (invocation mode true limits name) file =
        answer (invocation mode false limits text.toList) file) ∧
    (∀ (mode : Mode) (fromFile : Bool) (contents : List Char),
      request? (invocation mode fromFile limits contents) =
        some (.calculate ⟨mode, fromFile, limitsOf limits, contents⟩)) ∧
    ∀ arguments, request? arguments ≠ none → (answer arguments file).Settled := by
  refine ⟨?_, ?_, request?_invocation formed, ?_⟩
  · intro source
    simp only [answer_invocation formed, failsBeforeEvaluation_run_iff]
    constructor
    · rintro ⟨failure, fails⟩
      obtain ⟨plain, encoded⟩ := line_of_parseSource_error fails source
      rw [plain, encoded]
      exact ⟨rfl, rfl, rfl⟩
    · intro reaches
      cases parsed : parseSource (limitsOf limits) (Text.trim source) with
      | error failure => exact absurd ⟨failure, parsed⟩ reaches
      | ok expr =>
          refine ⟨expr.encode, ?_, ?_, ?_⟩
          · intro newline
            exact absurd (visible_of_parseSource parsed _ newline) (by decide)
          · rw [line_encode_of_parseSource parsed]
            rfl
          · rw [line_evaluateEncoded_of_parseSource parsed]
  · intro mode name text readable
    exact answer_invocation_file formed mode readable
  · intro arguments accepted
    exact settled_answer_of_request accepted file

/-- A division by zero under limits that it just meets, given as text and in a file, and a character
that starts no token. -/
theorem command_line_modes_compose_of_division :
    let limits : List LimitArgument :=
      [⟨.maxNesting, ['1'], true⟩, ⟨.maxDepth, ['+', '3'], false⟩]
    let source := " -1 / (3-3)\n"
    let file := fun name : String => if name = "input.txt" then some source.toUTF8 else none
    let plain := answer (invocation .run false limits source.toList) file
    let early := answer (invocation .run false limits ['$']) file
    invocation .run false limits source.toList =
        ["--max-nesting=1", "--max-depth", "+3", "--", source].map String.toList ∧
      WellFormed limits ∧ plain = ⟨1, "", "eval error: division by zero in '/'\n"⟩ ∧
      ¬plain.FailsBeforeEvaluation ∧
      (∃ line : List Char, '\n' ∉ line ∧
        answer (invocation .encode false limits source.toList) file =
          ⟨0, String.ofList line ++ "\n", ""⟩ ∧
        answer (invocation .evaluateEncoded false limits line) file = plain) ∧
      answer (invocation .run true limits "input.txt".toList) file = plain ∧
      request? (invocation .run true limits "input.txt".toList) ≠ none ∧ plain.Settled ∧
      early.FailsBeforeEvaluation ∧
      (answer (invocation .encode false limits ['$']) file).errors = early.errors := by
  intro limits source file plain early
  have formed : WellFormed limits := ⟨by decide, by decide⟩
  obtain ⟨compose, sameFromFile, _, settled⟩ := command_line_modes_compose limits formed file
  let tokens : List Located := [⟨.operator .subtract, 0⟩, ⟨.number ['1'], 1⟩,
    ⟨.operator .divide, 3⟩, ⟨.openParen, 5⟩, ⟨.number ['3'], 6⟩, ⟨.operator .subtract, 7⟩,
    ⟨.number ['3'], 8⟩, ⟨.closeParen, 9⟩]
  let quotient := Expr.binary .divide (.unary .minus (.literal ['1']))
    (.binary .subtract (.literal ['3']) (.literal ['3']))
  have scanned : (tokenize (Text.trim source.toList)).outcome = .ok tokens := by decide +kernel
  have parsed : (parse ⟨1, 3⟩ tokens).outcome = .ok quotient := by cbv
  have fails : (evaluate ⟨1, 3⟩ quotient).outcome = .error (.divisionByZero .divide) := by
    decide +kernel
  have given : limitsOf limits = ⟨1, 3⟩ := by decide
  have answered : plain = ⟨1, "", "eval error: division by zero in '/'\n"⟩ := by
    simp only [plain, answer_invocation formed, Calculation.line, given,
      outcome_run_of_parse scanned parsed, fails]
    decide +kernel
  have late : ¬plain.FailsBeforeEvaluation := by
    simp only [plain, answer_invocation formed, failsBeforeEvaluation_run_iff, given]
    rintro ⟨failure, rejected⟩
    rw [parseSource_eq_ok_iff.mpr ⟨tokens, scanned, parsed⟩] at rejected
    cases rejected
  have accepted (fromFile : Bool) (contents : List Char) :
      request? (invocation .run fromFile limits contents) ≠ none := by
    rw [request?_invocation formed]
    exact Option.some_ne_none _
  have unrecognized : parseSource (limitsOf limits) (Text.trim ['$']) =
      .error (.scan (.unrecognized '$' 0)) :=
    parseSource_eq_error_iff.mpr (.inl ⟨_, by decide +kernel, rfl⟩)
  have unread : early.FailsBeforeEvaluation := by
    simp only [early, answer_invocation formed, failsBeforeEvaluation_run_iff]
    exact ⟨_, unrecognized⟩
  exact ⟨by decide, formed, answered, late, (compose source.toList).2 late,
    sameFromFile .run "input.txt".toList source rfl, accepted true _,
    settled _ (accepted false _), unread, ((compose ['$']).1 unread).2.2⟩

end CommandLine

end Calculator
