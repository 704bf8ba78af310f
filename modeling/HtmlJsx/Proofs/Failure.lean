import HtmlJsx.Proofs.Rendering
import HtmlJsx.Proofs.Spelling

/-!
# How conversions fail

Markup that the backend refuses is reported as a parsing problem.  The only
other failures come from numbers.  Every attribute value and every value of a
style declaration is judged on whether it spells an integer, and a few values
cannot be judged.  A decimal character reference may have too many digits as
well.

Rendering stops at the first value in document order that cannot be judged,
and it does not fail for any other reason: indentation is never copied a
negative number of times, because levels do not fall below the first.

The limits of the machine are left out: drawing recurs into the tree, and where
the depth of recursion is bounded, a tree that is nested deeper fails as well.
-/

namespace HtmlJsx.Failure

open Outcome

/-! ## The values that are judged -/

/-- The judged values of an attribute: its own, or those of the declarations of a style. -/
def judgedValues (entry : Text × Text) : List Text :=
  if Text.lower entry.1 = Property.styleAttribute then (Style.parse entry.2).map Prod.snd
  else [entry.2]

mutual

/-- The values that are judged in rendering a node, in document order. -/
def judged : Node → List Text
  | .element _ attributes children => attributes.flatMap judgedValues ++ judgedBelow children
  | .text _ => []
  | .comment _ => []
  | .special _ _ => []

/-- The values that are judged in rendering sibling nodes. -/
def judgedBelow : List Node → List Text
  | [] => []
  | node :: rest => judged node ++ judgedBelow rest

end

/-- The fault of the first value that cannot be judged. -/
def fault? (values : List Text) : Option NumberFault :=
  values.findSome? fun value => error? (Spelling.isInteger value)

theorem fault?_append (left right : List Text) :
    fault? (left ++ right) = (fault? left).or (fault? right) :=
  List.findSome?_append

theorem fault?_singleton (value : Text) : fault? [value] = error? (Spelling.isInteger value) := by
  simp [fault?]

theorem fault?_eq_none_iff {values : List Text} :
    fault? values = none ↔
      ∀ value ∈ values, ¬ Spelling.HasTooManyDigits value ∧ ¬ Spelling.IsTooLarge value := by
  rw [fault?, List.findSome?_eq_none_iff]
  constructor
  · intro judgeable value member
    have judged := judgeable value member
    constructor
    · intro many
      have failed : Spelling.isInteger value = .error .tooManyDigits :=
        Spelling.isInteger_eq_error_iff.mpr (.inl ⟨rfl, many⟩)
      rw [failed] at judged
      cases judged
    · intro large
      have failed : Spelling.isInteger value = .error .tooLarge :=
        Spelling.isInteger_eq_error_iff.mpr (.inr ⟨rfl, large⟩)
      rw [failed] at judged
      cases judged
  · intro judgeable value member
    obtain ⟨few, small⟩ := judgeable value member
    cases judged : Spelling.isInteger value with
    | ok answer => rfl
    | error fault =>
      rcases Spelling.isInteger_eq_error_iff.mp judged with ⟨-, many⟩ | ⟨-, large⟩
      · exact absurd many few
      · exact absurd large small

/-! ## Properties fail where a value cannot be judged -/

theorem error?_valuePart (name value : Text) :
    error? (Property.valuePart name value) = error? (Spelling.isInteger value) := by
  rw [Property.valuePart, error?_bind, Option.or_none]
  intro integer _
  split
  · rfl
  · split
    · rfl
    · split
      · rfl
      · rfl

theorem error?_fieldValue (value : Text) :
    error? (Style.fieldValue value) = error? (Spelling.isInteger value) := by
  rw [Style.fieldValue, error?_bind, Option.or_none]
  intro integer _
  split
  · rfl
  · rfl

theorem error?_fields (style : Style) :
    error? (Style.fields style) = fault? (style.map Prod.snd) := by
  induction style with
  | nil => rfl
  | cons entry rest induction =>
    obtain ⟨property, value⟩ := entry
    rw [Style.fields, error?_bind, error?_fieldValue, List.map_cons, ← List.singleton_append,
      fault?_append, fault?_singleton]
    intro written _
    rw [error?_bind, induction, Option.or_none]
    intro others _
    rfl

theorem error?_ofAttribute (element name value : Text) :
    error? (Property.ofAttribute element name value) = fault? (judgedValues (name, value)) := by
  rw [Property.ofAttribute, judgedValues]
  split
  · rw [Property.style, error?_bind, Option.or_none, Style.toObject, error?_map, error?_fields]
    intro object _
    rfl
  · rw [error?_bind, Option.or_none, error?_valuePart, fault?_singleton]
    intro part _
    rfl

theorem error?_ofAttributes (element : Text) (attributes : Attributes) :
    error? (Property.ofAttributes element attributes) =
      fault? (attributes.flatMap judgedValues) := by
  induction attributes with
  | nil => rfl
  | cons entry rest induction =>
    obtain ⟨name, value⟩ := entry
    rw [Property.ofAttributes, error?_bind, error?_ofAttribute, List.flatMap_cons, fault?_append]
    intro first _
    rw [error?_bind, induction, Option.or_none]
    intro others _
    rfl

theorem error?_startTag (tag : Text) (attributes : Attributes) (children : List Node) :
    error? (Rendering.startTag tag attributes children) =
      (fault? (attributes.flatMap judgedValues)).map Problem.ofNumber := by
  rw [Rendering.startTag, error?_map, error?_mapError, Canvas.properties, error?_bind,
    error?_ofAttributes, Option.or_none]
  intro given _
  rfl

/-! ## Rendering stops at the first such value -/

/-- Text cannot fail on a level that is not negative. -/
theorem error?_text {unit : Text} {level : Int} (nonnegative : 0 ≤ level) (parent : Option Text)
    (inPre : Bool) (content : Text) :
    error? (Rendering.text unit level parent inPre content) = none := by
  rw [Rendering.text]
  split
  · rfl
  · split
    · rfl
    · split
      · rw [error?_map, Canvas.copiesOf, if_neg (by omega)]
        rfl
      · rfl

mutual

/-- A node fails to render with the fault of its first value that cannot be judged. -/
theorem error?_node (unit : Text) (parent : Option Text) :
    (node : Node) → {level : Int} → 0 ≤ level → (inPre : Bool) →
      error? (Rendering.node unit level parent inPre node) =
        (fault? (judged node)).map Problem.ofNumber
  | .element tag attributes children, level, nonnegative, inPre => by
    rw [Rendering.node, error?_bind, error?_startTag, judged, fault?_append, Option.map_or]
    intro start _
    -- The children are one level deeper, so their level is not negative either.
    rw [error?_bind, error?_nodes unit (some tag) children (by omega), Option.or_none]
    intro inside _
    rfl
  | .text content, level, nonnegative, inPre => by
    rw [Rendering.node, error?_text nonnegative]
    rfl
  | .comment _, _, _, _ => rfl
  | .special _ _, _, _, _ => rfl

theorem error?_nodes (unit : Text) (parent : Option Text) :
    (nodes : List Node) → {level : Int} → 0 ≤ level → (inPre : Bool) →
      error? (Rendering.nodes unit level parent inPre nodes) =
        (fault? (judgedBelow nodes)).map Problem.ofNumber
  | [], _, _, _ => rfl
  | first :: rest, level, nonnegative, inPre => by
    rw [Rendering.nodes, error?_bind, error?_node unit parent first nonnegative, judgedBelow,
      fault?_append, Option.map_or]
    intro before _
    rw [error?_bind, error?_nodes unit parent rest nonnegative, Option.or_none]
    intro after _
    rfl

end

/-- A container without attributes fails to render like its children, whether it is drawn or not. -/
theorem error?_render {unit : Text} (blank : unit.isBlank = true) (tag : Text)
    (children : List Node) :
    (error? (Conversion.render unit (.element tag [] children))).map Interruption.problem =
      (fault? (judgedBelow children)).map Problem.ofNumber := by
  have agrees := congrArg error? (Rendering.output_render_eq blank (.element tag [] children))
  rw [error?_map, error?_mapError, error?_map] at agrees
  rw [agrees, Rendering.whole]
  split
  · exact error?_nodes unit _ children (by decide) false
  · rw [error?_map, error?_node unit none _ (by decide) false, judged]
    rfl

/-! ## Conversions -/

/-- Whether a problem is reported, and as one of parsing. -/
def IsParsingProblem (problem : Problem) : Prop :=
  ∃ report stage, problem.report = .ok report ∧ report.concern = .parsing stage

theorem isParsingProblem_refusal_iff (backend : Backend) (fault : MarkupFault) :
    IsParsingProblem (Fragment.refusal backend fault) ↔ fault ≠ .tooManyDigits := by
  cases fault with
  | unnamedSection excerpt => exact iff_of_true ⟨_, _, rfl, rfl⟩ (by simp)
  | unknownSection keyword => exact iff_of_true ⟨_, _, rfl, rfl⟩ (by simp)
  | tooManyDigits =>
    refine iff_of_false ?_ (by simp)
    rintro ⟨report, stage, reported, -⟩
    cases reported

theorem not_isParsingProblem_ofNumber (fault : NumberFault) :
    ¬ IsParsingProblem (Problem.ofNumber fault) := by
  rintro ⟨report, stage, reported, -⟩
  cases fault with
  | tooManyDigits => cases reported
  | tooLarge => cases reported

/-- The problem that a conversion ends with. -/
theorem error?_convert (options : Options) (html : Text) :
    (error? (Conversion.convert options html)).map Interruption.problem =
      match Fragment.read options.backend (Conversion.markup html) with
      | .error problem => some problem
      | .ok container => (fault? (judged container)).map Problem.ofNumber := by
  cases parsed : Fragment.read options.backend (Conversion.markup html) with
  | error problem =>
    rw [Conversion.convert, Conversion.convertWith, parsed]
    rfl
  | ok container =>
    rw [Rendering.convert_eq_render parsed]
    obtain ⟨children, rfl⟩ := Rendering.container_of_read parsed
    exact error?_render options.indent_blank Fragment.containerTag children

/-- A value that cannot be judged ends the conversion with its fault. -/
theorem convert_of_fault {options : Options} {html : Text} {container : Node}
    {fault : NumberFault}
    (parsed : Fragment.read options.backend (Conversion.markup html) = .ok container)
    (faulty : fault? (judged container) = some fault) :
    ∃ interruption, Conversion.convert options html = .error interruption ∧
      interruption.problem = Problem.ofNumber fault := by
  have ended := error?_convert options html
  rw [parsed] at ended
  dsimp only at ended
  rw [faulty, Option.map_some, Option.map_eq_some_iff] at ended
  obtain ⟨interruption, failed, problem⟩ := ended
  exact ⟨interruption, error?_eq_some_iff.mp failed, problem⟩

/-- What it means for a conversion to give a result or to report a parsing problem. -/
theorem returns_or_reports_iff (outcome : Except Interruption Canvas) :
    ((∃ canvas, outcome = .ok canvas) ∨
      ∃ interruption, outcome = .error interruption ∧ IsParsingProblem interruption.problem) ↔
    ∀ problem, (error? outcome).map Interruption.problem = some problem →
      IsParsingProblem problem := by
  cases outcome with
  | ok canvas => simp [error?]
  | error interruption => simp [error?]

/-- Reading fails where splitting the markup into tokens does. -/
theorem read_of_tokens_error {backend : Backend} {markup : Text} {fault : MarkupFault}
    (refused : Lexer.tokens markup = .error fault) :
    Fragment.read backend markup = .error (Fragment.refusal backend fault) := by
  rw [Fragment.read, refused]

theorem read_of_tokens_ok {backend : Backend} {markup : Text} {tokens : List Token}
    (lexed : Lexer.tokens markup = .ok tokens) :
    ∃ container, Fragment.read backend markup = .ok container := by
  rw [Fragment.read, lexed]
  exact ⟨_, rfl⟩

/-- A conversion that fails reports a parsing problem or ends with the fault of a number. -/
theorem problem_of_convert {options : Options} {html : Text} {interruption : Interruption}
    (failed : Conversion.convert options html = .error interruption) :
    IsParsingProblem interruption.problem ∨
      ∃ fault, interruption.problem = Problem.ofNumber fault := by
  have ended := error?_convert options html
  rw [failed] at ended
  cases lexed : Lexer.tokens (Conversion.markup html) with
  | error fault =>
    rw [read_of_tokens_error lexed] at ended
    have same : interruption.problem = Fragment.refusal options.backend fault :=
      Option.some.inj ended
    rw [same]
    cases fault with
    | tooManyDigits => exact .inr ⟨.tooManyDigits, rfl⟩
    | _ =>
      apply Or.inl
      rw [isParsingProblem_refusal_iff]
      simp
  | ok tokens =>
    obtain ⟨container, parsed⟩ := @read_of_tokens_ok options.backend _ _ lexed
    rw [parsed] at ended
    obtain ⟨fault, -, same⟩ := Option.map_eq_some_iff.mp ended.symm
    exact .inr ⟨fault, same.symm⟩

/--
A conversion gives a result or reports a parsing problem exactly if the markup
has no decimal character reference with too many digits and every value that
is judged can be judged.  Otherwise it ends with the fault of a number.
-/
theorem convert_returns_or_reports_iff (options : Options) (html : Text) :
    (((∃ canvas, Conversion.convert options html = .ok canvas) ∨
        ∃ interruption, Conversion.convert options html = .error interruption ∧
          IsParsingProblem interruption.problem) ↔
      Lexer.tokens (Conversion.markup html) ≠ .error .tooManyDigits ∧
        ∀ container, Fragment.read options.backend (Conversion.markup html) = .ok container →
          ∀ value ∈ judged container,
            ¬ Spelling.HasTooManyDigits value ∧ ¬ Spelling.IsTooLarge value) ∧
      ∀ interruption, Conversion.convert options html = .error interruption →
        IsParsingProblem interruption.problem ∨
          ∃ fault, interruption.problem = Problem.ofNumber fault := by
  refine ⟨?_, fun interruption failed => problem_of_convert failed⟩
  rw [returns_or_reports_iff, error?_convert]
  cases lexed : Lexer.tokens (Conversion.markup html) with
  | error fault =>
    rw [read_of_tokens_error lexed]
    simpa using isParsingProblem_refusal_iff options.backend fault
  | ok tokens =>
    obtain ⟨container, parsed⟩ := @read_of_tokens_ok options.backend _ _ lexed
    rw [parsed]
    cases faulty : fault? (judged container) with
    | none =>
      constructor
      · intro _
        refine ⟨by simp, ?_⟩
        intro other same
        cases same
        exact fault?_eq_none_iff.mp faulty
      · intro _ problem ended
        dsimp only at ended
        rw [faulty] at ended
        cases ended
    | some fault =>
      constructor
      · intro reported
        have wrong := reported (Problem.ofNumber fault) (by simp [faulty])
        exact absurd wrong (not_isParsingProblem_ofNumber fault)
      · rintro ⟨-, judgeable⟩
        have none := fault?_eq_none_iff.mpr (judgeable container rfl)
        rw [faulty] at none
        cases none

/-- An attribute whose value is a hexadecimal literal of `2 ^ 1024 - 1`. -/
def largeLiteral : Text :=
  "<p id=\"0x".toList ++ List.replicate 256 'f' ++ "\">".toList

/-- A literal beyond all finite numbers ends a conversion with an unreported fault. -/
theorem largeLiteral_ends_conversion :
    ∃ interruption, Conversion.convert {} largeLiteral = .error interruption ∧
      interruption.problem = .fault .range ∧ ¬ IsParsingProblem interruption.problem := by
  have faulty : ((Fragment.read .builtIn (Conversion.markup largeLiteral)).toOption.bind
      fun container => fault? (judged container)) = some .tooLarge := by
    decide +kernel
  cases parsed : Fragment.read .builtIn (Conversion.markup largeLiteral) with
  | error problem =>
    rw [parsed] at faulty
    cases faulty
  | ok container =>
    rw [parsed] at faulty
    obtain ⟨interruption, failed, problem⟩ := @convert_of_fault {} _ _ _ parsed faulty
    refine ⟨interruption, failed, problem, ?_⟩
    rw [problem]
    exact not_isParsingProblem_ofNumber .tooLarge

end HtmlJsx.Failure
