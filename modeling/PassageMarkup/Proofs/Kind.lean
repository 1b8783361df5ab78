import Mathlib.Data.List.Nodup
import PassageMarkup.Kind
import PassageMarkup.Mode

/-!
# Groups of kinds

Which kinds are pairs, with the mode of the text inside them, which are delimiters alone, which
belong to expressions alone, and which have inner texts.
-/

namespace PassageMarkup

namespace Kind

/-- The mode of the text inside a pair of a kind, for the kinds of pairs. -/
def pairMode : Kind → Option Mode
  | verbatim => some .verbatim
  | hook | collapsed | emphasis _ => some .prose
  | macroCall | grouping => some .expression
  | string => some .string
  | _ => none

def isPair (kind : Kind) : Bool :=
  kind.pairMode.isSome

def isDelimiter : Kind → Bool
  | verbatimOpener | hookFront | hookPrependedFront | hookBack | hookAppendedBack
  | collapsedFront | collapsedBack | macroFront | groupingFront | groupingBack
  | stringOpener _ | stringCloser _ => true
  | _ => false

/-- Tells whether a kind belongs to expressions alone: blanks, values, operators, and groups and
strings with their delimiters. -/
def isExpression : Kind → Bool
  | whitespace | comma | spread | typeSignature | property | possessiveOperator | tempVariable
  | hookName | itsProperty | itsOperator | belongingItProperty | belongingProperty
  | belongingOperator | cssTime | number | colour | boolean | datatype | identifier | keyword _
  | inequality | arithmetic _ | groupingFront | groupingBack | grouping | stringOpener _
  | string => true
  | _ => false

/-- Tells whether tokens of a kind have an inner text that is read by a scan of its own. -/
def hasInnerText : Kind → Bool
  | block .heading | block .bulleted | block .numbered | link => true
  | _ => false

/-- Tells whether a kind is one of headings and list items, which have a level. -/
def isLevelled : Kind → Bool
  | block .heading | block .bulleted | block .numbered => true
  | _ => false

theorem of_isLevelled {kind : Kind} (levelled : kind.isLevelled = true) :
    kind.isBlock = true ∧ kind.hasInnerText = true := by
  cases kind with
  | block block => cases block <;> first | contradiction | exact ⟨rfl, rfl⟩
  | _ => contradiction

theorem not_hasInnerText_of_isPair {kind : Kind} (pair : kind.isPair = true) :
    kind.hasInnerText = false := by
  cases kind
  case block => contradiction
  case link => contradiction
  all_goals rfl

theorem mem_all (kind : Kind) : kind ∈ all := by
  cases kind with
  | block block => cases block <;> decide
  | emphasis emphasis => cases emphasis <;> decide
  | keyword keyword => cases keyword <;> decide
  | arithmetic operator => cases operator <;> decide
  | stringOpener quote => cases quote <;> decide
  | stringCloser quote => cases quote <;> decide
  | _ => decide

theorem nodup_name : (all.map name).Nodup := by
  decide +kernel

theorem name_injective {left right : Kind} (same : left.name = right.name) : left = right :=
  List.inj_on_of_nodup_map nodup_name (mem_all left) (mem_all right) same

end Kind

end PassageMarkup
