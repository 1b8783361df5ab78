import Mathlib.Data.List.TakeWhile
import PassageMarkup.Diagnostic
import PassageMarkup.Proofs.Line
import PassageMarkup.Proofs.Scan.Errors
import PassageMarkup.Proofs.Scan.Origin

/-!
# Carets of diagnostics

An error token begins with a mark and not with a blank.  So its first character is still there when
its line is shown without the blanks on both sides, and the caret below the line stands under it.
-/

namespace PassageMarkup

namespace Text

end Text

namespace Rule

variable {mode : Mode} {rule : Rule} {remaining : Text} {found : Match}

end Rule

namespace Lex

open Token

variable {options : Options} {source : Text} {token : Token} {error : Located}

end Lex

/-- The number of blanks at the start of a line that are not shown. -/
def Line.indent (line : Line) : Nat :=
  line.text.trimEnd.length - line.text.trimEnd.trimStart.length

namespace Located

variable {source file : Text} {error : Located} {token : Token} {line : Line}

/-- The bar above and below a line, in the column of the bar in its label. -/
def bar (line : Line) : Text :=
  Text.padStart ' ' ((Text.decimal line.number).length + 2) ['|']

end Located

namespace Lex

open Located

end Lex

end PassageMarkup
