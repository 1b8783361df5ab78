import PassageMarkup.Token.Basic

/-!
# Outlines

An outline shows a tree with one line for each token, each token before its children and two
spaces further out.  The line gives the kind and the range, the quoted text of a token without
children, the name, and the quoted message.
-/

namespace PassageMarkup

namespace Token

/-- The line of a token without its indentation and line break. -/
def outlineLine (token : Token) : Text :=
  token.kind.name.toList ++ [' '] ++ Text.decimal token.start ++ ['.', '.'] ++
    Text.decimal token.stop ++
    (if token.children.isEmpty then ' ' :: Text.quoted token.text else []) ++
    (token.fields.name.elim [] fun name => " name=".toList ++ name) ++
    (token.fields.message.elim [] fun message => " message=".toList ++ Text.quoted message)

mutual

/-- The lines of a tree at a level of indentation. -/
def outlineAt (level : Nat) : Token → Text
  | ⟨kind, start, stop, text, inner, children, place, fields, fault⟩ =>
    List.replicate (2 * level) ' ' ++
      outlineLine ⟨kind, start, stop, text, inner, children, place, fields, fault⟩ ++ ['\n'] ++
      outlineAtList (level + 1) children

/-- The lines of a list of trees at a level of indentation. -/
def outlineAtList (level : Nat) : List Token → Text
  | [] => []
  | token :: rest => outlineAt level token ++ outlineAtList level rest

end

/-- The outline of a tree. -/
def outline (token : Token) : Text :=
  outlineAt 0 token

end Token

end PassageMarkup
