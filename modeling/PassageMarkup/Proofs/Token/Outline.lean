import PassageMarkup.Proofs.Kind
import PassageMarkup.Proofs.Text.Forms
import PassageMarkup.Proofs.Token.Paths
import PassageMarkup.Token.Outline

/-!
# Outlines of trees

A line of an outline shows where it ends as long as there are no blanks in names, and its
indentation shows how deep its token is.  So an outline shows the shape of its tree, and of every
token what a line tells.
-/

namespace PassageMarkup

namespace Text

/-- Tells whether a character neither parts the words of a line nor ends it. -/
def isSolid (c : Char) : Bool :=
  c != ' ' && c != '\n'

theorem isSolid_iff {c : Char} : isSolid c = true ↔ c ≠ ' ' ∧ c ≠ '\n' := by
  simp [isSolid]

/-- A part that may be missing is known when no text with it could be the rest alone. -/
theorem optional_unique {α : Type} {form : α → Text} {left right : Option α}
    {leftRest rightRest : Text} (leftMissing : ∀ value after, form value ++ after ≠ leftRest)
    (rightMissing : ∀ value after, form value ++ after ≠ rightRest)
    (unique : ∀ value ∈ left, ∀ other ∈ right,
      form value ++ leftRest = form other ++ rightRest → value = other ∧ leftRest = rightRest)
    (same : left.elim [] form ++ leftRest = right.elim [] form ++ rightRest) :
    left = right ∧ leftRest = rightRest := by
  cases left with
  | none =>
      cases right with
      | none => exact ⟨rfl, same⟩
      | some other => exact absurd same.symm (leftMissing other _)
  | some value =>
      cases right with
      | none => exact absurd same (rightMissing value _)
      | some other =>
          obtain ⟨values, rests⟩ := unique value rfl other rfl same
          exact ⟨congrArg some values, rests⟩

end Text

namespace Kind

theorem name_solid (kind : Kind) :
    kind.name.toList ≠ [] ∧ ∀ c ∈ kind.name.toList, Text.isSolid c = true := by
  have table : (all.all fun kind =>
      !kind.name.toList.isEmpty && kind.name.toList.all Text.isSolid) = true := by decide +kernel
  have entry := List.all_eq_true.mp table kind (mem_all kind)
  simpa using entry

end Kind

namespace Token

open Text

/-- The text that an outline shows of a token: a token with children shows none. -/
def leafText (token : Token) : Option Text :=
  if token.children.isEmpty then some token.text else none

/-- The name of a token has no blanks and line feeds in it. -/
def HasSolidName (token : Token) : Prop :=
  ∀ name ∈ token.fields.name, ∀ c ∈ name, isSolid c = true

/-- Two tokens are the same in all that a line of an outline tells. -/
structure ShowsAs (left right : Token) : Prop where
  kind_eq : left.kind = right.kind
  start_eq : left.start = right.start
  stop_eq : left.stop = right.stop
  leafText_eq : left.leafText = right.leafText
  name_eq : left.fields.name = right.fields.name
  message_eq : left.fields.message = right.fields.message

def textForm (text : Text) : Text :=
  ' ' :: quoted text

def nameForm (name : Text) : Text :=
  [' ', 'n', 'a', 'm', 'e', '='] ++ name

def messageForm (message : Text) : Text :=
  [' ', 'm', 'e', 's', 's', 'a', 'g', 'e', '='] ++ quoted message

variable {left right token : Token} {leftRest rightRest rest : Text} {level : Nat}

/-- What stands in a line after the text of a leaf, and after the line. -/
def afterText (token : Token) (rest : Text) : Text :=
  token.fields.name.elim [] nameForm ++ (token.fields.message.elim [] messageForm ++ '\n' :: rest)

theorem outlineLine_eq (token : Token) (rest : Text) :
    token.outlineLine ++ '\n' :: rest =
      token.kind.name.toList ++ ' ' :: (decimal token.start ++ '.' :: '.' ::
        (decimal token.stop ++ (token.leafText.elim [] textForm ++ token.afterText rest))) := by
  have leaf : (if token.children.isEmpty then ' ' :: quoted token.text else []) =
      token.leafText.elim [] textForm := by
    rw [leafText]
    split <;> rfl
  have name : (token.fields.name.elim [] fun name => " name=".toList ++ name) =
      token.fields.name.elim [] nameForm :=
    rfl
  have message :
      (token.fields.message.elim [] fun message => " message=".toList ++ quoted message) =
        token.fields.message.elim [] messageForm :=
    rfl
  rw [outlineLine, leaf, name, message, afterText]
  simp only [List.append_assoc, List.cons_append, List.nil_append]

theorem message_unique
    (same : left.fields.message.elim [] messageForm ++ '\n' :: leftRest =
      right.fields.message.elim [] messageForm ++ '\n' :: rightRest) :
    left.fields.message = right.fields.message ∧ leftRest = rightRest := by
  have missing (rest message after : Text) : messageForm message ++ after ≠ '\n' :: rest := by
    intro same
    exact absurd (List.cons.inj same).1 (by decide)
  obtain ⟨messages, rests⟩ := optional_unique (missing leftRest) (missing rightRest)
    (by
      intro message _ other _ same
      rw [messageForm, messageForm, List.append_assoc, List.append_assoc] at same
      exact quoted_unique (List.append_cancel_left same)) same
  exact ⟨messages, (List.cons.inj rests).2⟩

theorem afterName_ne {c : Char} (other : c ≠ 'm') (after : Text) :
    ' ' :: c :: after ≠ token.fields.message.elim [] messageForm ++ '\n' :: rest := by
  cases token.fields.message with
  | none =>
      intro same
      exact absurd (List.cons.inj same).1 (by decide)
  | some message =>
      intro same
      exact other (List.cons.inj (List.cons.inj same).2).1

theorem afterText_ne {c : Char} (notName : c ≠ 'n') (notMessage : c ≠ 'm') (after : Text) :
    ' ' :: c :: after ≠ token.afterText rest := by
  rw [afterText]
  cases token.fields.name with
  | none => exact afterName_ne notMessage after
  | some name =>
      intro same
      exact notName (List.cons.inj (List.cons.inj same).2).1

theorem afterText_unique (leftName : left.HasSolidName) (rightName : right.HasSolidName)
    (same : left.afterText leftRest = right.afterText rightRest) :
    left.fields.name = right.fields.name ∧ left.fields.message = right.fields.message ∧
      leftRest = rightRest := by
  have ends (token : Token) (rest : Text) :
      Ends isSolid (token.fields.message.elim [] messageForm ++ '\n' :: rest) := by
    cases token.fields.message <;> simp [Ends, messageForm, isSolid]
  obtain ⟨names, rests⟩ := optional_unique
    (fun name after => afterName_ne (by decide) _) (fun name after => afterName_ne (by decide) _)
    (by
      intro name leftNamed other rightNamed same
      rw [nameForm, nameForm, List.append_assoc, List.append_assoc] at same
      exact part_unique (leftName name leftNamed) (rightName other rightNamed)
        (ends left leftRest) (ends right rightRest) (List.append_cancel_left same)) same
  exact ⟨names, message_unique rests⟩

theorem afterStop_unique (leftName : left.HasSolidName) (rightName : right.HasSolidName)
    (same : left.leafText.elim [] textForm ++ left.afterText leftRest =
      right.leafText.elim [] textForm ++ right.afterText rightRest) :
    left.leafText = right.leafText ∧ left.fields.name = right.fields.name ∧
      left.fields.message = right.fields.message ∧ leftRest = rightRest := by
  obtain ⟨texts, rests⟩ := optional_unique
    (fun text after => afterText_ne (by decide) (by decide) _)
    (fun text after => afterText_ne (by decide) (by decide) _)
    (by
      intro text _ other _ same
      exact quoted_unique (List.cons.inj same).2) same
  exact ⟨texts, afterText_unique leftName rightName rests⟩

theorem ends_afterStop (token : Token) (rest : Text) :
    Ends Char.isDigit (token.leafText.elim [] textForm ++ token.afterText rest) := by
  rw [afterText]
  cases token.leafText <;> cases token.fields.name <;> cases token.fields.message <;>
    simp [Ends, textForm, nameForm, messageForm]

/-- A line shows all that it tells, and where it ends. -/
theorem line_unique (leftName : left.HasSolidName) (rightName : right.HasSolidName)
    (same : left.outlineLine ++ '\n' :: leftRest = right.outlineLine ++ '\n' :: rightRest) :
    left.ShowsAs right ∧ leftRest = rightRest := by
  have blank (rest : Text) : Ends isSolid (' ' :: rest) := by simp [Ends, isSolid]
  have point (rest : Text) : Ends Char.isDigit ('.' :: rest) := by simp [Ends]
  have digits (number : Nat) : ∀ c ∈ decimal number, c.isDigit = true :=
    fun _ => isDigit_of_mem_decimal
  rw [outlineLine_eq, outlineLine_eq] at same
  obtain ⟨kinds, ranges⟩ :=
    part_unique left.kind.name_solid.2 right.kind.name_solid.2 (blank _) (blank _) same
  obtain ⟨starts, stops⟩ :=
    part_unique (digits _) (digits _) (point _) (point _) (List.cons.inj ranges).2
  obtain ⟨stops, others⟩ :=
    part_unique (digits _) (digits _) (ends_afterStop left leftRest)
      (ends_afterStop right rightRest) (List.cons.inj (List.cons.inj stops).2).2
  obtain ⟨texts, names, messages, rests⟩ := afterStop_unique leftName rightName others
  exact ⟨⟨Kind.name_injective (String.toList_injective kinds), decimal_injective starts,
    decimal_injective stops, texts, names, messages⟩, rests⟩

theorem ShowsAs.outlineLine_eq (shows : left.ShowsAs right) :
    left.outlineLine = right.outlineLine := by
  have lines : left.outlineLine ++ ['\n'] = right.outlineLine ++ ['\n'] := by
    rw [Token.outlineLine_eq, Token.outlineLine_eq, afterText, afterText, shows.kind_eq,
      shows.start_eq, shows.stop_eq, shows.leafText_eq, shows.name_eq, shows.message_eq]
  exact List.append_cancel_right lines

theorem feed_not_mem_outlineLine (named : token.HasSolidName) : '\n' ∉ token.outlineLine := by
  have digits (number : Nat) : '\n' ∉ decimal number := by
    intro member
    exact absurd (isDigit_of_mem_decimal member) (by decide)
  have kind : '\n' ∉ token.kind.name.toList := by
    intro member
    exact absurd (token.kind.name_solid.2 _ member) (by decide)
  have name : ∀ name ∈ token.fields.name, '\n' ∉ name := by
    intro name present member
    exact absurd (named name present _ member) (by decide)
  rw [outlineLine]
  cases present : token.fields.name with
  | none =>
      cases token.fields.message <;> split <;>
        simp [digits, kind, feed_not_mem_quoted]
  | some name' =>
      have here := name name' present
      cases token.fields.message <;> split <;>
        simp [digits, kind, here, feed_not_mem_quoted]

theorem exists_cons_outlineLine (token : Token) :
    ∃ first others, token.outlineLine = first :: others ∧ first ≠ ' ' := by
  obtain ⟨nonempty, solid⟩ := token.kind.name_solid
  obtain ⟨first, others, letters⟩ := List.exists_cons_of_ne_nil nonempty
  have notBlank := isSolid_iff.mp (solid first (by simp [letters]))
  rw [outlineLine, letters]
  exact ⟨first, _, rfl, notBlank.1⟩

theorem ends_outlineLine (token : Token) (rest : Text) :
    Ends (· == ' ') (token.outlineLine ++ rest) := by
  obtain ⟨first, others, line, notBlank⟩ := token.exists_cons_outlineLine
  rw [line]
  intro c head
  cases head
  simpa using notBlank

/-- Two trees have the same shape, and each token of one shows the same as the token of the other
at the same place. -/
def ShownAlike (left right : Token) : Prop :=
  ∀ path, Option.Rel ShowsAs (left.follow path) (right.follow path)

theorem forall₂_shownAlike {tokens others : List Token}
    (alike : ∀ (index : Nat) path, Option.Rel ShowsAs (tokens[index]?.bind (follow path))
      (others[index]?.bind (follow path))) : List.Forall₂ ShownAlike tokens others := by
  induction tokens generalizing others with
  | nil =>
      cases others with
      | nil => exact .nil
      | cons other others => nomatch alike 0 []
  | cons token tokens induction =>
      cases others with
      | nil => nomatch alike 0 []
      | cons other others =>
          apply List.Forall₂.cons
          · exact fun path => alike 0 path
          · exact induction fun index path => alike (index + 1) path

theorem ShownAlike.here (alike : left.ShownAlike right) : left.ShowsAs right := by
  have root := alike []
  cases root with
  | some shows => exact shows

theorem ShownAlike.children (alike : left.ShownAlike right) :
    List.Forall₂ ShownAlike left.children right.children :=
  forall₂_shownAlike fun index path => alike (index :: path)

theorem rel_follow {tokens others : List Token} (alike : List.Forall₂ ShownAlike tokens others)
    (index : Nat) (path : List Nat) :
    Option.Rel ShowsAs (tokens[index]?.bind (follow path)) (others[index]?.bind (follow path)) := by
  induction alike generalizing index with
  | nil => exact .none
  | cons first _ induction =>
      cases index with
      | zero => exact first path
      | succ index => exact induction index

theorem shownAlike_of_children (shows : left.ShowsAs right)
    (children : List.Forall₂ ShownAlike left.children right.children) :
    left.ShownAlike right := by
  intro path
  cases path with
  | nil => exact .some shows
  | cons index path => exact rel_follow children index path

theorem outlineAt_eq (level : Nat) (token : Token) (rest : Text) :
    outlineAt level token ++ rest = List.replicate (2 * level) ' ' ++
      (token.outlineLine ++ '\n' :: (outlineAtList (level + 1) token.children ++ rest)) := by
  cases token
  simp [outlineAt]

/-- The number of blanks at the start of a text. -/
def indent (text : Text) : Nat :=
  (text.takeWhile (· == ' ')).length

theorem indent_outlineAt (level : Nat) (token : Token) (rest : Text) :
    indent (outlineAt level token ++ rest) = 2 * level := by
  rw [outlineAt_eq, indent, takeWhile_of_ends (by simp) (token.ends_outlineLine _),
    List.length_replicate]

theorem indent_outlineAtList {tokens : List Token} (outdented : indent rest < 2 * level) :
    indent (outlineAtList level tokens ++ rest) < 2 * (level + 1) := by
  cases tokens with
  | nil =>
      change indent rest < 2 * (level + 1)
      omega
  | cons token tokens =>
      rw [outlineAtList, List.append_assoc, indent_outlineAt]
      omega

/-- Where less deep lines follow, the lines of a tree show the tree and where they end. -/
def KnownFromOutline (token : Token) : Prop :=
  ∀ {level : Nat} {other : Token} {rest otherRest : Text}, other.Everywhere HasSolidName →
    indent rest < 2 * (level + 1) → indent otherRest < 2 * (level + 1) →
      outlineAt level token ++ rest = outlineAt level other ++ otherRest →
        token.ShownAlike other ∧ rest = otherRest

theorem forest_unique {tokens others : List Token} {otherRest : Text}
    (known : ∀ token ∈ tokens, token.KnownFromOutline)
    (named : ∀ other ∈ others, other.Everywhere HasSolidName)
    (outdented : indent rest < 2 * level) (otherOutdented : indent otherRest < 2 * level)
    (same : outlineAtList level tokens ++ rest = outlineAtList level others ++ otherRest) :
    List.Forall₂ ShownAlike tokens others ∧ rest = otherRest := by
  induction tokens generalizing others with
  | nil =>
      cases others with
      | nil => exact ⟨.nil, same⟩
      | cons other others =>
          change rest = _ at same
          rw [same, outlineAtList, List.append_assoc, indent_outlineAt] at outdented
          exact absurd outdented (Nat.lt_irrefl _)
  | cons token tokens induction =>
      cases others with
      | nil =>
          change _ = otherRest at same
          rw [← same, outlineAtList, List.append_assoc, indent_outlineAt] at otherOutdented
          exact absurd otherOutdented (Nat.lt_irrefl _)
      | cons other others =>
          rw [List.forall_mem_cons] at known named
          rw [outlineAtList, outlineAtList, List.append_assoc, List.append_assoc] at same
          obtain ⟨first, rests⟩ := known.1 named.1 (indent_outlineAtList outdented)
            (indent_outlineAtList otherOutdented) same
          obtain ⟨later, ends⟩ := induction known.2 named.2 rests
          exact ⟨.cons first later, ends⟩

theorem known_from_outline (named : token.Everywhere HasSolidName) : token.KnownFromOutline := by
  induction token using children_induction with
  | node token induction =>
      rw [everywhere_iff] at named
      intro level other rest otherRest otherNamed outdented otherOutdented same
      rw [everywhere_iff] at otherNamed
      rw [outlineAt_eq, outlineAt_eq] at same
      obtain ⟨shows, below⟩ :=
        line_unique named.1 otherNamed.1 (List.append_cancel_left same)
      obtain ⟨children, rests⟩ := forest_unique
        (fun child member => induction child member (named.2 child member)) otherNamed.2
        outdented otherOutdented below
      exact ⟨shownAlike_of_children shows children, rests⟩

theorem ShownAlike.outlineAt_eq (alike : left.ShownAlike right) :
    outlineAt level left = outlineAt level right := by
  induction left using children_induction generalizing level right with
  | node left induction =>
      have below : outlineAtList (level + 1) left.children =
          outlineAtList (level + 1) right.children := by
        have children := alike.children
        generalize left.children = tokens at children induction
        generalize right.children = others at children
        induction children with
        | nil => rfl
        | cons first _ lists =>
            rw [List.forall_mem_cons] at induction
            rw [outlineAtList, outlineAtList, induction.1 first, lists induction.2]
      rw [← List.append_nil (outlineAt level left), ← List.append_nil (outlineAt level right),
        Token.outlineAt_eq, Token.outlineAt_eq, alike.here.outlineLine_eq, below]

/-- Trees with solid names have the same outline exactly when they show the same. -/
theorem outline_eq_iff (leftNamed : left.Everywhere HasSolidName)
    (rightNamed : right.Everywhere HasSolidName) :
    left.outline = right.outline ↔ left.ShownAlike right := by
  constructor
  · intro same
    have nothing : indent [] < 2 * (0 + 1) := by decide
    rw [outline, outline, ← List.append_nil (outlineAt 0 left),
      ← List.append_nil (outlineAt 0 right)] at same
    exact (known_from_outline leftNamed rightNamed nothing nothing same).1
  · exact fun alike => alike.outlineAt_eq

/-- The line of a visit with its indentation and line break. -/
def visitLine (level : Nat) (visit : List Nat × Token) : Text :=
  List.replicate (2 * (level + visit.1.length)) ' ' ++ visit.2.outlineLine ++ ['\n']

mutual

theorem outlineAt_eq_lines (level : Nat) (token : Token) :
    outlineAt level token = token.visits.flatMap (visitLine level) := by
  obtain ⟨kind, start, stop, text, inner, children, place, fields, fault⟩ := token
  rw [outlineAt, visits, List.flatMap_cons, ← outlineAtList_eq_lines level 0 children]
  rfl

theorem outlineAtList_eq_lines (level index : Nat) (tokens : List Token) :
    outlineAtList (level + 1) tokens = (visitsFrom index tokens).flatMap (visitLine level) := by
  match tokens with
  | [] => rfl
  | token :: rest =>
      have deeper : visitLine (level + 1) = visitLine level ∘ Prod.map (index :: ·) id := by
        funext visit
        simp only [visitLine, Function.comp_apply, Prod.map, List.length_cons, id]
        rw [Nat.add_assoc, Nat.add_comm 1]
      rw [outlineAtList, visitsFrom, List.flatMap_append, List.flatMap_map,
        outlineAt_eq_lines (level + 1) token, outlineAtList_eq_lines level (index + 1) rest, deeper]
      rfl

end

end Token

end PassageMarkup
