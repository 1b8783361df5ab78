import PassageMarkup.Proofs.Scan.Strings

/-!
# The content of strings

The content of a string is made of escape pairs, each a backslash with the character after it, and
of characters other than the quote and the backslash.  Its tokens are the escape pairs, in their
order and where they stand, and texts.
-/

namespace PassageMarkup

/-- A text that can stand between two quotes. -/
inductive Quote.Content (quote : Quote) : Text → Prop where
  | nil : Content quote []
  | plain {c : Char} {rest : Text} :
      quote.isSpecial c = false →
      Content quote rest →
      Content quote (c :: rest)
  | escape {rest : Text} (c : Char) :
      Content quote rest →
      Content quote ('\\' :: c :: rest)

/-- The escape pairs of a content that begins at an offset, with their places. -/
def Text.escapePairs (start : Nat) : Text → List (Nat × Text)
  | [] => []
  | [_] => []
  | c :: d :: rest =>
    if c = '\\' then (start, [c, d]) :: escapePairs (start + 2) rest
    else escapePairs (start + 1) (d :: rest)

namespace Quote

variable {quote : Quote} {content other run : Text} {start : Nat}

theorem Content.append (first : quote.Content content) (second : quote.Content other) :
    quote.Content (content ++ other) := by
  induction first with
  | nil => exact second
  | plain ordinary _ induction => exact .plain ordinary induction
  | escape c _ induction => exact .escape c induction

theorem Content.of_ordinary (ordinary : ∀ c ∈ run, quote.isSpecial c = false) :
    quote.Content run := by
  induction run with
  | nil => exact .nil
  | cons c run induction =>
      rw [List.forall_mem_cons] at ordinary
      exact .plain ordinary.1 (induction ordinary.2)

theorem Content.of_plain {c : Char} (whole : quote.Content (c :: content))
    (ordinary : quote.isSpecial c = false) : quote.Content content := by
  cases whole with
  | plain _ rest => exact rest
  | escape _ _ => simp [isSpecial] at ordinary

theorem Content.of_escape {c : Char} (whole : quote.Content ('\\' :: c :: content)) :
    quote.Content content := by
  cases whole with
  | plain ordinary _ => simp [isSpecial] at ordinary
  | escape _ rest => exact rest

theorem Content.not_append_mark (first : quote.Content content) (tail : Text) :
    ¬quote.Content (content ++ quote.mark :: tail) := by
  induction first with
  | nil =>
      intro whole
      cases quote <;> cases whole <;> contradiction
  | plain ordinary _ induction => exact fun whole => induction (whole.of_plain ordinary)
  | escape _ _ induction => exact fun whole => induction whole.of_escape

theorem escapePairs_append (ordinary : ∀ c ∈ run, quote.isSpecial c = false) (rest : Text) :
    Text.escapePairs start (run ++ rest) = Text.escapePairs (start + run.length) rest := by
  induction run generalizing start with
  | nil => rfl
  | cons c run induction =>
      rw [List.forall_mem_cons] at ordinary
      have notBackslash : c ≠ '\\' := by
        rintro rfl
        simp [isSpecial] at ordinary
      have later := @induction (start + 1) ordinary.2
      rw [Nat.add_assoc, Nat.add_comm 1] at later
      rw [List.length_cons, ← later, List.cons_append]
      cases run ++ rest with
      | nil => rfl
      | cons d others => rw [Text.escapePairs, if_neg notBackslash]

/-- After a quote stands a content that goes on to the end of the text, to a last backslash, or to
the first quote that is not part of an escape pair. -/
theorem exists_content (quote : Quote) : ∀ text : Text, ∃ content, quote.Content content ∧
    (text = content ∨ text = content ++ ['\\'] ∨ ∃ tail, text = content ++ quote.mark :: tail)
  | [] => ⟨[], .nil, .inl rfl⟩
  | [c] => by
      cases special : quote.isSpecial c with
      | false => exact ⟨[c], .plain special .nil, .inl rfl⟩
      | true =>
          rcases isSpecial_iff.mp special with rfl | rfl
          · exact ⟨[], .nil, .inr (.inl rfl)⟩
          · exact ⟨[], .nil, .inr (.inr ⟨[], rfl⟩)⟩
  | c :: d :: rest => by
      cases special : quote.isSpecial c with
      | false =>
          obtain ⟨content, fits, ends⟩ := exists_content quote (d :: rest)
          refine ⟨c :: content, .plain special fits, ?_⟩
          simpa using ends
      | true =>
          rcases isSpecial_iff.mp special with rfl | rfl
          · obtain ⟨content, fits, ends⟩ := exists_content quote rest
            refine ⟨'\\' :: d :: content, .escape d fits, ?_⟩
            simpa using ends
          · exact ⟨[], .nil, .inr (.inr ⟨d :: rest, rfl⟩)⟩

end Quote

namespace Token

/-- Tokens that stand for the content of a string from an offset on: escape pairs and texts. -/
inductive Spelled (quote : Quote) (place : Text) : Nat → List Token → Prop where
  | nil {start : Nat} : Spelled quote place start []
  | text {start : Nat} {run : Text} {rest : List Token} :
      (∀ c ∈ run, quote.isSpecial c = false) →
      Spelled quote place (start + run.length) rest →
      Spelled quote place start (.leaf .text start run place :: rest)
  | escape {start : Nat} {rest : List Token} (c : Char) :
      Spelled quote place (start + 2) rest →
      Spelled quote place start (.leaf .escapedStringChar start ['\\', c] place :: rest)

/-- A string: its quotes stand around a content, of which the escape pairs are children, and all
other children are texts. -/
structure Literal (quote : Quote) (token : Token) : Prop where
  text_eq : token.text = quote.mark :: token.inner ++ [quote.mark]
  content : quote.Content token.inner
  escapes_eq : (token.children.filter (·.kind == .escapedStringChar)).map
    (fun child => (child.start, child.text)) = Text.escapePairs (token.start + 1) token.inner
  others : ∀ child ∈ token.children, child.kind ≠ .escapedStringChar → child.kind = .text

theorem Literal.quote_eq {quote other : Quote} {token : Token} (literal : token.Literal other)
    (begins : token.text.head? = some quote.mark) : other = quote := by
  rw [literal.text_eq, List.cons_append, List.head?_cons, Option.some.injEq] at begins
  cases other <;> cases quote <;> first
    | rfl
    | exact absurd begins (by decide)

namespace Spelled

variable {quote : Quote} {place : Text} {start : Nat} {tokens others : List Token}

theorem append (first : Spelled quote place start tokens)
    (second : Spelled quote place (start + (textOf tokens).length) others) :
    Spelled quote place start (tokens ++ others) := by
  induction first with
  | nil => exact second
  | @text start run rest ordinary _ induction =>
      refine .text ordinary (induction ?_)
      rw [textOf, List.flatMap_cons, List.length_append, ← Nat.add_assoc] at second
      exact second
  | @escape start rest c _ induction =>
      refine .escape c (induction ?_)
      rw [textOf, List.flatMap_cons, List.length_append, ← Nat.add_assoc] at second
      exact second

theorem coalesce (spelled : Spelled quote place start tokens) :
    Spelled quote place start (Token.coalesce tokens) := by
  induction spelled with
  | nil => exact .nil
  | escape c _ induction =>
      rw [coalesce_cons_of_not_plain _ rfl]
      exact .escape c induction
  | @text start run rest ordinary _ induction =>
      rw [Token.coalesce]
      split
      · exact .text ordinary .nil
      · rename_i next others joined
        rw [joined] at induction
        split
        · rename_i plain
          cases induction with
          | escape c _ => contradiction
          | @text _ more _ ordinaryToo spelled =>
              have whole : ∀ c ∈ run ++ more, quote.isSpecial c = false := by
                simpa [or_imp, forall_and] using ⟨ordinary, ordinaryToo⟩
              rw [Nat.add_assoc, ← List.length_append] at spelled
              have text := Spelled.text whole spelled
              simp only [leaf, List.length_append, ← Nat.add_assoc] at text ⊢
              exact text
        · exact .text ordinary induction

theorem content (spelled : Spelled quote place start tokens) : quote.Content (textOf tokens) := by
  induction spelled with
  | nil => exact .nil
  | text ordinary _ induction => exact (Quote.Content.of_ordinary ordinary).append induction
  | escape c _ induction => exact .escape c induction

theorem escapes_eq (spelled : Spelled quote place start tokens) :
    (tokens.filter (·.kind == .escapedStringChar)).map (fun token => (token.start, token.text)) =
      Text.escapePairs start (textOf tokens) := by
  induction spelled with
  | nil => rfl
  | @text start run rest ordinary _ induction =>
      rw [List.filter_cons_of_neg (by simp [leaf]), induction, textOf, textOf, List.flatMap_cons]
      exact (Quote.escapePairs_append ordinary _).symm
  | @escape start rest c _ induction =>
      rw [List.filter_cons_of_pos (by simp [leaf]), List.map_cons, induction]
      rfl

theorem kind_cases (spelled : Spelled quote place start tokens) :
    ∀ token ∈ tokens, token.kind = .text ∨ token.kind = .escapedStringChar := by
  induction spelled with
  | nil => simp
  | text _ _ induction => exact List.forall_mem_cons.mpr ⟨.inl rfl, induction⟩
  | escape _ _ induction => exact List.forall_mem_cons.mpr ⟨.inr rfl, induction⟩

/-- The tokens of a content between two quotes make a string. -/
theorem literal {kind : Kind} {front back : Token} {children : List Token}
    (spelled : Spelled quote place front.stop children)
    (opener : front = .delimiter (.stringOpener quote) start [quote.mark] place none)
    (closer : back.text = [quote.mark]) :
    Literal quote (Scan.foldPair kind front children back) := by
  have stop : front.stop = front.start + 1 := by
    rw [opener]
    rfl
  rw [stop] at spelled
  refine ⟨?_, spelled.content, spelled.escapes_eq, ?_⟩
  · simp only [Scan.foldPair, closer, opener]
    rfl
  · intro child member notEscape
    exact (spelled.kind_cases child member).resolve_right notEscape

end Spelled

end Token

end PassageMarkup
