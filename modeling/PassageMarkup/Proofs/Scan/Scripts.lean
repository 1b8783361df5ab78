import PassageMarkup.Proofs.Rule.Script
import PassageMarkup.Proofs.Scan.Origin

/-!
# Script and style elements

A script or style sheet in a tree begins with its opening tag in the text that was scanned there.
It ends with the first closing tag of its element in the rest of that text, or with the text when
there is none.  Only a style sheet whose name is written with a long s ends as scripts do.
-/

namespace PassageMarkup

theorem Rule.eq_scriptStyleTag {mode : Mode} {rule : Rule} (member : rule ∈ ofMode mode)
    (isSheet : rule.kind = .scriptStyleTag) : rule = scriptStyleTag := by
  cases mode <;> fin_cases member
  all_goals first
    | rfl
    | contradiction

namespace Lex

open Reading

/-- Every script or style sheet ends with the first closing tag of its element after its opening
tag, or with the text in which it was scanned, unless its name has a long s: then it ends as scripts
do. -/
theorem sheet_closed (options : Options) (source : Text) :
    (lex options source).Everywhere fun token => token.kind = .scriptStyleTag →
      ∃ reading, Relation.ReflTransGen (Meets options) (.ofPassage options source) reading ∧
        reading.Takes options token ∧
          (reading.ahead token.start).BeginsWithSheet Text.closedAs token.text := by
  intro token member isSheet
  have single : token.kind ≠ .root ∧ token.kind ≠ .text ∧ token.kind.isPair = false := by
    rw [isSheet]
    decide
  obtain ⟨reading, reached, takes⟩ := exists_takes member single
  refine ⟨reading, reached, takes, ?_⟩
  obtain ⟨mode, rule, listed, found, finds⟩ := takes.exists_finds
  have same := Rule.eq_scriptStyleTag listed (finds.kind_eq.symm.trans isSheet)
  subst same
  rw [finds.text_eq]
  exact Lexeme.scriptStyle_takes finds.success

theorem style_past_script_closed :
    ∃ token ∈ (lex {} "<STYLE></script></style >b".toList).nodes,
      token.kind = .scriptStyleTag ∧ token.text = "<STYLE></script></style >".toList ∧
        ∃ reading, Relation.ReflTransGen (Meets {})
            (.ofPassage {} "<STYLE></script></style >b".toList) reading ∧
          reading.Takes {} token ∧
            (reading.ahead token.start).BeginsWithSheet Text.closedAs token.text := by
  have found : ∃ token ∈ (lex {} "<STYLE></script></style >b".toList).nodes,
      token.kind = .scriptStyleTag ∧ token.text = "<STYLE></script></style >".toList := by
    decide +kernel
  obtain ⟨token, member, isSheet, text⟩ := found
  exact ⟨token, member, isSheet, text, sheet_closed {} _ token member isSheet⟩

/-- A style sheet with a long s in its name goes on past a closing tag of its element. -/
theorem style_with_long_s_unclosed :
    ∃ token ∈ (lex {} "<\u017ftyle>a</style>b".toList).nodes,
      token.kind = .scriptStyleTag ∧ token.start = 0 ∧
        ¬Text.BeginsWithSheet Text.folded "<\u017ftyle>a</style>b".toList token.text := by
  have found : ∃ token ∈ (lex {} "<\u017ftyle>a</style>b".toList).nodes,
      token.kind = .scriptStyleTag ∧ token.start = 0 ∧
        token.text = "<\u017ftyle>a</style>b".toList := by
    decide +kernel
  obtain ⟨token, member, isSheet, start, text⟩ := found
  refine ⟨token, member, isSheet, start, ?_⟩
  rw [text]
  rintro ⟨opening, name, following, body, split, ⟨attributes, rfl, noEnd, _⟩, named, takes, sheet⟩
  have tail : "\u017ftyle>a</style>b".toList = name ++ (attributes ++ '>' :: following) := by
    simpa using congrArg List.tail split
  have front : "\u017ftyle>a</style>b".toList.take name.folded.length = name := by
    rw [tail, Text.folded, List.length_map, List.take_left]
  rcases named with script | style
  · rw [script] at front
    rw [← front] at script
    exact absurd script (by decide)
  · rw [style] at front takes
    rw [← front] at tail
    have whole : "\u017ftyle".toList ++ ">a</style>b".toList =
        "\u017ftyle".toList ++ (attributes ++ '>' :: following) := tail
    have rest := List.append_cancel_left whole
    cases attributes with
    | cons c others =>
        rw [List.cons_append] at rest
        exact noEnd (List.mem_cons.mpr (.inl (List.cons.inj rest).1))
    | nil =>
        have after : "a</style>b".toList = following := (List.cons.inj rest).2
        have whole : body = following := (List.append_cancel_left (split.symm.trans sheet)).symm
        rw [← after] at takes whole
        cases takes with
        | closed _ isTag _ =>
            obtain ⟨_, _, rfl, _, _⟩ := isTag
            have last := congrArg List.getLast? whole
            rw [← List.append_assoc, List.getLast?_concat] at last
            exact absurd last (by decide)
        | unclosed none =>
            have isTag : Text.IsClosingTag "</style>".toList "style".toList :=
              ⟨"style".toList, [], rfl, Text.folded_of_small (by decide), by simp⟩
            exact none ['a'] "</style>".toList ['b'] rfl isTag

end Lex

end PassageMarkup
