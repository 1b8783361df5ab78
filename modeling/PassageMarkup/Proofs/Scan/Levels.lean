import PassageMarkup.Proofs.Scan.Limit
import PassageMarkup.Proofs.Scan.Lines

/-!
# Levels of inner texts

The inner text of a heading or list item is a part of a line, so no line begins in it.  The inner
text of a link has no closing bracket, so no link ends in it.  Both are true of all texts inside
these texts, so inner texts nest in two levels at most, and a limit of three is never met by them.
-/

namespace PassageMarkup

open Scan

namespace Reading

variable {options : Options} {reading inner : Reading} {state : State}

/-- No line begins in a text. -/
structure Lineless (reading : Reading) : Prop where
  midLine : reading.beginsLine = false
  unbroken : '\n' ∉ reading.text

/-- No link ends in a text. -/
def Linkless (reading : Reading) : Prop :=
  ']' ∉ reading.text

theorem Passes.lined {source : Text} (passes : reading.Passes options state)
    (stands : source.Stands reading.offset reading.text)
    (begins : reading.beginsLine = true → reading.offset = 0) :
    state.Follows source (reading.setting options) reading.text.length ∧
      state.Each (Token.Lined source reading.offset (reading.offset + reading.text.length)) := by
  have readsInner : (reading.setting options).ReadsInner source :=
    readSetting_readsInner source _ _ _ _ _ _ _
  have readsLined : (reading.setting options).ReadsLined source :=
    readSetting_readsLined source _ _ _ _ _ _ _
  have gives : Gives (reading.setting options)
      (State.Follows source (reading.setting options) reading.text.length)
      (Token.Lined source reading.offset (reading.offset + reading.text.length)) :=
    lined_gives rfl readsInner readsLined begins
  apply passes.stepwise gives.makes.stepwise_each
  refine ⟨⟨⟨reading.offset, .initial stands⟩, by simp [State.Fronted, State.initial]⟩, ?_⟩
  intro token member
  contradiction

/-- Where a text has markup of a whole line inside, a line begins in it. -/
theorem Passes.not_lineless {choice : Choice} (passes : reading.Passes options state)
    (chosen : state.choice? (reading.setting options) = some choice)
    (isBlock : choice.rule.kind.isBlock = true) : ¬reading.Lineless := by
  rintro ⟨midLine, unbroken⟩
  obtain ⟨source, stands⟩ := Text.exists_stands reading.offset reading.text
  obtain ⟨follows, each⟩ := passes.lined stands (by simp [midLine])
  have applies := State.choice?_applies chosen
  rcases applies.block_begins rfl isBlock follows each with ⟨lineStart, _⟩ | ⟨after, feed⟩
  · rw [setting, readSetting, midLine] at lineStart
    contradiction
  · -- the line feed before the markup is a character of the text
    have total := passes.inside.position_add_rest
    have taken := applies.length_pos
    have ahead := applies.length_le
    have inside : state.position - 1 < reading.text.length := by omega
    have place : reading.offset + state.position - 1 = reading.offset + (state.position - 1) := by
      omega
    change source[reading.offset + state.position - 1]? = some '\n' at feed
    rw [place, stands.getElem?_eq inside] at feed
    exact unbroken (List.mem_of_getElem? feed)

theorem Passes.mem_of_mem_consumed {choice : Choice} {c : Char}
    (passes : reading.Passes options state) (member : c ∈ choice.consumed state) : c ∈ reading.text := by
  have ahead := List.mem_of_mem_take member
  rw [passes.inside.rest_eq] at ahead
  exact List.mem_of_mem_drop ahead

/-- An inner text is a part of the text that does not begin a line.  Either a line begins in the
text but none in the inner text, or a link ends in the text but none in the inner text. -/
theorem Meets.levels (meets : reading.Meets options inner) :
    inner.depth = reading.depth + 1 ∧ inner.beginsLine = false ∧
      (∀ c ∈ inner.text, c ∈ reading.text) ∧
      (¬reading.Lineless ∧ inner.Lineless ∨ ¬reading.Linkless ∧ inner.Linkless) := by
  obtain ⟨passes, chosen, marked⟩ := meets
  rename_i state choice span
  have applies := State.choice?_applies chosen
  have member := applies.rule_mem
  obtain ⟨found, success, lexeme⟩ := applies.found
  rw [lexeme] at marked
  have special := (Rule.inner_eq_none_or member).resolve_left fun unmarked => by
    rw [unmarked found] at marked
    contradiction
  have consumed : choice.consumed state = found.text :=
    Choice.consumed_eq success (by rw [lexeme, Rule.length_of_marked special])
  refine ⟨rfl, rfl, ?_, ?_⟩
  · intro c inside
    exact passes.mem_of_mem_consumed (Text.mem_of_mem_slice inside)
  · rcases Rule.kind_of_marked special with isBlock | isLink
    · left
      refine ⟨passes.not_lineless chosen isBlock, rfl, ?_⟩
      intro feed
      rw [consumed] at feed
      exact (Rule.block_found member isBlock success).1 (Text.mem_of_mem_slice feed)
    · right
      rw [isLink] at success marked
      constructor
      · intro linkless
        have bracket : ']' ∈ choice.consumed state := by
          rw [consumed]
          exact Rule.link_found success
        exact linkless (passes.mem_of_mem_consumed bracket)
      · intro bracket
        rw [consumed] at bracket
        exact Rule.link_inner success marked bracket

theorem Lineless.of_meets (lineless : reading.Lineless) (meets : reading.Meets options inner) :
    inner.Lineless :=
  ⟨meets.levels.2.1, fun feed => lineless.unbroken (meets.levels.2.2.1 _ feed)⟩

theorem Linkless.of_meets (linkless : reading.Linkless) (meets : reading.Meets options inner) :
    inner.Linkless :=
  fun bracket => linkless (meets.levels.2.2.1 _ bracket)

/-- What is known of an inner text by its depth: of the texts inside one inner text, lines or links
are gone, and inside two, both are. -/
def Level (reading : Reading) : Prop :=
  reading.depth = 0 ∨ reading.depth = 1 ∧ (reading.Lineless ∨ reading.Linkless) ∨
    reading.depth = 2 ∧ reading.Lineless ∧ reading.Linkless

theorem Level.of_meets (level : reading.Level) (meets : reading.Meets options inner) :
    inner.Level := by
  obtain ⟨depth, _, _, lines | links⟩ := meets.levels
  · rcases level with outside | ⟨first, lineless | linkless⟩ | ⟨_, lineless, _⟩
    · exact .inr (.inl ⟨by omega, .inl lines.2⟩)
    · exact absurd lineless lines.1
    · exact .inr (.inr ⟨by omega, lines.2, linkless.of_meets meets⟩)
    · exact absurd lineless lines.1
  · rcases level with outside | ⟨first, lineless | linkless⟩ | ⟨_, _, linkless⟩
    · exact .inr (.inl ⟨by omega, .inr links.2⟩)
    · exact .inr (.inr ⟨by omega, lineless.of_meets meets, links.2⟩)
    · exact absurd linkless links.1
    · exact absurd linkless links.1

/-- Inner texts nest in two levels at most. -/
theorem depth_le_two (outside : reading.depth = 0)
    (reached : Relation.ReflTransGen (Meets options) reading inner) : inner.depth ≤ 2 := by
  have level : inner.Level := by
    induction reached with
    | refl => exact .inl outside
    | tail _ meets induction => exact induction.of_meets meets
  rcases level with none | ⟨one, _⟩ | ⟨two, _⟩ <;> omega

end Reading

namespace Token

variable {source : Text} {root token : Token} {around : List Token}

/-- A link ends with brackets that its inner text does not have. -/
def Bracketed (token : Token) : Prop :=
  token.kind = .link → ']' ∈ token.text ∧ ']' ∉ token.inner

theorem Bracketed.of_kind_ne (notLink : token.kind ≠ .link) : token.Bracketed :=
  fun isLink => absurd isLink notLink

section Faithful

variable (faithful : ∀ child ∈ root.children, child.Everywhere (Faithful source))
include faithful

theorem Below.inside (below : Below root around token) :
    ∀ outer ∈ around, outer.start ≤ token.start ∧ token.stop ≤ outer.stop := by
  induction below with
  | child => simp
  | @deeper around token child outside member induction =>
      have inside := (outside.everywhere faithful).here.inside child member
      rw [List.forall_mem_cons]
      refine ⟨inside, ?_⟩
      intro outer further
      have farther := induction outer further
      omega

theorem Below.mem_inner {c : Char} (below : Below root around token) (inText : c ∈ token.text) :
    ∀ outer ∈ around, c ∈ outer.inner := by
  induction below with
  | child => simp
  | @deeper around token child outside member induction =>
      have here := (outside.everywhere faithful).here
      have childHere := ((outside.everywhere faithful).child member).here
      rw [List.forall_mem_cons]
      constructor
      · rw [← here.inner_eq]
        exact List.mem_flatMap.mpr ⟨child, member, inText⟩
      · apply induction
        rw [childHere.text_eq] at inText
        obtain ⟨i, first, last, found⟩ := Text.mem_slice_iff.mp inText
        have inside := here.inside child member
        rw [here.text_eq]
        exact Text.mem_slice_iff.mpr ⟨i, by simp only at *; omega, by simp only at *; omega, found⟩

theorem Below.start_lt (lined : ∀ child ∈ root.children, Lined source 0 source.length child)
    (below : Below root around token) :
    ∀ outer ∈ around, outer.kind.hasInnerText = true → outer.start < token.start := by
  induction below with
  | child => simp
  | @deeper around token child outside member induction =>
      have here := outside.everywhere faithful
      rw [List.forall_mem_cons]
      constructor
      · intro hasInner
        obtain ⟨_, level⟩ := Lined.of_below lined outside
        cases level with
        | other noInner =>
            rw [noInner] at hasInner
            contradiction
        | inner _ _ after tiles _ =>
            have ordered : ∀ child ∈ token.children, child.start ≤ child.stop :=
              fun child member => (here.child member).here.start_le_stop
            have first := tiles.first_le ordered child member
            omega
      · intro outer further hasInner
        have before := induction outer further hasInner
        have inside := here.here.inside child member
        omega

/-- No markup of a whole line stands inside a heading or list item: a line would begin there. -/
theorem Below.not_isLevelled (lined : ∀ child ∈ root.children, Lined source 0 source.length child)
    (below : Below root around token) (isBlock : token.kind.isBlock = true) :
    ∀ outer ∈ around, outer.kind.isLevelled = false := by
  intro outer member
  rw [← Bool.not_eq_true]
  intro levelled
  obtain ⟨outerBlock, hasInner⟩ := Kind.of_isLevelled levelled
  obtain ⟨farther, outside⟩ := below.exists_below outer member
  obtain ⟨_, line⟩ := Lined.of_below lined below
  obtain ⟨_, outerLine⟩ := Lined.of_below lined outside
  have after := below.start_lt faithful lined outer member hasInner
  have inside := below.inside faithful outer member
  have here := (below.everywhere faithful).here
  have outerHere := (outside.everywhere faithful).here
  apply (outerLine.keepsLines.block outerBlock).unbroken
  rw [outerHere.text_eq, Text.mem_slice_iff]
  have ordered := here.start_le_stop
  -- the markup begins after the outer token does, so its line begins inside that one
  rcases (line.keepsLines.block isBlock).begins with origin | ⟨_, feed⟩
  · omega
  · exact ⟨token.start - 1, by simp only; omega, by simp only; omega, feed⟩

/-- No link stands inside a link: it would end there. -/
theorem Below.not_link (bracketed : ∀ child ∈ root.children, child.Everywhere Bracketed)
    (below : Below root around token) (isLink : token.kind = .link) :
    ∀ outer ∈ around, outer.kind ≠ .link := by
  intro outer member outerLink
  obtain ⟨farther, outside⟩ := below.exists_below outer member
  have bracket := ((below.everywhere bracketed).here isLink).1
  exact ((outside.everywhere bracketed).here outerLink).2
    (below.mem_inner faithful bracket outer member)

end Faithful

end Token

namespace Scan

open Token

variable {setting : Setting} {state : State} {choice : Choice}

theorem Choice.Applies.token_bracketed (applies : choice.Applies setting state)
    (rules : setting.rules = Rule.ofMode) : (choice.token setting state).Bracketed := by
  intro isLink
  have member := applies.rule_mem_ofMode rules
  rw [choice.token_kind] at isLink
  obtain ⟨found, success, lexeme⟩ := applies.found
  have same := Rule.kind_eq_link member isLink
  have consumed : choice.consumed state = found.text :=
    Choice.consumed_eq success (by rw [lexeme, Rule.length_of_marked (by simp [same])])
  rw [same] at success lexeme
  constructor
  · rw [choice.token_text, consumed]
    exact Rule.link_found success
  · rcases applies.marks_or rules with ⟨span, marks⟩ | ⟨noInner, _⟩
    · have marked := marks.lexeme_inner
      rw [lexeme] at marked
      rw [marks.inner_eq, consumed]
      exact Rule.link_inner success marked
    · simp [noInner]

theorem bracketed_gives (rules : setting.rules = Rule.ofMode)
    (reads : setting.Reads (Everywhere Bracketed)) :
    Gives setting (fun _ => True) (Everywhere Bracketed) := by
  apply Gives.everywhere rules reads .trivially
  · exact fun _ isText => .of_kind_ne (by simp [isText])
  · exact fun _ _ applies _ => applies.token_bracketed rules
  · intro state choice pairing applies paired _ isLink
    have isPair := applies.pair_isPair rules paired
    rw [foldPair_kind] at isLink
    rw [isLink] at isPair
    contradiction

theorem read_bracketed (fold : Bool) (place : Text) (room : Nat) (mode : Mode) (beginsLine : Bool)
    (offset : Nat) (text : Text) :
    ∀ token ∈ (read Rule.ofMode fold place room mode beginsLine offset text).tokens,
      token.Everywhere Bracketed := by
  apply read_induction (fun _ _ _ outcome => ∀ token ∈ outcome.tokens, token.Everywhere Bracketed)
  intro room mode beginsLine offset text reads
  exact (bracketed_gives rfl reads).scanText trivial

end Scan

namespace Lex

open Token

theorem children_faithful (options : Options) (source : Text) :
    ∀ child ∈ (lex options source).children, child.Everywhere (Faithful source) := by
  intro child member
  have laid := Scan.read_laid options.fold options.place (options.maxDepth - 0) options.mode true
    (Text.stands_self source)
  exact everywhere_faithful (laid.placed child member)

/-- Every token stands inside at most one heading or list item and at most one link.  Inner texts
nest in two levels at most, so with a limit on nesting of three or more none stays unread. -/
theorem inner_texts_nest (options : Options) (source : Text) :
    (∀ around token, Below (lex options source) around token →
      around.countP (·.kind.isLevelled) ≤ 1 ∧ around.countP (·.kind == .link) ≤ 1) ∧
      (∀ reading, Relation.ReflTransGen (Reading.Meets options) ⟨options.mode, true, 0, 0, source⟩
        reading → reading.depth ≤ 2) ∧
      (3 ≤ options.maxDepth → ∀ start, .unread start ∉ events options source) := by
  refine ⟨?_, fun _ => Reading.depth_le_two rfl, ?_⟩
  · intro around token below
    have lined := children_lined options source
    have faithful := children_faithful options source
    constructor
    · refine Below.countP_le_one ?_ below
      intro around token below levelled
      exact below.not_isLevelled faithful lined (Kind.of_isLevelled levelled).1
    · refine Below.countP_le_one ?_ below
      intro around token below isLink outer member
      have notLink := below.not_link faithful
        (Scan.read_bracketed options.fold options.place _ options.mode true 0 source)
        (eq_of_beq isLink) outer member
      simpa using notLink
  · intro enough start noted
    rw [events, List.mem_reverse] at noted
    obtain ⟨inner, reached, limit⟩ :=
      Reading.limit_reached options ⟨options.mode, true, 0, 0, source⟩ rfl noted
    have bounded := Reading.depth_le_two rfl reached
    cases limit with
    | unread _ full => omega

theorem link_in_heading_nests :
    ∃ around token reading, Below (lex { maxDepth := 3 } "# [[a]]".toList) around token ∧
      around.map Token.kind = [.link, .block .heading] ∧ around.countP (·.kind.isLevelled) ≤ 1 ∧
      Relation.ReflTransGen (Reading.Meets { maxDepth := 3 })
        ⟨.prose, true, 0, 0, "# [[a]]".toList⟩ reading ∧
      reading.text = ['a'] ∧ reading.depth ≤ 2 ∧
      ∀ start, .unread start ∉ events { maxDepth := 3 } "# [[a]]".toList := by
  obtain ⟨tree, depths, read⟩ := inner_texts_nest { maxDepth := 3 } "# [[a]]".toList
  have below : Below (lex { maxDepth := 3 } "# [[a]]".toList) _ _ :=
    .deeper (.deeper (.child (.head _)) (.head _)) (.head _)
  have heading : Reading.Meets { maxDepth := 3 } ⟨.prose, true, 0, 0, "# [[a]]".toList⟩ _ :=
    .intro .initial rfl rfl
  have link : Reading.Meets { maxDepth := 3 } ⟨.prose, false, 1, 2, "[[a]]".toList⟩ _ :=
    .intro .initial rfl rfl
  have reached := (Relation.ReflTransGen.single heading).tail link
  exact ⟨_, _, _, below, rfl, (tree _ _ below).1, reached, rfl, depths _ reached,
    read (Nat.le_refl 3)⟩

end Lex

end PassageMarkup
