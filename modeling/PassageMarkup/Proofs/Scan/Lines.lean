import PassageMarkup.Proofs.Rule.Block
import PassageMarkup.Proofs.Scan.Coverage
import PassageMarkup.Proofs.Scan.HookBacks
import PassageMarkup.Proofs.Scan.Tokens
import PassageMarkup.Proofs.Token.Depth

/-!
# Whole lines

A scan infers from the kind of the last token whether a line begins.  Only line breaks and markup of
whole lines let it think so; line breaks are always a single line feed, and where markup of a whole
line has ended, no other such markup can begin before the line feed is read.  Inner texts begin in
the middle of a line.  So markup of a whole line is one, at any depth of the tree.
-/

namespace PassageMarkup

namespace Token

/-- A token takes a whole line of a source, in a text of it from `first` to `last`. -/
structure WholeLine (source : Text) (first last : Nat) (token : Token) : Prop where
  unbroken : '\n' ∉ token.text
  begins : token.start = 0 ∨ first < token.start ∧ source[token.start - 1]? = some '\n'
  ends : token.stop = last ∨ source[token.stop]? = some '\n'

/-- Line breaks are line feeds, markup of whole lines takes whole lines, and no such markup is the
first child. -/
structure KeepsLines (source : Text) (first last : Nat) (token : Token) : Prop where
  lineBreak : token.kind = .lineBreak → token.text = ['\n']
  block : token.kind.isBlock = true → token.WholeLine source first last
  leads : ∀ child, token.children.head? = some child → child.kind.isBlock = false

/-- A token and all tokens below it keep lines, each in the text in which it was found: the one from
`first` to `last`, or an inner text, which its tokens cover. -/
inductive Lined (source : Text) : Nat → Nat → Token → Prop where
  | other {first last : Nat} {token : Token} :
      token.kind.hasInnerText = false →
      token.KeepsLines source first last →
      (∀ child ∈ token.children, Lined source first last child) →
      Lined source first last token
  | inner {first last innerFirst innerLast : Nat} {token : Token} :
      token.kind.hasInnerText = true →
      token.KeepsLines source first last →
      token.start < innerFirst →
      Tiles innerFirst token.children innerLast →
      (∀ child ∈ token.children, Lined source innerFirst innerLast child) →
      Lined source first last token

variable {source : Text} {first last : Nat} {token : Token}

theorem Lined.keepsLines (lined : Lined source first last token) :
    token.KeepsLines source first last := by
  cases lined with
  | other _ keeps _ => exact keeps
  | inner _ keeps _ _ _ => exact keeps

/-- Where no line begins, a token is not markup of a whole line. -/
theorem Lined.not_isBlock (lined : Lined source first last token) (positive : 0 < token.start)
    (midLine : token.start ≤ first ∨ source[token.start - 1]? ≠ some '\n') :
    token.kind.isBlock = false := by
  rw [← Bool.not_eq_true]
  intro isBlock
  rcases (lined.keepsLines.block isBlock).begins with origin | ⟨after, feed⟩
  · omega
  · rcases midLine with before | other
    · omega
    · exact other feed

theorem Tiles.start_eq {tokens : List Token} (tiles : Tiles first tokens last)
    (leads : tokens.head? = some token) : token.start = first := by
  obtain ⟨others, rfl⟩ := List.head?_eq_some_iff.mp leads
  exact tiles.1

theorem Lined.childless (childless : token.children = [])
    (lineBreak : token.kind = .lineBreak → token.text = ['\n'])
    (block : token.kind.isBlock = true → token.WholeLine source first last) :
    Lined source first last token := by
  have keeps : token.KeepsLines source first last := ⟨lineBreak, block, by simp [childless]⟩
  by_cases hasInner : token.kind.hasInnerText = true
  · have tiles : Tiles (token.start + 1) token.children (token.start + 1) := by
      rw [childless]
      rfl
    exact .inner hasInner keeps (Nat.lt_succ_self _) tiles (by simp [childless])
  · exact .other ((Bool.not_eq_true _).mp hasInner) keeps (by simp [childless])

theorem Lined.plain (isText : token.kind = .text) (childless : token.children = []) :
    Lined source first last token := by
  apply Lined.childless childless
  · intro isLineBreak
    rw [isText] at isLineBreak
    contradiction
  · intro isBlock
    rw [isText] at isBlock
    contradiction

end Token

theorem Opens.getLast?_ne {kind : Kind} {arity : Nat} {name : Option Text} {text : Text}
    (opens : Opens kind arity name text) : text.getLast? ≠ some '\n' := by
  cases opens with
  | verbatim length => simp [List.getLast?_replicate]
  | emphasis emphasis => cases emphasis <;> decide
  | string quote => cases quote <;> decide
  | _ => simp [List.getLast?_append, List.getLast?_cons]

theorem Opens.not_beginsLine {kind : Kind} {arity : Nat} {name : Option Text} {text : Text}
    (opens : Opens kind arity name text) : (Preceding.token kind).beginsLine = false := by
  cases opens <;> rfl

namespace Scan

open Token

variable {source : Text} {setting : Setting} {length : Nat} {state : State} {choice : Choice}
  {pairing : Pairing}

/-- What is known of the states of a scan besides their tokens: these cover what was read, and the
fronts among them are written as fronts. -/
structure State.Follows (source : Text) (setting : Setting) (length : Nat) (state : State) :
    Prop where
  covers : ∃ covered, state.Covers source setting length covered
  fronted : state.Fronted setting

theorem follows_kept (rules : setting.rules = Rule.ofMode) (reads : setting.ReadsInner source) :
    Kept setting (State.Follows source setting length) where
  withEvents := fun state events ⟨covers, fronted⟩ =>
    ⟨(covers_kept rules reads).withEvents state events covers, fronted⟩
  skipChar := fun state ⟨covers, fronted⟩ =>
    ⟨(covers_kept rules reads).skipChar state covers, (fronted_kept rules).skipChar state fronted⟩
  accept := fun state choice applies ⟨covers, fronted⟩ =>
    ⟨(covers_kept rules reads).accept state choice applies covers,
      (fronted_kept rules).accept state choice applies fronted⟩

/-- Where a scan thinks that a line begins and goes on without a line feed, a line does begin. -/
theorem State.Follows.lineBegins (follows : state.Follows source setting length)
    (each : state.Each (Lined source setting.offset (setting.offset + length)))
    (flushed : state.pending = []) (preceding : (state.preceding setting).beginsLine = true)
    (ahead : state.rest ≠ []) (goesOn : state.rest.head? ≠ some '\n') :
    setting.beginsLine = true ∧ state.position = 0 ∨
      0 < state.position ∧ source[setting.offset + state.position - 1]? = some '\n' := by
  obtain ⟨covered, covers⟩ := follows.covers
  have position := covers.position_eq
  rw [flushed, List.length_nil, Nat.add_zero] at position
  have laid := covers.laid
  have rest := covers.stands_rest
  have total := covers.length_eq
  rw [← position] at laid
  unfold State.preceding at preceding
  split at preceding
  · rename_i token others siblings
    have member : token ∈ state.tokens := by simp [State.tokens, siblings]
    have keeps := (each token member).keepsLines
    rw [State.tokens, siblings, List.cons_append, laid_reverse_cons] at laid
    obtain ⟨before, placed, stop⟩ := laid
    have first := before.le
    have stopEq := placed.here.stop_eq
    rw [Preceding.beginsLine, Bool.or_eq_true, beq_iff_eq] at preceding
    rcases preceding with isLineBreak | isBlock
    · -- a line break is one line feed, so it stands right before this place
      right
      have text := keeps.lineBreak isLineBreak
      have stands := placed.here.stands
      rw [text] at stands stopEq
      have feed := stands.getElem?_eq (Nat.zero_lt_one : 0 < ['\n'].length)
      rw [List.length_singleton] at stopEq
      have start : setting.offset + state.position - 1 = token.start + 0 := by omega
      rw [start]
      exact ⟨by omega, feed⟩
    · -- markup of a whole line ends where its line ends, and no line feed comes next
      exfalso
      rcases (keeps.block isBlock).ends with last | feed
      · have positive := List.length_pos_iff.mpr ahead
        omega
      · have next := rest.getElem?_eq (List.length_pos_iff.mpr ahead)
        rw [Nat.add_zero, ← stop, feed] at next
        rw [List.head?_eq_getElem?] at goesOn
        exact goesOn next.symm
  · -- no line begins right after a front
    rename_i frame outer siblings frames
    obtain ⟨around, inside, opened⟩ := follows.fronted frame (by simp [frames])
    obtain ⟨name, text, start, _, opens⟩ := opened.front_eq
    rw [← opened.kind_eq] at opens
    rw [opens.not_beginsLine] at preceding
    contradiction
  · -- without tokens before it, this place is where the text begins
    rename_i siblings frames
    left
    rw [State.tokens, siblings, frames] at laid
    have start : setting.offset = setting.offset + state.position := laid
    split at preceding
    · rename_i lineStart
      exact ⟨lineStart, by omega⟩
    · contradiction

theorem Choice.Applies.block_begins (applies : choice.Applies setting state)
    (rules : setting.rules = Rule.ofMode) (isBlock : choice.rule.kind.isBlock = true)
    (follows : state.Follows source setting length)
    (each : state.Each (Lined source setting.offset (setting.offset + length))) :
    setting.beginsLine = true ∧ state.position = 0 ∨
      0 < state.position ∧ source[setting.offset + state.position - 1]? = some '\n' := by
  have member := applies.rule_mem_ofMode rules
  obtain ⟨found, success, _⟩ := applies.found
  obtain ⟨beginsLine, notAfterText, _⟩ := Rule.block_line member isBlock
  have unbroken := (Rule.block_found member isBlock success).1
  have splits := Pattern.find?_splitsOff success
  have admitted := applies.admitted
  simp only [State.admits, beginsLine, notAfterText, Bool.not_true, Bool.false_or,
    Bool.and_eq_true, List.isEmpty_iff] at admitted
  apply follows.lineBegins each admitted.1.2 admitted.1.1
  · rw [splits.remaining_eq]
    simp [splits.nonempty]
  · intro feed
    obtain ⟨others, feed⟩ := List.head?_eq_some_iff.mp feed
    exact unbroken (List.mem_of_mem_head? (splits.head?_eq feed))

/-- Markup of a whole line begins and ends with its line. -/
theorem Choice.Applies.wholeLine (applies : choice.Applies setting state)
    (rules : setting.rules = Rule.ofMode) (isBlock : choice.rule.kind.isBlock = true)
    (begins : setting.beginsLine = true → setting.offset = 0)
    (follows : state.Follows source setting length)
    (each : state.Each (Lined source setting.offset (setting.offset + length))) :
    (choice.token setting state).WholeLine source setting.offset (setting.offset + length) := by
  have member := applies.rule_mem_ofMode rules
  obtain ⟨found, success, lexeme⟩ := applies.found
  obtain ⟨_, _, lengthEq, _⟩ := Rule.block_line member isBlock
  obtain ⟨unbroken, endsLine⟩ := Rule.block_found member isBlock success
  have splits := Pattern.find?_splitsOff success
  have taken : choice.consumed state = found.text :=
    Choice.consumed_eq success (by rw [lexeme, lengthEq])
  obtain ⟨covered, covers⟩ := follows.covers
  constructor
  · rw [choice.token_text, taken]
    exact unbroken
  · rw [choice.token_start]
    rcases applies.block_begins rules isBlock follows each with
      ⟨lineStart, origin⟩ | ⟨after, feed⟩
    · left
      rw [origin, begins lineStart]
    · exact .inr ⟨Nat.lt_add_of_pos_right after, feed⟩
  · rw [choice.token_stop, taken]
    have total := covers.length_eq
    have rest := congrArg List.length splits.remaining_eq
    rw [List.length_append] at rest
    cases following : found.following with
    | nil =>
        left
        rw [following, List.length_nil] at rest
        omega
    | cons c others =>
        right
        have inside : found.text.length < state.rest.length := by
          rw [rest, following, List.length_cons]
          omega
        have feed := endsLine c (by rw [following]; rfl)
        rw [covers.stands_rest.getElem?_eq inside, splits.remaining_eq, following, feed]
        simp

def Setting.ReadsLined (source : Text) (setting : Setting) : Prop :=
  setting.ReadsInto fun _ offset inner outcome => source.Stands offset inner →
    ∀ token ∈ outcome.tokens, Lined source offset (offset + inner.length) token

theorem readInner_lined {start : Nat} {inner : Text} (reads : setting.ReadsLined source)
    (rule : Rule) (stands : source.Stands start inner) :
    ∀ token ∈ (readInner setting rule start inner).tokens,
      Lined source start (start + inner.length) token := by
  apply reads.readInner rule _ stands
  intro _
  rw [List.forall_mem_singleton]
  exact .plain rfl rfl

theorem Choice.Applies.token_lined (applies : choice.Applies setting state)
    (rules : setting.rules = Rule.ofMode) (readsInner : setting.ReadsInner source)
    (reads : setting.ReadsLined source) (begins : setting.beginsLine = true → setting.offset = 0)
    (follows : state.Follows source setting length)
    (each : state.Each (Lined source setting.offset (setting.offset + length))) :
    Lined source setting.offset (setting.offset + length) (choice.token setting state) := by
  have member := applies.rule_mem_ofMode rules
  have lineBreak : (choice.token setting state).kind = .lineBreak →
      (choice.token setting state).text = ['\n'] := by
    intro isLineBreak
    obtain ⟨found, success, lexeme⟩ := applies.found
    rw [choice.token_kind] at isLineBreak
    obtain ⟨text, lengthEq⟩ := Rule.lineBreak_found member isLineBreak success
    rw [choice.token_text, Choice.consumed_eq success (by rw [lexeme, lengthEq]), text]
  have block : (choice.token setting state).kind.isBlock = true →
      (choice.token setting state).WholeLine source setting.offset (setting.offset + length) := by
    intro isBlock
    rw [choice.token_kind] at isBlock
    exact applies.wholeLine rules isBlock begins follows each
  rcases applies.marks_or rules with ⟨span, marks⟩ | ⟨_, childless⟩
  · obtain ⟨covered, covers⟩ := follows.covers
    have taken : source.Stands (setting.offset + state.position) (choice.consumed state) := by
      have rest := covers.stands_rest
      rw [← List.take_append_drop choice.lexeme.length state.rest] at rest
      exact (Text.stands_append.mp rest).1
    have nonempty := marks.nonempty
    have bounded := marks.bounded
    have ordered : span.start ≤ (choice.consumed state).length := by omega
    have stands := taken.slice ordered
    have lined := readInner_lined reads choice.rule stands
    have tiles := (readInner_laid readsInner choice.rule stands).tiles
    rw [← marks.children_eq] at lined tiles
    have positive := marks.positive
    -- the inner text begins after the token does, so in the middle of its line
    refine .inner ?_ ⟨lineBreak, block, ?_⟩ ?_ tiles lined
    · rw [choice.token_kind]
      exact marks.hasInner
    · intro child leads
      have start := tiles.start_eq leads
      exact (lined child (List.mem_of_mem_head? leads)).not_isBlock (by omega)
        (.inl (Nat.le_of_eq start))
    · rw [choice.token_start]
      omega
  · exact .childless childless lineBreak block

theorem State.Covers.pair_laid {covered : Nat} (covers : state.Covers source setting length covered)
    (pairs : Frame.Pairs choice.rule choice.lexeme.arity state.frames pairing) :
    pairing.frame.front.Everywhere (Placed source) ∧
      Laid source pairing.frame.front.stop (pairing.children (state.flush setting).siblings)
        (setting.offset + state.position) := by
  have laid := covers.flush.laid
  rw [State.tokens, State.flush_frames, pairs.frames_eq, Frame.tokens_append, Frame.tokens_cons,
    ← List.append_assoc, laid_reverse_append] at laid
  obtain ⟨middle, outside, inside⟩ := laid
  rw [List.cons_append, laid_reverse_cons] at outside
  obtain ⟨_, placed, rfl⟩ := outside
  exact ⟨placed, (Frame.unwind_laid inside).coalesce⟩

/-- Pairs keep lines: what comes right after a front begins no line. -/
theorem Choice.Applies.pair_lined (applies : choice.Applies setting state)
    (rules : setting.rules = Rule.ofMode) (paired : choice.pairing = some pairing)
    (follows : state.Follows source setting length)
    (children : ∀ child ∈ pairing.children (state.flush setting).siblings,
      Lined source setting.offset (setting.offset + length) child) :
    Lined source setting.offset (setting.offset + length)
      (foldPair pairing.kind pairing.frame.front (pairing.children (state.flush setting).siblings)
        (choice.token setting state)) := by
  have isPair := applies.pair_isPair rules paired
  obtain ⟨covered, covers⟩ := follows.covers
  have pairs := applies.pairs paired
  obtain ⟨placed, laid⟩ := covers.pair_laid pairs
  obtain ⟨around, inside, opened⟩ := follows.fronted pairing.frame (by simp [pairs.frames_eq])
  obtain ⟨name, text, start, front, opens⟩ := opened.front_eq
  have frontText : pairing.frame.front.text = text := by
    rw [front]
    rfl
  refine .other (Kind.not_hasInnerText_of_isPair isPair) ⟨?_, ?_, ?_⟩ children
  · intro isLineBreak
    rw [foldPair_kind] at isLineBreak
    rw [isLineBreak] at isPair
    contradiction
  · intro isBlock
    rw [foldPair_kind] at isBlock
    cases kind : pairing.kind <;> rw [kind] at isBlock isPair <;> contradiction
  · intro child leads
    have childStart := laid.tiles.start_eq leads
    have stop := placed.here.stop_eq
    have nonempty := List.length_pos_iff.mpr opens.ne_nil
    rw [← frontText] at nonempty
    -- right before the first child stands the last character of the front
    refine (children child (List.mem_of_mem_head? leads)).not_isBlock (by omega) (.inr ?_)
    have inside : pairing.frame.front.text.length - 1 < pairing.frame.front.text.length := by omega
    have last := placed.here.stands.getElem?_eq inside
    have place : child.start - 1 =
        pairing.frame.front.start + (pairing.frame.front.text.length - 1) := by omega
    rw [place, last, ← List.getLast?_eq_getElem?, frontText]
    exact opens.getLast?_ne

theorem lined_gives (rules : setting.rules = Rule.ofMode) (readsInner : setting.ReadsInner source)
    (reads : setting.ReadsLined source) (begins : setting.beginsLine = true → setting.offset = 0) :
    Gives setting (State.Follows source setting length)
      (Lined source setting.offset (setting.offset + length)) where
  kept := follows_kept rules readsInner
  plain := fun _ isText childless => .plain isText childless
  token := fun _ _ applies follows each =>
    applies.token_lined rules readsInner reads begins follows each
  pair := fun _ _ _ _ applies paired follows children =>
    applies.pair_lined rules paired follows children

theorem read_lined (fold : Bool) (place : Text) (room : Nat) (mode : Mode) {beginsLine : Bool}
    {offset : Nat} {text : Text} (stands : source.Stands offset text)
    (begins : beginsLine = true → offset = 0) :
    ∀ token ∈ (read Rule.ofMode fold place room mode beginsLine offset text).tokens,
      Lined source offset (offset + text.length) token := by
  refine read_recursion
    (fun _ beginsLine offset text outcome => source.Stands offset text →
      (beginsLine = true → offset = 0) →
        ∀ token ∈ outcome.tokens, Lined source offset (offset + text.length) token)
    ?_ room mode beginsLine offset text stands begins
  intro room mode beginsLine offset text reads stands begins
  have readsInner :=
    readSetting_readsInner source fold place room mode beginsLine offset text
  have readsLined :
      (readSetting Rule.ofMode fold place room mode beginsLine offset text).ReadsLined source := by
    intro inner present innerMode innerOffset innerText standsInner
    exact reads inner present innerMode innerOffset innerText standsInner (by simp)
  refine Gives.scanText (lined_gives rfl readsInner readsLined begins) ?_
  exact ⟨⟨offset, .initial stands⟩, by simp [State.Fronted, State.initial]⟩

theorem readSetting_readsLined (source : Text) (fold : Bool) (place : Text) (room : Nat)
    (mode : Mode) (beginsLine : Bool) (offset : Nat) (text : Text) :
    (readSetting Rule.ofMode fold place room mode beginsLine offset text).ReadsLined source :=
  readSetting_readsInto fun _ innerMode _ _ stands =>
    read_lined fold place _ innerMode stands (by simp)

end Scan

namespace Token

/-- The end of the inner text of a token, which its children cover. -/
def innerStop (token : Token) : Nat :=
  (token.children.getLast?.map Token.stop).getD token.stop

/-- The end of the text in which a place was scanned, given the tokens around it: the innermost
inner text, or the whole source. -/
def scanStop (source : Text) (around : List Token) : Nat :=
  match around.find? (·.kind.hasInnerText) with
  | some outer => outer.innerStop
  | none => source.length

variable {source : Text} {first last : Nat} {root token child : Token} {around : List Token}

theorem Tiles.innerStop_eq (tiles : Tiles first token.children last)
    (member : child ∈ token.children) : token.innerStop = last := by
  obtain ⟨before, final, children⟩ :=
    (List.eq_nil_or_concat' token.children).resolve_left (List.ne_nil_of_mem member)
  rw [innerStop, children, List.getLast?_concat]
  rw [children] at tiles
  clear children member
  induction before generalizing first with
  | nil => exact tiles.2
  | cons next before induction => exact induction tiles.2

theorem Lined.of_below (lined : ∀ child ∈ root.children, Lined source 0 source.length child)
    (below : Below root around token) : ∃ first, Lined source first (scanStop source around) token := by
  induction below with
  | child member => exact ⟨0, lined _ member⟩
  | @deeper around token child _ member induction =>
      obtain ⟨first, inside⟩ := induction
      cases inside with
      | other noInner _ children =>
          have same : scanStop source (token :: around) = scanStop source around := by
            simp [scanStop, noInner]
          rw [same]
          exact ⟨first, children child member⟩
      | inner hasInner _ _ tiles children =>
          have inner : scanStop source (token :: around) = token.innerStop := by
            simp [scanStop, hasInner]
          rw [inner, tiles.innerStop_eq member]
          exact ⟨_, children child member⟩

end Token

namespace Lex

open Token

theorem children_lined (options : Options) (source : Text) :
    ∀ child ∈ (lex options source).children, Lined source 0 source.length child := by
  have lined := Scan.read_lined options.fold options.place (options.maxDepth - 0) options.mode
    (Text.stands_self source) (fun _ : true = true => rfl)
  rw [Nat.zero_add] at lined
  exact lined

/-- Markup of a whole line has no line feed in it, begins the passage or comes right after a line
feed, and ends right before a line feed or with the text in which it was scanned.  So no token but
the root begins with it. -/
theorem lex_block_lines (options : Options) (source : Text) {around : List Token} {token : Token}
    (below : Below (lex options source) around token) (isBlock : token.kind.isBlock = true) :
    '\n' ∉ token.text ∧
      (token.start = 0 ∨ source[token.start - 1]? = some '\n') ∧
      (token.stop = scanStop source around ∨ source[token.stop]? = some '\n') ∧
      ∀ parent, around.head? = some parent → parent.children.head? ≠ some token := by
  have lined := children_lined options source
  obtain ⟨first, here⟩ := Lined.of_below lined below
  have line := here.keepsLines.block isBlock
  refine ⟨line.unbroken, line.begins.imp_right And.right, line.ends, ?_⟩
  intro parent innermost leads
  cases below with
  | child => contradiction
  | deeper outside member =>
      cases innermost
      obtain ⟨_, above⟩ := Lined.of_below lined outside
      have notBlock := above.keepsLines.leads token leads
      rw [notBlock] at isBlock
      contradiction

theorem heading_in_link_line :
    ∃ link heading, Below (lex {} "[[a\n# b]]".toList) [link] heading ∧
      heading.kind = .block .heading ∧ '\n' ∉ heading.text ∧ heading.start ≠ 0 ∧
        (heading.start = 0 ∨ "[[a\n# b]]".toList[heading.start - 1]? = some '\n') ∧
        link.children.head? ≠ some heading := by
  have below : Below (lex {} "[[a\n# b]]".toList) _ _ :=
    .deeper (.child (.head _)) (.tail _ (.tail _ (.head _)))
  obtain ⟨unbroken, begins, _, leads⟩ := lex_block_lines {} _ below rfl
  exact ⟨_, _, below, rfl, unbroken, by decide, begins, leads _ rfl⟩

end Lex

end PassageMarkup
