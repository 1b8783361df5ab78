import PassageMarkup.Proofs.Text
import PassageMarkup.Proofs.Token.Nodes

/-!
# Tokens over a source

Tokens are laid over a stretch of a source when each begins where the one before it ends and has
the text that the source has there.  Joining plain texts, giving up fronts and cutting the stretch
in two all keep tokens laid.
-/

namespace PassageMarkup

namespace Token

/-- Tokens follow each other without a gap from `first` to `last`. -/
def Tiles (first : Nat) : List Token → Nat → Prop
  | [], last => first = last
  | token :: rest, last => token.start = first ∧ Tiles token.stop rest last

/-- A token has the text that a source has in the token's range, and its children follow each other
inside that range and make up its inner text. -/
structure Faithful (source : Text) (token : Token) : Prop where
  start_le_stop : token.start ≤ token.stop
  stop_le_length : token.stop ≤ source.length
  text_eq : token.text = source.slice ⟨token.start, token.stop⟩
  inner_eq : textOf token.children = token.inner
  contiguous : token.children.IsChain fun left right => left.stop = right.start
  inside : ∀ child ∈ token.children, token.start ≤ child.start ∧ child.stop ≤ token.stop

/-- A token stands in a source where its range says, around its children. -/
structure Placed (source : Text) (token : Token) : Prop where
  stands : source.Stands token.start token.text
  stop_eq : token.stop = token.start + token.text.length
  inner_eq : textOf token.children = token.inner
  children_tile : ∃ first last,
    Tiles first token.children last ∧ token.start ≤ first ∧ last ≤ token.stop

namespace Placed

theorem ofBare {source : Text} {token : Token} (stands : source.Stands token.start token.text)
    (stop_eq : token.stop = token.start + token.text.length) (inner : token.inner = [])
    (children : token.children = []) : Placed source token := by
  refine ⟨stands, stop_eq, ?_, token.start, token.start, ?_, Nat.le_refl _, ?_⟩
  · rw [children, inner]
    rfl
  · rw [children]
    rfl
  · omega

theorem leaf {source : Text} {kind : Kind} {start : Nat} {text place : Text}
    (stands : source.Stands start text) : Placed source (Token.leaf kind start text place) :=
  ofBare stands rfl rfl rfl

theorem demote {source : Text} {token : Token} (placed : Placed source token) :
    Placed source token.demote :=
  ofBare placed.stands placed.stop_eq rfl rfl

end Placed

/-- Tokens lie side by side over a source from `first` to `last`, each placed with all below it. -/
def Laid (source : Text) (first : Nat) : List Token → Nat → Prop
  | [], last => first = last
  | token :: rest, last =>
    token.start = first ∧ token.Everywhere (Placed source) ∧ Laid source token.stop rest last

theorem laid_append {source : Text} {left right : List Token} {first last : Nat} :
    Laid source first (left ++ right) last ↔
      ∃ middle, Laid source first left middle ∧ Laid source middle right last := by
  induction left generalizing first with
  | nil => simp [Laid]
  | cons token rest induction =>
      simp only [List.cons_append, Laid, induction]
      constructor
      · rintro ⟨start, placed, middle, before, after⟩
        exact ⟨middle, ⟨start, placed, before⟩, after⟩
      · rintro ⟨middle, ⟨start, placed, before⟩, after⟩
        exact ⟨start, placed, middle, before, after⟩

theorem laid_reverse_cons {source : Text} {token : Token} {rest : List Token} {first last : Nat} :
    Laid source first (token :: rest).reverse last ↔
      Laid source first rest.reverse token.start ∧ token.Everywhere (Placed source) ∧
        token.stop = last := by
  rw [List.reverse_cons, laid_append]
  constructor
  · rintro ⟨middle, before, rfl, placed, rfl⟩
    exact ⟨before, placed, rfl⟩
  · rintro ⟨before, placed, rfl⟩
    exact ⟨token.start, before, rfl, placed, rfl⟩

theorem laid_reverse_append {source : Text} {left right : List Token} {first last : Nat} :
    Laid source first (left ++ right).reverse last ↔
      ∃ middle, Laid source first right.reverse middle ∧
        Laid source middle left.reverse last := by
  rw [List.reverse_append, laid_append]

namespace Laid

theorem tiles {source : Text} {first last : Nat} {tokens : List Token}
    (laid : Laid source first tokens last) : Tiles first tokens last := by
  induction tokens generalizing first with
  | nil => exact laid
  | cons token rest induction => exact ⟨laid.1, induction laid.2.2⟩

theorem placed {source : Text} {first last : Nat} {tokens : List Token}
    (laid : Laid source first tokens last) :
    ∀ token ∈ tokens, token.Everywhere (Placed source) := by
  induction tokens generalizing first with
  | nil => simp
  | cons token rest induction =>
      rw [List.forall_mem_cons]
      exact ⟨laid.2.1, induction laid.2.2⟩

theorem le {source : Text} {first last : Nat} {tokens : List Token}
    (laid : Laid source first tokens last) : first ≤ last := by
  induction tokens generalizing first with
  | nil => exact Nat.le_of_eq laid
  | cons token rest induction =>
      obtain ⟨rfl, placed, others⟩ := laid
      have stop := placed.here.stop_eq
      have later := induction others
      omega

theorem stands {source : Text} {first last : Nat} {tokens : List Token}
    (laid : Laid source first tokens last) (inside : source.Stands first []) :
    source.Stands first (textOf tokens) ∧ last = first + (textOf tokens).length := by
  induction tokens generalizing first with
  | nil =>
      cases laid
      exact ⟨inside, rfl⟩
  | cons token rest induction =>
      obtain ⟨rfl, placed, others⟩ := laid
      have here := placed.here.stands
      have stop := placed.here.stop_eq
      have next : source.Stands token.stop [] := by
        rw [stop]
        exact (Text.stands_append.mp (by simpa using here)).2
      obtain ⟨standsRest, lastEq⟩ := induction others next
      rw [stop] at standsRest
      constructor
      · exact Text.stands_append.mpr ⟨here, standsRest⟩
      · rw [lastEq, stop, textOf, textOf, List.flatMap_cons, List.length_append, Nat.add_assoc]

private theorem join {source : Text} {token next : Token} (adjacent : next.start = token.stop)
    (plain : token.isPlainText = true)
    (placed : token.Everywhere (Placed source)) (nextPlaced : next.Everywhere (Placed source)) :
    Everywhere (Placed source)
      { token with text := token.text ++ next.text, stop := next.stop } := by
  have here := placed.here
  have nextHere := nextPlaced.here
  have noChildren : token.children = [] := (isPlainText_iff.mp plain).2
  have noInner : token.inner = [] := by
    rw [← here.inner_eq, noChildren]
    rfl
  have stop := here.stop_eq
  have nextStop := nextHere.stop_eq
  have stands : source.Stands token.start (token.text ++ next.text) := by
    refine Text.stands_append.mpr ⟨here.stands, ?_⟩
    rw [← stop, ← adjacent]
    exact nextHere.stands
  have length : next.stop = token.start + (token.text ++ next.text).length := by
    rw [List.length_append]
    omega
  exact everywhere_of_children_eq_nil noChildren
    (Placed.ofBare stands length noInner noChildren)

/-- Joining plain texts keeps tokens laid. -/
theorem coalesce {source : Text} {first last : Nat} {tokens : List Token}
    (laid : Laid source first tokens last) :
    Laid source first (Token.coalesce tokens) last := by
  induction tokens generalizing first with
  | nil => exact laid
  | cons token rest induction =>
      obtain ⟨start, placed, others⟩ := laid
      have joined := induction others
      simp only [Token.coalesce]
      split
      · rename_i empty
        rw [empty] at joined
        exact ⟨start, placed, joined⟩
      · rename_i next after split
        rw [split] at joined
        obtain ⟨adjacent, nextPlaced, afterLaid⟩ := joined
        split
        · rename_i plain
          rw [Bool.and_eq_true] at plain
          exact ⟨start, join adjacent plain.1 placed nextPlaced, afterLaid⟩
        · exact ⟨start, placed, adjacent, nextPlaced, afterLaid⟩

theorem bounds {source : Text} {first last : Nat} {tokens : List Token}
    (laid : Laid source first tokens last) :
    ∀ token ∈ tokens, first ≤ token.start ∧ token.stop ≤ last := by
  induction tokens generalizing first with
  | nil => simp
  | cons token rest induction =>
      obtain ⟨rfl, placed, others⟩ := laid
      have stop := placed.here.stop_eq
      have end_ := others.le
      rw [List.forall_mem_cons]
      refine ⟨⟨Nat.le_refl _, end_⟩, ?_⟩
      intro other member
      have inside := induction others other member
      omega

end Laid

theorem Tiles.isChain {first last : Nat} {tokens : List Token} (tiles : Tiles first tokens last) :
    tokens.IsChain fun left right => left.stop = right.start := by
  induction tokens generalizing first with
  | nil => exact .nil
  | cons token rest induction =>
      obtain ⟨_, others⟩ := tiles
      cases rest with
      | nil => exact .singleton token
      | cons next after => exact .cons_cons others.1.symm (induction others)

theorem Tiles.first_le {first last : Nat} {tokens : List Token} (tiles : Tiles first tokens last)
    (ordered : ∀ token ∈ tokens, token.start ≤ token.stop) :
    ∀ token ∈ tokens, first ≤ token.start := by
  induction tokens generalizing first with
  | nil => simp
  | cons token rest induction =>
      obtain ⟨rfl, others⟩ := tiles
      rw [List.forall_mem_cons] at ordered ⊢
      refine ⟨Nat.le_refl _, ?_⟩
      intro other member
      have later := induction others ordered.2 other member
      omega

theorem Tiles.laid {source : Text} {first last : Nat} {tokens : List Token}
    (tiles : Tiles first tokens last)
    (placed : ∀ token ∈ tokens, token.Everywhere (Placed source)) :
    Laid source first tokens last := by
  induction tokens generalizing first with
  | nil => exact tiles
  | cons token rest induction =>
      rw [List.forall_mem_cons] at placed
      exact ⟨tiles.1, placed.1, induction tiles.2 placed.2⟩

/-- A token that is placed with all below it is faithful to the source. -/
theorem faithful_of_placed {source : Text} {token : Token}
    (placed : token.Everywhere (Placed source)) : Faithful source token := by
  obtain ⟨here, below⟩ := everywhere_iff.mp placed
  obtain ⟨first, last, tiles, start, stop⟩ := here.children_tile
  have stopEq := here.stop_eq
  refine ⟨by omega, ?_, ?_, here.inner_eq, tiles.isChain, ?_⟩
  · rw [stopEq]
    exact here.stands.le_length
  · rw [stopEq]
    exact here.stands.eq_slice
  · intro child member
    have bounds := (tiles.laid below).bounds child member
    omega

theorem everywhere_faithful {source : Text} {token : Token}
    (placed : token.Everywhere (Placed source)) : token.Everywhere (Faithful source) :=
  placed.everywhere.imp fun _ => faithful_of_placed

end Token

end PassageMarkup
