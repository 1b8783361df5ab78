import PassageMarkup.Proofs.Token.Nodes
import PassageMarkup.Proofs.Token.Pair

/-!
# Pairs taken apart

`unfoldList` replaces each pair by its front, the tokens that its children unfold to, and its back,
and removes what is inside all other tokens.  `Unfolds` relates the tokens of two scans in progress,
of which only one folds pairs, before neighbouring texts are joined.
-/

namespace PassageMarkup

namespace Token

open Scan (foldPair)

/-- A token without what is inside it. -/
def bare (token : Token) : Token :=
  { token with inner := [], children := [] }

mutual

/-- A pair taken apart, or another token without what is inside it. -/
def unfold : Token → List Token
  | ⟨kind, start, stop, text, inner, children, place, fields, fault⟩ =>
    let token : Token := ⟨kind, start, stop, text, inner, children, place, fields, fault⟩
    if kind.isPair then token.pairFront :: (unfoldList children ++ [token.pairBack])
    else [token.bare]

def unfoldList : List Token → List Token
  | [] => []
  | token :: rest => token.unfold ++ unfoldList rest

end

theorem unfold_eq (token : Token) :
    token.unfold =
      if token.kind.isPair then token.pairFront :: (unfoldList token.children ++ [token.pairBack])
      else [token.bare] := by
  cases token
  rfl

theorem unfoldList_append (left right : List Token) :
    unfoldList (left ++ right) = unfoldList left ++ unfoldList right := by
  induction left with
  | nil => rfl
  | cons token rest induction => simp [unfoldList, induction]

theorem Matched.unfold_foldPair {kind : Kind} {front back : Token}
    (matched : Matched kind front back) (children : List Token) :
    (foldPair kind front children back).unfold = front :: (unfoldList children ++ [back]) := by
  rw [unfold_eq, foldPair_kind, if_pos matched.isPair, matched.pairFront_eq, matched.pairBack_eq,
    foldPair_children]

theorem Matched.bare_back {kind : Kind} {front back : Token} (matched : Matched kind front back) :
    back.bare = back := by
  cases matched
  rfl

/-- A token is not a pair, and has no children if it is text. -/
def Unpaired (token : Token) : Prop :=
  token.kind.isPair = false ∧ (token.kind = .text → token.children = [])

theorem Unpaired.isPlainText_bare {token : Token} (unpaired : token.Unpaired) :
    token.bare.isPlainText = token.isPlainText := by
  rw [Bool.eq_iff_iff, isPlainText_iff, isPlainText_iff]
  exact ⟨fun plain => ⟨plain.1, unpaired.2 plain.1⟩, fun plain => ⟨plain.1, rfl⟩⟩

theorem coalesce_unpaired {tokens : List Token} (unpaired : ∀ token ∈ tokens, token.Unpaired) :
    ∀ token ∈ coalesce tokens, token.Unpaired :=
  forall_mem_coalesce (fun _ _ _ _ first _ => first) unpaired

theorem unfoldList_unpaired {tokens : List Token}
    (unpaired : ∀ token ∈ tokens, token.Unpaired) : unfoldList tokens = tokens.map bare := by
  induction tokens with
  | nil => rfl
  | cons token rest induction =>
      rw [List.forall_mem_cons] at unpaired
      rw [unfoldList, unfold_eq, if_neg (by simp [unpaired.1.1]), induction unpaired.2]
      rfl

theorem coalesce_map_bare {tokens : List Token} (unpaired : ∀ token ∈ tokens, token.Unpaired) :
    coalesce (tokens.map bare) = (coalesce tokens).map bare := by
  induction tokens with
  | nil => rfl
  | cons token rest induction =>
      rw [List.forall_mem_cons] at unpaired
      have joined := coalesce_unpaired unpaired.2
      rw [List.map_cons, coalesce, coalesce, induction unpaired.2]
      cases rejoined : coalesce rest with
      | nil => rfl
      | cons next others =>
          rw [rejoined, List.forall_mem_cons] at joined
          simp only [List.map_cons, unpaired.1.isPlainText_bare, joined.1.isPlainText_bare]
          split <;> rfl

/-- Joining texts and taking pairs apart can change places where there are no pairs. -/
theorem coalesce_bare {tokens : List Token} (unpaired : ∀ token ∈ tokens, token.Unpaired) :
    coalesce (tokens.map bare) = unfoldList (coalesce tokens) := by
  rw [unfoldList_unpaired (coalesce_unpaired unpaired), coalesce_map_bare unpaired]

/-- Tokens of a scan that folds pairs, and the same tokens when pairs are not folded.  Both lists
have the newest token first. -/
inductive Unfolds : List Token → List Token → Prop where
  | nil : Unfolds [] []
  | unpaired {token : Token} {folded flat : List Token} :
      token.Unpaired →
      Unfolds folded flat →
      Unfolds (token :: folded) (token.bare :: flat)
  | pair {kind : Kind} {front back : Token} {between betweenFlat folded flat : List Token} :
      Matched kind front back →
      Unfolds between betweenFlat →
      Unfolds folded flat →
      Unfolds (foldPair kind front (coalesce between.reverse) back :: folded)
        (back :: (betweenFlat ++ front :: flat))

theorem Unfolds.append {folded flat foldedBefore flatBefore : List Token}
    (unfolds : Unfolds folded flat) (before : Unfolds foldedBefore flatBefore) :
    Unfolds (folded ++ foldedBefore) (flat ++ flatBefore) := by
  induction unfolds with
  | nil => exact before
  | unpaired unpaired older induction => exact .unpaired unpaired induction
  | pair matched between older betweenInduction induction =>
      simp only [List.cons_append, List.append_assoc]
      exact .pair matched between induction

/-- Joining texts makes the flat tokens those that the folded ones unfold to.  A pair keeps the texts
on its two sides apart in both lists, so only later tokens without pairs have to be carried along. -/
theorem Unfolds.coalesce_append {folded flat : List Token} (unfolds : Unfolds folded flat)
    {later : List Token} (laterUnpaired : ∀ token ∈ later, token.Unpaired) :
    coalesce (flat.reverse ++ later.map bare) =
      unfoldList (coalesce (folded.reverse ++ later)) := by
  induction unfolds generalizing later with
  | nil => exact coalesce_bare laterUnpaired
  | @unpaired token folded flat unpaired older induction =>
      have extended : ∀ other ∈ token :: later, other.Unpaired :=
        List.forall_mem_cons.mpr ⟨unpaired, laterUnpaired⟩
      simpa using induction extended
  | @pair kind front back between betweenFlat folded flat matched inside older insideInduction
      induction =>
      have foldedParts := coalesce_append_cons folded.reverse later
        (matched.foldPair_not_plain (coalesce between.reverse))
      have frontParts := coalesce_append_cons flat.reverse
        (betweenFlat.reverse ++ back :: later.map bare) matched.front_not_plain
      have backParts := coalesce_append_cons betweenFlat.reverse (later.map bare)
        matched.back_not_plain
      have insideEq := insideInduction (List.forall_mem_nil _)
      have olderEq := induction (List.forall_mem_nil _)
      simp only [List.map_nil, List.append_nil] at insideEq olderEq
      calc
        coalesce ((back :: (betweenFlat ++ front :: flat)).reverse ++ later.map bare)
          = coalesce (flat.reverse ++ front :: (betweenFlat.reverse ++ back :: later.map bare)) := by
            simp
        _ = unfoldList (coalesce folded.reverse) ++
              front :: (unfoldList (coalesce between.reverse) ++
                back :: unfoldList (coalesce later)) := by
            rw [frontParts, backParts, olderEq, insideEq, coalesce_bare laterUnpaired]
        _ = unfoldList (coalesce folded.reverse ++
              foldPair kind front (coalesce between.reverse) back :: coalesce later) := by
            rw [unfoldList_append, unfoldList, matched.unfold_foldPair]
            simp
        _ = unfoldList (coalesce ((foldPair kind front (coalesce between.reverse) back ::
              folded).reverse ++ later)) := by
            rw [← foldedParts]
            simp

theorem Unfolds.coalesce_reverse {folded flat : List Token} (unfolds : Unfolds folded flat) :
    coalesce flat.reverse = unfoldList (coalesce folded.reverse) := by
  have appended := unfolds.coalesce_append (List.forall_mem_nil _)
  simpa using appended

end Token

end PassageMarkup
