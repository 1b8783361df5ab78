import PassageMarkup.Proofs.Scan.Steps

/-!
# Changes that a scan does not see

Of its own tokens a scan sees only their kinds and which of them are plain texts.  A change of
tokens that keeps these and commutes with giving up fronts, joining texts and making pairs commutes
with all that a scan does with its tokens.
-/

namespace PassageMarkup

namespace Scan

/-- A change of tokens and of the events that speak of them. -/
structure Recast where
  token : Token → Token
  event : Event → Event

/-- A change of tokens that a scan does not see. -/
structure Recast.Unseen (recast : Recast) : Prop where
  kind : ∀ token, (recast.token token).kind = token.kind
  isPlainText : ∀ token, (recast.token token).isPlainText = token.isPlainText
  demote : ∀ token, recast.token token.demote = (recast.token token).demote
  join : ∀ left right : Token,
    recast.token { left with text := left.text ++ right.text, stop := right.stop } =
      { recast.token left with
        text := (recast.token left).text ++ (recast.token right).text
        stop := (recast.token right).stop }
  foldPair : ∀ kind front children back,
    recast.token (foldPair kind front children back) =
      Scan.foldPair kind (recast.token front) (children.map recast.token) (recast.token back)
  opened : ∀ token, recast.event (.opened token.kind token.start) =
    .opened (recast.token token).kind (recast.token token).start
  demoted : ∀ token, recast.event (.demoted token.kind token.start) =
    .demoted (recast.token token).kind (recast.token token).start
  closed : ∀ front back kind,
    recast.event (.closed front.kind front.start back.kind back.start kind) =
      .closed (recast.token front).kind (recast.token front).start (recast.token back).kind
        (recast.token back).start kind

def Frame.recast (recast : Recast) (frame : Frame) : Frame :=
  { frame with front := recast.token frame.front, before := frame.before.map recast.token }

def Pairing.recast (recast : Recast) (pairing : Pairing) : Pairing where
  abandoned := pairing.abandoned.map (Frame.recast recast)
  frame := pairing.frame.recast recast
  outer := pairing.outer.map (Frame.recast recast)
  kind := pairing.kind

def State.recast (recast : Recast) (state : State) : State :=
  { state with
    siblings := state.siblings.map recast.token
    frames := state.frames.map (Frame.recast recast)
    events := state.events.map recast.event }

variable {recast : Recast} {setting : Setting} {state : State}

section Unseen

variable (unseen : recast.Unseen)
include unseen

theorem coalesce_recast (tokens : List Token) :
    Token.coalesce (tokens.map recast.token) = (Token.coalesce tokens).map recast.token := by
  induction tokens with
  | nil => rfl
  | cons token rest induction =>
      rw [List.map_cons, Token.coalesce, Token.coalesce, induction]
      cases Token.coalesce rest with
      | nil => rfl
      | cons next others =>
          simp only [List.map_cons, unseen.isPlainText]
          split
          · rw [List.map_cons, unseen.join]
          · rfl

namespace Frame

theorem unwind_recast (siblings : List Token) (frames : List Frame) :
    unwind (siblings.map recast.token) (frames.map (Frame.recast recast)) =
      (unwind siblings frames).map recast.token := by
  induction frames generalizing siblings with
  | nil => rfl
  | cons frame outer induction =>
      rw [List.map_cons, unwind, unwind, ← induction]
      simp [Frame.recast, unseen.demote]

theorem pairing?_recast (rule : Rule) (arity : Nat) (frames : List Frame) :
    pairing? rule arity (frames.map (Frame.recast recast)) =
      (pairing? rule arity frames).map (Pairing.recast recast) := by
  induction frames with
  | nil => rfl
  | cons frame outer induction =>
      have kind : (frame.recast recast).front.kind = frame.front.kind := unseen.kind _
      have kept : (frame.recast recast).rule = frame.rule ∧
          (frame.recast recast).arity = frame.arity := ⟨rfl, rfl⟩
      rw [List.map_cons, pairing?, pairing?, kind, kept.1, kept.2, induction]
      cases rule.resolves frame.front.kind frame.rule.aka frame.arity arity with
      | some pair => rfl
      | none =>
          cases rule.stopsAt frame.front.kind frame.rule.aka with
          | true => rfl
          | false => cases pairing? rule arity outer <;> rfl

theorem demotion_recast (frame : Frame) :
    (frame.recast recast).demotion = recast.event frame.demotion :=
  (unseen.demoted frame.front).symm

end Frame

namespace State

theorem preceding_recast : (state.recast recast).preceding setting = state.preceding setting := by
  unfold preceding State.recast
  cases state.siblings with
  | cons token others => simp [unseen.kind]
  | nil =>
      cases state.frames with
      | cons frame outer => simp [Frame.recast, unseen.kind]
      | nil => rfl

theorem close_recast (back : Token) (pairing : Pairing) :
    (state.recast recast).close setting (recast.token back) (pairing.recast recast) =
      (state.close setting back pairing).recast recast := by
  unfold close
  simp only [State.recast, Pairing.recast, Frame.unwind_recast unseen, Frame.recast]
  rw [← List.map_reverse, coalesce_recast unseen, ← unseen.foldPair]
  congr 1
  · split <;> simp
  · simp [unseen.closed, Frame.demotion_recast unseen, Function.comp_def]

theorem add_recast (choice changed : Choice) (rule : changed.rule = choice.rule)
    (arity : changed.lexeme.arity = choice.lexeme.arity)
    (pairing : changed.pairing = choice.pairing.map (Pairing.recast recast)) (token : Token) :
    (state.recast recast).add setting changed (recast.token token) =
      (state.add setting choice token).recast recast := by
  unfold add
  rw [pairing, rule, arity]
  cases choice.pairing with
  | some pairing => exact close_recast unseen token pairing
  | none =>
      simp only [Option.map_none]
      split
      · simp [State.recast, Frame.recast, unseen.opened]
      · rfl

theorem giveUp_recast (state : State) :
    Token.coalesce (Frame.unwind (state.recast recast).siblings
        (state.recast recast).frames).reverse =
      (Token.coalesce (Frame.unwind state.siblings state.frames).reverse).map recast.token ∧
    (state.recast recast).frames.map Frame.demotion ++ (state.recast recast).events =
      (state.frames.map Frame.demotion ++ state.events).map recast.event := by
  constructor
  · rw [← coalesce_recast unseen, List.map_reverse, ← Frame.unwind_recast unseen]
    rfl
  · simp [State.recast, Frame.demotion_recast unseen, Function.comp_def]

end State

end Unseen

theorem State.mode_recast : (state.recast recast).mode setting = state.mode setting := by
  unfold mode State.recast
  cases state.frames <;> rfl

end Scan

end PassageMarkup
